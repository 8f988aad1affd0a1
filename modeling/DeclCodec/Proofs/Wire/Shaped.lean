import DeclCodec.Proofs.Wire.Travel

/-!
# What shapes of builtin classes make of JSON values

What such a shape reads has the type of the shape at every level, and whatever has
it can be written, unless there is a number in it that is not finite. Such a number
is refused when it is written. Inside raw JSON text it is copied, not written.

A map that is read has different keys, and the names that they are written under
are at hand.
-/

namespace DeclCodec

namespace Value

mutual

/-- The numbers in a value, except those inside raw JSON text. -/
def floats : Value → List Binary64
  | .float number => [number]
  | .list items => floatsOfItems items
  | .tuple items => floatsOfItems items
  | .map entries => floatsOfEntries entries
  | .record _ fields => floatsOfFields fields
  | .wrapper _ id value => id.floats ++ value.floats
  | _ => []

/-- The numbers in the items. -/
def floatsOfItems : List Value → List Binary64
  | [] => []
  | item :: rest => item.floats ++ floatsOfItems rest

/-- The numbers in the entries, keys included. -/
def floatsOfEntries : List (Value × Value) → List Binary64
  | [] => []
  | (key, value) :: rest => key.floats ++ value.floats ++ floatsOfEntries rest

/-- The numbers in the fields. -/
def floatsOfFields : List (String × Value) → List Binary64
  | [] => []
  | (_, value) :: rest => value.floats ++ floatsOfFields rest

end

/-- The numbers in an item are in the list. -/
theorem mem_floatsOfItems {items : List Value} {item : Value} {number : Binary64}
    (member : item ∈ items) (held : number ∈ item.floats) : number ∈ floatsOfItems items := by
  induction items with
  | nil => cases member
  | cons first rest inductionHypothesis =>
    rw [floatsOfItems, List.mem_append]
    rcases List.mem_cons.1 member with rfl | later
    · exact .inl held
    · exact .inr (inductionHypothesis later)

/-- The numbers in the value of an entry are in the map. -/
theorem mem_floatsOfEntries {entries : List (Value × Value)} {entry : Value × Value}
    {number : Binary64} (member : entry ∈ entries) (held : number ∈ entry.2.floats) :
    number ∈ floatsOfEntries entries := by
  induction entries with
  | nil => cases member
  | cons first rest inductionHypothesis =>
    obtain ⟨key, value⟩ := first
    rw [floatsOfEntries, List.mem_append, List.mem_append]
    rcases List.mem_cons.1 member with rfl | later
    · exact .inl (.inr held)
    · exact .inr (inductionHypothesis later)

end Value

/-- A value is refused because of a number in it that is not finite. -/
def Refused (codecs : Codecs) (value : Value) : Prop :=
  ∃ number ∈ value.floats, number.isFinite = false ∧
    value.write codecs .whole = .error (.unsupportedNumber number)

/-- A value is written, or it is refused because of a number in it. -/
def Accounted (codecs : Codecs) (value : Value) : Prop :=
  (∃ text, value.write codecs .whole = .ok text) ∨ Refused codecs value

variable {codecs : Codecs} {elem key : Shape}

/-- A number is written or refused. -/
theorem accounted_float (number : Binary64) : Accounted codecs (.float number) := by
  by_cases finite : number.isFinite = true
  · exact .inl ⟨_, by rw [Value.write, if_pos finite]⟩
  · refine .inr ⟨number, List.mem_singleton_self number, Bool.eq_false_iff.2 finite, ?_⟩
    rw [Value.write, if_neg finite]

/-- A list is written, or one of its items is refused. -/
theorem accounted_list {items : List Value} (each : ∀ item ∈ items, Accounted codecs item) :
    Accounted codecs (.list items) := by
  cases written : items.mapM fun item => item.write codecs .whole with
  | ok texts =>
    refine .inl ⟨Json.bracketed texts, ?_⟩
    rw [Value.write, Value.writeItems_eq, written]
    rfl
  | error fault =>
    obtain ⟨item, member, failed⟩ := exists_of_mapM_error written
    rcases each item member with ⟨text, succeeded⟩ | ⟨number, held, infinite, refused⟩
    · rw [succeeded] at failed
      cases failed
    · rw [refused] at failed
      cases failed
      refine .inr ⟨number, Value.mem_floatsOfItems member held, infinite, ?_⟩
      rw [Value.write, Value.writeItems_eq, written]
      rfl

/-- A map under keys that have names is written, or one of its values is refused. -/
theorem accounted_map {entries : List (Value × Value)}
    (named : ∀ entry ∈ entries, ∃ name, entry.1.mapKey = .ok name)
    (each : ∀ entry ∈ entries, Accounted codecs entry.2) : Accounted codecs (.map entries) := by
  obtain ⟨rows, rfl, names⟩ := exists_rows named
  have keyed : (Value.entryWriters codecs (rows.map (·.1))).mapM
      (fun entry => keyedEntry entry.1 entry.2) =
      .ok (rows.map fun row => (row.2, (⟨row.1.2, row.1.2.write codecs⟩ : Writer))) := by
    simp only [Value.entryWriters_eq, mapM_eq_ok_iff, List.forall₂_map_left_iff,
      List.forall₂_map_right_iff, List.forall₂_same]
    intro row member
    rw [keyedEntry, names row member]
    rfl
  have runs : (Value.map (rows.map (·.1))).write codecs .whole =
      Json.braced <$> ((Text.sortBy (·.2) rows).map fun row =>
        (row.2, (⟨row.1.2, row.1.2.write codecs⟩ : Writer))).mapM
          (fun entry => writeEntry entry.1 entry.2) := by
    rw [Value.write, writeMap, keyed]
    simp only [bind, Except.bind]
    rw [Text.sortBy_map]
    rfl
  cases written : ((Text.sortBy (·.2) rows).map fun row =>
      (row.2, (⟨row.1.2, row.1.2.write codecs⟩ : Writer))).mapM
        (fun entry => writeEntry entry.1 entry.2) with
  | ok texts =>
    rw [written] at runs
    exact .inl ⟨_, runs⟩
  | error fault =>
    rw [written] at runs
    obtain ⟨entry, member, failed⟩ := exists_of_mapM_error written
    obtain ⟨row, held, rfl⟩ := List.mem_map.1 member
    have among : row.1 ∈ rows.map (·.1) := List.mem_map_of_mem (Text.mem_sortBy.1 held)
    rw [writeEntry] at failed
    dsimp only at failed
    rcases each row.1 among with ⟨text, succeeded⟩ | ⟨number, held, infinite, refused⟩
    · rw [succeeded] at failed
      cases failed
    · rw [refused] at failed
      cases failed
      exact .inr ⟨number, Value.mem_floatsOfEntries among held, infinite, runs⟩

/-- A value as JSON has it is written or refused. -/
theorem accounted_toValue (json : Json) : Accounted codecs json.toValue := by
  induction json using Json.byParts with
  | null | int | str => exact .inl ⟨_, rfl⟩
  | bool value => exact .inl ⟨_, (Travels.bool value).written⟩
  | float number => exact accounted_float number
  | list items inductionHypothesis =>
    rw [Json.toValue, Json.toValues_eq]
    exact accounted_list (List.forall_mem_map.2 inductionHypothesis)
  | object members inductionHypothesis =>
    rw [Json.toValue, Json.toEntries_eq]
    refine accounted_map ?_ (List.forall_mem_map.2 inductionHypothesis)
    exact List.forall_mem_map.2 fun member _ => ⟨member.1, rfl⟩

/-! ## Shapes of builtin classes -/

/-- The classes that no declaration is behind. -/
def Class.isBuiltin : Class → Bool
  | .bool | .int | .float | .str | .object | .raw => true
  | _ => false

/-- Shapes with such classes only. -/
def Shape.isBuiltin : Shape → Bool
  | .named cls => cls.isBuiltin
  | .pointer elem => elem.isBuiltin
  | .slice elem => elem.isBuiltin
  | .map key value => key.isBuiltin && value.isBuiltin

/-- An unrestricted value is read as it stands. -/
theorem decode_object (json : Json) :
    json.toValue.decode codecs (.named .object) = .ok json.toValue := by
  cases json <;> rfl

/-- A list of unrestricted items is read as it stands. -/
theorem decode_slice_object (items : List Json) :
    (Json.list items).toValue.decode codecs (.slice (.named .object)) =
      .ok (Json.list items).toValue := by
  refine decode_list_eq_ok_iff.2 ⟨items.map Json.toValue, ?_, ?_⟩
  · rw [List.forall₂_map_right_iff, List.forall₂_same]
    exact fun item _ => decode_object item
  · rw [Json.toValue, Json.toValues_eq]

/-- Different names are different keys. -/
theorem textKeys_different {members : List (Points × Json)}
    (distinct : (members.map (·.1)).Nodup) :
    ((members.map fun member => (Value.str member.1, member.2.toValue)).map (·.1)).Pairwise
      fun held later => (later == held) = false := by
  rw [List.Nodup, List.pairwise_map] at distinct
  rw [List.map_map, List.pairwise_map]
  refine distinct.imp ?_
  intro held later differentNames
  have notSame : (later.1 == held.1) = false := beq_eq_false_iff_ne.2 (Ne.symm differentNames)
  change Value.same (.str later.1) (.str held.1) = false
  rw [Value.same, notSame]

/-- A map of unrestricted values under texts is read as it stands. -/
theorem decode_map_object {members : List (Points × Json)}
    (distinct : (members.map (·.1)).Nodup) :
    (Json.object members).toValue.decode codecs (.map (.named .str) (.named .object)) =
      .ok (Json.object members).toValue := by
  have each : List.Forall₂ (fun (entry : Value × Reader) (result : Value × Value) =>
      entry.1.readKey (.named .str) = .ok result.1 ∧ entry.2.read (.named .object) = .ok result.2)
      (members.map fun member =>
        (.str member.1, ⟨member.2.toValue, member.2.toValue.decode codecs⟩))
      (members.map fun member => (.str member.1, member.2.toValue)) := by
    rw [List.forall₂_map_left_iff, List.forall₂_map_right_iff, List.forall₂_same]
    exact fun member _ => ⟨rfl, decode_object member.2⟩
  rw [decode_members, foldlM_readEntry each [] (textKeys_different distinct), Json.toValue,
    Json.toEntries_eq]
  rfl

/-- The number nearest to an integer is finite. -/
theorem isFinite_of_ofInt? {whole : Int} {number : Binary64}
    (nearest : Binary64.ofInt? whole = some number) : number.isFinite = true := by
  unfold Binary64.ofInt? at nearest
  dsimp only at nearest
  split at nearest
  · cases nearest
    rfl
  · cases nearest

/-- An integer is read as the number nearest to it. The rounding has a name of its own here, lest
it be computed. -/
theorem exists_of_accept_float {nearest? : Int → Option Binary64}
    (rounding : Binary64.ofInt? = nearest?) {whole : Int} {value : Value}
    (accepted : (Value.int whole).accept codecs .float = .ok value) :
    ∃ number, nearest? whole = some number ∧ value = .float number := by
  rw [Value.accept.eq_def, rounding] at accepted
  dsimp only at accepted
  split at accepted
  · next number nearest =>
    cases accepted
    exact ⟨number, nearest, rfl⟩
  · cases accepted

/-- An instance of a builtin class is read from whatever the class accepts. -/
theorem decode_named {json : Json} (present : json ≠ .null) {cls : Class}
    (builtin : cls.isBuiltin = true) :
    json.toValue.decode codecs (.named cls) = json.toValue.accept codecs cls := by
  cases json with
  | null => exact absurd rfl present
  | object members => cases cls <;> first | rfl | cases builtin
  | _ => rfl

/-- What is read of map entries has different keys, each of them made of the key of an entry, and
values made of the values of entries. -/
theorem entries_of_foldlM {keyFits valueFits : Value → Prop} {entries : List (Value × Reader)}
    (each : ∀ entry ∈ entries, (∀ read, entry.1.readKey key = .ok read → keyFits read) ∧
      ∀ read, entry.2.read elem = .ok read → valueFits read)
    {before result : List (Value × Value)}
    (fits : ∀ entry ∈ before, keyFits entry.1 ∧ valueFits entry.2)
    (different : (before.map (·.1)).Pairwise fun held later => (later == held) = false)
    (run : entries.foldlM (readEntry key elem) before = .ok result) :
    (∀ entry ∈ result, keyFits entry.1 ∧ valueFits entry.2) ∧
      (result.map (·.1)).Pairwise fun held later => (later == held) = false := by
  induction entries generalizing before with
  | nil =>
    cases run
    exact ⟨fits, different⟩
  | cons entry entries inductionHypothesis =>
    obtain ⟨keyStep, valueStep⟩ := each entry List.mem_cons_self
    rw [List.foldlM_cons, readEntry] at run
    cases readKey : entry.1.readKey key with
    | error fault =>
      rw [readKey] at run
      cases run
    | ok name =>
      cases readValue : entry.2.read elem with
      | error fault =>
        rw [readKey, readValue] at run
        cases run
      | ok value =>
        rw [readKey, readValue] at run
        have keyFit := keyStep name readKey
        have valueFit := valueStep value readValue
        refine inductionHypothesis (fun other member => each other (List.mem_cons_of_mem _ member))
          ?_ (Table.pairwise_keys_put different name value) run
        intro written member
        have ofKey : keyFits written.1 := by
          obtain isNew | earlier := Table.eq_or_mem_of_mem_keys_put (List.mem_map_of_mem member)
          · exact isNew ▸ keyFit
          · obtain ⟨held, inBefore, same⟩ := List.mem_map.1 earlier
            exact same ▸ (fits held inBefore).1
        rcases Table.mem_put member with isNew | earlier
        · exact ⟨ofKey, isNew ▸ valueFit⟩
        · exact ⟨ofKey, (fits written earlier).2⟩

/-- What an object is read as has different keys of the key shape, and values that fit if what the
members' values are read as does. -/
theorem exists_fitting_entries {valueFits : Value → Prop} {members : List (Points × Json)}
    (each : ∀ member ∈ members, ∀ read,
      member.2.toValue.decode codecs elem = .ok read → valueFits read)
    {value : Value}
    (decoded : (Json.object members).toValue.decode codecs (.map key elem) = .ok value) :
    ∃ entries, value = .map entries ∧
      (∀ entry ∈ entries, (∃ name, KeyName key entry.1 name) ∧ valueFits entry.2) ∧
      (entries.map (·.1)).Pairwise fun held later => (later == held) = false := by
  rw [decode_members, map_eq_ok] at decoded
  obtain ⟨entries, run, rfl⟩ := decoded
  have both : ∀ entry ∈ members.map fun member => (Value.str member.1,
      (⟨member.2.toValue, member.2.toValue.decode codecs⟩ : Reader)),
      (∀ read, entry.1.readKey key = .ok read → ∃ name, KeyName key read name) ∧
        ∀ read, entry.2.read elem = .ok read → valueFits read := by
    intro entry member
    obtain ⟨source, among, rfl⟩ := List.mem_map.1 member
    exact ⟨fun _ => KeyName.exists_of_readKey, each source among⟩
  exact ⟨entries, rfl, entries_of_foldlM both (by simp) (by simp) run⟩

/-- A value has the type of a shape, at every level. -/
inductive HasShape : Shape → Value → Prop
  | bool (value : Bool) : HasShape (.named .bool) (.bool value)
  | int (number : Int) : HasShape (.named .int) (.int number)
  | float (number : Binary64) : HasShape (.named .float) (.float number)
  | str (text : Points) : HasShape (.named .str) (.str text)
  | object (json : Json) : HasShape (.named .object) json.toValue
  | raw (json : Json) : HasShape (.named .raw) (.raw (String.ofList json.compact))
  | absent (elem : Shape) : HasShape (.pointer elem) .null
  | present {elem : Shape} {value : Value} (inner : HasShape elem value) :
      HasShape (.pointer elem) value
  | slice {elem : Shape} {items : List Value} (each : ∀ item ∈ items, HasShape elem item) :
      HasShape (.slice elem) (.list items)
  | map {key elem : Shape} {entries : List (Value × Value)}
      (keys : ∀ entry ∈ entries, ∃ name, KeyName key entry.1 name)
      (different : (entries.map (·.1)).Pairwise fun held later => (later == held) = false)
      (each : ∀ entry ∈ entries, HasShape elem entry.2) : HasShape (.map key elem) (.map entries)

/-- What a builtin class makes of a JSON value is an instance of it. -/
theorem hasShape_of_decode_named {cls : Class} (builtin : cls.isBuiltin = true) {json : Json}
    {value : Value} (decoded : json.toValue.decode codecs (.named cls) = .ok value) :
    HasShape (.named cls) value := by
  cases cls with
  | object =>
    rw [decode_object] at decoded
    cases decoded
    exact .object json
  | raw =>
    rw [Travels.decode_raw] at decoded
    cases decoded
    exact .raw _
  | float =>
    cases json with
    | int whole =>
      rw [decode_named (by simp) builtin] at decoded
      obtain ⟨number, _, rfl⟩ := exists_of_accept_float rfl decoded
      exact .float number
    | _ => cases decoded <;> constructor
  | bool | int | str => cases json <;> cases decoded <;> constructor
  | _ => cases builtin

/-- What a builtin shape makes of a JSON value has the type of the shape, at every level. The
induction is on the shape. -/
theorem hasShape_of_decode {shape : Shape} (builtin : shape.isBuiltin = true) {json : Json}
    {value : Value} (decoded : json.toValue.decode codecs shape = .ok value) :
    HasShape shape value := by
  induction shape generalizing json value with
  | named cls => exact hasShape_of_decode_named builtin decoded
  | pointer elem inductionHypothesis =>
    by_cases present : json = .null
    · subst present
      cases decoded
      exact .absent _
    · have isThere := Json.toValue_ne_null present
      rw [Value.decode_bare codecs isThere, Shape.bare,
        ← Value.decode_bare codecs isThere] at decoded
      exact .present (inductionHypothesis builtin decoded)
  | slice elem inductionHypothesis =>
    cases json with
    | null =>
      cases decoded
      exact .slice (by simp)
    | list items =>
      obtain ⟨values, each, rfl⟩ := decode_list_eq_ok_iff.1 decoded
      refine .slice fun value member => ?_
      obtain ⟨item, _, read⟩ := exists_left_of_forall₂ each member
      exact inductionHypothesis builtin read
    | _ => cases decoded
  | map key elem _ inductionHypothesis =>
    cases json with
    | null =>
      cases decoded
      exact .map (by simp) (by simp) (by simp)
    | object members =>
      obtain ⟨entries, rfl, fits, different⟩ := exists_fitting_entries
        (fun _ _ _ => inductionHypothesis (Bool.and_eq_true_iff.1 builtin).2) decoded
      exact .map (fun entry member => (fits entry member).1) different
        fun entry member => (fits entry member).2
    | _ => cases decoded

/-- Whatever has the type of a shape is written or refused. -/
theorem HasShape.accounted {shape : Shape} {value : Value} (typed : HasShape shape value) :
    Accounted codecs value := by
  induction typed with
  | int | str | absent => exact .inl ⟨_, rfl⟩
  | bool value => exact .inl ⟨_, (Travels.bool value).written⟩
  | float number => exact accounted_float number
  | object json => exact accounted_toValue json
  | raw json =>
    refine .inl ?_
    rw [Value.write]
    split <;> exact ⟨_, rfl⟩
  | present _ inductionHypothesis => exact inductionHypothesis
  | slice _ inductionHypothesis => exact accounted_list inductionHypothesis
  | map keys _ _ inductionHypothesis =>
    refine accounted_map (fun entry member => ?_) inductionHypothesis
    obtain ⟨name, isName⟩ := keys entry member
    exact ⟨name, isName.mapKey_eq⟩

end DeclCodec
