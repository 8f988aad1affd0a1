import DeclCodec.Proofs.Json.RoundTrip
import DeclCodec.Proofs.Number.Integers
import DeclCodec.Proofs.Wire.Entries

/-!
# Values that go over the wire and come back

A value travels as a JSON value if its text is the JSON value's text, and the JSON
value is one that is read back from its text. What the shape makes of it is to equal
an image of the value, which may be the value itself. A text travels if it has no
surrogate pairs to be joined on the way.

A list travels if its items do. A map travels if its values do and its keys have
names that are read as the keys, with nothing to be joined in them either; the names
are sorted on the way, which a map does not notice.
-/

namespace DeclCodec

/-- A value is written as a JSON value that is read back, and read by the shape as something that
equals an image of the value. -/
structure Travels (codecs : Codecs) (shape : Shape) (value : Value) (json : Json)
    (image : Value) : Prop where
  readable : json.Readable
  written : value.write codecs .whole = .ok json.compact
  back : ∃ read, json.toValue.decode codecs shape = .ok read ∧ read.same image = true

/-- The values in which nothing becomes another when surrogate pairs are joined: no string or key of
a map, and no two names of an object in raw text. In instances this is said of what all fields
hold. -/
inductive Value.Settled : Value → Prop
  | null : Settled .null
  | bool (value : Bool) : Settled (.bool value)
  | int (number : Int) : Settled (.int number)
  | float (number : Binary64) : Settled (.float number)
  | str (text : Points) (isJoined : Text.IsJoined text) : Settled (.str text)
  | bytes (content : List UInt8) : Settled (.bytes content)
  | raw (json : Json) (apart : json.NamesApart) : Settled (.raw (String.ofList json.compact))
  | list (items : List Value) (all : ∀ item ∈ items, Settled item) : Settled (.list items)
  | tuple (items : List Value) (all : ∀ item ∈ items, Settled item) : Settled (.tuple items)
  | map (entries : List (Value × Value)) (keys : ∀ entry ∈ entries, Settled entry.1)
      (all : ∀ entry ∈ entries, Settled entry.2) : Settled (.map entries)
  | record (type : String) (fields : List (String × Value))
      (all : ∀ field ∈ fields, Settled field.2) : Settled (.record type fields)
  | wrapper (type : String) {id value : Value} (ofId : Settled id) (ofValue : Settled value) :
      Settled (.wrapper type id value)

namespace Value

/-- A list is settled exactly if its items are. -/
theorem settled_list_iff {items : List Value} :
    (Value.list items).Settled ↔ ∀ item ∈ items, item.Settled :=
  ⟨fun settled => by cases settled; assumption, .list items⟩

/-- So is a tuple. -/
theorem settled_tuple_iff {items : List Value} :
    (Value.tuple items).Settled ↔ ∀ item ∈ items, item.Settled :=
  ⟨fun settled => by cases settled; assumption, .tuple items⟩

/-- A map is settled exactly if its keys and values are. -/
theorem settled_map_iff {entries : List (Value × Value)} :
    (Value.map entries).Settled ↔ ∀ entry ∈ entries, entry.1.Settled ∧ entry.2.Settled := by
  constructor
  · intro settled
    cases settled with
    | map _ keys all => exact fun entry member => ⟨keys entry member, all entry member⟩
  · exact fun each => .map entries (fun entry member => (each entry member).1)
      fun entry member => (each entry member).2

end Value

/-- The member names under which the keys of a map go over the wire. -/
inductive KeyName (shape : Shape) : Value → Points → Prop
  | text (name : Points) (isText : shape.bare = .named .str) : KeyName shape (.str name) name
  | integer (number : Int) (isInteger : shape.bare = .named .int) :
      KeyName shape (.int number) (Text.points (Json.intText number))

namespace KeyName

variable {shape : Shape} {key other : Value} {name otherName : Points}

/-- The name of a key is the text that the key is written as. -/
theorem mapKey_eq (named : KeyName shape key name) : key.mapKey = .ok name := by
  cases named <;> rfl

/-- The name of a key is read as the key. -/
theorem readKey_eq (named : KeyName shape key name) : (Value.str name).readKey shape = .ok key := by
  cases named with
  | text name isText => simp [Value.readKey, isText, Value.textKey]
  | integer number isInteger =>
    simp [Value.readKey, isInteger, Value.integerKey, IntText.parse?_intText, bind, Except.bind,
      pure, Except.pure]

/-- A key with a name equals itself. -/
theorem same_self (named : KeyName shape key name) : key.same key = true := by
  cases named <;> simp [Value.same, Value.integer?]

/-- Equal keys that are read by one shape have the same name. -/
theorem name_eq (named : KeyName shape key name) (otherNamed : KeyName shape other otherName)
    (same : key.same other = true) : name = otherName := by
  cases named with
  | text name isText =>
    cases otherNamed with
    | text otherName => simpa [Value.same] using same
    | integer number isInteger =>
      rw [isText] at isInteger
      cases isInteger
  | integer number isInteger =>
    cases otherNamed with
    | text otherName isText =>
      rw [isText] at isInteger
      cases isInteger
    | integer otherNumber _ =>
      have equal : otherNumber = number := by simpa [Value.same, Value.integer?] using same
      rw [equal]

/-- There is something to be joined in the name of a key if there is in the key. -/
theorem isJoined_iff (named : KeyName shape key name) : Text.IsJoined name ↔ key.Settled := by
  cases named with
  | text name isText =>
    refine ⟨.str name, fun settled => ?_⟩
    cases settled with
    | str _ isJoined => exact isJoined
  | integer number isInteger => exact iff_of_true (Text.isJoined_points _) (.int number)

/-- No two keys that are read by one shape share a name. -/
theorem key_eq (named : KeyName shape key name) (otherNamed : KeyName shape other name) :
    key = other := by
  have read := named.readKey_eq
  rw [otherNamed.readKey_eq] at read
  exact (Except.ok.inj read).symm

/-- What a key shape makes of a name is a key that has a name. -/
theorem exists_of_readKey (read : (Value.str otherName).readKey shape = .ok key) :
    ∃ name, KeyName shape key name := by
  unfold Value.readKey at read
  split at read
  · next isText =>
    cases read
    exact ⟨_, .text _ isText⟩
  · next isInteger =>
    cases whole : (Value.str otherName).integerKey with
    | error fault =>
      rw [whole] at read
      cases read
    | ok number =>
      rw [whole] at read
      cases read
      exact ⟨_, .integer number isInteger⟩
  · cases read

end KeyName

/-- Map entries are read one behind the other if the keys they are read as are different. -/
theorem foldlM_readEntry {key elem : Shape} {entries : List (Value × Reader)}
    {read : List (Value × Value)}
    (each : List.Forall₂ (fun entry result =>
      entry.1.readKey key = .ok result.1 ∧ entry.2.read elem = .ok result.2) entries read)
    (before : List (Value × Value))
    (different : ((before ++ read).map (·.1)).Pairwise fun held later => (later == held) = false) :
    entries.foldlM (readEntry key elem) before = .ok (before ++ read) := by
  induction each generalizing before with
  | nil => rw [List.append_nil, List.foldlM_nil]; rfl
  | cons first others inductionHypothesis =>
    rename_i entry result entries read
    have fresh : ∀ held ∈ before.map (·.1), (result.1 == held) = false := by
      intro held member
      rw [List.map_append, List.pairwise_append] at different
      exact different.2.2 held member result.1 List.mem_cons_self
    have step : readEntry key elem before entry = .ok (before ++ [result]) := by
      rw [readEntry, first.1, first.2]
      simp [bind, Except.bind, pure, Except.pure, Table.put_eq_append fresh]
    rw [List.foldlM_cons, step]
    have later := inductionHypothesis (before ++ [result]) (by simpa using different)
    simpa [bind, Except.bind] using later

/-- Lists are equal if their items are. -/
theorem Value.sameItems_of_forall₂ {items others : List Value}
    (each : List.Forall₂ (fun item other => item.same other = true) items others) :
    Value.sameItems items others = true := by
  induction each with
  | nil => simp [Value.sameItems]
  | cons first _ inductionHypothesis => simp [Value.sameItems, first, inductionHypothesis]

/-- Entries are held by others if each has an equal one among them. -/
theorem Value.holdsAll_of_forall {entries others : List (Value × Value)}
    (each : ∀ entry ∈ entries, ∃ other ∈ others,
      entry.1.same other.1 = true ∧ entry.2.same other.2 = true) :
    Value.holdsAll others entries = true := by
  induction entries with
  | nil => simp [Value.holdsAll]
  | cons entry entries inductionHypothesis =>
    obtain ⟨other, member, sameKey, sameValue⟩ := each entry List.mem_cons_self
    have later := inductionHypothesis fun next held => each next (List.mem_cons_of_mem _ held)
    rw [Value.holdsAll, later, Bool.and_true, List.any_eq_true]
    exact ⟨other, member, by rw [sameKey, sameValue]; rfl⟩

/-- An entry of a map on its way: the key and its name, the value and what it is written as, and the
image of the value. -/
structure Passage where
  key : Value
  name : Points
  value : Value
  json : Json
  image : Value

section Names

variable {ρ : Type} {key elem : Shape} {rows : List ρ} {held : ρ → Value} {name : ρ → Points}

/-- Keys with different names are different. -/
theorem KeyName.keys_different (named : ∀ row ∈ rows, KeyName key (held row) (name row))
    (distinct : (rows.map name).Nodup) :
    (rows.map held).Pairwise fun held later => (later == held) = false := by
  rw [List.Nodup, List.pairwise_map] at distinct
  rw [List.pairwise_map]
  refine distinct.imp_of_mem ?_
  intro held later heldMember laterMember differentNames
  rw [← Bool.not_eq_true]
  exact fun same =>
    differentNames ((named later laterMember).name_eq (named held heldMember) same).symm

/-- Different keys have different names. -/
theorem KeyName.names_nodup (named : ∀ row ∈ rows, KeyName key (held row) (name row))
    (different : (rows.map held).Pairwise fun held later => (later == held) = false) :
    (rows.map name).Nodup := by
  rw [List.pairwise_map] at different
  rw [List.Nodup, List.pairwise_map]
  refine different.imp_of_mem ?_
  intro first later firstMember laterMember differentKeys sameName
  have sameKey := (named first firstMember).key_eq (sameName ▸ named later laterMember)
  have sameSelf := (named first firstMember).same_self
  rw [← sameKey] at differentKeys
  exact Bool.noConfusion (differentKeys.symm.trans sameSelf)

/-- An object whose names are different and are read as keys is read as a map under these keys. -/
theorem KeyName.decode_object {codecs : Codecs} {json : ρ → Json} {read : ρ → Value}
    (named : ∀ row ∈ rows, KeyName key (held row) (name row))
    (reads : ∀ row ∈ rows, (json row).toValue.decode codecs elem = .ok (read row))
    (distinct : (rows.map name).Nodup) :
    (Json.object (rows.map fun row => (name row, json row))).toValue.decode codecs
        (.map key elem) = .ok (.map (rows.map fun row => (held row, read row))) := by
  have entries : List.Forall₂ (fun (entry : Value × Reader) (result : Value × Value) =>
      entry.1.readKey key = .ok result.1 ∧ entry.2.read elem = .ok result.2)
      (rows.map fun row => (.str (name row), ⟨(json row).toValue, (json row).toValue.decode codecs⟩))
      (rows.map fun row => (held row, read row)) := by
    rw [List.forall₂_map_left_iff, List.forall₂_map_right_iff, List.forall₂_same]
    exact fun row member => ⟨(named row member).readKey_eq, reads row member⟩
  have different : ((([] : List (Value × Value)) ++
      rows.map fun row => (held row, read row)).map (·.1)).Pairwise
        fun held later => (later == held) = false := by
    simpa [List.map_map, Function.comp_def] using KeyName.keys_different named distinct
  rw [Json.toValue, Json.toEntries_eq, Value.decode_map]
  simp only [List.map_map, Function.comp_def]
  rw [foldlM_readEntry entries [] different]
  rfl

end Names

namespace Travels

variable {codecs : Codecs} {shape elem key : Shape} {value image : Value} {json : Json}

/-- A truth value travels. -/
theorem bool (value : Bool) :
    Travels codecs (.named .bool) (.bool value) (.bool value) (.bool value) := by
  refine ⟨.bool value, ?_, .bool value, rfl, Value.same_toValue (.bool value)⟩
  cases value <;> rfl

/-- An integer travels. -/
theorem int (value : Int) :
    Travels codecs (.named .int) (.int value) (.int value) (.int value) :=
  ⟨.int value, rfl, .int value, rfl, Value.same_toValue (.int value)⟩

/-- A text without pairs to be joined travels. -/
theorem str {text : Points} (isJoined : Text.IsJoined text) :
    Travels codecs (.named .str) (.str text) (.str text) (.str text) :=
  ⟨.str text isJoined, rfl, .str text, rfl, Value.same_toValue (.str text)⟩

/-- A finite number travels. -/
theorem float {number : Binary64} (finite : number.isFinite = true) :
    Travels codecs (.named .float) (.float number) (.float number) (.float number) := by
  refine ⟨.float number ?_, ?_, .float number, rfl, Value.same_toValue (.float number)⟩
  · intro mark marked
    rw [marked] at finite
    cases finite
  · cases number with
    | nan mark => cases finite
    | infinity negative => cases finite
    | finite negative rank =>
      have sameDigits : FloatFormat.wire.magnitude rank.val =
          Json.floatFormat.magnitude rank.val := by
        unfold FloatFormat.magnitude
        generalize Binary64.shortest rank.val = decimal
        rfl
      rw [Value.write, if_pos finite, Json.compact, FloatFormat.write, FloatFormat.write,
        sameDigits]

/-- Raw JSON text is read from a JSON value as the value's text. -/
theorem decode_raw (json : Json) : json.toValue.decode codecs (.named .raw) =
    .ok (.raw (String.ofList json.compact)) := by
  have text := Value.toJson_toValue json
  cases json with
  | null =>
    rw [Json.compact, String.ofList_toList, Json.toValue, Value.decode, Codecs.ofNothing]
  | _ =>
    rw [Json.toValue] at text ⊢
    change (Value.toJson _ >>= fun json => pure (Value.raw (String.ofList json.compact))) = _
    rw [text]
    rfl

/-- Raw JSON text travels as what is read of it, if no two names in an object in it become one. -/
theorem raw (apart : json.NamesApart) :
    Travels codecs (.named .raw) (.raw (String.ofList json.compact)) json.reread
      (.raw (String.ofList json.compact)) := by
  obtain ⟨_, _, begins, _⟩ := Json.begins_of_whole (Json.whole_compact json)
  have nonempty : String.ofList json.compact ≠ "" := by
    intro empty
    have none := congrArg String.toList empty
    rw [String.toList_ofList] at none
    rw [none] at begins
    cases begins
  refine ⟨Json.readable_reread json, ?_, _, decode_raw json.reread, ?_⟩
  · rw [Value.write, if_neg nonempty, String.toList_ofList, Json.compact_reread apart]
  · rw [Json.compact_reread apart]
    simp [Value.same, Value.bytes?]

/-- Settled raw text of something travels as something. -/
theorem exists_raw (present : json ≠ .null)
    (settled : (Value.raw (String.ofList json.compact)).Settled) :
    ∃ written, written ≠ .null ∧ Travels codecs (.named .raw)
      (.raw (String.ofList json.compact)) written (.raw (String.ofList json.compact)) := by
  generalize same : String.ofList json.compact = text at settled
  cases settled with
  | raw other apart =>
    rw [String.ofList_inj] at same
    refine ⟨other.reread, fun nothing => present ?_, Travels.raw apart⟩
    exact Json.eq_null_of_compact (by rw [same, ← Json.compact_reread apart, nothing])

/-- What travels as something travels behind a pointer. -/
theorem pointer (travels : Travels codecs elem value json image) (present : json ≠ .null) :
    Travels codecs (.pointer elem) value json image := by
  refine ⟨travels.readable, travels.written, ?_⟩
  have isThere := Json.toValue_ne_null present
  rw [Value.decode_bare codecs isThere, Shape.bare, ← Value.decode_bare codecs isThere]
  exact travels.back

/-- Nothing travels behind every pointer. -/
theorem null_pointer : Travels codecs (.pointer elem) .null .null .null :=
  ⟨.null, rfl, .null, rfl, Value.same_toValue .null⟩

/-- Reading again by another shape that reads the same makes no difference. -/
theorem of_decode_eq {other : Shape} (travels : Travels codecs other value json image)
    (same : json.toValue.decode codecs shape = json.toValue.decode codecs other) :
    Travels codecs shape value json image := by
  refine ⟨travels.readable, travels.written, ?_⟩
  rw [same]
  exact travels.back

/-- A list travels if its items do. -/
theorem list {rows : List (Value × Json × Value)}
    (each : ∀ row ∈ rows, Travels codecs elem row.1 row.2.1 row.2.2) :
    Travels codecs (.slice elem) (.list (rows.map (·.1))) (.list (rows.map (·.2.1)))
      (.list (rows.map (·.2.2))) := by
  refine ⟨.list _ ?_, ?_, ?_⟩
  · intro item member
    obtain ⟨row, held, rfl⟩ := List.mem_map.1 member
    exact (each row held).readable
  · rw [Json.compact, Json.compactItems_eq, List.map_map]
    exact Value.write_list fun row member => (each row member).written
  · obtain ⟨paired, sides, back⟩ := exists_rows fun row member => (each row member).back
    subst sides
    refine ⟨.list (paired.map (·.2)), ?_, ?_⟩
    · refine decode_list_eq_ok_iff.2 ⟨_, ?_, rfl⟩
      simp only [List.forall₂_map_left_iff, List.forall₂_map_right_iff, List.forall₂_same]
      exact fun pair member => (back pair member).1
    · rw [Value.same]
      apply Value.sameItems_of_forall₂
      simp only [List.forall₂_map_left_iff, List.forall₂_map_right_iff, List.forall₂_same]
      exact fun pair member => (back pair member).2

/-- A map travels if its values do and different keys have names that are read as the keys, with
nothing to be joined in them. -/
theorem map {passages : List Passage}
    (each : ∀ passage ∈ passages, (KeyName key passage.key passage.name ∧
      Text.IsJoined passage.name) ∧ Travels codecs elem passage.value passage.json passage.image)
    (distinct : (passages.map (·.name)).Nodup) :
    Travels codecs (.map key elem)
      (.map (passages.map fun passage => (passage.key, passage.value)))
      (.object ((Text.sortBy (·.name) passages).map fun passage => (passage.name, passage.json)))
      (.map (passages.map fun passage => (passage.key, passage.image))) := by
  have sorted : ∀ passage ∈ Text.sortBy (·.name) passages,
      (KeyName key passage.key passage.name ∧ Text.IsJoined passage.name) ∧
        Travels codecs elem passage.value passage.json passage.image :=
    fun passage member => each passage (Text.mem_sortBy.1 member)
  have sortedNames : ((Text.sortBy (·.name) passages).map (·.name)).Nodup :=
    ((Text.sortBy_perm (·.name) passages).map (·.name)).nodup_iff.2 distinct
  refine ⟨.object _ ?_ ?_ ?_, ?_, ?_⟩
  · simpa [List.map_map, Function.comp_def] using sortedNames
  · intro member held
    obtain ⟨passage, among, rfl⟩ := List.mem_map.1 held
    exact (sorted passage among).1.2
  · intro member held
    obtain ⟨passage, among, rfl⟩ := List.mem_map.1 held
    exact (sorted passage among).2.readable
  · rw [Json.compact, Json.compactMembers_eq, List.map_map]
    exact Value.write_map fun passage member =>
      ⟨(each passage member).1.1.mapKey_eq, (each passage member).2.written⟩
  · obtain ⟨paired, sides, back⟩ :=
      exists_rows fun passage (member : passage ∈ Text.sortBy (·.name) passages) =>
        (sorted passage member).2.back
    refine ⟨.map (paired.map fun pair => (pair.1.key, pair.2)), ?_, ?_⟩
    · rw [← sides, List.map_map] at sortedNames ⊢
      exact KeyName.decode_object
        (fun pair member => (sorted pair.1 (sides ▸ List.mem_map_of_mem member)).1.1)
        (fun pair member => (back pair member).1) sortedNames
    · have lengths : (paired.map fun pair => (pair.1.key, pair.2)).length = passages.length := by
        rw [List.length_map, ← List.length_map Prod.fst, sides]
        exact (Text.sortBy_perm _ _).length_eq
      have held : Value.holdsAll (passages.map fun passage => (passage.key, passage.image))
          (paired.map fun pair => (pair.1.key, pair.2)) = true := by
        apply Value.holdsAll_of_forall
        intro entry member
        obtain ⟨pair, among, rfl⟩ := List.mem_map.1 member
        have inSorted : pair.1 ∈ paired.map (·.1) := List.mem_map_of_mem among
        rw [sides] at inSorted
        exact ⟨_, List.mem_map_of_mem (Text.mem_sortBy.1 inSorted),
          (sorted pair.1 inSorted).1.1.same_self, (back pair among).2⟩
      rw [Value.same, held, lengths]
      simp

/-- A list travels if its items do, each to its own image. -/
theorem exists_list {items : List Value} (image : Value → Value)
    (each : ∀ item ∈ items, ∃ json, Travels codecs elem item json (image item)) :
    ∃ jsons, Travels codecs (.slice elem) (.list items) (.list jsons)
      (.list (items.map image)) := by
  obtain ⟨rows, rfl, all⟩ := exists_rows each
  have rowwise : ∀ row ∈ rows.map fun row => (row.1, row.2, image row.1),
      Travels codecs elem row.1 row.2.1 row.2.2 := by
    intro row member
    obtain ⟨pair, held, rfl⟩ := List.mem_map.1 member
    exact all pair held
  refine ⟨rows.map (·.2), ?_⟩
  simpa [List.map_map, Function.comp_def] using Travels.list rowwise

/-- A map travels if its keys have names with nothing to be joined in them and are different, and
its values travel, each to its own image. -/
theorem exists_map {entries : List (Value × Value)} (image : Value → Value)
    (named : ∀ entry ∈ entries, ∃ name, KeyName key entry.1 name ∧ Text.IsJoined name)
    (different : (entries.map (·.1)).Pairwise fun held later => (later == held) = false)
    (each : ∀ entry ∈ entries, ∃ json, Travels codecs elem entry.2 json (image entry.2)) :
    ∃ members, Travels codecs (.map key elem) (.map entries) (.object members)
      (.map (entries.map fun entry => (entry.1, image entry.2))) := by
  have both : ∀ entry ∈ entries, ∃ way : Points × Json,
      (KeyName key entry.1 way.1 ∧ Text.IsJoined way.1) ∧
        Travels codecs elem entry.2 way.2 (image entry.2) := by
    intro entry member
    obtain ⟨name, isName⟩ := named entry member
    obtain ⟨json, travels⟩ := each entry member
    exact ⟨(name, json), isName, travels⟩
  obtain ⟨rows, rfl, all⟩ := exists_rows both
  let passage (row : (Value × Value) × Points × Json) : Passage :=
    ⟨row.1.1, row.2.1, row.1.2, row.2.2, image row.1.2⟩
  have passages : ∀ way ∈ rows.map passage, (KeyName key way.key way.name ∧
      Text.IsJoined way.name) ∧ Travels codecs elem way.value way.json way.image := by
    intro way member
    obtain ⟨row, held, rfl⟩ := List.mem_map.1 member
    exact all row held
  have distinct : ((rows.map passage).map (·.name)).Nodup := by
    rw [List.map_map] at different ⊢
    exact KeyName.names_nodup (fun row member => (all row member).1.1) different
  refine ⟨(Text.sortBy (·.name) (rows.map passage)).map fun way => (way.name, way.json), ?_⟩
  simpa [List.map_map, Function.comp_def, passage] using Travels.map passages distinct

/-- The empty list travels. -/
theorem empty_list : Travels codecs (.slice elem) (.list []) (.list []) (.list []) := by
  have noRow : ∀ row ∈ ([] : List (Value × Json × Value)),
      Travels codecs elem row.1 row.2.1 row.2.2 := by simp
  exact Travels.list noRow

/-- The empty map travels. -/
theorem empty_map : Travels codecs (.map key elem) (.map []) (.object []) (.map []) := by
  have noPassage : ∀ passage ∈ ([] : List Passage), (KeyName key passage.key passage.name ∧
      Text.IsJoined passage.name) ∧
        Travels codecs elem passage.value passage.json passage.image := by simp
  exact Travels.map noPassage (by simp)

end Travels

end DeclCodec
