import DeclCodec.Proofs.Wire.Rereading
import DeclCodec.Proofs.Wire.Strict
import DeclCodec.Wire.Session

/-!
# What is read is written as strict JSON

Reading makes no object that writes itself, and the raw texts that it makes are
the compact texts of the JSON values that were read. So whatever is read, by a
shape or into a struct, is written as strict JSON, unless raw text holds a number
that is not finite: compact text has a word for it, which strict JSON does not
know.
-/

namespace DeclCodec

/-- Is the text the compact text of a JSON value? -/
def Json.IsCompact (text : String) : Prop := ∃ json : Json, String.ofList json.compact = text

namespace Value

/-- Are the texts copied from the value compact texts of JSON values? -/
def Clean (value : Value) : Prop := ∀ text ∈ value.copied, Json.IsCompact text

/-- A list of clean items is clean. -/
theorem clean_list {items : List Value} (clean : ∀ item ∈ items, item.Clean) :
    (Value.list items).Clean := by
  rw [Clean, copied, copiedOfItems_eq, List.forall_mem_flatMap]
  exact clean

/-- A map of clean values is clean. -/
theorem clean_map {entries : List (Value × Value)} (clean : ∀ entry ∈ entries, entry.2.Clean) :
    (Value.map entries).Clean := by
  rw [Clean, copied, copiedOfEntries_eq, List.forall_mem_flatMap]
  exact clean

/-- A record is clean exactly if its fields are. -/
theorem clean_record_iff {type : String} {fields : List (String × Value)} :
    (Value.record type fields).Clean ↔ ∀ field ∈ fields, field.2.Clean := by
  rw [Clean, copied, copiedOfFields_eq, List.forall_mem_flatMap]
  rfl

/-- A wrapper is clean if both of its sides are. -/
theorem clean_wrapper {type : String} {id value : Value} (cleanId : id.Clean)
    (cleanValue : value.Clean) : (Value.wrapper type id value).Clean := by
  rw [Clean, copied, List.forall_mem_append]
  exact ⟨cleanId, cleanValue⟩

/-- The compact text of a value is clean raw text. -/
theorem clean_raw (json : Json) : (Value.raw (String.ofList json.compact)).Clean := by
  intro text member
  rw [copied] at member
  split at member
  · cases member
  · exact ⟨json, (List.mem_singleton.1 member).symm⟩

mutual

/-- No text is copied from a value as JSON has it. -/
theorem copied_toValue : (json : Json) → json.toValue.copied = []
  | .null | .bool _ | .int _ | .float _ | .str _ => rfl
  | .list items => copiedOfItems_toValues items
  | .object members => copiedOfEntries_toEntries members

/-- None is copied from items of this kind. -/
theorem copiedOfItems_toValues : (items : List Json) → copiedOfItems (Json.toValues items) = []
  | [] => rfl
  | item :: rest => by
    rw [Json.toValues, copiedOfItems, copied_toValue item, copiedOfItems_toValues rest]
    rfl

/-- And none from members. -/
theorem copiedOfEntries_toEntries :
    (members : List (Points × Json)) → copiedOfEntries (Json.toEntries members) = []
  | [] => rfl
  | (name, value) :: rest => by
    rw [Json.toEntries, copiedOfEntries, copied_toValue value, copiedOfEntries_toEntries rest]
    rfl

end

/-- So a value as JSON has it is clean. -/
theorem clean_toValue (json : Json) : json.toValue.Clean := by
  intro text member
  rw [copied_toValue] at member
  cases member

end Value

/-- What has the type of a shape of builtin classes is clean. -/
theorem HasShape.clean {shape : Shape} {value : Value} (typed : HasShape shape value) :
    value.Clean := by
  induction typed with
  | object json => exact Value.clean_toValue json
  | raw json => exact Value.clean_raw json
  | present _ inductionHypothesis => exact inductionHypothesis
  | slice _ inductionHypothesis => exact Value.clean_list inductionHypothesis
  | map _ _ _ inductionHypothesis => exact Value.clean_map inductionHypothesis
  | bool | int | float | str | absent => exact fun text member => by cases member

/-- A class of another module makes only clean values of nothing and of JSON values. -/
def ForeignClass.Clean (cls : ForeignClass) : Prop :=
  (∀ value, cls.ofNothing = .ok value → value.Clean) ∧
    ∀ (json : Json) value, cls.accept json.toValue = .ok value → value.Clean

/-- All classes of other modules do. -/
def Foreign.Clean (foreign : Foreign) : Prop := ∀ path cls, foreign path = .ok cls → cls.Clean

/-- So do builtin integers. -/
theorem Foreign.clean_builtins : Foreign.builtins.Clean := by
  intro path cls found
  unfold builtins at found
  split at found
  · cases found
    refine ⟨fun value made => ?_, fun json value accepted => ?_⟩
    · cases made
      exact fun text member => by cases member
    · obtain ⟨number, _, rfl⟩ := ForeignClass.accept_integers accepted
      exact Value.clean_toValue json
  · cases found

/-- A default is clean if new structs are. -/
theorem Codecs.clean_ofDefault {make : String → Except WireFault Value}
    (clean : ∀ name value, make name = .ok value → value.Clean) {default : Default} {value : Value}
    (made : ofDefault make default = .ok value) : value.Clean := by
  cases default with
  | fresh name => exact clean name value made
  | _ =>
    cases made
    exact fun text member => by cases member

/-- New structs are clean. -/
theorem Codecs.clean_makeWithin {codecs : Codecs} {depth : Nat} {type : String} {value : Value}
    (made : codecs.makeWithin depth type = .ok value) : value.Clean := by
  induction depth generalizing type value with
  | zero => cases made
  | succ depth inductionHypothesis =>
    rw [makeWithin] at made
    split at made
    · cases made
    · obtain ⟨fields, run, same⟩ := bind_eq_ok.1 made
      cases same
      refine Value.clean_record_iff.2 fun field member => ?_
      obtain ⟨source, _, isField⟩ := exists_item_of_mapM_ok run member
      obtain ⟨held, isDefault, same⟩ := bind_eq_ok.1 isField
      cases same
      exact clean_ofDefault (fun _ _ => inductionHypothesis) isDefault

/-- What a class makes of nothing is clean. -/
theorem Codecs.clean_ofNothing {codecs : Codecs} (foreign : codecs.foreign.Clean) {cls : Class}
    {value : Value} (made : codecs.ofNothing cls = .ok value) : value.Clean := by
  cases cls with
  | declared name => exact clean_makeWithin made
  | foreign path =>
    obtain ⟨cls, found, made⟩ := bind_eq_ok.1 made
    exact (foreign path cls found).1 value made
  | raw =>
    cases made
    exact Value.clean_raw .null
  | _ =>
    cases made
    exact fun text member => by cases member

/-- A class accepts a value as it stands, makes raw text or a number of it, or is one of another
module, which accepts it. -/
theorem Value.accept_cases {codecs : Codecs} {cls : Class} {value result : Value}
    (accepted : value.accept codecs cls = .ok result) :
    result = value ∨ (∃ json : Json, result = .raw (String.ofList json.compact)) ∨
      (∃ number, result = .float number) ∨
      ∃ path other, codecs.foreign path = .ok other ∧ other.accept value = .ok result := by
  -- The rounding of integers is not to be computed here.
  obtain ⟨nearest?, rounding⟩ : ∃ nearest?, Binary64.ofInt? = nearest? := ⟨_, rfl⟩
  rw [Value.accept.eq_def, rounding] at accepted
  split at accepted
  case h_2 =>
    obtain ⟨json, isJson, same⟩ := bind_eq_ok.1 accepted
    cases same
    exact .inr (.inl ⟨json, rfl⟩)
  case h_3 =>
    simp only [bind_eq_ok] at accepted
    obtain ⟨_, _, _, _, impossible⟩ := accepted
    cases impossible
  case h_4 =>
    obtain ⟨other, found, accepted⟩ := bind_eq_ok.1 accepted
    exact .inr (.inr (.inr ⟨_, other, found, accepted⟩))
  case h_8 =>
    split at accepted
    · cases accepted
      exact .inr (.inr (.inl ⟨_, rfl⟩))
    · cases accepted
  -- All other classes accept the value itself or refuse it.
  all_goals cases accepted <;> exact .inl rfl

/-- What a class accepts of a JSON value is clean. -/
theorem Value.clean_accept {codecs : Codecs} (foreign : codecs.foreign.Clean) {json : Json}
    {cls : Class} {value : Value} (accepted : json.toValue.accept codecs cls = .ok value) :
    value.Clean := by
  rcases accept_cases accepted with rfl | ⟨other, rfl⟩ | ⟨number, rfl⟩ | ⟨path, other, found, made⟩
  · exact clean_toValue json
  · exact clean_raw other
  · exact fun text member => by cases member
  · exact (foreign path other found).2 json value made

/-- Are only clean values read? -/
def Reader.Sound (reader : Reader) : Prop :=
  ∀ shape value, reader.read shape = .ok value → value.Clean

/-- What is found in a table stands in the table. -/
theorem exists_mem_of_lookup {κ α : Type} [BEq κ] {key : κ} {value : α} {table : List (κ × α)}
    (found : table.lookup key = some value) : ∃ held, (held, value) ∈ table := by
  induction table with
  | nil => cases found
  | cons entry rest inductionHypothesis =>
    rw [List.lookup_cons] at found
    split at found
    · cases found
      exact ⟨entry.1, List.mem_cons_self⟩
    · obtain ⟨held, member⟩ := inductionHypothesis found
      exact ⟨held, List.mem_cons_of_mem _ member⟩

/-- What is received is read as a sound reader does. -/
theorem sound_of_received? {entries : List (Value × Reader)}
    (sound : ∀ entry ∈ entries, entry.2.Sound) {name : Points} {reader : Reader}
    (received : received? entries name = some reader) : reader.Sound := by
  unfold received? at received
  split at received
  · next found =>
    split at received
    · cases received
    · cases received
      obtain ⟨key, member⟩ := exists_mem_of_lookup found
      exact sound _ member
  · cases received

/-- The identifier of a new wrapper is clean. -/
theorem Codecs.clean_idDefault {codecs : Codecs} {wrapper : String} {id : Value}
    (made : codecs.idDefault wrapper = .ok id) : id.Clean := by
  unfold idDefault at made
  split at made
  · exact clean_ofDefault (fun _ _ => clean_makeWithin) made
  · cases made

/-- What an entry assigns is clean. -/
theorem Read.clean_incoming {codecs : Codecs} {entries : List (Value × Reader)}
    (sound : ∀ entry ∈ entries, entry.2.Sound) {entry : Read} {value : Value}
    (incoming : entry.incoming codecs entries = .ok (some value)) : value.Clean := by
  unfold Read.incoming at incoming
  split at incoming
  · cases incoming
  · next received =>
    simp only [bind_eq_ok] at incoming
    obtain ⟨_, _, read, success, same⟩ := incoming
    cases same
    exact sound_of_received? sound received _ _ success
  · next received =>
    simp only [bind_eq_ok] at incoming
    obtain ⟨_, _, read, success, id, isId, same⟩ := incoming
    cases same
    exact Value.clean_wrapper (Codecs.clean_idDefault isId)
      (sound_of_received? sound received _ _ success)
  · split at incoming
    · cases incoming
    · next received =>
      simp only [bind_eq_ok] at incoming
      obtain ⟨_, _, read, success, same⟩ := incoming
      cases same
      exact Value.clean_wrapper (sound_of_received? sound received _ _ success)
        (Value.clean_toValue .null)

/-- Assigning keeps fields clean, as far as it goes. -/
theorem Codecs.clean_assign {codecs : Codecs} {entries : List (Value × Reader)}
    (sound : ∀ entry ∈ entries, entry.2.Sound) {fields : List (String × Value)}
    (clean : ∀ field ∈ fields, field.2.Clean) (reads : List Read) :
    ∀ field ∈ (codecs.assign entries fields reads).1, field.2.Clean := by
  induction reads generalizing fields with
  | nil => exact clean
  | cons entry rest inductionHypothesis =>
    rw [assign]
    split
    · exact clean
    · exact inductionHypothesis clean
    · next incoming =>
      refine inductionHypothesis fun field member => ?_
      rcases Table.mem_put member with isNew | old
      · exact isNew ▸ Read.clean_incoming sound incoming
      · exact clean field old

/-- Assigning to a clean record keeps it clean. -/
theorem Codecs.clean_assignRecord (codecs : Codecs) {entries : List (Value × Reader)}
    (sound : ∀ entry ∈ entries, entry.2.Sound) {value : Value} (clean : value.Clean) :
    (codecs.assignRecord entries value).1.Clean := by
  unfold assignRecord
  split
  · split
    · exact Value.clean_record_iff.2 (clean_assign sound (Value.clean_record_iff.1 clean) _)
    · exact clean
  · exact clean

/-- A struct that is made of entries is clean. -/
theorem Codecs.clean_fromEntries {codecs : Codecs} {type : String} {entries : List (Value × Reader)}
    (sound : ∀ entry ∈ entries, entry.2.Sound) {value : Value}
    (made : codecs.fromEntries type entries = .ok value) : value.Clean := by
  simp only [fromEntries, bind_eq_ok] at made
  obtain ⟨_, _, fresh, isFresh, assigned⟩ := made
  have clean := clean_assignRecord codecs sound (clean_makeWithin isFresh)
  split at assigned
  · next same =>
    cases assigned
    rwa [same] at clean
  · cases assigned

/-- What is read from a value without parts is clean. -/
theorem Value.clean_of_decode_leaf {codecs : Codecs} (foreign : codecs.foreign.Clean) {json : Json}
    (present : json ≠ .null) (noList : ∀ items, json ≠ .list items)
    (noObject : ∀ members, json ≠ .object members) :
    (⟨json.toValue, json.toValue.decode codecs⟩ : Reader).Sound := by
  intro shape value decoded
  have accepted : (∃ cls, json.toValue.accept codecs cls = .ok value) ∨ value = .null := by
    cases json with
    | null => exact absurd rfl present
    | list items => exact absurd rfl (noList items)
    | object members => exact absurd rfl (noObject members)
    | _ =>
      simp only [Json.toValue, decode] at decoded
      split at decoded
      · cases decoded
      · cases decoded
      · exact .inl ⟨_, decoded⟩
      · cases decoded
        exact .inr rfl
  rcases accepted with ⟨cls, accepted⟩ | rfl
  · exact clean_accept foreign accepted
  · exact clean_toValue .null

/-- Whatever is read from a JSON value is clean. -/
theorem Value.clean_of_decode {codecs : Codecs} (foreign : codecs.foreign.Clean) (json : Json) :
    (⟨json.toValue, json.toValue.decode codecs⟩ : Reader).Sound := by
  have null : Value.null.Clean := clean_toValue .null
  induction json using Json.byParts with
  | null =>
    intro shape value decoded
    cases shape with
    | named cls => exact Codecs.clean_ofNothing foreign decoded
    | _ =>
      cases decoded
      exact fun text member => by cases member
  | list items inductionHypothesis =>
    intro shape value decoded
    simp only [Json.toValue, decode] at decoded
    split at decoded
    · obtain ⟨values, run, same⟩ := bind_eq_ok.1 decoded
      cases same
      refine clean_list fun item member => ?_
      rw [decodeItems_eq, Json.toValues_eq] at run
      obtain ⟨source, held, decodedItem⟩ := exists_item_of_mapM_ok run member
      obtain ⟨json, among, rfl⟩ := List.mem_map.1 held
      exact inductionHypothesis json among _ _ decodedItem
    · cases decoded
    · rw [← Json.toValue] at decoded
      exact clean_accept foreign decoded
    · cases decoded
      exact null
  | object members inductionHypothesis =>
    have sound : ∀ entry ∈ readers codecs (Json.toEntries members), entry.2.Sound := by
      rw [readers_eq, Json.toEntries_eq, List.forall_mem_map, List.forall_mem_map]
      exact inductionHypothesis
    intro shape value decoded
    simp only [Json.toValue, decode] at decoded
    split at decoded
    · cases decoded
    · next key elem _ =>
      obtain ⟨entries, run, same⟩ := bind_eq_ok.1 decoded
      cases same
      have each : ∀ entry ∈ readers codecs (Json.toEntries members),
          (∀ read, entry.1.readKey key = .ok read → True) ∧
            ∀ read, entry.2.read elem = .ok read → read.Clean :=
        fun entry member => ⟨fun _ _ => trivial, sound entry member elem⟩
      refine clean_map fun entry member => ?_
      exact ((entries_of_foldlM each (by simp) (by simp) run).1 entry member).2
    · exact Codecs.clean_fromEntries sound decoded
    · rw [← Json.toValue] at decoded
      exact clean_accept foreign decoded
    · cases decoded
      exact null
  | bool | int | float | str =>
    exact clean_of_decode_leaf foreign (by simp) (by simp) (by simp)

namespace Codecs

variable {codecs : Codecs}

/-- Reading into a clean struct keeps it clean, even if it fails. -/
theorem clean_unmarshal (foreign : codecs.foreign.Clean) {source : Source} {value : Value}
    (clean : value.Clean) :
    (codecs.unmarshal source value).1.Clean := by
  unfold unmarshal
  split
  · split
    · exact clean
    · next entries loaded =>
      obtain ⟨held, isHeld, isObject⟩ := bind_eq_ok.1 loaded
      obtain ⟨json, _, rfl⟩ := held_of_load isHeld
      refine clean_assignRecord codecs ?_ clean
      cases json with
      | object members =>
        cases isObject
        rw [Value.readers_eq, Json.toEntries_eq, List.forall_mem_map, List.forall_mem_map]
        exact fun member _ => Value.clean_of_decode foreign member.2
      | _ => cases isObject
  · exact clean

/-- A struct into which sources are read one after another. -/
def fill (codecs : Codecs) (sources : List Source) (value : Value) : Value :=
  sources.foldl (fun value source => (codecs.unmarshal source value).1) value

/-- It stays clean. -/
theorem clean_fill (foreign : codecs.foreign.Clean) {value : Value} (clean : value.Clean)
    (sources : List Source) : (codecs.fill sources value).Clean := by
  induction sources generalizing value with
  | nil => exact clean
  | cons source rest inductionHypothesis =>
    exact inductionHypothesis (clean_unmarshal foreign clean)

/-- A new instance of a class is clean. -/
theorem clean_construct {type : String} {value : Value}
    (made : codecs.construct type [] = .ok value) : value.Clean := by
  simp only [construct, List.all_nil, if_true, List.lookup_nil] at made
  split at made
  · simp only [bind_eq_ok] at made
    obtain ⟨_, _, fields, run, same⟩ := made
    cases same
    refine Value.clean_record_iff.2 fun field member => ?_
    obtain ⟨source, _, isField⟩ := exists_item_of_mapM_ok run member
    obtain ⟨held, isDefault, same⟩ := bind_eq_ok.1 isField
    cases same
    exact clean_ofDefault (fun _ _ => clean_makeWithin) isDefault
  · split at made
    · cases made
    · simp only [constructWrapper, bind_eq_ok] at made
      obtain ⟨_, _, id, isDefault, same⟩ := made
      cases same
      exact Value.clean_wrapper (clean_idDefault isDefault) (Value.clean_toValue .null)

end Codecs

/-- Do the compact texts that are copied from the value hold finite numbers only? What is parsed
from such a text may lack a number of it, if two names in it are one. -/
def Value.FiniteTexts (value : Value) : Prop :=
  ∀ text ∈ value.copied, ∀ json : Json, String.ofList json.compact = text → json.Finite

/-- A clean value whose texts hold finite numbers only is written as strict JSON. -/
theorem Value.Clean.strict {codecs : Codecs} {value : Value} (clean : value.Clean)
    (finite : value.FiniteTexts) {text : List Char} (written : value.encode codecs = .ok text) :
    Json.Strict text := by
  refine strict_of_write codecs value ?_ .whole text written
  intro copy member
  obtain ⟨json, rfl⟩ := clean copy member
  rw [String.toList_ofList]
  exact Json.strict_compact (finite _ member json rfl)

/-- What the runtime writes of what it reads is strict JSON, unless raw text in it holds a number
that is not finite. Of a loaded value that a shape of builtin classes reads, either strict text is
written and all its numbers outside of raw text are finite, or one of them is not and it is refused
for that. Of a new instance of any class into which sources are read, only strict text is written,
if that is so of what classes of other modules make. -/
theorem strict_of_encode (codecs : Codecs) :
    (∀ source held shape value, Source.load source = .ok held → shape.isBuiltin = true →
      held.decode codecs shape = .ok value → value.FiniteTexts →
        (∃ text, value.encode codecs = .ok text ∧ Json.Strict text ∧
          ∀ number ∈ value.looseNumbers, number.isFinite = true) ∨
        ∃ number ∈ value.floats, number.isFinite = false ∧
          value.encode codecs = .error (.unsupportedNumber number)) ∧
    (codecs.foreign.Clean → ∀ type fresh sources text, codecs.construct type [] = .ok fresh →
      (codecs.fill sources fresh).FiniteTexts →
        codecs.marshal (codecs.fill sources fresh) = .ok text → Json.Strict text.toList) := by
  constructor
  · intro source held shape value loaded builtin decoded finite
    obtain ⟨json, _, rfl⟩ := held_of_load loaded
    have typed := hasShape_of_decode builtin decoded
    rcases typed.accounted with ⟨text, written⟩ | ⟨number, among, infinite, refused⟩
    · exact .inl ⟨text, written, typed.clean.strict finite written,
        Value.isFinite_of_write codecs value written⟩
    · exact .inr ⟨number, among, infinite, refused⟩
  · intro foreign type fresh sources text made finite written
    have clean : (codecs.fill sources fresh).Clean :=
      Codecs.clean_fill foreign (Codecs.clean_construct made) sources
    unfold Codecs.marshal at written
    split at written
    · obtain ⟨chars, encoded, same⟩ := bind_eq_ok.1 written
      cases same
      rw [String.toList_ofList]
      exact clean.strict finite encoded
    · cases written

/-- The codecs of a struct with a field of raw text. -/
def rawFieldCodecs : Codecs where
  structs := [⟨"T", [("A", .null)], [⟨"A", "A", .always⟩], [⟨"A", "A", .named .raw, none⟩], true⟩]
  wrappers := []
  foreign := .builtins

/-- An object with the number one. -/
def oneSource : Source := .text (Text.points (Json.object [("A", .int 1)]).compact)

/-- The object is read into the struct as its member. -/
theorem fill_oneSource :
    rawFieldCodecs.fill [oneSource] (.record "T" [("A", .null)]) =
      .record "T" [("A", .raw "1")] := by
  have loaded : oneSource.load = .ok (.map [(.str "A", .int 1)]) := by
    rw [oneSource, Source.load_compact _ (.inl rfl)]
    rfl
  have itself : (Value.str "A" == Value.str "A") = true := Value.same_toValue (.str "A")
  have received : received? (Value.readers rawFieldCodecs [(.str "A", .int 1)]) "A" =
      some ⟨.int 1, (Value.int 1).decode rawFieldCodecs⟩ := by
    rw [Value.readers, received?, List.lookup_cons, itself]
  have incoming : Read.incoming rawFieldCodecs (Value.readers rawFieldCodecs [(.str "A", .int 1)])
      ⟨"A", "A", .named .raw, none⟩ = .ok (some (.raw "1")) := by
    rw [Read.incoming, received]
    rfl
  rw [Codecs.fill, List.foldl_cons, Codecs.unmarshal, Source.loadObject, loaded]
  change (Codecs.assignRecord rawFieldCodecs _ (.record "T" [("A", .null)])).1 = _
  rw [Codecs.assignRecord]
  change Value.record "T" (Codecs.assign rawFieldCodecs _ _ [⟨"A", "A", .named .raw, none⟩]).1 = _
  rw [Codecs.assign, incoming]
  rfl

/-- The number one as raw text, by itself and in the field of a struct, is an instance. -/
theorem strict_of_encode_one :
    (Source.text "1").load = .ok (.int 1) ∧
      (Value.int 1).decode rawFieldCodecs (.named .raw) = .ok (.raw "1") ∧
      (Value.raw "1").FiniteTexts ∧
      ((∃ text, (Value.raw "1").encode rawFieldCodecs = .ok text ∧ Json.Strict text ∧
          ∀ number ∈ (Value.raw "1").looseNumbers, number.isFinite = true) ∨
        ∃ number ∈ (Value.raw "1").floats, number.isFinite = false ∧
          (Value.raw "1").encode rawFieldCodecs = .error (.unsupportedNumber number)) ∧
      rawFieldCodecs.construct "T" [] = .ok (.record "T" [("A", .null)]) ∧
      rawFieldCodecs.fill [oneSource] (.record "T" [("A", .null)]) = .record "T" [("A", .raw "1")] ∧
      ∃ text, rawFieldCodecs.marshal (.record "T" [("A", .raw "1")]) = .ok text ∧
        Json.Strict text.toList := by
  have finite : ∀ text ∈ ["1"], ∀ json : Json, String.ofList json.compact = text → json.Finite := by
    intro text member json isText
    rw [List.mem_singleton.1 member, ← String.toList_inj, String.toList_ofList] at isText
    have read := Json.parse_compact json
    have isOne : Json.parse (Text.points "1".toList) = .ok (.int 1) := rfl
    rw [isText, isOne] at read
    cases json with
    | int number => exact .int number
    | float number => cases number <;> cases read
    | _ => cases read
  have loaded : (Source.text "1").load = .ok (.int 1) := rfl
  have decoded : (Value.int 1).decode rawFieldCodecs (.named .raw) = .ok (.raw "1") := rfl
  have made : rawFieldCodecs.construct "T" [] = .ok (.record "T" [("A", .null)]) := rfl
  have written : ∃ text, rawFieldCodecs.marshal (.record "T" [("A", .raw "1")]) = .ok text :=
    ⟨_, rfl⟩
  obtain ⟨shapes, structs⟩ := strict_of_encode rawFieldCodecs
  have structs := structs Foreign.clean_builtins
  obtain ⟨text, isText⟩ := written
  refine ⟨loaded, decoded, finite, shapes _ _ _ _ loaded rfl decoded finite, made, fill_oneSource,
    text, isText, structs "T" _ [oneSource] text made ?_ ?_⟩
  · rw [fill_oneSource]
    exact finite
  · rw [fill_oneSource]
    exact isText

/-- A number that is too large is read as raw text as infinity, and written so, which is no strict
JSON. -/
theorem not_strict_of_encode_infinity :
    (Source.text "1e400").load = .ok (.float (.infinity false)) ∧
      (Value.float (.infinity false)).decode Codecs.empty (.named .raw) =
        .ok (.raw "Infinity") ∧
      (Value.raw "Infinity").encode Codecs.empty = .ok "Infinity".toList ∧
      ¬Json.Strict "Infinity".toList :=
  ⟨rfl, rfl, rfl, Json.not_strict_of_mem (by simp)⟩

end DeclCodec
