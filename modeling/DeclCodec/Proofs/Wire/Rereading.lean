import DeclCodec.Proofs.Text.Bytes
import DeclCodec.Proofs.Wire.Shaped

/-!
# What is read can be written and read again

Whatever a shape makes of a JSON value, reading what is written of it by the same shape
gives an equal value, unless there are surrogate pairs in its strings or keys: these are
joined on the way. Raw JSON text is copied, and what is read of it has the same text,
unless names of one object become one.

The induction is on the JSON value, for all shapes at once. Under pointers a
value that is there is read as it is without them, and an unrestricted value is
read as a list or map of unrestricted values would be.
-/

namespace DeclCodec

variable {codecs : Codecs} {shape elem key : Shape}

/-- An unrestricted value that is written comes back equal. -/
theorem rereads_object {json : Json} (held : json.Held) (settled : json.toValue.Settled)
    {text : List Char} (isText : json.toValue.write codecs .whole = .ok text) :
    ∃ written, (json ≠ .null → written ≠ .null) ∧
      Travels codecs (.named .object) json.toValue written json.toValue := by
  induction json using Json.byParts generalizing text with
  | null =>
    exact ⟨.null, fun absent => absent, .null, rfl, .null, rfl, Value.same_toValue .null⟩
  | bool value => exact ⟨_, by simp, (Travels.bool value).of_decode_eq rfl⟩
  | int value => exact ⟨_, by simp, (Travels.int value).of_decode_eq rfl⟩
  | str text =>
    cases settled with
    | str _ isJoined => exact ⟨_, by simp, (Travels.str isJoined).of_decode_eq rfl⟩
  | float number =>
    have finite : number.isFinite = true := Value.isFinite_of_write_float isText
    exact ⟨_, by simp, (Travels.float finite).of_decode_eq rfl⟩
  | list items inductionHypothesis =>
    rw [Json.toValue, Json.toValues_eq] at isText settled
    cases held with
    | list _ allHeld =>
    cases settled with
    | list _ allSettled =>
    have each : ∀ item ∈ items.map Json.toValue,
        ∃ written, Travels codecs (.named .object) item written (id item) := by
      intro item member
      obtain ⟨own, isOwn⟩ := Value.exists_of_write_list isText _ member
      obtain ⟨json, among, rfl⟩ := List.mem_map.1 member
      obtain ⟨written, _, travels⟩ := inductionHypothesis json among (allHeld json among)
        (allSettled _ member) isOwn
      exact ⟨written, travels⟩
    obtain ⟨jsons, travels⟩ := Travels.exists_list id each
    rw [List.map_id, ← Json.toValues_eq, ← Json.toValue] at travels
    refine ⟨.list jsons, by simp, travels.of_decode_eq ?_⟩
    rw [decode_slice_object, decode_object]
  | object members inductionHypothesis =>
    rw [Json.toValue, Json.toEntries_eq] at isText settled ⊢
    cases held with
    | object _ distinct allHeld =>
    cases settled with
    | map _ keys allSettled =>
    have each : ∀ entry ∈ members.map fun member => (Value.str member.1, member.2.toValue),
        ∃ written, Travels codecs (.named .object) entry.2 written (id entry.2) := by
      intro entry member
      obtain ⟨⟨_, own⟩, _, isOwn⟩ := Value.exists_of_write_map isText _ member
      have isSettled := allSettled entry member
      obtain ⟨json, among, rfl⟩ := List.mem_map.1 member
      obtain ⟨written, _, travels⟩ :=
        inductionHypothesis json among (allHeld json among) isSettled isOwn
      exact ⟨written, travels⟩
    have named : ∀ entry ∈ members.map fun member => (Value.str member.1, member.2.toValue),
        ∃ name, KeyName (.named .str) entry.1 name ∧ Text.IsJoined name := by
      intro entry member
      have isSettled := keys entry member
      obtain ⟨json, among, rfl⟩ := List.mem_map.1 member
      have named : KeyName (.named .str) (.str json.1) json.1 := .text json.1 rfl
      exact ⟨json.1, named, named.isJoined_iff.2 isSettled⟩
    obtain ⟨written, travels⟩ :=
      Travels.exists_map id named (textKeys_different distinct) each
    simp only [id_eq, Prod.mk.eta, List.map_id'] at travels
    refine ⟨.object written, by simp, travels.of_decode_eq ?_⟩
    rw [decode_map_object travels.readable.of_mem_object.1, decode_object]

/-- What a builtin class makes of a value that is there comes back equal, if it is written. -/
theorem rereads_named {json : Json} (held : json.Held) (present : json ≠ .null)
    {cls : Class} (builtin : cls.isBuiltin = true) {value : Value} (settled : value.Settled)
    (decoded : json.toValue.decode codecs (.named cls) = .ok value) {text : List Char}
    (isText : value.write codecs .whole = .ok text) :
    ∃ written, written ≠ .null ∧ Travels codecs (.named cls) value written value := by
  cases cls with
  | object =>
    rw [decode_object] at decoded
    cases decoded
    obtain ⟨written, isThere, travels⟩ := rereads_object held settled isText
    exact ⟨written, isThere present, travels⟩
  | raw =>
    rw [Travels.decode_raw] at decoded
    cases decoded
    exact Travels.exists_raw present settled
  | bool =>
    rw [decode_named present builtin] at decoded
    cases json with
    | bool truth =>
      cases decoded
      exact ⟨_, by simp, Travels.bool truth⟩
    | _ => cases decoded
  | int =>
    rw [decode_named present builtin] at decoded
    cases json with
    | int number =>
      cases decoded
      exact ⟨_, by simp, Travels.int number⟩
    | _ => cases decoded
  | str =>
    rw [decode_named present builtin] at decoded
    cases json with
    | str content =>
      cases decoded
      cases settled with
      | str _ isJoined => exact ⟨_, by simp, Travels.str isJoined⟩
    | _ => cases decoded
  | float =>
    rw [decode_named present builtin] at decoded
    cases json with
    | int whole =>
      obtain ⟨number, nearest, rfl⟩ := exists_of_accept_float rfl decoded
      exact ⟨_, by simp, Travels.float (isFinite_of_ofInt? nearest)⟩
    | float number =>
      cases decoded
      exact ⟨_, by simp, Travels.float (Value.isFinite_of_write_float isText)⟩
    | _ => cases decoded
  | _ => cases builtin

/-- What a builtin shape makes of nothing comes back equal. -/
theorem travels_of_null (builtin : shape.isBuiltin = true) {value : Value}
    (decoded : Value.null.decode codecs shape = .ok value) :
    ∃ written, Travels codecs shape value written value := by
  cases shape with
  | pointer elem =>
    cases decoded
    exact ⟨_, Travels.null_pointer⟩
  | slice elem =>
    cases decoded
    exact ⟨_, Travels.empty_list⟩
  | map key elem =>
    cases decoded
    exact ⟨_, Travels.empty_map⟩
  | named cls =>
    cases cls with
    | bool =>
      cases decoded
      exact ⟨_, Travels.bool false⟩
    | int =>
      cases decoded
      exact ⟨_, Travels.int 0⟩
    | float =>
      cases decoded
      exact ⟨_, Travels.float rfl⟩
    | str =>
      cases decoded
      exact ⟨_, Travels.str rfl⟩
    | object =>
      cases decoded
      exact ⟨.null, .null, rfl, .null, rfl, Value.same_toValue .null⟩
    | raw =>
      rw [← Json.toValue, Travels.decode_raw] at decoded
      cases decoded
      exact ⟨_, Travels.raw Json.NamesApart.null⟩
    | _ => cases builtin

/-- For a value that is there it is enough to look at what lists and maps make of it. -/
theorem rereads_of_layers {json : Json} (held : json.Held) (present : json ≠ .null)
    {value : Value} (settled : value.Settled) {text : List Char}
    (isText : value.write codecs .whole = .ok text)
    (ofSlice : ∀ {elem : Shape}, elem.isBuiltin = true →
      json.toValue.decode codecs (.slice elem) = .ok value →
        ∃ written, written ≠ .null ∧ Travels codecs (.slice elem) value written value)
    (ofMap : ∀ {key elem : Shape}, elem.isBuiltin = true →
      json.toValue.decode codecs (.map key elem) = .ok value →
        ∃ written, written ≠ .null ∧ Travels codecs (.map key elem) value written value)
    {shape : Shape} (builtin : shape.isBuiltin = true)
    (decoded : json.toValue.decode codecs shape = .ok value) :
    ∃ written, written ≠ .null ∧ Travels codecs shape value written value := by
  induction shape with
  | pointer elem inductionHypothesis =>
    have isThere := Json.toValue_ne_null present
    rw [Value.decode_bare codecs isThere, Shape.bare,
      ← Value.decode_bare codecs isThere] at decoded
    obtain ⟨written, isWritten, travels⟩ := inductionHypothesis builtin decoded
    exact ⟨written, isWritten, travels.pointer isWritten⟩
  | named cls => exact rereads_named held present builtin settled decoded isText
  | slice elem => exact ofSlice builtin decoded
  | map key elem => exact ofMap (Bool.and_eq_true_iff.1 builtin).2 decoded

/-- Whatever a builtin shape makes of a JSON value that a text can hold comes back equal, if it is
settled and written. -/
theorem rereads {json : Json} (held : json.Held) {shape : Shape}
    (builtin : shape.isBuiltin = true) {value : Value} (settled : value.Settled)
    (decoded : json.toValue.decode codecs shape = .ok value) {text : List Char}
    (isText : value.write codecs .whole = .ok text) :
    ∃ written, Travels codecs shape value written value := by
  have forget {shape : Shape} {value : Value}
      (reread : ∃ written, written ≠ .null ∧ Travels codecs shape value written value) :
      ∃ written, Travels codecs shape value written value :=
    reread.imp fun _ both => both.2
  induction json using Json.byParts generalizing shape value text with
  | null => exact travels_of_null builtin decoded
  | list items inductionHypothesis =>
    refine forget (rereads_of_layers held (by simp) settled isText ?_
      (fun _ read => by cases read) builtin decoded)
    intro elem builtin decoded
    obtain ⟨values, read, rfl⟩ := decode_list_eq_ok_iff.1 decoded
    cases held with
    | list _ allHeld =>
    cases settled with
    | list _ allSettled =>
    have each : ∀ item ∈ values, ∃ written, Travels codecs elem item written (id item) := by
      intro item member
      obtain ⟨json, among, decodedItem⟩ := exists_left_of_forall₂ read member
      obtain ⟨own, isOwn⟩ := Value.exists_of_write_list isText item member
      exact inductionHypothesis json among (allHeld json among) builtin (allSettled item member)
        decodedItem isOwn
    obtain ⟨jsons, travels⟩ := Travels.exists_list id each
    rw [List.map_id] at travels
    exact ⟨.list jsons, by simp, travels⟩
  | object members inductionHypothesis =>
    refine forget (rereads_of_layers held (by simp) settled isText
      (fun _ read => by cases read) ?_ builtin decoded)
    intro key elem builtin decoded
    cases held with
    | object _ _ allHeld =>
    -- What the values are to be: if one of them is settled and written, it comes back.
    let comesBack (read : Value) : Prop := read.Settled →
      ∀ own, read.write codecs .whole = .ok own →
      ∃ written, Travels codecs elem read written (id read)
    have allComeBack : ∀ member ∈ members, ∀ read,
        member.2.toValue.decode codecs elem = .ok read → comesBack read :=
      fun member among _ decodedItem settled _ isOwn =>
        inductionHypothesis member among (allHeld member among) builtin settled decodedItem isOwn
    obtain ⟨entries, rfl, fits, different⟩ := exists_fitting_entries allComeBack decoded
    cases settled with
    | map _ keys allSettled =>
    have named : ∀ entry ∈ entries, ∃ name, KeyName key entry.1 name ∧ Text.IsJoined name := by
      intro entry member
      obtain ⟨name, isName⟩ := (fits entry member).1
      exact ⟨name, isName, isName.isJoined_iff.2 (keys entry member)⟩
    have each : ∀ entry ∈ entries, ∃ written, Travels codecs elem entry.2 written (id entry.2) := by
      intro entry member
      obtain ⟨beside, _, isOwn⟩ := Value.exists_of_write_map isText entry member
      exact (fits entry member).2 (allSettled entry member) beside.2 isOwn
    obtain ⟨written, travels⟩ := Travels.exists_map id named different each
    simp only [id_eq, Prod.mk.eta, List.map_id'] at travels
    exact ⟨.object written, by simp, travels⟩
  | bool | int | float | str =>
    exact forget (rereads_of_layers held (by simp) settled isText (fun _ read => by cases read)
      (fun _ read => by cases read) builtin decoded)

/-- A source that is loaded holds the value of a JSON value that a text can hold. -/
theorem held_of_load {source : Source} {held : Value} (loaded : source.load = .ok held) :
    ∃ json : Json, json.Held ∧ held = json.toValue := by
  cases source with
  | text content =>
    cases read : Json.parse content with
    | error fault => simp [Source.load, read] at loaded
    | ok json =>
      simp only [Source.load, read] at loaded
      cases loaded
      exact ⟨json, Json.held_of_parse read, rfl⟩
  | bytes content =>
    cases decoded : Text.decodeBytes content with
    | none => simp [Source.load, decoded] at loaded
    | some points =>
      cases read : Json.parsePoints points with
      | error fault => simp [Source.load, decoded, read] at loaded
      | ok json =>
        simp only [Source.load, decoded, read] at loaded
        cases loaded
        exact ⟨json, Json.held_of_parsePoints read, rfl⟩

/-- What is loaded from the text of a JSON value, and from the bytes of its text, is the value with
its strings and names joined. -/
theorem Source.load_compact (json : Json) {source : Source}
    (isSource : source = .text (Text.points json.compact) ∨
      source = .bytes (Text.encodeUtf8 (String.ofList json.compact))) :
    source.load = .ok json.reread.toValue := by
  rcases isSource with rfl | rfl
  · rw [Source.load, Json.parse_compact]
  · have printable : Printable (json.compact.take 2) :=
      fun c member => Json.printable_compact json c (List.mem_of_mem_take member)
    rw [Source.load, Text.decodeBytes_encodeUtf8 printable]
    dsimp only
    rw [Json.parsePoints_compact]

/-- The text of a value that travels as a JSON value is loaded as that JSON value. -/
theorem Travels.load {codecs : Codecs} {shape : Shape} {value image : Value} {json : Json}
    (travels : Travels codecs shape value json image) {text : List Char}
    (encoded : value.encode codecs = .ok text) :
    (Source.text (Text.points text)).load = .ok json.toValue := by
  rw [Value.encode, travels.written] at encoded
  cases encoded
  rw [Source.load_compact json (.inl rfl), Json.reread_eq_iff.2 travels.readable]

/-- Reader and writer agree on every shape of builtin classes. Whatever the shape makes of a loaded
value, its text is loaded again, and the shape makes an equal value of that, if nothing in it
becomes another when surrogate pairs are joined. And it has a text unless there is a number in it,
outside raw JSON text, that is not finite. -/
theorem decode_load_encode {source : Source} {held : Value} (loaded : source.load = .ok held)
    {shape : Shape} (builtin : shape.isBuiltin = true) {value : Value}
    (decoded : held.decode codecs shape = .ok value) :
    (value.Settled → ∀ text, value.encode codecs = .ok text → ∃ again reread,
      (Source.text (Text.points text)).load = .ok again ∧
        again.decode codecs shape = .ok reread ∧ reread.same value = true) ∧
      ∀ fault, value.encode codecs = .error fault →
        ∃ number ∈ value.floats, number.isFinite = false ∧ fault = .unsupportedNumber number := by
  obtain ⟨json, isHeld, rfl⟩ := held_of_load loaded
  constructor
  · intro settled text encoded
    obtain ⟨written, travels⟩ := rereads isHeld builtin settled decoded encoded
    obtain ⟨reread, back, equal⟩ := travels.back
    exact ⟨written.toValue, reread, travels.load encoded, back, equal⟩
  · intro fault failed
    rw [Value.encode] at failed
    rcases (hasShape_of_decode builtin decoded).accounted with
      ⟨text, written⟩ | ⟨number, among, infinite, refused⟩
    · rw [written] at failed
      cases failed
    · rw [refused] at failed
      cases failed
      exact ⟨number, among, infinite, rfl⟩

/-- So it is for a list of texts, one of which is absent. -/
theorem decode_load_encode_list :
    (Source.text "[\"a\",null]").load = .ok (.list [.str "a", .null]) ∧
      (Value.list [.str "a", .null]).decode Codecs.empty (.slice (.pointer (.named .str))) =
        .ok (.list [.str "a", .null]) ∧
      (Value.list [.str "a", .null]).Settled ∧
      ∀ text, (Value.list [.str "a", .null]).encode Codecs.empty = .ok text →
        ∃ again reread, (Source.text (Text.points text)).load = .ok again ∧
          again.decode Codecs.empty (.slice (.pointer (.named .str))) = .ok reread ∧
          reread.same (.list [.str "a", .null]) = true := by
  have loaded : (Source.text "[\"a\",null]").load = .ok (.list [.str "a", .null]) :=
    Source.load_compact (.list [.str "a", .null]) (.inl rfl)
  have decoded : (Value.list [.str "a", .null]).decode Codecs.empty
      (.slice (.pointer (.named .str))) = .ok (.list [.str "a", .null]) := rfl
  have settled : (Value.list [.str "a", .null]).Settled := by
    refine .list _ (List.forall_mem_cons.2 ⟨.str _ rfl, ?_⟩)
    exact List.forall_mem_singleton.2 .null
  exact ⟨loaded, decoded, settled, (decode_load_encode loaded rfl decoded).1 settled⟩

/-- The two halves of a surrogate pair are read from bytes as two code points, and written as the
escape of the character that they are the pair of, which is what is read again. -/
theorem not_decode_load_encode_pair :
    (Source.bytes [0x22, 0xED, 0xA0, 0xBD, 0xED, 0xB8, 0x80, 0x22]).load = .ok (.str Text.halves) ∧
      (Value.str Text.halves).decode Codecs.empty (.named .str) = .ok (.str Text.halves) ∧
      (Value.str Text.halves).encode Codecs.empty = .ok "\"\\ud83d\\ude00\"".toList ∧
      (Source.text "\"\\ud83d\\ude00\"").load = .ok (.str "😀") ∧
      (Value.str "😀").decode Codecs.empty (.named .str) = .ok (.str "😀") ∧
      (Value.str "😀").same (.str Text.halves) = false := by
  have decoded : Text.decodeBytes [0x22, 0xED, 0xA0, 0xBD, 0xED, 0xB8, 0x80, 0x22] =
      some [.char '"', .ofNat 0xD83D, .ofNat 0xDE00, .char '"'] := by decide +kernel
  have isText : Text.points "\"\\ud83d\\ude00\"".toList =
      Text.points (Json.str Text.halves).compact := by decide +kernel
  refine ⟨?_, rfl, rfl, ?_, rfl, ?_⟩
  · rw [Source.load, decoded]
    rfl
  · rw [isText, Source.load_compact _ (.inl rfl), Json.reread, Text.joined_halves]
    rfl
  · rw [Value.same, beq_eq_false_iff_ne]
    decide +kernel

end DeclCodec
