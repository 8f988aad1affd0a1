import DeclCodec.Proofs.Emit.Loaded
import DeclCodec.Proofs.Json.RoundTrip
import DeclCodec.Proofs.Wire.Parts
import DeclCodec.Wire.Session

/-!
# What an instance writes

The policy of a member says whether something of its field is written, under which
name, and which part: the field itself, the value of a wrapper that has one, or its
identifier if that is not empty. The text of an instance is made of the entries of
its members in the order of declaration, one for each member that selects something.

An emitted class puts the text together piece by piece. It counts the entries, and a
comma goes in front of every entry but the first. After any number of members the
pieces spell an opening brace and the entries so far with commas between.
-/

namespace DeclCodec

/-! ## What a member selects -/

/-- The side of a wrapper that a variant writes, with the name that it is written under. -/
def Variant.selected (wireName idName : Points) :
    Variant → Value → Except WireFault (Option (Points × Value))
  | _, .null => .ok none
  | .value, reference => do
    if ← reference.hasValue then
      let value ← reference.held "Value"
      pure (some (wireName, value))
    else pure none
  | .id, reference => do
    let id ← reference.held "Id"
    pure (if id.isEmpty then none else some (idName, id))

/-- The part of a field that a member writes, with the name that it is written under. -/
def Member.selected (member : Member) (value : Value) :
    Except WireFault (Option (Points × Value)) :=
  match member.policy with
  | some (.plain wireName omitEmpty) =>
    .ok (if omitEmpty && value.isEmpty then none else some (wireName, value))
  | some (.reference wireName idName variant _) => variant.selected wireName idName value
  | _ => .ok none

/-- The entry of what is selected: its text behind its name. -/
def Codecs.entry (codecs : Codecs) : Option (Points × Value) → Except WireFault (Option (List Char))
  | none => .ok none
  | some (name, value) => do
    let text ← value.encode codecs
    pure (some (Json.memberText name text))

/-- The entry of a member, if it has one. -/
def Member.entry (codecs : Codecs) (member : Member) (value : Value) :
    Except WireFault (Option (List Char)) :=
  member.selected value >>= codecs.entry

variable {codecs : Codecs}

/-- An attribute is written as the value that it has. -/
theorem Value.write_side {value part : Value} {name : String}
    (isPart : value.attribute? name = some part) :
    value.write codecs (.side name) = part.encode codecs := by
  cases value with
  | record type fields =>
    rw [attribute?] at isPart
    rw [write, fieldWriters_eq,
      Table.lookup_map (fun value => (⟨value, value.write codecs⟩ : Writer)), isPart]
    rfl
  | wrapper type id value =>
    rw [attribute?] at isPart
    rw [write]
    split at isPart
    · next isId =>
      cases isPart
      rw [if_pos isId, encode]
    · next noId =>
      split at isPart
      · next isValue =>
        cases isPart
        rw [if_neg noId, if_pos isValue, encode]
      · cases isPart
  | _ => cases isPart

/-- What has a value has it as an attribute. -/
theorem Value.exists_value_of_hasValue {value : Value} (has : value.hasValue = .ok true) :
    ∃ part, value.attribute? "Value" = some part := by
  cases value with
  | wrapper type id part => exact ⟨part, rfl⟩
  | _ =>
    unfold hasValue at has
    dsimp only at has
    split at has <;> cases has

section Entries

variable {field : String} {value : Value} {fields : List (String × Writer)}

/-- The identifier of a wrapper is written as it is selected. -/
theorem Write.text?_wrapperId (held : fields.lookup field = some ⟨value, value.write codecs⟩)
    (wireName idName : Points) : (⟨field, idName, .wrapperId⟩ : Write).text? fields =
      Variant.id.selected wireName idName value >>= codecs.entry := by
  rw [text?, held]
  by_cases absent : value = .null
  · subst absent
    rfl
  have selects : Part.wrapperId.select value = (value.held "Id").map fun id =>
      if id.isEmpty then none else some (.side "Id") := by
    unfold Part.select Value.held
    cases value with
    | null => exact absurd rfl absent
    | _ =>
      dsimp only
      cases Value.attribute? "Id" _ <;> rfl
  have isSelected : Variant.id.selected wireName idName value = (value.held "Id").map fun id =>
      if id.isEmpty then none else some (idName, id) := by
    cases value <;> first | exact absurd rfl absent | rfl
  dsimp only
  rw [selects, isSelected]
  unfold Value.held
  cases isId : value.attribute? "Id" with
  | none => rfl
  | some id =>
    cases empty : id.isEmpty with
    | true => simp [bind, Except.bind, Except.map, empty, Codecs.entry, pure, Except.pure]
    | false => simp [bind, Except.bind, Except.map, empty, Codecs.entry, Value.write_side isId,
        Json.memberText]

/-- The value of a wrapper is written as it is selected. -/
theorem Write.text?_wrapperValue (held : fields.lookup field = some ⟨value, value.write codecs⟩)
    (wireName idName : Points) : (⟨field, wireName, .wrapperValue⟩ : Write).text? fields =
      Variant.value.selected wireName idName value >>= codecs.entry := by
  rw [text?, held]
  by_cases absent : value = .null
  · subst absent
    rfl
  have selects : Part.wrapperValue.select value = value.hasValue.map fun has =>
      if has then some (.side "Value") else none := by
    unfold Part.select
    cases value with
    | null => exact absurd rfl absent
    | _ =>
      dsimp only
      cases Value.hasValue _ <;> rfl
  have isSelected : Variant.value.selected wireName idName value = (do
      if ← value.hasValue then
        let part ← value.held "Value"
        pure (some (wireName, part))
      else pure none) := by
    cases value <;> first | exact absurd rfl absent | rfl
  dsimp only
  rw [selects, isSelected]
  cases has : value.hasValue with
  | error fault => rfl
  | ok isHeld =>
    cases isHeld with
    | false => rfl
    | true =>
      obtain ⟨part, isPart⟩ := Value.exists_value_of_hasValue has
      simp [bind, Except.bind, Except.map, pure, Except.pure, Value.held, isPart, Codecs.entry,
        Value.write_side isPart, Json.memberText]

/-- What a class writes for a member is the entry of the member. -/
theorem Member.text?_of_write? {member : Member} {write : Write}
    (writes : member.write? = some write)
    (held : fields.lookup field = some ⟨value, value.write codecs⟩) :
    (⟨field, write.key, write.part⟩ : Write).text? fields = member.entry codecs value := by
  obtain ⟨name, type, policy⟩ := member
  rcases policy with _ | _ | ⟨wireName, omitEmpty⟩ | ⟨wireName, idName, variant, omitEmpty⟩
  · cases writes
  · cases writes
  · cases writes
    rw [Write.text?, held]
    cases omitEmpty with
    | false => rfl
    | true =>
      cases empty : value.isEmpty <;>
        simp [entry, selected, Part.select, empty, Codecs.entry, Value.encode, bind, Except.bind,
          pure, Except.pure, Json.memberText]
  · cases variant with
    | id =>
      cases writes
      exact Write.text?_wrapperId held wireName idName
    | value =>
      cases writes
      exact Write.text?_wrapperValue held wireName idName

end Entries

/-- A member off the wire has no entry. -/
theorem Member.entry_of_write?_eq_none {member : Member} (silent : member.write? = none)
    (value : Value) : member.entry codecs value = .ok none := by
  obtain ⟨name, type, policy⟩ := member
  rcases policy with _ | _ | _ | ⟨_, _, variant, _⟩
  · rfl
  · rfl
  · cases silent
  · cases variant <;> cases silent

/-! ## Building up the text -/

/-- What a class builds up: pieces of the text, and the number of entries in them. -/
structure Buffer where
  pieces : List (List Char)
  count : Nat

namespace Buffer

/-- Nothing but the opening brace. -/
def start : Buffer := ⟨[['\x7b']], 0⟩

/-- One more entry. A comma goes in front of it, unless it is the first. -/
def append (buffer : Buffer) (entry : List Char) : Buffer :=
  ⟨buffer.pieces ++ (if buffer.count = 0 then [entry] else [[','], entry]), buffer.count + 1⟩

/-- The text that is built up, with the closing brace. -/
def text (buffer : Buffer) : List Char := (buffer.pieces ++ [['\x7d']]).flatten

/-- The pieces spell the opening brace and these entries with commas between. -/
structure Spells (buffer : Buffer) (entries : List (List Char)) : Prop where
  pieces : buffer.pieces.flatten = '\x7b' :: [','].intercalate entries
  count : buffer.count = entries.length

/-- At first there are no entries. -/
theorem spells_start : start.Spells [] := ⟨rfl, rfl⟩

/-- One more entry stands behind a comma. -/
theorem intercalate_concat (first entry : List Char) (others : List (List Char)) :
    [','].intercalate (first :: others ++ [entry]) =
      [','].intercalate (first :: others) ++ ',' :: entry := by
  induction others generalizing first with
  | nil => simp
  | cons next others inductionHypothesis =>
    have later := inductionHypothesis next
    simp only [List.cons_append, List.intercalate_cons_cons] at later ⊢
    rw [later]
    simp

/-- One more entry is spelled behind the others. -/
theorem Spells.append {buffer : Buffer} {entries : List (List Char)}
    (spells : buffer.Spells entries)
    (entry : List Char) : (buffer.append entry).Spells (entries ++ [entry]) := by
  refine ⟨?_, by simp [Buffer.append, spells.count]⟩
  cases entries with
  | nil => simp [Buffer.append, spells.count, spells.pieces]
  | cons first others =>
    have several : buffer.count ≠ 0 := by simp [spells.count]
    rw [intercalate_concat]
    simp [Buffer.append, several, spells.pieces]

/-- Entries that are added one after another are spelled behind the others. -/
theorem Spells.foldl {buffer : Buffer} {before : List (List Char)} (spells : buffer.Spells before)
    (entries : List (List Char)) :
    (entries.foldl Buffer.append buffer).Spells (before ++ entries) := by
  induction entries generalizing buffer before with
  | nil => simpa using spells
  | cons entry rest inductionHypothesis =>
    simpa using inductionHypothesis (spells.append entry)

/-- What is spelled is closed to the text of an object. -/
theorem Spells.text {buffer : Buffer} {entries : List (List Char)}
    (spells : buffer.Spells entries) :
    buffer.text = Json.braced entries := by
  rw [Buffer.text, List.flatten_append, spells.pieces]
  rfl

end Buffer

/-- An entry of a codec, if it is written, is added to what is built up. -/
def Write.run (fields : List (String × Writer)) (buffer : Buffer) (entry : Write) :
    Except WireFault Buffer := do
  match ← entry.text? fields with
  | none => pure buffer
  | some text => pure (buffer.append text)

/-- The text that a class builds up. One that writes nothing has its text at once. -/
def Codec.run (codec : Codec) (fields : List (String × Writer)) : Written :=
  match codec.writes with
  | [] => .ok ['\x7b', '\x7d']
  | writes => do
    let buffer ← writes.foldlM (Write.run fields) Buffer.start
    pure buffer.text

/-- What is written one after another is added one after another. -/
theorem foldlM_run (fields : List (String × Writer)) (writes : List Write) (buffer : Buffer) :
    writes.foldlM (Write.run fields) buffer =
      (writes.filterMapM (Write.text? · fields)).map fun texts =>
          texts.foldl Buffer.append buffer := by
  induction writes generalizing buffer with
  | nil => rfl
  | cons entry rest inductionHypothesis =>
    rw [List.foldlM_cons, List.filterMapM_cons, Write.run]
    cases entry.text? fields with
    | error fault => rfl
    | ok written =>
      cases written with
      | none => exact inductionHypothesis buffer
      | some text =>
        change rest.foldlM (Write.run fields) (buffer.append text) = _
        rw [inductionHypothesis]
        dsimp only [bind, Except.bind]
        cases rest.filterMapM (Write.text? · fields) <;> rfl

/-- The text that a class builds up is that of its entries with commas between. -/
theorem Codec.run_eq (codec : Codec) (fields : List (String × Writer)) :
    codec.run fields = (codec.writes.filterMapM (Write.text? · fields)).map Json.braced := by
  unfold run
  cases codec.writes with
  | nil => rfl
  | cons entry rest =>
    dsimp only
    rw [foldlM_run]
    cases (entry :: rest).filterMapM (Write.text? · fields) with
    | error fault => rfl
    | ok texts => exact congrArg Except.ok (Buffer.spells_start.foldl texts).text

/-! ## Records -/

section Records

variable {type : String} {rows : List (Member × Value)} {fields : List (String × Value)}

/-- What a class writes are the entries of its members. -/
theorem filterMapM_text? (held : ∀ row ∈ rows, row.1.isWired = true →
      fields.lookup (scopedName type row.1.name) = some row.2) :
    ((((rows.map (·.1)).filterMap Member.write?).map fun entry =>
        (⟨scopedName type entry.field, entry.key, entry.part⟩ : Write)).filterMapM
          (Write.text? · (Value.fieldWriters codecs fields))) =
      rows.filterMapM fun (row : Member × Value) => row.1.entry codecs row.2 := by
  induction rows with
  | nil => rfl
  | cons row rest inductionHypothesis =>
    have later := inductionHypothesis fun other member => held other (List.mem_cons_of_mem _ member)
    rw [List.map_cons, List.filterMapM_cons]
    cases writes : row.1.write? with
    | none =>
      rw [List.filterMap_cons_none writes, later, Member.entry_of_write?_eq_none writes]
      rfl
    | some write =>
      have wired : row.1.isWired = true := by
        rw [← row.1.isSome_write?, writes]
        rfl
      have isHeld : (Value.fieldWriters codecs fields).lookup (scopedName type write.field) =
          some ⟨row.2, row.2.write codecs⟩ := by
        rw [Value.fieldWriters_eq,
          Table.lookup_map (fun value => (⟨value, value.write codecs⟩ : Writer)),
          Member.field_of_write? writes, held row List.mem_cons_self wired]
        rfl
      rw [List.filterMap_cons_some writes, List.map_cons, List.filterMapM_cons,
        Member.text?_of_write? writes isHeld, later]

/-- A record is written as the entries of its members with commas between. -/
theorem encode_record {codec : Codec} (found : codecs.find? type = some codec)
    (isWrites : codec.writes = ((rows.map (·.1)).filterMap Member.write?).map fun entry =>
      ⟨scopedName type entry.field, entry.key, entry.part⟩)
    (held : ∀ row ∈ rows, row.1.isWired = true →
      fields.lookup (scopedName type row.1.name) = some row.2) :
    (Value.record type fields).encode codecs =
      (rows.filterMapM fun (row : Member × Value) => row.1.entry codecs row.2).map Json.braced := by
  rw [Value.encode, Value.write, Codecs.writeRecord, found, ← filterMapM_text? held, ← isWrites]
  dsimp only
  cases codec.writes.filterMapM (Write.text? · (Value.fieldWriters codecs fields)) <;> rfl

/-- The entries of what is selected are there if all of it is written. -/
theorem filterMapM_entry {selection : List (Points × Value)}
    (selects : (rows.filterMapM fun (row : Member × Value) => row.1.selected row.2) = .ok selection)
    {text : Value → List Char}
    (encodes : ∀ part ∈ selection, part.2.encode codecs = .ok (text part.2)) :
    (rows.filterMapM fun (row : Member × Value) => row.1.entry codecs row.2) =
      .ok (selection.map fun part => Json.memberText part.1 (text part.2)) := by
  induction rows generalizing selection with
  | nil =>
    cases selects
    rfl
  | cons row rest inductionHypothesis =>
    rw [List.filterMapM_cons, bind_eq_ok] at selects
    obtain ⟨chosen, isChosen, others⟩ := selects
    rw [List.filterMapM_cons, Member.entry, isChosen]
    cases chosen with
    | none => exact inductionHypothesis others encodes
    | some part =>
      dsimp only at others
      rw [bind_eq_ok] at others
      obtain ⟨later, isLater, same⟩ := others
      cases same
      have first := encodes part List.mem_cons_self
      have onward := inductionHypothesis isLater fun other member =>
        encodes other (List.mem_cons_of_mem _ member)
      simp [bind, Except.bind, Codecs.entry, first, onward, pure, Except.pure]

end Records

namespace Package

/-- An instance of a struct holds in each field on the wire what belongs to its member. -/
theorem lookup_instance {rows : List (Member × Value)} {types : List (String × Decl)}
    {referenced : List (String × Descriptor)}
    (ok : MembersOk types referenced (rows.map (·.1))) (type : String) :
    ∀ row ∈ rows, row.1.isWired = true →
      (rows.map fun row => (scopedName type row.1.name, row.2)).lookup
        (scopedName type row.1.name) = some row.2 := by
  intro row among wired
  have distinct : (rows.map fun row => row.1.name).Nodup := by
    simpa [List.map_map, Function.comp_def] using ok.distinct
  have exported := ok.exported row.1 (List.mem_map_of_mem among) (Member.isSome_policy wired)
  rw [scopedName_of_isExportedName exported]
  exact lookup_exported distinct type (fun row => row.2) among exported

/-- An instance of a struct is written as the entries of its members with commas between. -/
theorem Loads.encode_instance {package : Package} (loaded : package.Loads codecs)
    (collected : Collected package) {struct : String} {rows : List (Member × Value)}
    (declared : package.structs.lookup struct = some (rows.map (·.1))) :
    (Value.record struct
      (rows.map fun row => (scopedName struct row.1.name, row.2))).encode codecs =
      (rows.filterMapM fun (row : Member × Value) => row.1.entry codecs row.2).map Json.braced := by
  obtain ⟨codec, found, isCodec⟩ := loaded.exists_codec declared
  have ok := collected.members _ (Table.mem_of_lookup declared)
  exact encode_record found isCodec.writes (lookup_instance ok struct)

/-- What an emitted class writes. Let the class of a struct with these members be defined, and let
an instance hold these values in the fields on the wire. The class builds its text up piece by
piece. If all that the members select is written, the text has in braces the selected entries in
order with commas between; if moreover every entry holds a JSON value, the text holds an object of
the selected names with their surrogate pairs joined, and with those entries as its members if no
two names are one then. Otherwise the fault is that of the first member whose entry is not
written. -/
theorem marshal_selected {package : Package} {type : String} {rows : List (Member × Value)}
    {cls : StructClass} (emitted : package.structClass type (rows.map (·.1)) = .ok cls)
    {fromMaps : Bool} (found : codecs.find? type = some (cls.codec fromMaps))
    {fields : List (String × Value)}
    (held : ∀ row ∈ rows, row.1.isWired = true →
      fields.lookup (scopedName type row.1.name) = some row.2) :
    codecs.marshal (.record type fields) =
        ((cls.codec fromMaps).run (Value.fieldWriters codecs fields)).map String.ofList ∧
      (∀ (selection : List (Points × Value)) (text : Value → List Char),
        (rows.filterMapM fun (row : Member × Value) => row.1.selected row.2) = .ok selection →
        (∀ part ∈ selection, part.2.encode codecs = .ok (text part.2)) →
        codecs.marshal (.record type fields) = .ok (String.ofList
          (Json.braced (selection.map fun part => Json.memberText part.1 (text part.2)))) ∧
        ∀ json : Value → Json,
          (∀ part ∈ selection, Json.parse (Text.points (text part.2)) = .ok (json part.2)) →
          ∃ object, Json.parse (Text.points (Json.braced (selection.map fun part =>
              Json.memberText part.1 (text part.2)))) = .ok (.object object) ∧
            (∀ name, name ∈ object.map (·.1) ↔
              name ∈ selection.map fun part => Text.joined part.1) ∧
            ((selection.map fun part => Text.joined part.1).Nodup →
              object = selection.map fun part => (Text.joined part.1, json part.2))) ∧
      ((∃ row ∈ rows, ∀ entry, row.1.entry codecs row.2 ≠ .ok entry) →
        ∃ before row after fault, rows = before ++ row :: after ∧
          (∀ earlier ∈ before, ∃ entry, earlier.1.entry codecs earlier.2 = .ok entry) ∧
          row.1.entry codecs row.2 = .error fault ∧
          codecs.marshal (.record type fields) = .error fault) := by
  have isCodec := isCodec_of_structClass emitted fromMaps
  have written := encode_record found isCodec.writes held
  refine ⟨?_, ?_, ?_⟩
  · rw [Codecs.marshal, Codec.run_eq, isCodec.writes, filterMapM_text? held, ← written]
    rfl
  · intro selection text selects encodes
    refine ⟨?_, ?_⟩
    · rw [Codecs.marshal, written, filterMapM_entry selects encodes]
      rfl
    · intro json hold
      have parsed := Json.parse_assembled (fun part : Points × Value => part.1)
        (fun part => text part.2) (fun part => json part.2) hold
      refine ⟨_, parsed, ?_, ?_⟩
      · intro name
        rw [Table.mem_keys_ofEntries, List.map_map]
        rfl
      · intro distinct
        exact Table.ofEntries_of_nodup (by simpa [Function.comp_def] using distinct)
  · intro oneFails
    obtain ⟨before, row, after, fault, split, fine, blame, failed⟩ :=
      exists_first_of_filterMapM oneFails
    refine ⟨before, row, after, fault, split, fine, blame, ?_⟩
    rw [Codecs.marshal, written, failed]
    rfl

/-- A struct with a member for each policy. -/
def parcelMembers : List Member :=
  [⟨"Weight", .named "" "int", some (.plain "weight" false)⟩,
    ⟨"Note", .named "" "string", some (.plain "note" true)⟩,
    ⟨"Cache", .named "" "string", some (.omitted "Cache")⟩,
    ⟨"Owner", .named "" "string", some (.reference "owner" "owner_id" .value false)⟩,
    ⟨"Depot", .named "" "string", some (.reference "depot" "depot_id" .id false)⟩]

/-- A package with the struct. -/
def parcelPackage : Package where
  name := "p"
  settings := {}
  units := []
  types := []
  aliases := []
  structs := [("Parcel", parcelMembers)]
  referenced := []
  imported := []

/-- The class of the struct. -/
def parcelClass : StructClass where
  name := "Parcel"
  fields := [⟨"Weight", .int, .zero⟩, ⟨"Note", .str, .emptyText⟩, ⟨"Cache", .str, .emptyText⟩,
    ⟨"Owner", .optional (.declared "stringRef"), .null⟩,
    ⟨"Depot", .optional (.declared "stringRef"), .null⟩]
  writes := [⟨"Weight", "weight", .always⟩, ⟨"Note", "note", .unlessEmpty⟩,
    ⟨"Owner", "owner", .wrapperValue⟩, ⟨"Depot", "depot_id", .wrapperId⟩]
  reads := [⟨"Weight", "weight", .named .int, none⟩, ⟨"Note", "note", .named .str, none⟩,
    ⟨"Owner", "owner", .named .str, some ⟨"stringRef", "owner_id", .named .str⟩⟩,
    ⟨"Depot", "depot", .named .str, some ⟨"stringRef", "depot_id", .named .str⟩⟩]

/-- What its instances know. -/
def parcelCodecs : Codecs := ⟨[parcelClass.codec true], [("stringRef", .emptyText)], .builtins⟩

/-- A parcel of some weight, with an empty note, something in a field off the wire, a known owner
and a depot known by its identifier. -/
def parcel (weight : Value) : List (Member × Value) :=
  parcelMembers.zip [weight, .str "", .formless, .wrapper "stringRef" (.str "") (.str "ann"),
    .wrapper "stringRef" (.str "d1") .null]

/-- The instance with these fields. -/
def parcelFields (weight : Value) : List (String × Value) :=
  (parcel weight).map fun row => (scopedName "Parcel" row.1.name, row.2)

/-- What a parcel of no weight selects. -/
def parcelSelection : List (Points × Value) :=
  [("weight", .int 0), ("owner", .str "ann"), ("depot_id", .str "d1")]

/-- The text of a parcel has the entries that its policies select, and is read as the object of
them; a weight without a form on the wire is the fault of the whole. -/
theorem marshal_selected_parcel :
    parcelPackage.structClass "Parcel" parcelMembers = .ok parcelClass ∧
      parcelCodecs.find? "Parcel" = some (parcelClass.codec true) ∧
      ((parcel (.int 0)).filterMapM fun (row : Member × Value) => row.1.selected row.2) =
        .ok parcelSelection ∧
      parcelCodecs.marshal (.record "Parcel" (parcelFields (.int 0))) =
        .ok "\x7b\"weight\":0,\"owner\":\"ann\",\"depot_id\":\"d1\"\x7d" ∧
      Json.parse "\x7b\"weight\":0,\"owner\":\"ann\",\"depot_id\":\"d1\"\x7d" =
        .ok (.object [("weight", .int 0), ("owner", .str "ann"), ("depot_id", .str "d1")]) ∧
      parcelCodecs.marshal (.record "Parcel" (parcelFields .formless)) =
        .error (.unsupportedType "Opaque") := by
  have emitted : parcelPackage.structClass "Parcel" parcelMembers = .ok parcelClass :=
    eq_ok_of_toOption (by decide +kernel)
  have found : parcelCodecs.find? "Parcel" = some (parcelClass.codec true) := rfl
  have names (weight : Value) : (parcel weight).map (fun row => row.1.name) =
      ["Weight", "Note", "Cache", "Owner", "Depot"] := rfl
  have held (weight : Value) : ∀ row ∈ parcel weight, row.1.isWired = true →
      (parcelFields weight).lookup (scopedName "Parcel" row.1.name) = some row.2 := by
    intro row among _
    have isName : row.1.name ∈ ["Weight", "Note", "Cache", "Owner", "Depot"] :=
      names weight ▸ List.mem_map_of_mem among
    have exported : Descriptor.isExportedName row.1.name = true :=
      (by decide : ∀ name ∈ ["Weight", "Note", "Cache", "Owner", "Depot"],
        Descriptor.isExportedName name = true) _ isName
    have distinct : ((parcel weight).map fun row => row.1.name).Nodup := by
      rw [names]
      decide
    rw [scopedName_of_isExportedName exported, parcelFields]
    exact lookup_exported distinct "Parcel" (fun row => row.2) among exported
  have sides (weight : Value) : (parcel weight).map (·.1) = parcelMembers := rfl
  obtain ⟨_, fine, _⟩ := marshal_selected ((sides (.int 0)).symm ▸ emitted) found (held (.int 0))
  have encodes : ∀ part ∈ parcelSelection,
      part.2.encode parcelCodecs = .ok ((part.2.encode parcelCodecs).toOption.getD []) :=
    List.forall_mem_cons.2 ⟨rfl, List.forall_mem_cons.2 ⟨rfl, List.forall_mem_singleton.2 rfl⟩⟩
  obtain ⟨text, read⟩ := fine parcelSelection
    (fun value => (value.encode parcelCodecs).toOption.getD []) rfl encodes
  have spelled : Json.braced (parcelSelection.map fun part =>
      Json.memberText part.1 ((part.2.encode parcelCodecs).toOption.getD [])) =
      "\x7b\"weight\":0,\"owner\":\"ann\",\"depot_id\":\"d1\"\x7d".toList := by decide +kernel
  obtain ⟨object, parsed, _, distinct⟩ := read
    (fun value => match value with
      | .int number => .int number
      | .str text => .str text
      | _ => .null)
    (List.forall_mem_cons.2 ⟨rfl, List.forall_mem_cons.2 ⟨rfl, List.forall_mem_singleton.2 rfl⟩⟩)
  rw [distinct (by decide), spelled] at parsed
  obtain ⟨_, _, fails⟩ := marshal_selected ((sides .formless).symm ▸ emitted) found (held .formless)
  obtain ⟨before, row, after, fault, split, earlier, blame, failed⟩ := fails
    ⟨_, List.mem_cons_self, fun entry isEntry => by cases isEntry⟩
  rw [spelled, String.ofList_toList] at text
  refine ⟨emitted, found, rfl, text, parsed, ?_⟩
  cases before with
  | nil =>
    cases split
    cases blame
    exact failed
  | cons first others =>
    obtain ⟨isFirst, _⟩ := List.cons.inj split
    obtain ⟨entry, isEntry⟩ := earlier first List.mem_cons_self
    rw [← isFirst] at isEntry
    cases isEntry

/-- A struct with a member that is named by the two halves of a surrogate pair. -/
def halvesMembers : List Member :=
  [⟨"A", .named "" "int", some (.plain Text.halves false)⟩]

/-- The class of the struct. -/
def halvesClass : StructClass where
  name := "Halves"
  fields := [⟨"A", .int, .zero⟩]
  writes := [⟨"A", Text.halves, .always⟩]
  reads := [⟨"A", Text.halves, .named .int, none⟩]

/-- The text of an instance is read as an object with the name of the character that is the pair,
which is not the name of the member. -/
theorem not_marshal_selected_halves :
    parcelPackage.structClass "Halves" halvesMembers = .ok halvesClass ∧
      ((halvesMembers.zip [.int 5]).filterMapM fun (row : Member × Value) =>
        row.1.selected row.2) = .ok [(Text.halves, .int 5)] ∧
      Codecs.marshal ⟨[halvesClass.codec true], [], .builtins⟩ (.record "Halves" [("A", .int 5)]) =
        .ok "\x7b\"\\ud83d\\ude00\":5\x7d" ∧
      Json.parse "\x7b\"\\ud83d\\ude00\":5\x7d" = .ok (.object [("😀", .int 5)]) ∧
      Text.points "😀".toList ≠ Text.halves := by
  have isText : Text.points "\x7b\"\\ud83d\\ude00\":5\x7d".toList =
      Text.points (Json.object [(Text.halves, .int 5)]).compact := by decide +kernel
  refine ⟨eq_ok_of_toOption (by decide +kernel), rfl, eq_ok_of_toOption (by decide +kernel), ?_,
    by decide +kernel⟩
  rw [isText, Json.parse_compact, Json.reread, Json.rereadMembers, Text.joined_halves]
  rfl

end Package

end DeclCodec
