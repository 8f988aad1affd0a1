import DeclCodec.Proofs.Emit.Classes
import DeclCodec.Proofs.Emit.Entries
import DeclCodec.Proofs.Session.Crossing

/-!
# Members that cross the wire

What becomes of a field is decided by the policy of its member and by what the field
holds. A field that is not written leaves the field of the new instance at its
default. A plain field is sent under its name, even if it holds nothing, which is
then received as nothing. Of a wrapper the side is sent that the policy says, and
the other side is new.

So a member crosses the wire, whatever its policy is, if what its field holds
travels by the shape of its type.
-/

namespace DeclCodec

/-! ## What is received -/

section Received

variable {codecs : Codecs} {entries : List (Value × Reader)} {name : Points}

/-- Only what is there can be received. -/
theorem received?_of_lookup_none (nothing : entries.lookup (.str name) = none) :
    received? entries name = none := by
  rw [received?, nothing]

/-- A null is received as nothing. -/
theorem received?_of_lookup_null {read : Shape → Except WireFault Value}
    (found : entries.lookup (.str name) = some ⟨.null, read⟩) : received? entries name = none := by
  rw [received?, found]

/-- What is there and is no null is received. -/
theorem received?_of_lookup {reader : Reader} (found : entries.lookup (.str name) = some reader)
    (present : reader.value ≠ .null) : received? entries name = some reader := by
  rw [received?, found]
  dsimp only
  split
  · next absent => exact absurd absent present
  · rfl

/-- An entry is received under its own name, if that has no surrogate pairs to be joined. -/
theorem receiver_self (isJoined : Text.IsJoined name) (json : Json) :
    receiver codecs (some (name, json)) name =
      some ⟨json.toValue, json.toValue.decode codecs⟩ := by
  rw [Text.IsJoined] at isJoined
  simp [receiver, rereadEntry, isJoined]

/-- An entry is not received under another name than its own with the pairs joined. -/
theorem receiver_other {other : Points} (different : Text.joined name ≠ other) (json : Json) :
    receiver codecs (some (name, json)) other = none := by
  simp [receiver, rereadEntry, different]

variable {read : Read} {reader : Reader} {value : Value}

/-- Nothing is assigned to a field for which nothing is received. -/
theorem Read.incoming_nothing (noValue : received? entries read.wireName = none)
    (noId : ∀ reference ∈ read.reference, received? entries reference.idName = none) :
    read.incoming codecs entries = .ok none := by
  rw [incoming, noValue]
  cases isReference : read.reference with
  | none => rfl
  | some reference =>
    dsimp only
    rw [noId reference isReference]

/-- A plain field gets what its shape makes of what is received. -/
theorem Read.incoming_plain (plain : read.reference = none)
    (isReceived : received? entries read.wireName = some reader)
    (known : codecs.checkShape read.shape = .ok ()) (isRead : reader.read read.shape = .ok value) :
    read.incoming codecs entries = .ok (some value) := by
  rw [incoming, plain, isReceived]
  dsimp only
  rw [known, isRead]
  rfl

variable {reference : ReferenceRead} {id : Value}

/-- A reference gets a wrapper with what its shape makes of what is received. -/
theorem Read.incoming_value (isReference : read.reference = some reference)
    (isReceived : received? entries read.wireName = some reader)
    (known : codecs.checkShape read.shape = .ok ()) (isRead : reader.read read.shape = .ok value)
    (isDefault : codecs.idDefault reference.wrapper = .ok id) :
    read.incoming codecs entries = .ok (some (.wrapper reference.wrapper id value)) := by
  rw [incoming, isReference, isReceived]
  dsimp only
  rw [known, isRead, isDefault]
  rfl

/-- A reference gets a wrapper with the identifier that is received, if no value is. -/
theorem Read.incoming_id (isReference : read.reference = some reference)
    (noValue : received? entries read.wireName = none)
    (isReceived : received? entries reference.idName = some reader)
    (known : codecs.checkShape reference.idShape = .ok ())
    (isRead : reader.read reference.idShape = .ok id) :
    read.incoming codecs entries = .ok (some (.wrapper reference.wrapper id .null)) := by
  rw [incoming, isReference, noValue]
  dsimp only
  rw [isReceived]
  dsimp only
  rw [known, isRead]
  rfl

end Received

namespace Package

variable {package : Package} {codecs : Codecs} {struct : String} {member : Member} {value : Value}

/-- In the class of a struct a value passes by the shape of a type: the class knows the shape as it
is, everything in it is there, and the value travels as something. -/
structure Passes (package : Package) (codecs : Codecs) (struct : String) (type : Descriptor)
    (value : Value) (shape : Shape) (json : Json) (image : Value) : Prop where
  isShape : package.shape type = .ok shape
  own : shape.scoped struct = shape
  known : codecs.checkShape shape = .ok ()
  present : json ≠ .null
  travels : Travels codecs shape value json image

/-! ## The policies one by one -/

/-- The names under which a member reads are among those under which something is received for
it. -/
theorem names_of_read? {read : Read} (reads : package.read? member = .ok (some read)) :
    read.wireName ∈ member.receivedNames ∧
      ∀ reference ∈ read.reference, reference.idName ∈ member.receivedNames := by
  cases read?_eq_ok_iff.1 reads with
  | plain policy | reference policy => simp [Member.receivedNames, policy]

/-- Where nothing is received under the names of a member, nothing is assigned to its field. -/
theorem incoming_of_silence {entries : List (Value × Reader)}
    (silence : ∀ name ∈ member.receivedNames, entries.lookup (.str name) = none) :
    ∀ read, package.read? member = .ok (some read) →
      (read.scoped struct).incoming codecs entries = .ok none := by
  intro read reads
  obtain ⟨isName, areNames⟩ := names_of_read? reads
  refine Read.incoming_nothing (received?_of_lookup_none (silence _ isName)) ?_
  intro reference isReference
  obtain ⟨own, isOwn, rfl⟩ := Option.map_eq_some_iff.1 isReference
  exact received?_of_lookup_none (silence _ (areNames own isOwn))

/-- A field of which nothing is written stays at its default. -/
theorem crosses_nothing
    (silence : ∀ write, member.write? = some write → write.part.select value = .ok none)
    (same : (codecs.defaultValue (package.fieldDefault member)).same
      (package.normField codecs member value (norm package codecs value)) = true) :
    Crosses package codecs struct member value none where
  keyed := by simp
  readable := by simp
  silent _ := rfl
  written write writes fields found := by
    rw [Write.text?, Member.field_of_write? writes, found]
    dsimp only
    rw [silence write writes]
    rfl
  arrives entries received := ⟨none, incoming_of_silence received, fun _ => rfl, same⟩

/-- A plain field that holds nothing is sent as a null and stays at its default. -/
theorem crosses_null {wireName : Points} (policy : member.policy = some (.plain wireName false))
    (absent : codecs.defaultValue (package.fieldDefault member) = .null) :
    Crosses package codecs struct member .null (some (wireName, .null)) where
  keyed := by simp [Member.write?, policy]
  readable := by simp [Json.Readable.null]
  silent silence := by simp [Member.write?, policy] at silence
  written write writes fields found := by
    rw [Member.write?, policy] at writes
    cases writes
    rw [Write.text?, found]
    rfl
  arrives entries received := by
    have isNull : received? entries wireName = none := by
      have isHere := received wireName (by simp [Member.receivedNames, policy])
      by_cases isJoined : Text.IsJoined wireName
      · exact received?_of_lookup_null (isHere.trans (receiver_self isJoined _))
      · exact received?_of_lookup_none (isHere.trans (receiver_other isJoined _))
    refine ⟨none, ?_, fun _ => rfl, ?_⟩
    · intro read reads
      cases read?_eq_ok_iff.1 reads with
      | plain isPolicy =>
        rw [policy] at isPolicy
        cases isPolicy
        exact Read.incoming_nothing isNull (by simp [Read.scoped])
      | reference isPolicy =>
        rw [policy] at isPolicy
        cases isPolicy
    · rw [Option.getD_none, absent]
      simp [normField, policy, norm, Value.same]

variable {shape : Shape} {json : Json}

/-- What passes is received by the shape as the class knows it. -/
theorem Passes.received {type : Descriptor} {image : Value}
    (passes : Passes package codecs struct type value shape json image) :
    json.toValue ≠ .null ∧ codecs.checkShape (shape.scoped struct) = .ok () ∧
      ∃ back, json.toValue.decode codecs (shape.scoped struct) = .ok back ∧
        back.same image = true := by
  rw [passes.own]
  exact ⟨Json.toValue_ne_null passes.present, passes.known, passes.travels.back⟩

/-- The part of a field that is selected is written under the key of the entry. -/
theorem Write.text?_of_select {write : Write} {fields : List (String × Writer)} {aspect : Aspect}
    (found : fields.lookup write.field = some ⟨value, value.write codecs⟩)
    (selects : write.part.select value = .ok (some aspect))
    (written : value.write codecs aspect = .ok json.compact) :
    write.text? fields = .ok (some (entryText (write.key, json))) := by
  rw [Write.text?, found]
  dsimp only
  rw [selects]
  simp only [bind, Except.bind, written]
  rfl

/-- A member does not lose what it writes: the key of its entry has no surrogate pairs to be joined,
or nothing is received for it under the key with the pairs joined, and its default is as good as the
normal form of what its field holds. -/
def Keeps (package : Package) (codecs : Codecs) (member : Member) (value : Value) : Prop :=
  ∀ write, member.write? = some write → Text.IsJoined write.key ∨
    (Text.joined write.key ∉ member.receivedNames ∧
      (codecs.defaultValue (package.fieldDefault member)).same
        (package.normField codecs member value (norm package codecs value)) = true)

/-- A field of which a part is written crosses the wire, if what arrives under the key of the entry
equals the normal form of the field. -/
theorem crosses_entry {write : Write} {aspect : Aspect} {arrived : Value}
    (keeps : Keeps package codecs member value) (writes : member.write? = some write)
    (selects : write.part.select value = .ok (some aspect))
    (written : value.write codecs aspect = .ok json.compact) (readable : json.Readable)
    (incoming : Text.IsJoined write.key → ∀ entries : List (Value × Reader),
      (∀ name ∈ member.receivedNames,
        entries.lookup (.str name) = receiver codecs (some (write.key, json)) name) →
      ∀ read, Reads package member (some read) →
        (read.scoped struct).incoming codecs entries = .ok (some arrived))
    (same : arrived.same (package.normField codecs member value (norm package codecs value)) =
      true) :
    Crosses package codecs struct member value (some (write.key, json)) where
  keyed := by simp [writes]
  readable := by simpa using readable
  silent silence := by
    rw [writes] at silence
    cases silence
  written other isOther fields found := by
    rw [writes] at isOther
    cases isOther
    rw [← Member.field_of_write? writes] at found
    exact Write.text?_of_select found selects written
  arrives entries received := by
    rcases keeps write writes with isJoined | ⟨elsewhere, sameDefault⟩
    case inr =>
      have silence : ∀ name ∈ member.receivedNames, entries.lookup (.str name) = none := by
        intro name isName
        exact (received name isName).trans
          (receiver_other (fun isOwn => elsewhere (isOwn ▸ isName)) json)
      exact ⟨none, incoming_of_silence silence, fun _ => rfl, sameDefault⟩
    refine ⟨some arrived, ?_, ?_, same⟩
    · intro read reads
      exact incoming isJoined entries received read (read?_eq_ok_iff.1 reads)
    · intro noRead
      cases read?_eq_ok_iff.1 noRead with
      | nothing offWire =>
        rw [← member.isSome_write?, writes] at offWire
        cases offWire

/-- A plain field that is written is sent under its name. -/
theorem crosses_plain {wireName : Points} {omitEmpty : Bool}
    (policy : member.policy = some (.plain wireName omitEmpty))
    (filled : (omitEmpty && value.isEmpty) = false) (keeps : Keeps package codecs member value)
    (passes : Passes package codecs struct member.type value shape json
      (norm package codecs value .whole)) :
    Crosses package codecs struct member value (some (wireName, json)) := by
  obtain ⟨isThere, known, back, isBack, same⟩ := passes.received
  have writes : member.write? =
      some ⟨member.name, wireName, if omitEmpty then .unlessEmpty else .always⟩ := by
    rw [Member.write?, policy]
  have selects : (if omitEmpty then Part.unlessEmpty else Part.always).select value =
      .ok (some .whole) := by
    cases omitEmpty with
    | false => rfl
    | true =>
      rw [Bool.true_and] at filled
      simp [Part.select, filled]
  have isNorm : package.normField codecs member value (norm package codecs value) =
      norm package codecs value .whole := by
    simp only [normField, policy, filled, Bool.false_eq_true, if_false]
  refine crosses_entry keeps writes selects passes.travels.written passes.travels.readable ?_
    (isNorm ▸ same)
  intro isJoined entries received read reads
  have isHere := received wireName (by simp [Member.receivedNames, policy])
  rw [receiver_self isJoined] at isHere
  cases reads with
  | plain isPolicy isShape =>
    rw [policy] at isPolicy
    cases isPolicy
    rw [passes.isShape] at isShape
    cases isShape
    exact Read.incoming_plain rfl (received?_of_lookup isHere isThere) known isBack
  | reference isPolicy =>
    rw [policy] at isPolicy
    cases isPolicy

variable {wireName idName : Points} {omitEmpty : Bool} {id held fresh : Value}

/-- The normal form of a side of a wrapper is that of what the side holds. -/
theorem norm_side (wrapper : String) (id held : Value) :
    norm package codecs (.wrapper wrapper id held) (.side "Value") =
        norm package codecs held .whole ∧
      norm package codecs (.wrapper wrapper id held) (.side "Id") =
        norm package codecs id .whole := by
  constructor <;>
  · rw [norm]
    rfl

/-- The normal form of a reference by value keeps the value. Its identifier is new. -/
theorem normField_value
    (policy : member.policy = some (.reference wireName idName .value omitEmpty))
    (isDefault : codecs.idDefault (package.wrapperName member.type) = .ok fresh)
    (filled : held ≠ .null) :
    package.normField codecs member (.wrapper (package.wrapperName member.type) id held)
      (norm package codecs (.wrapper (package.wrapperName member.type) id held)) =
      .wrapper (package.wrapperName member.type) fresh (norm package codecs held .whole) := by
  cases held with
  | null => exact absurd rfl filled
  | _ => simp only [normField, policy, norm_side, isDefault, Except.toOption, Option.getD_some]

/-- The normal form of a reference by identifier keeps the identifier. Its value is absent. -/
theorem normField_id (policy : member.policy = some (.reference wireName idName .id omitEmpty))
    (filled : id.isEmpty = false) :
    package.normField codecs member (.wrapper (package.wrapperName member.type) id held)
      (norm package codecs (.wrapper (package.wrapperName member.type) id held)) =
      .wrapper (package.wrapperName member.type) (norm package codecs id .whole) .null := by
  simp only [normField, policy, norm_side, filled, Bool.false_eq_true, if_false]

/-- Of a wrapper with a value the value is sent, if the policy says so. Its identifier is new
afterwards. -/
theorem crosses_value (policy : member.policy = some (.reference wireName idName .value omitEmpty))
    (isDefault : codecs.idDefault (package.wrapperName member.type) = .ok fresh)
    (sameDefault : fresh.same fresh = true) (filled : held ≠ .null)
    (keeps : Keeps package codecs member (.wrapper (package.wrapperName member.type) id held))
    (passes : Passes package codecs struct member.type held shape json
      (norm package codecs held .whole)) :
    Crosses package codecs struct member (.wrapper (package.wrapperName member.type) id held)
      (some (wireName, json)) := by
  obtain ⟨isThere, known, back, isBack, same⟩ := passes.received
  have writes : member.write? = some ⟨member.name, wireName, .wrapperValue⟩ := by
    rw [Member.write?, policy]
  have selects : Part.wrapperValue.select (.wrapper (package.wrapperName member.type) id held) =
      .ok (some (.side "Value")) := by
    cases held with
    | null => exact absurd rfl filled
    | _ => rfl
  have written : Value.write codecs (.wrapper (package.wrapperName member.type) id held)
      (.side "Value") = .ok json.compact := by
    rw [Value.write]
    exact passes.travels.written
  have equal : (Value.wrapper (package.wrapperName member.type) fresh back).same
      (package.normField codecs member (.wrapper (package.wrapperName member.type) id held)
        (norm package codecs (.wrapper (package.wrapperName member.type) id held))) = true := by
    rw [normField_value policy isDefault filled, Value.same, beq_self_eq_true, sameDefault, same]
    rfl
  refine crosses_entry keeps writes selects written passes.travels.readable ?_ equal
  intro isJoined entries received read reads
  have isHere := received wireName (by simp [Member.receivedNames, policy])
  rw [receiver_self isJoined] at isHere
  cases reads with
  | plain isPolicy =>
    rw [policy] at isPolicy
    cases isPolicy
  | @reference _ _ _ _ _ idShape _ isPolicy isShape =>
    rw [policy] at isPolicy
    cases isPolicy
    rw [passes.isShape] at isShape
    cases isShape
    have isReference : (Read.scoped struct ⟨member.name, wireName, shape,
        some ⟨package.wrapperName member.type, idName, idShape⟩⟩).reference =
          some ⟨package.wrapperName member.type, idName, idShape.scoped struct⟩ := rfl
    exact Read.incoming_value isReference (received?_of_lookup isHere isThere) known isBack
      isDefault

/-- Of a wrapper with an identifier the identifier is sent, if the policy says so. Its value is
absent afterwards. -/
theorem crosses_id (policy : member.policy = some (.reference wireName idName .id omitEmpty))
    (different : idName ≠ wireName) (filled : id.isEmpty = false)
    (keeps : Keeps package codecs member (.wrapper (package.wrapperName member.type) id held))
    {idType : Descriptor}
    (isIdType : package.idType = .ok idType)
    (passes : Passes package codecs struct idType id shape json (norm package codecs id .whole)) :
    Crosses package codecs struct member (.wrapper (package.wrapperName member.type) id held)
      (some (idName, json)) := by
  obtain ⟨isThere, known, back, isBack, same⟩ := passes.received
  have writes : member.write? = some ⟨member.name, idName, .wrapperId⟩ := by
    rw [Member.write?, policy]
  have selects : Part.wrapperId.select (.wrapper (package.wrapperName member.type) id held) =
      .ok (some (.side "Id")) := by
    simp [Part.select, Value.attribute?, filled]
  have written : Value.write codecs (.wrapper (package.wrapperName member.type) id held)
      (.side "Id") = .ok json.compact := by
    rw [Value.write]
    exact passes.travels.written
  have equal : (Value.wrapper (package.wrapperName member.type) back .null).same
      (package.normField codecs member (.wrapper (package.wrapperName member.type) id held)
        (norm package codecs (.wrapper (package.wrapperName member.type) id held))) = true := by
    rw [normField_id policy filled, Value.same, beq_self_eq_true, same]
    simp [Value.same]
  refine crosses_entry keeps writes selects written passes.travels.readable ?_ equal
  intro isJoined entries received read reads
  have notHere := received wireName (by simp [Member.receivedNames, policy])
  rw [receiver_other fun same => different (isJoined.symm.trans same)] at notHere
  have isHere := received idName (by simp [Member.receivedNames, policy])
  rw [receiver_self isJoined] at isHere
  cases reads with
  | plain isPolicy =>
    rw [policy] at isPolicy
    cases isPolicy
  | @reference _ _ _ _ ownShape _ _ isPolicy _ isOwnIdType isIdShape =>
    rw [policy] at isPolicy
    cases isPolicy
    rw [isIdType] at isOwnIdType
    cases isOwnIdType
    rw [passes.isShape] at isIdShape
    cases isIdShape
    have isReference : (Read.scoped struct ⟨member.name, wireName, ownShape,
        some ⟨package.wrapperName member.type, idName, shape⟩⟩).reference =
          some ⟨package.wrapperName member.type, idName, shape.scoped struct⟩ := rfl
    exact Read.incoming_id isReference (received?_of_lookup_none notHere)
      (received?_of_lookup isHere isThere) known isBack

/-! ## All policies -/

/-- What a field holds is ready to cross the wire: what the policy of its member may ask for passes,
if nothing in its normal form becomes another when surrogate pairs are joined. -/
structure Ready (package : Package) (codecs : Codecs) (struct : String) (member : Member)
    (value : Value) : Prop where
  sameDefault : (codecs.defaultValue (package.fieldDefault member)).same
    (codecs.defaultValue (package.fieldDefault member)) = true
  absent : member.isWired = true → member.isReference = false → value = .null →
    codecs.defaultValue (package.fieldDefault member) = .null
  passes : member.isWired = true → member.isReference = false → value ≠ .null →
    (norm package codecs value .whole).Settled →
      ∃ shape json, Passes package codecs struct member.type value shape json
        (norm package codecs value .whole)
  wrapped : member.isReference = true → value = .null ∨
    ∃ id held, value = .wrapper (package.wrapperName member.type) id held ∧
      (∃ fresh, codecs.idDefault (package.wrapperName member.type) = .ok fresh ∧
        fresh.same fresh = true) ∧
      ((norm package codecs id .whole).Settled → ∃ idType shape json, package.idType = .ok idType ∧
        Passes package codecs struct idType id shape json (norm package codecs id .whole)) ∧
      (held ≠ .null → (norm package codecs held .whole).Settled →
        ∃ shape json, Passes package codecs struct member.type held shape json
          (norm package codecs held .whole))

/-- A reference holds nothing at first. -/
theorem defaultValue_of_isReference (isReference : member.isReference = true) :
    codecs.defaultValue (package.fieldDefault member) = .null := by
  rw [fieldDefault, if_pos isReference]
  rfl

/-- A plain field crosses the wire. -/
theorem Ready.crosses_plain (ready : Ready package codecs struct member value)
    (settled : (package.normField codecs member value (norm package codecs value)).Settled)
    (keeps : Keeps package codecs member value)
    (policy : member.policy = some (.plain wireName omitEmpty)) :
    ∃ sent, Crosses package codecs struct member value sent := by
  have wired : member.isWired = true := by simp [Member.isWired, policy, Policy.isWired]
  have plain : member.isReference = false := by
    simp [Member.isReference, policy, Policy.isReference]
  cases filled : omitEmpty && value.isEmpty with
  | true =>
    rw [Bool.and_eq_true] at filled
    refine ⟨none, crosses_nothing ?_ ?_⟩
    · intro write writes
      rw [Member.write?, policy] at writes
      cases writes
      simp [filled.1, filled.2, Part.select]
    · simpa [normField, policy, filled.1, filled.2] using ready.sameDefault
  | false =>
    by_cases isNull : value = .null
    · have absent := ready.absent wired plain isNull
      subst isNull
      have always : omitEmpty = false := by simpa [Value.isEmpty] using filled
      subst always
      exact ⟨_, crosses_null policy absent⟩
    · simp only [normField, policy, filled, Bool.false_eq_true, if_false] at settled
      obtain ⟨shape, json, passes⟩ := ready.passes wired plain isNull settled
      exact ⟨_, Package.crosses_plain policy filled keeps passes⟩

/-- A reference crosses the wire, if its identifier has another name than its value. -/
theorem Ready.crosses_reference (ready : Ready package codecs struct member value)
    (settled : (package.normField codecs member value (norm package codecs value)).Settled)
    (keeps : Keeps package codecs member value) {variant : Variant}
    (policy : member.policy = some (.reference wireName idName variant omitEmpty))
    (different : idName ≠ wireName) :
    ∃ sent, Crosses package codecs struct member value sent := by
  have isReference : member.isReference = true := by
    simp [Member.isReference, policy, Policy.isReference]
  have absent : codecs.defaultValue (package.fieldDefault member) = .null :=
    defaultValue_of_isReference isReference
  obtain rfl | ⟨id, held, rfl, ⟨fresh, isDefault, sameDefault⟩, idPasses, valuePasses⟩ :=
    ready.wrapped isReference
  · refine ⟨none, crosses_nothing ?_ ?_⟩
    · intro write writes
      rw [Member.write?, policy] at writes
      cases variant <;> (cases writes; rfl)
    · cases variant <;> simp [normField, policy, absent, Value.same]
  · cases variant with
    | value =>
      by_cases empty : held = .null
      · subst empty
        refine ⟨none, crosses_nothing ?_ ?_⟩
        · intro write writes
          rw [Member.write?, policy] at writes
          cases writes
          rfl
        · simp [normField, policy, absent, Value.same]
      · rw [normField_value policy isDefault empty] at settled
        cases settled with
        | wrapper _ _ ofValue =>
          obtain ⟨shape, json, passes⟩ := valuePasses empty ofValue
          exact ⟨_, crosses_value policy isDefault sameDefault empty keeps passes⟩
    | id =>
      cases filled : id.isEmpty with
      | true =>
        refine ⟨none, crosses_nothing ?_ ?_⟩
        · intro write writes
          rw [Member.write?, policy] at writes
          cases writes
          simp [Part.select, Value.attribute?, filled]
        · simp [normField, policy, absent, filled, Value.same]
      | false =>
        rw [normField_id policy filled] at settled
        cases settled with
        | wrapper _ ofId _ =>
          obtain ⟨idType, shape, json, isIdType, passes⟩ := idPasses ofId
          exact ⟨_, crosses_id policy different filled keeps isIdType passes⟩

/-- A member whose field is ready crosses the wire, if it does not lose what it writes. -/
theorem Ready.exists_crosses (ready : Ready package codecs struct member value)
    (settled : (package.normField codecs member value (norm package codecs value)).Settled)
    (keeps : Keeps package codecs member value) (distinct : member.receivedNames.Nodup) :
    ∃ sent, Crosses package codecs struct member value sent := by
  have offWire (noWrite : member.write? = none)
      (isDefault : package.normField codecs member value (norm package codecs value) =
        codecs.defaultValue (package.fieldDefault member)) :
      ∃ sent, Crosses package codecs struct member value sent := by
    refine ⟨none, crosses_nothing (fun write writes => ?_) (isDefault ▸ ready.sameDefault)⟩
    rw [noWrite] at writes
    cases writes
  cases policy : member.policy with
  | none => exact offWire (by simp [Member.write?, policy]) (by simp [normField, policy])
  | some other =>
    cases other with
    | omitted name => exact offWire (by simp [Member.write?, policy]) (by simp [normField, policy])
    | plain wireName omitEmpty => exact ready.crosses_plain settled keeps policy
    | reference wireName idName variant omitEmpty =>
      refine ready.crosses_reference settled keeps policy ?_
      rintro rfl
      simp [Member.receivedNames, policy] at distinct

end Package

end DeclCodec
