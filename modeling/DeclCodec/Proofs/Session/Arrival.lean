import DeclCodec.Proofs.Emit.Entries
import DeclCodec.Proofs.Emit.Loaded
import DeclCodec.Proofs.Package.Structs
import DeclCodec.Proofs.Wire.Parts

/-!
# What arrives for the members

Reading an object into an instance goes through the members on the wire in order of
declaration. Something arrives for a member if the object has it under the member's
name and it is no null, or, for a reference, under the name of its identifier. What
arrives takes the place of what the field holds; the other fields keep what they
hold. If something cannot be read, the members before it are done and the others
are not.
-/

namespace DeclCodec

/-- What an object has under a name, unless that is null. -/
def present? (entries : List (Value × Value)) (name : Points) : Option Value :=
  match entries.lookup (.str name) with
  | some .null => none
  | found => found

namespace Package

/-- Read a value by the shape that a type has in the class of a struct. A type without a shape is in
no module. -/
def readAs (package : Package) (codecs : Codecs) (struct : String) (type : Descriptor)
    (value : Value) : Except WireFault Value :=
  match package.shape type with
  | .ok shape => do
    codecs.checkShape (shape.scoped struct)
    value.decode codecs (shape.scoped struct)
  | .error _ => .error .wrongType

/-- What arrives for a member out of the entries of an object. -/
def arrival (package : Package) (codecs : Codecs) (struct : String)
    (entries : List (Value × Value)) (member : Member) : Except WireFault (Option Value) :=
  match member.policy with
  | some (.plain wireName _) =>
    match present? entries wireName with
    | some value => some <$> package.readAs codecs struct member.type value
    | none => .ok none
  | some (.reference wireName idName _ _) =>
    match present? entries wireName with
    | some value => do
      let value ← package.readAs codecs struct member.type value
      let id ← codecs.idDefault (package.wrapperName member.type)
      pure (some (.wrapper (package.wrapperName member.type) id value))
    | none =>
      match present? entries idName with
      | some id => do
        let idType ← package.idType.mapError fun _ => .wrongType
        let id ← package.readAs codecs struct idType id
        pure (some (.wrapper (package.wrapperName member.type) id .null))
      | none => .ok none
  | _ => .ok none

/-- The fields of an instance of a struct that holds these values for its members. -/
def fieldsOf (struct : String) (rows : List (Member × Value)) : List (String × Value) :=
  rows.map fun row => (scopedName struct row.1.name, row.2)

/-- An instance of a struct that holds these values for its members. -/
def instanceOf (struct : String) (rows : List (Member × Value)) : Value :=
  .record struct (fieldsOf struct rows)

/-- The rows of an instance after reading: what arrives for a member takes the place of its value,
up to the first member for which something cannot be read. -/
def afterReading (arrival : Member → Except WireFault (Option Value)) :
    List (Member × Value) → List (Member × Value) × Option WireFault
  | [] => ([], none)
  | row :: rest =>
    match arrival row.1 with
    | .error fault => (row :: rest, some fault)
    | .ok arrived =>
      ((row.1, arrived.getD row.2) :: (afterReading arrival rest).1, (afterReading arrival rest).2)

variable {package : Package} {codecs : Codecs} {struct : String}

/-! ## Arrivals -/

/-- What is received is what is present, ready to be read. -/
theorem received?_readers (codecs : Codecs) (entries : List (Value × Value)) (name : Points) :
    received? (Value.readers codecs entries) name =
      (present? entries name).map fun value => ⟨value, value.decode codecs⟩ := by
  rw [received?, present?, Value.readers_eq,
    Table.lookup_map (fun value => (⟨value, value.decode codecs⟩ : Reader))]
  cases entries.lookup (.str name) with
  | none => rfl
  | some value => cases value <;> rfl

/-- A class assigns to a field what arrives for its member. -/
theorem incoming_eq_arrival {member : Member} {read : Read}
    (reads : package.read? member = .ok (some read)) (entries : List (Value × Value)) :
    (read.scoped struct).incoming codecs (Value.readers codecs entries) =
      package.arrival codecs struct entries member := by
  cases read?_eq_ok_iff.1 reads with
  | @plain wireName omitEmpty shape policy isShape =>
    simp only [arrival, policy, Read.incoming, Read.scoped, Option.map_none, received?_readers,
      readAs, isShape]
    cases present? entries wireName with
    | none => rfl
    | some value =>
      dsimp only [Option.map_some]
      cases codecs.checkShape (shape.scoped struct) with
      | error fault => rfl
      | ok known => cases value.decode codecs (shape.scoped struct) <;> rfl
  | @reference wireName idName variant omitEmpty shape idShape idType policy isShape isIdType
      isIdShape =>
    simp only [arrival, policy, Read.incoming, Read.scoped, Option.map_some, received?_readers,
      readAs, isShape]
    cases present? entries wireName with
    | some value =>
      dsimp only [Option.map_some]
      cases codecs.checkShape (shape.scoped struct) with
      | error fault => rfl
      | ok known => rfl
    | none =>
      dsimp only [Option.map_none]
      cases present? entries idName with
      | none => rfl
      | some id =>
        rw [isIdType]
        dsimp only [Option.map_some, Except.mapError, bind, Except.bind]
        rw [isIdShape]
        dsimp only
        cases codecs.checkShape (idShape.scoped struct) with
        | error fault => rfl
        | ok known => rfl

/-- Nothing arrives for a member off the wire. -/
theorem arrival_of_not_wired {member : Member} (offWire : member.isWired = false)
    (entries : List (Value × Value)) :
    package.arrival codecs struct entries member = .ok none := by
  rcases policy : member.policy with _ | _ | _ | _
  · rw [arrival, policy]
  · rw [arrival, policy]
  · simp [Member.isWired, policy, Policy.isWired] at offWire
  · simp [Member.isWired, policy, Policy.isWired] at offWire

/-- Nothing arrives for a member that reads nothing. -/
theorem arrival_eq_none {member : Member} (silent : package.read? member = .ok none)
    (entries : List (Value × Value)) :
    package.arrival codecs struct entries member = .ok none := by
  cases read?_eq_ok_iff.1 silent with
  | nothing offWire => exact arrival_of_not_wired offWire entries

section Rows

attribute [local simp] afterReading

variable {arrival : Member → Except WireFault (Option Value)} {rows : List (Member × Value)}

/-- If everything is read, each member has what arrives for it, or else what it had. -/
theorem afterReading_of_ok {arrived : Member → Option Value}
    (fine : ∀ row ∈ rows, arrival row.1 = .ok (arrived row.1)) :
    afterReading arrival rows =
      (rows.map fun row => (row.1, (arrived row.1).getD row.2), none) := by
  induction rows with
  | nil => rfl
  | cons row rest inductionHypothesis =>
    rw [afterReading, fine row List.mem_cons_self,
      inductionHypothesis fun other member => fine other (List.mem_cons_of_mem _ member)]
    rfl

end Rows

/-- The field of an exported member is none of the fields of the members before it. -/
theorem scopedName_beq_of_nodup (struct : String) {before rest : List (Member × Value)}
    {row : Member × Value} (distinct : ((before ++ row :: rest).map fun row => row.1.name).Nodup)
    (exported : Descriptor.isExportedName row.1.name = true) :
    ∀ held ∈ (fieldsOf struct before).map (·.1),
      (scopedName struct row.1.name == held) = false := by
  intro held member
  simp only [fieldsOf, List.map_map, List.mem_map, Function.comp_apply] at member
  obtain ⟨other, among, rfl⟩ := member
  rw [beq_eq_false_iff_ne, scopedName_of_isExportedName exported]
  intro same
  rw [List.map_append, List.nodup_append] at distinct
  exact distinct.2.2 _ (List.mem_map_of_mem among) _ (by simp)
    (eq_of_scopedName_eq same.symm exported)

/-- A class assigns what arrives for its members one after another. The induction is on the members
still to be read; those before them keep their fields. -/
theorem assign_eq_afterReading {entries : List (Value × Value)}
    {before rest : List (Member × Value)}
    {reads : List Read} (distinct : ((before ++ rest).map fun row => row.1.name).Nodup)
    (exported : ∀ row ∈ rest, row.1.isWired = true →
      Descriptor.isExportedName row.1.name = true)
    (emitted : (rest.map (·.1)).filterMapM package.read? = .ok reads) :
    codecs.assign (Value.readers codecs entries)
        (fieldsOf struct before ++ fieldsOf struct rest) (reads.map (Read.scoped struct)) =
      (fieldsOf struct (before ++
        (afterReading (package.arrival codecs struct entries) rest).1),
        (afterReading (package.arrival codecs struct entries) rest).2) := by
  induction rest generalizing before reads with
  | nil =>
    cases emitted
    simp [Codecs.assign, afterReading, fieldsOf]
  | cons row rest inductionHypothesis =>
    rw [List.map_cons, List.filterMapM_cons, bind_eq_ok] at emitted
    obtain ⟨read?, isRead, emitted⟩ := emitted
    -- The rest is assigned when this row is done, whatever it holds then.
    have onward (value : Value) {others : List Read}
        (othersEmitted : (rest.map (·.1)).filterMapM package.read? = .ok others) :=
      @inductionHypothesis (before ++ [(row.1, value)]) others (by simpa using distinct)
        (fun other member => exported other (List.mem_cons_of_mem _ member)) othersEmitted
    simp only [fieldsOf, List.map_append, List.map_cons, List.map_nil, List.append_assoc,
      List.singleton_append] at onward ⊢
    cases read? with
    | none =>
      rw [afterReading, arrival_eq_none isRead]
      exact onward row.2 emitted
    | some read =>
      dsimp only at emitted
      rw [bind_eq_ok] at emitted
      obtain ⟨others, othersEmitted, same⟩ := emitted
      cases same
      obtain ⟨wired, isField⟩ := field_of_read? isRead
      have isExported := exported row List.mem_cons_self wired
      rw [List.map_cons, Codecs.assign, incoming_eq_arrival isRead, afterReading]
      cases arrives : package.arrival codecs struct entries row.1 with
      | error fault => rfl
      | ok arrived =>
        cases arrived with
        | none => exact onward row.2 othersEmitted
        | some value =>
          have later := scopedName_beq_of_nodup struct distinct isExported
          dsimp only [fieldsOf] at later ⊢
          rw [Read.scoped, isField, Table.put_append_cons later]
          exact onward value othersEmitted

/-- A class assigns to the fields of an instance what arrives for them. -/
theorem Loads.assignRecord_eq (loaded : package.Loads codecs) (collected : Collected package)
    {rows : List (Member × Value)}
    (declared : package.structs.lookup struct = some (rows.map (·.1)))
    (entries : List (Value × Value)) :
    codecs.assignRecord (Value.readers codecs entries) (instanceOf struct rows) =
      (instanceOf struct (afterReading (package.arrival codecs struct entries) rows).1,
        (afterReading (package.arrival codecs struct entries) rows).2) := by
  obtain ⟨codec, found, isCodec⟩ := loaded.exists_codec declared
  have ok := collected.members _ (Table.mem_of_lookup declared)
  obtain ⟨reads, emitted, isReads⟩ := isCodec.reads
  have names : ((([] : List (Member × Value)) ++ rows).map fun row => row.1.name).Nodup := by
    simpa [List.map_map, Function.comp_def] using ok.distinct
  have exported : ∀ row ∈ rows, row.1.isWired = true →
      Descriptor.isExportedName row.1.name = true := fun row among wired =>
    ok.exported row.1 (List.mem_map_of_mem among) (Member.isSome_policy wired)
  have assigned := @assign_eq_afterReading package codecs struct entries [] rows reads names
    exported emitted
  simp only [List.nil_append, fieldsOf, List.map_nil] at assigned
  rw [instanceOf, Codecs.assignRecord, found]
  dsimp only
  rw [isReads, fieldsOf, assigned]
  rfl

end Package

end DeclCodec
