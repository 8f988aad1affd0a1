import DeclCodec.Package.Collect
import DeclCodec.Proofs.Decl.Written
import DeclCodec.Proofs.Package.Tables
import DeclCodec.Proofs.Traversal

/-!
# What packages are refused for

Each step of collecting a package has faults of its own, and they are faults of
the declarations. The only others are those of tags: a value that is looked up in
the tag of a field line may be no JSON string. A fault that is met inside of a
declaration is reported with the name of the declaration in front, and that does
not change of which kind it is.

Types that contain each other without end are met by the checks of the package as
a whole only; no earlier step has a fault of this kind.
-/

namespace DeclCodec

/-- Is it a fault of the declarations, and another than that types contain each other? -/
def Fault.isPlain : Fault → Bool
  | .recursiveType _ => false
  | fault => fault.isGeneration

/-- A plain fault is one of the declarations. -/
theorem Fault.isGeneration_of_isPlain {fault : Fault} (plain : fault.isPlain = true) :
    fault.isGeneration = true := by
  cases fault <;> first | rfl | exact plain

/-- The keys under which the tag of a field line is looked up. -/
def Settings.tagKeys (settings : Settings) : List String := [settings.wireTag, settings.refTag]

/-- The fault of a value in the tag of a field line that cannot be read. -/
def Field.TagFault (settings : Settings) (field : Field) (fault : Fault) : Prop :=
  ∃ key ∈ settings.tagKeys, Tag.lookup field.tag key = .error fault

/-- The field lines of a declaration. -/
def Decl.fields : Decl → List Field
  | .struct _ fields _ => fields
  | .alias _ _ _ => []

/-- The fault of a value in the tag of one of the field lines of a declaration. -/
def Decl.TagFault (settings : Settings) (decl : Decl) (fault : Fault) : Prop :=
  ∃ field ∈ decl.fields, field.TagFault settings fault

/-- The fault of a value in the tag of one of the field lines of a unit. -/
def DeclUnit.TagFault (settings : Settings) (unit : DeclUnit) (fault : Fault) : Prop :=
  ∃ decl ∈ unit.decls, decl.TagFault settings fault

/-- The fault of a tag comes out of the JSON reader. -/
theorem Tag.exists_of_lookup_error {tag : Option Points} {key : Points} {fault : Fault}
    (failed : Tag.lookup tag key = .error fault) : ∃ cause, fault = .invalidTagValue cause := by
  rw [lookup] at failed
  split at failed
  · next inside _ =>
    cases unread : Json.unescape inside with
    | ok value =>
      rw [unread] at failed
      cases failed
    | error cause =>
      rw [unread] at failed
      cases failed
      exact ⟨cause, rfl⟩
  · cases failed

/-- A fault with the name of its declaration in front is plain, if it was. -/
theorem Fault.isPlain_within {fault : Fault} (plain : fault.isPlain = true) (unit name : String) :
    (fault.within unit name).isPlain = true := by
  have generation := isGeneration_of_isPlain plain
  rw [within, if_pos generation]
  exact generation

/-- The fault of a tag is reported as it is. -/
theorem Field.TagFault.within_eq {settings : Settings} {field : Field} {fault : Fault}
    (broken : field.TagFault settings fault) (unit name : String) :
    fault.within unit name = fault := by
  obtain ⟨key, _, failed⟩ := broken
  obtain ⟨cause, rfl⟩ := Tag.exists_of_lookup_error failed
  rfl

/-- A type expression is described unless it has an array in it. -/
theorem TypeExpr.faults_describe (type : TypeExpr) :
    FaultsAre (Fault.isPlain · = true) type.describe := by
  intro fault failed
  rcases type.describe_cases with ⟨_, length, refused⟩ | ⟨_, described, success⟩
  · rw [refused] at failed
    cases failed
    rfl
  · rw [success] at failed
    cases failed

/-- A text that is no type is refused for that. -/
theorem TypeExpr.faults_parse (text : String) :
    FaultsAre (Fault.isPlain · = true) (parse text) := by
  unfold parse
  split
  · exact .of_error rfl
  · split
    · exact .of_ok
    · exact .of_error rfl

/-- A name is refused because it is reserved. -/
theorem faults_checkName (use : NameUse) (name : String) :
    FaultsAre (Fault.isPlain · = true) (checkName use name) := by
  unfold checkName
  split
  · exact .of_error rfl
  · exact .of_ok

/-- The policy of a field is refused for what the tag says. -/
theorem Policy.faults_resolve (wireValue refValue : Points) (name : String) :
    FaultsAre (Fault.isPlain · = true) (resolve wireValue refValue name) := by
  unfold resolve
  dsimp only
  split
  · exact .of_ok
  split
  · exact .of_ok
  split
  · exact .of_error rfl
  split
  · exact .of_ok
  · split
    · exact .of_ok
    · exact .of_error rfl
  · exact .of_error rfl

namespace Package

variable {package : Package} {types : List (String × Decl)} {settings : Settings}

/-- A declaration is not recorded for its name only. -/
theorem faults_recordDecl (decl : Decl) :
    FaultsAre (Fault.isPlain · = true) (recordDecl types decl) := by
  refine (faults_checkName _ _).bind fun _ _ => ?_
  split
  · exact .of_error rfl
  · exact .of_ok

/-- Nor are units. -/
theorem faults_record (name : String) (units : List DeclUnit) :
    FaultsAre (Fault.isPlain · = true) (record name settings units) :=
  (FaultsAre.foldlM fun decl _ _ => faults_recordDecl decl).bind fun _ _ => .of_ok

/-- A type is refused for a name that it mentions. -/
theorem faults_checkKnown (type : Descriptor) :
    FaultsAre (Fault.isPlain · = true) (checkKnown types type) := by
  unfold checkKnown
  split
  · exact .of_error rfl
  · exact .of_ok

/-- A type expression is refused for an array in it, or for a name that it mentions. -/
theorem faults_describeKnown (type : TypeExpr) :
    FaultsAre (Fault.isPlain · = true) (describeKnown types type) :=
  type.faults_describe.bind fun _ _ => (faults_checkKnown _).bind fun _ _ => .of_ok

/-- The type of identifiers is refused for what it mentions, or as no type. -/
theorem faults_resolveIdType : FaultsAre (Fault.isPlain · = true) package.resolveIdType :=
  ((TypeExpr.faults_parse _).bind fun type _ => type.faults_describe).bind fun _ _ =>
    (faults_checkKnown _).bind fun _ _ => .of_ok

/-- A field name is refused because it is reserved, a method's, or taken. -/
theorem faults_checkField (name : String) (taken : List Member) :
    FaultsAre (Fault.isPlain · = true) (checkField name taken) := by
  refine (faults_checkName _ _).bind fun _ _ => ?_
  dsimp only
  split
  · exact .of_error rfl
  split
  · exact .of_error rfl
  · exact .of_ok

/-- A wrapper is refused because its type is not exported, or for the type that it is needed for. -/
theorem faults_announce (referenced : List (String × Descriptor)) (field : String)
    (type : Descriptor) : FaultsAre (Fault.isPlain · = true) (announce referenced field type) := by
  unfold announce
  split
  · exact .of_error rfl
  split
  · exact .of_ok
  split
  · exact .of_ok
  · exact .of_error rfl

/-- The policies of a field line are refused for its tag: for what it says, or because a value in it
cannot be read. -/
theorem faults_resolveField (field : Field) :
    FaultsAre (fun fault => fault.isPlain = true ∨ field.TagFault settings fault)
      (Policy.resolveField field.names field.tag settings.wireTag settings.refTag) := by
  refine FaultsAre.bind
    (fun fault failed => .inr ⟨settings.wireTag, by simp [Settings.tagKeys], failed⟩)
    fun wireValue _ => ?_
  refine FaultsAre.bind
    (fun fault failed => .inr ⟨settings.refTag, by simp [Settings.tagKeys], failed⟩)
    fun refValue _ => ?_
  dsimp only
  split
  · exact .of_error (.inl rfl)
  refine .mapM fun name _ => ?_
  exact ((Policy.faults_resolve _ _ _).mono fun _ => .inl).bind fun _ _ => .of_ok

/-- Reporting the wrappers with a fault does not change the fault. -/
theorem faults_attempt {α : Type} {kind : Fault → Prop} {result : Except Fault α}
    (faults : FaultsAre kind result) (progress : Progress) :
    FaultsAre (fun failure => kind failure.1) (progress.attempt result) :=
  .mapError faults

/-- A name of a field line is refused for itself, or for the wrapper that it needs. -/
theorem faults_collectName (type : Descriptor) (policies : List (String × Policy))
    (progress : Progress) (name : String) :
    FaultsAre (fun failure => failure.1.isPlain = true)
      (collectName type policies progress name) := by
  refine (faults_attempt (faults_checkField _ _) _).bind fun _ _ => ?_
  dsimp only
  split
  · exact (faults_attempt (faults_announce _ _ _) _).bind fun _ _ => .of_ok
  · exact .of_ok

/-- A field line is refused for its type, its tag, or one of its names. -/
theorem faults_collectField (progress : Progress) (field : Field) :
    FaultsAre (fun failure => failure.1.isPlain = true ∨ field.TagFault settings failure.1)
      (collectField settings types progress field) := by
  refine ((faults_attempt (faults_describeKnown _) _).mono fun _ => .inl).bind fun _ _ => ?_
  refine (faults_attempt (faults_resolveField field) _).bind fun _ _ => ?_
  exact .foldlM fun name _ state => (faults_collectName _ _ _ _).mono fun _ => .inl

/-- A declaration is refused for a plain fault, or for the tag of one of its field lines. -/
theorem faults_resolveDecl (decl : Decl) :
    FaultsAre (fun failure => failure.1.isPlain = true ∨ decl.TagFault package.settings failure.1)
      (resolveDecl package decl) := by
  rcases decl with ⟨name, fields, unit⟩ | ⟨name, type, unit⟩
  · refine FaultsAre.bind (.foldlM fun field member progress => ?_) fun _ _ => .of_ok
    refine (faults_collectField progress field).mono fun failure => .imp id ?_
    exact fun broken => ⟨field, member, broken⟩
  · exact ((faults_attempt (faults_describeKnown _) _).mono fun _ => .inl).bind fun _ _ => .of_ok

/-- So is a declaration that is named in the fault. -/
theorem faults_resolveNamed (decl : Decl) :
    FaultsAre (fun failure => failure.1.isPlain = true ∨ decl.TagFault package.settings failure.1)
      (resolveNamed package decl) := by
  refine .mapError ((faults_resolveDecl decl).mono fun failure => ?_)
  rintro (plain | ⟨field, member, broken⟩)
  · exact .inl (Fault.isPlain_within plain _ _)
  · refine .inr ⟨field, member, ?_⟩
    dsimp only
    rwa [broken.within_eq]

/-- Resolving a declaration leaves the settings as they are. -/
theorem settings_of_resolveNamed {next : Package} {decl : Decl}
    (success : resolveNamed package decl = .ok next) : next.settings = package.settings := by
  have plain := resolveDecl_of_resolveNamed success
  rcases decl with ⟨name, fields, unit⟩ | ⟨name, type, unit⟩ <;>
    simp only [resolveDecl, bind_eq_ok] at plain <;>
    obtain ⟨_, _, same⟩ := plain <;>
    cases same <;>
    rfl

/-- A graph is refused for a cycle. -/
theorem faults_checkAcyclic (graph : Graph) :
    FaultsAre (Fault.isGeneration · = true) (checkAcyclic graph) := by
  unfold checkAcyclic
  split
  · exact .of_error rfl
  · exact .of_ok

/-- The names of the wrappers are refused for that of a declared type. -/
theorem faults_checkWrapperNames :
    FaultsAre (Fault.isPlain · = true) package.checkWrapperNames := by
  unfold checkWrapperNames
  split
  · exact .of_error rfl
  · exact .of_ok

/-- The package as a whole is refused for faults of the declarations. -/
theorem faults_checkWhole : FaultsAre (Fault.isGeneration · = true) package.checkWhole :=
  (faults_checkAcyclic _).bind fun _ _ => (faults_checkAcyclic _).bind fun _ _ =>
    faults_checkWrapperNames.mono fun _ => Fault.isGeneration_of_isPlain

/-- What the declarations of recorded units are refused for is a plain fault, or the fault of the
tag of a field line in one of the units. -/
theorem faults_resolve {name : String} {units : List DeclUnit} {recorded started : Package}
    (recording : record name settings units = .ok recorded)
    (starting : recorded.resolveIdType = .ok started) :
    FaultsAre (fun failure => failure.1.isPlain = true ∨
        ∃ unit ∈ units, unit.TagFault settings failure.1)
      ((started.types.map (·.2)).foldlM resolveNamed started) := by
  obtain ⟨_, _, _, rfl⟩ := resolveIdType_eq_ok_iff.1 starting
  intro failure failed
  obtain ⟨before, decl, rest, state, split, run, blame⟩ := exists_run_of_foldlM_error failed
  refine (faults_resolveNamed decl failure blame).imp id fun broken => ?_
  have isSettings : state.settings = settings := by
    have kept : state.settings = recorded.settings :=
      foldlM_invariant (fun _ state => state.settings = recorded.settings)
        (fun _ _ _ _ kept success => (settings_of_resolveNamed success).trans kept) rfl run
    rw [kept, (recorded_ok recording).1]
  have declared : decl ∈ recorded.types.map (·.2) := by rw [split]; simp
  rw [(types_of_record recording).2, List.map_map] at declared
  obtain ⟨decl, inside, rfl⟩ := List.mem_map.1 declared
  obtain ⟨unit, among, isDecl⟩ := List.mem_flatMap.1 inside
  exact ⟨unit, Text.mem_sortBy.1 among, decl, isDecl, isSettings ▸ broken⟩

/-- What units are refused for is a fault of the declarations, or the fault of the tag of a field
line in one of them. -/
theorem faults_collect (name : String) (units : List DeclUnit) :
    FaultsAre (fun failure => failure.fault.isGeneration = true ∨
        ∃ unit ∈ units, unit.TagFault settings failure.fault)
      (collect name settings units) := by
  unfold collect
  split
  · next fault unrecorded =>
    exact .of_error (.inl (Fault.isGeneration_of_isPlain (faults_record _ _ _ unrecorded)))
  next recorded recording =>
  split
  · next fault unchecked =>
    exact .of_error (.inl (Fault.isGeneration_of_isPlain (faults_resolveIdType _ unchecked)))
  next started starting =>
  split
  · next fault referenced unresolved =>
    exact .of_error
      ((faults_resolve recording starting _ unresolved).imp Fault.isGeneration_of_isPlain id)
  split
  · next fault refused => exact .of_error (.inl (faults_checkWhole _ refused))
  · exact .of_ok

end Package

end DeclCodec
