import DeclCodec.Proofs.Decl.Written
import DeclCodec.Proofs.Package.Tables

/-!
# Where the types of a package come from

Every type in a collected package, of a member or of an alias, describes a type
expression in one of its units. So it is as good as the expressions are: if they
are all read from texts, the type comes back from its written form. What is imported
are the packages that the expressions mention, a field line without names included.
-/

namespace DeclCodec

namespace Package

/-- Does the type describe one of these expressions? -/
def Describes (expressions : List TypeExpr) (type : Descriptor) : Prop :=
  ∃ expression ∈ expressions, expression.describe = .ok type

/-- What describes one of some expressions describes one of more. -/
theorem Describes.mono {expressions more : List TypeExpr} {type : Descriptor}
    (describes : Describes expressions type) (among : expressions ⊆ more) :
    Describes more type := by
  obtain ⟨expression, member, success⟩ := describes
  exact ⟨expression, among member, success⟩

/-- What is collected of field lines, given the types that are in them and the packages that were to
be imported before. -/
structure FromFields (before : List String) (expressions : List TypeExpr) (state : Progress) :
    Prop where
  described : ∀ expression ∈ expressions, ∃ type, expression.describe = .ok type
  members : ∀ member ∈ state.members, Describes expressions member.type
  imported : ∀ path, path ∈ state.imported ↔
    path ∈ before ∨ ∃ type, Describes expressions type ∧ path ∈ type.foreignPackages

/-- What describes one of some expressions or one more. -/
theorem describes_append_iff {expressions : List TypeExpr} {last : TypeExpr} {type : Descriptor}
    (described : last.describe = .ok type) {other : Descriptor} :
    Describes (expressions ++ [last]) other ↔ Describes expressions other ∨ other = type := by
  simp [Describes, or_and_right, exists_or, described, eq_comm]

/-- Collecting field lines, each of them describes its type and adds members of that type, and the
packages that the type mentions, whether the line has a name or not. -/
theorem fromFields_of_collectFields {settings : Settings} {types : List (String × Decl)}
    {package : Package} {next : Progress} {fields : List Field}
    (success : fields.foldlM (collectField settings types) package.progress = .ok next) :
    FromFields package.imported (fields.map Field.type) next := by
  refine foldlM_invariant
    (fun before state => FromFields package.imported (before.map Field.type) state) ?_
    ⟨by simp, fun _ held => absurd held List.not_mem_nil, by simp [Package.progress, Describes]⟩
    success
  intro before field state next holds success
  obtain ⟨type, policies, described, _, members, imported⟩ := collectField_cases success
  rw [List.map_append, List.map_singleton]
  constructor
  · rw [List.forall_mem_append, List.forall_mem_singleton]
    exact ⟨holds.described, type, described⟩
  · intro member among
    rw [members, List.mem_append] at among
    rw [describes_append_iff described]
    rcases among with earlier | last
    · exact .inl (holds.members member earlier)
    · obtain ⟨name, _, rfl⟩ := List.mem_map.1 last
      exact .inr rfl
  · intro path
    rw [imported, List.mem_append, holds.imported]
    simp only [describes_append_iff described, or_and_right, exists_or, exists_eq_left, or_assoc]

/-- What is gathered of declarations: all their types are described, those of the aliases and the
members are among them, and exactly the packages that they mention are imported, besides those
before. -/
structure From (before : List String) (decls : List Decl) (package : Package) : Prop where
  described : ∀ expression ∈ decls.flatMap Decl.types, ∃ type, expression.describe = .ok type
  targets : ∀ entry ∈ package.aliases, Describes (decls.flatMap Decl.types) entry.2
  members : ∀ entry ∈ package.structs, ∀ member ∈ entry.2,
    Describes (decls.flatMap Decl.types) member.type
  imported : ∀ path, path ∈ package.imported ↔ path ∈ before ∨
    ∃ type, Describes (decls.flatMap Decl.types) type ∧ path ∈ type.foreignPackages

/-- Resolving a declaration adds what this declaration gives. -/
theorem From.step {before : List String} {decls : List Decl} {package next : Package} {decl : Decl}
    (holds : From before decls package) (success : resolveNamed package decl = .ok next) :
    From before (decls ++ [decl]) next := by
  have earlier : decls.flatMap Decl.types ⊆ (decls ++ [decl]).flatMap Decl.types := by
    rw [List.flatMap_append]
    exact List.subset_append_left _ _
  have last : decl.types ⊆ (decls ++ [decl]).flatMap Decl.types := by
    rw [List.flatMap_append, List.flatMap_singleton]
    exact List.subset_append_right _ _
  have split (type : Descriptor) : Describes ((decls ++ [decl]).flatMap Decl.types) type ↔
      Describes (decls.flatMap Decl.types) type ∨ Describes decl.types type := by
    simp only [Describes, List.flatMap_append, List.flatMap_singleton, List.mem_append,
      or_and_right, exists_or]
  have plain := resolveDecl_of_resolveNamed success
  obtain ⟨name, fields, unit⟩ | ⟨name, type, unit⟩ := decl
  · simp only [resolveDecl, bind_eq_ok] at plain
    obtain ⟨progress, run, same⟩ := plain
    cases same
    have own := fromFields_of_collectFields run
    constructor
    · rw [List.flatMap_append, List.forall_mem_append, List.flatMap_singleton]
      exact ⟨holds.described, own.described⟩
    · exact fun entry held => (holds.targets entry held).mono earlier
    · intro entry held member among
      rcases List.mem_append.1 held with before | added
      · exact (holds.members entry before member among).mono earlier
      · rw [List.mem_singleton.1 added] at among
        exact (own.members member among).mono last
    · intro path
      rw [own.imported, holds.imported]
      simp only [split, or_and_right, exists_or, or_assoc]
      rfl
  · simp only [resolveDecl, bind_eq_ok, attempt_eq_ok] at plain
    obtain ⟨target, known, same⟩ := plain
    cases same
    have described := (describeKnown_eq_ok_iff.1 known).1
    have own (other : Descriptor) :
        Describes (Decl.alias name type unit).types other ↔ other = target := by
      simp [Describes, Decl.types, described, eq_comm]
    constructor
    · rw [List.flatMap_append, List.forall_mem_append, List.flatMap_singleton, Decl.types,
        List.forall_mem_singleton]
      exact ⟨holds.described, target, described⟩
    · intro entry held
      rcases List.mem_append.1 held with before | added
      · exact (holds.targets entry before).mono earlier
      · rw [List.mem_singleton.1 added]
        exact ((own target).2 rfl).mono last
    · exact fun entry held member among => (holds.members entry held member among).mono earlier
    · intro path
      change path ∈ package.imported ++ target.foreignPackages ↔ _
      rw [List.mem_append, holds.imported]
      simp only [split, own, or_and_right, exists_or, exists_eq_left, or_assoc]

/-- The declarations of a gathered package are those of its units. -/
theorem Gathers.mem_decls_iff {name : String} {settings : Settings} {units : List DeclUnit}
    {package : Package} (gathers : Gathers name settings units package) {decl : Decl} :
    decl ∈ package.types.map (·.2) ↔ ∃ unit ∈ units, decl ∈ unit.decls := by
  obtain ⟨recorded, started, recording, starting, resolving⟩ := gathers
  have resolved := resolved_of_record recording starting resolving
  obtain ⟨_, _, _, rfl⟩ := resolveIdType_eq_ok_iff.1 starting
  simp [resolved.types, (types_of_record recording).2, Text.mem_sortBy]

/-- What is collected comes from the type of identifiers and from the declarations. -/
theorem from_of_collect {name : String} {settings : Settings} {units : List DeclUnit}
    {package : Package} (success : collect name settings units = .ok package) :
    package.settings = settings ∧ ∃ idType, Descriptor.parse settings.idType = .ok idType ∧
      From (settings.imports ++ idType.foreignPackages) (package.types.map (·.2)) package := by
  obtain ⟨⟨recorded, started, recording, starting, resolving⟩, _⟩ := collect_eq_ok_iff.1 success
  obtain ⟨sameSettings, noAlias, noStruct, _, sameImports, _⟩ := recorded_ok recording
  have resolved := resolved_of_record recording starting resolving
  obtain ⟨idType, parsed, _, rfl⟩ := resolveIdType_eq_ok_iff.1 starting
  rw [sameSettings] at parsed
  refine ⟨resolved.settings.trans sameSettings, idType, parsed, ?_⟩
  rw [resolved.types]
  exact foldlM_invariant (From _) (fun _ _ _ _ holds => holds.step)
    ⟨by simp, by simp [noAlias], by simp [noStruct], by simp [Describes, sameImports]⟩ resolving

/-- The members of a collected package whose units are read from texts are described from types that
can be written. -/
theorem exists_writable_of_collect {name : String} {settings : Settings} {units : List DeclUnit}
    {package : Package} (success : collect name settings units = .ok package)
    (readable : ∀ unit ∈ units, ∀ type ∈ unit.types, type.Readable) {struct : String}
    {members : List Member} (declared : (struct, members) ∈ package.structs) {member : Member}
    (among : member ∈ members) :
    ∃ expression : TypeExpr, expression.Writable ∧ expression.describe = .ok member.type := by
  obtain ⟨_, idType, _, comes⟩ := from_of_collect success
  obtain ⟨expression, held, described⟩ := comes.members _ declared member among
  obtain ⟨decl, isDecl, inDecl⟩ := List.mem_flatMap.1 held
  obtain ⟨unit, isUnit, inUnit⟩ := (collect_eq_ok_iff.1 success).1.mem_decls_iff.1 isDecl
  have isRead := readable unit isUnit expression (List.mem_flatMap.2 ⟨decl, inUnit, inDecl⟩)
  exact ⟨expression, (TypeExpr.readable_iff expression).1 isRead, described⟩

end Package

end DeclCodec
