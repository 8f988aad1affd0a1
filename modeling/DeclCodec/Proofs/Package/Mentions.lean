import DeclCodec.Emit.Module
import DeclCodec.Proofs.Package.Origins

/-!
# The packages that declarations mention

A type expression mentions a name of a package wherever it has the name: at its
core, under its layers, or in a map key at any depth. The packages that a collected
package imports are those of the settings and those of the names that the type of
identifiers and the types in its declarations mention, raw JSON text left out.
-/

namespace DeclCodec

/-- Does the type expression mention this name of the package with this path? -/
inductive TypeExpr.Mentions (path name : String) : TypeExpr → Prop
  | named {package : List String} (isPath : ".".intercalate package = path) :
    Mentions path name (.named package name)
  | pointer {elem : TypeExpr} (inside : Mentions path name elem) :
      Mentions path name (.pointer elem)
  | slice {elem : TypeExpr} (inside : Mentions path name elem) : Mentions path name (.slice elem)
  | array {length : Nat} {elem : TypeExpr} (inside : Mentions path name elem) :
    Mentions path name (.array length elem)
  | key {key value : TypeExpr} (inside : Mentions path name key) :
    Mentions path name (.map key value)
  | value {key value : TypeExpr} (inside : Mentions path name value) :
    Mentions path name (.map key value)

/-- A pointer mentions what its element mentions. -/
theorem TypeExpr.mentions_pointer {path name : String} {elem : TypeExpr} :
    Mentions path name (.pointer elem) ↔ Mentions path name elem :=
  ⟨fun mentions => by cases mentions; assumption, .pointer⟩

/-- So does a slice. -/
theorem TypeExpr.mentions_slice {path name : String} {elem : TypeExpr} :
    Mentions path name (.slice elem) ↔ Mentions path name elem :=
  ⟨fun mentions => by cases mentions; assumption, .slice⟩

/-- A map mentions what its key mentions and what its value mentions. -/
theorem TypeExpr.mentions_map {path name : String} {key value : TypeExpr} :
    Mentions path name (.map key value) ↔ Mentions path name key ∨ Mentions path name value := by
  constructor
  · rintro (_ | _ | _ | _ | inside | inside)
    · exact .inl inside
    · exact .inr inside
  · rintro (inside | inside)
    · exact inside.key
    · exact inside.value

/-- The qualified names that a type mentions, with their package paths, but for raw JSON text. -/
def Descriptor.foreignNames : Descriptor → List (String × String)
  | .named package name =>
    if package = "" || isRawMessage package name then [] else [(package, name)]
  | .pointer elem => elem.foreignNames
  | .slice elem => elem.foreignNames
  | .map key value => key.foreignNames ++ value.foreignNames

/-- Their package paths are the packages that are mentioned. -/
theorem Descriptor.map_foreignNames (type : Descriptor) :
    type.foreignNames.map (·.1) = type.foreignPackages := by
  induction type with
  | named package name =>
    rw [foreignNames, foreignPackages]
    split <;> rfl
  | pointer elem inductionHypothesis => exact inductionHypothesis
  | slice elem inductionHypothesis => exact inductionHypothesis
  | map key value key_ih value_ih =>
    rw [foreignNames, List.map_append, key_ih, value_ih, foreignPackages]

/-- Does the type expression mention this name, qualified with the path and not that of raw JSON
text? -/
def TypeExpr.Qualifies (type : TypeExpr) (path name : String) : Prop :=
  type.Mentions path name ∧ path ≠ "" ∧ isRawMessage path name = false

/-- The qualified names of a described type are those of its expression. -/
theorem TypeExpr.mem_foreignNames_iff {expression : TypeExpr} {type : Descriptor}
    (described : expression.describe = .ok type) {path name : String} :
    (path, name) ∈ type.foreignNames ↔ expression.Qualifies path name := by
  unfold Qualifies
  induction expression generalizing type with
  | named package own =>
    cases described
    rw [Descriptor.foreignNames]
    constructor
    · intro mentioned
      split at mentioned
      · cases mentioned
      · next foreign =>
        rw [Bool.not_eq_true, Bool.or_eq_false_iff, decide_eq_false_iff_not] at foreign
        cases List.mem_singleton.1 mentioned
        exact ⟨.named rfl, foreign⟩
    · rintro ⟨mentions, nonempty, notRaw⟩
      cases mentions with
      | named isPath =>
        rw [isPath, if_neg (by simp [nonempty, notRaw])]
        exact List.mem_singleton_self _
  | pointer elem inductionHypothesis =>
    obtain ⟨inner, isInner, same⟩ := bind_eq_ok.1 described
    cases same
    rw [Descriptor.foreignNames, inductionHypothesis isInner, mentions_pointer]
  | slice elem inductionHypothesis =>
    obtain ⟨inner, isInner, same⟩ := bind_eq_ok.1 described
    cases same
    rw [Descriptor.foreignNames, inductionHypothesis isInner, mentions_slice]
  | array length elem => cases described
  | map key value key_ih value_ih =>
    simp only [describe, bind_eq_ok] at described
    obtain ⟨keyType, isKey, valueType, isValue, same⟩ := described
    cases same
    rw [Descriptor.foreignNames, List.mem_append, key_ih isKey, value_ih isValue, mentions_map,
      or_and_right]

namespace Package

/-! ## Imported packages -/

/-- Texts without their repetitions are different. -/
theorem nodup_eraseDups (texts : List String) : texts.eraseDups.Nodup := by
  induction isLength : texts.length using Nat.strongRecOn generalizing texts with
  | ind length shorter =>
    cases texts with
    | nil => exact List.nodup_nil
    | cons text rest =>
      have fewer : (rest.filter fun other => !other == text).length < length := by
        rw [← isLength, List.length_cons]
        exact Nat.lt_succ_of_le (List.length_filter_le _ _)
      rw [List.eraseDups_cons, List.nodup_cons]
      exact ⟨by simp [List.mem_eraseDups], shorter _ fewer _ rfl⟩

/-- No package is imported twice. -/
theorem nodup_dependencies (package : Package) : package.dependencies.Nodup := by
  unfold dependencies
  exact (Text.sortBy_perm _ _).nodup_iff.2 (nodup_eraseDups _)

/-- Is the name qualified with the path, and mentioned by the type of identifiers or by one of the
types in declarations? -/
def Qualifies (settings : Settings) (types : List TypeExpr) (path name : String) : Prop :=
  (∃ type, TypeExpr.parse settings.idType = .ok type ∧ type.Qualifies path name) ∨
    ∃ type ∈ types, type.Qualifies path name

/-- The types of a package: that of the identifiers, those that aliases stand for, and those of the
members. -/
def HasType (package : Package) (type : Descriptor) : Prop :=
  package.idType = .ok type ∨ (∃ entry ∈ package.aliases, entry.2 = type) ∨
    ∃ member ∈ package.allMembers, member.type = type

/-- The types in the declarations of a gathered package are those of its units. -/
theorem Gathers.mem_types_iff {name : String} {settings : Settings} {units : List DeclUnit}
    {package : Package} (gathers : Gathers name settings units package) {type : TypeExpr} :
    type ∈ (package.types.map (·.2)).flatMap Decl.types ↔ type ∈ units.flatMap DeclUnit.types := by
  simp only [List.mem_flatMap, DeclUnit.types, gathers.mem_decls_iff]
  exact ⟨fun ⟨decl, ⟨unit, among, inUnit⟩, inDecl⟩ => ⟨unit, among, decl, inUnit, inDecl⟩,
    fun ⟨unit, among, decl, inUnit, inDecl⟩ => ⟨decl, ⟨unit, among, inUnit⟩, inDecl⟩⟩

section Collected

variable {name : String} {settings : Settings} {units : List DeclUnit} {package : Package}
  (success : collect name settings units = .ok package)

include success

/-- The qualified names in the types of a collected package are mentioned by its identifiers or in
its declarations. -/
theorem qualifies_of_hasType {type : Descriptor} (has : package.HasType type) {path own : String}
    (mentioned : (path, own) ∈ type.foreignNames) :
    Qualifies settings (units.flatMap DeclUnit.types) path own := by
  obtain ⟨sameSettings, idType, _, comes⟩ := from_of_collect success
  have gathers := (collect_eq_ok_iff.1 success).1
  have ofDeclared (describes : Describes ((package.types.map (·.2)).flatMap Decl.types) type) :
      Qualifies settings (units.flatMap DeclUnit.types) path own := by
    obtain ⟨expression, inside, described⟩ := describes
    exact .inr ⟨expression, gathers.mem_types_iff.1 inside,
      (TypeExpr.mem_foreignNames_iff described).1 mentioned⟩
  rcases has with isIdType | ⟨entry, declared, rfl⟩ | ⟨member, among, rfl⟩
  · rw [Package.idType, sameSettings, Descriptor.parse, bind_eq_ok] at isIdType
    obtain ⟨expression, parsed, described⟩ := isIdType
    exact .inl ⟨expression, parsed, (TypeExpr.mem_foreignNames_iff described).1 mentioned⟩
  · exact ofDeclared (comes.targets entry declared)
  · obtain ⟨entry, declared, inside⟩ := List.mem_flatMap.1 among
    exact ofDeclared (comes.members entry declared member inside)

/-- The packages that a collected package imports are those of the settings and those of the
qualified names that its identifiers and the types in its declarations mention. -/
theorem mem_dependencies_iff {path : String} :
    path ∈ package.dependencies ↔ path ∈ settings.imports ∨
      ∃ own, Qualifies settings (units.flatMap DeclUnit.types) path own := by
  obtain ⟨_, idType, parsed, comes⟩ := from_of_collect success
  have gathers := (collect_eq_ok_iff.1 success).1
  obtain ⟨idExpression, isExpression, idDescribed⟩ := bind_eq_ok.1 parsed
  have ofType {expression : TypeExpr} {type : Descriptor}
    (described : expression.describe = .ok type) :
      path ∈ type.foreignPackages ↔ ∃ own, expression.Qualifies path own := by
    simp only [← Descriptor.map_foreignNames, List.mem_map, Prod.exists, exists_and_right,
      exists_eq_right, TypeExpr.mem_foreignNames_iff described]
  rw [dependencies, Text.mem_sortBy, List.mem_eraseDups, comes.imported, List.mem_append, or_assoc,
    ofType idDescribed]
  refine or_congr_right ?_
  simp only [Qualifies, exists_or]
  refine or_congr ?_ ?_
  · constructor
    · rintro ⟨own, qualifies⟩
      exact ⟨own, idExpression, isExpression, qualifies⟩
    · rintro ⟨own, expression, isParsed, qualifies⟩
      rw [isExpression] at isParsed
      cases isParsed
      exact ⟨own, qualifies⟩
  · constructor
    · rintro ⟨type, ⟨expression, inside, described⟩, mentioned⟩
      obtain ⟨own, qualifies⟩ := (ofType described).1 mentioned
      exact ⟨own, expression, gathers.mem_types_iff.1 inside, qualifies⟩
    · rintro ⟨own, expression, inside, qualifies⟩
      have declared := gathers.mem_types_iff.2 inside
      obtain ⟨type, described⟩ := comes.described expression declared
      exact ⟨type, ⟨expression, declared, described⟩, (ofType described).2 ⟨own, qualifies⟩⟩

end Collected

end Package

end DeclCodec
