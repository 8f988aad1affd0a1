import DeclCodec.Proofs.Package.Origins

/-!
# Types that share a wrapper

The name of a wrapper comes from the base name of the type that it is for. A base
name spells out the layers of a type, from the first slice or map on, and the name
at its core; of a map's key it has the base name only. Types that share a wrapper
have one core, since collecting compares the cores. With the core cut off, what is
left of the base name tells which layer comes next by its first letter, so two types
that share a wrapper have the same layers except for map keys.

Keys can differ, since collecting does not compare them and a base name forgets the
package and the outer pointers of a key, and whether it begins with a capital letter.
-/

namespace DeclCodec

/-- Every character has an upper-case form. -/
theorem Text.upper_ne_nil (c : Char) : upper c ≠ [] := by
  have expansions : ∀ entry ∈ upperExpansions, entry.2 ≠ [] := by decide +kernel
  rw [upper]
  split
  · simp
  · rw [upperBeyondAscii]
    split
    · next codes found =>
      have nonempty := expansions _ (Table.mem_of_lookup found)
      simpa using nonempty
    · split <;> simp

/-- The key of a map layer. -/
def Layer.key? : Layer → Option Descriptor
  | .map key => some key
  | _ => none

namespace Descriptor

/-- The type without the pointers outside of every slice and map. -/
def bare : Descriptor → Descriptor
  | .pointer elem => elem.bare
  | type => type

/-- The keys of the map layers, outside in. -/
def mapKeys (type : Descriptor) : List Descriptor := type.layers.filterMap Layer.key?

/-- What layers add to a base name. -/
def tokens : List Layer → String
  | [] => ""
  | .pointer :: rest => "PtrTo" ++ tokens rest
  | .slice :: rest => "ArrayOf" ++ tokens rest
  | .map key :: rest => "MapOf" ++ (capitalize key.base ++ ("To" ++ tokens rest))

attribute [local simp] baseName layers typeName tokens

/-- Capitalizing does not shorten a name. -/
theorem length_le_capitalize (name : String) : name.length ≤ (capitalize name).length := by
  rw [← String.length_toList, ← String.length_toList, capitalize, String.toList_ofList]
  cases name.toList with
  | nil => simp
  | cons c rest =>
    have longer := List.length_pos_of_ne_nil (Text.upper_ne_nil c)
    rw [Text.capitalize, List.length_append, List.length_cons]
    omega

/-- Inside of a slice or a map the base name is what the layers add and the name at the core. -/
theorem baseName_inside (type : Descriptor) :
    baseName true type = tokens type.layers ++ capitalize type.typeName := by
  induction type with
  | named package name => simp
  | pointer elem inductionHypothesis =>
    simp [inductionHypothesis, String.append_assoc]
  | slice elem inductionHypothesis =>
    simp [inductionHypothesis, String.append_assoc]
  | map key value _ inductionHypothesis =>
    simp [inductionHypothesis, base, String.append_assoc]

/-- Without pointers outside, a type has its name for its base name, or what its layers add and the
name at its core. -/
theorem base_bare (type : Descriptor) :
    type.bare.base = if type.bare.layers = [] then type.bare.typeName
      else tokens type.bare.layers ++ capitalize type.bare.typeName := by
  induction type with
  | named package name => rfl
  | pointer elem inductionHypothesis => exact inductionHypothesis
  | slice elem => 
    simp [bare, base, baseName_inside, String.append_assoc]
  | map key value =>
    simp [bare, base, baseName_inside, String.append_assoc]

/-- Pointers outside change neither the base name, nor the core, nor the map keys. -/
theorem bare_eq (type : Descriptor) :
    type.bare.base = type.base ∧ type.bare.package = type.package ∧
      type.bare.typeName = type.typeName ∧ type.bare.mapKeys = type.mapKeys := by
  induction type with
  | pointer elem inductionHypothesis =>
    rw [base_pointer]
    exact inductionHypothesis
  | _ => exact ⟨rfl, rfl, rfl, rfl⟩

/-- What layers add tells the layers, up to the map keys. -/
theorem eq_of_tokens {first second : List Layer} (same : tokens first = tokens second)
    (keys : first.filterMap Layer.key? = second.filterMap Layer.key?) : first = second := by
  induction first generalizing second with
  | nil =>
    cases second with
    | nil => rfl
    | cons layer second => cases layer <;> simp at same
  | cons layer first inductionHypothesis =>
    cases second with
    | nil => cases layer <;> simp at same
    | cons other second =>
      have heads := congrArg (fun name => name.toList.head?) same
      cases layer <;> cases other <;> simp at heads
      case pointer.pointer =>
        rw [tokens, tokens, String.append_right_inj] at same
        rw [inductionHypothesis same keys]
      case slice.slice =>
        rw [tokens, tokens, String.append_right_inj] at same
        rw [inductionHypothesis same keys]
      case map.map key otherKey =>
        obtain ⟨sameKey, later⟩ := List.cons.inj keys
        cases sameKey
        rw [tokens, tokens, String.append_right_inj, String.append_right_inj,
          String.append_right_inj] at same
        rw [inductionHypothesis same later]

/-- Layers add something. -/
theorem tokens_ne_empty {layers : List Layer} (nonempty : layers ≠ []) : tokens layers ≠ "" := by
  cases layers with
  | nil => exact absurd rfl nonempty
  | cons layer rest => cases layer <;> simp

/-- A name is not taken for one with layers in front of it. -/
theorem tokens_append_ne {layers : List Layer} (nonempty : layers ≠ []) (name : String) :
    tokens layers ++ capitalize name ≠ name := by
  intro same
  have lengths := congrArg String.length same
  have longer := length_le_capitalize name
  have something : 0 < (tokens layers).length := by
    rw [Nat.pos_iff_ne_zero, Ne, String.length_eq_zero_iff]
    exact tokens_ne_empty nonempty
  rw [String.length_append] at lengths
  omega

/-- Types of one base name and one core are the same without the pointers outside, exactly if they
have the same map keys. -/
theorem bare_eq_iff {first second : Descriptor} (sameBase : first.base = second.base)
    (samePackage : first.package = second.package) (sameName : first.typeName = second.typeName) :
    first.bare = second.bare ↔ first.mapKeys = second.mapKeys := by
  obtain ⟨firstBase, firstPackage, firstName, firstKeys⟩ := first.bare_eq
  obtain ⟨secondBase, secondPackage, secondName, secondKeys⟩ := second.bare_eq
  rw [← firstKeys, ← secondKeys]
  constructor
  · intro same
    rw [same]
  · intro keys
    have bases : first.bare.base = second.bare.base := by rw [firstBase, secondBase, sameBase]
    have names : first.bare.typeName = second.bare.typeName := by
      rw [firstName, secondName, sameName]
    have packages : first.bare.package = second.bare.package := by
      rw [firstPackage, secondPackage, samePackage]
    have layers : first.bare.layers = second.bare.layers := by
      rw [base_bare, base_bare, names] at bases
      split at bases <;> split at bases
      · next none noneToo => rw [none, noneToo]
      · next some => exact absurd bases.symm (tokens_append_ne some _)
      · next some _ => exact absurd bases (tokens_append_ne some _)
      · exact eq_of_tokens ((String.append_left_inj _).1 bases) keys
    rw [← ofLayers_layers first.bare, ← ofLayers_layers second.bare, layers, packages, names]

end Descriptor

namespace Package

/-- Of two references with one wrapper, the types have the same core. Without the pointers outside
they are the same type exactly if they have the same map keys. -/
theorem eq_of_wrapperName {name : String} {settings : Settings} {units : List DeclUnit}
    {package : Package} (success : collect name settings units = .ok package)
    (readable : ∀ unit ∈ units, ∀ type ∈ unit.types, type.Readable) {struct other : String}
    {members others : List Member} (declared : (struct, members) ∈ package.structs)
    (declaredToo : (other, others) ∈ package.structs) {first second : Member}
    (among : first ∈ members) (amongToo : second ∈ others) (reference : first.isReference = true)
    (referenceToo : second.isReference = true)
    (shared : package.wrapperName first.type = package.wrapperName second.type) :
    first.type.package = second.type.package ∧ first.type.typeName = second.type.typeName ∧
      (first.type.bare = second.type.bare ↔ first.type.mapKeys = second.type.mapKeys) := by
  have collected := collected_of_collect success
  have sameBase : first.type.base = second.type.base := (String.append_left_inj _).1 shared
  obtain ⟨wrapped, found, sameCore⟩ := (collected.members _ declared).wrapped first among reference
  obtain ⟨wrappedToo, foundToo, sameCoreToo⟩ :=
    (collected.members _ declaredToo).wrapped second amongToo referenceToo
  rw [sameBase, foundToo] at found
  cases found
  obtain ⟨expression, writable, described⟩ :=
    exists_writable_of_collect success readable declared among
  obtain ⟨expressionToo, writableToo, describedToo⟩ :=
    exists_writable_of_collect success readable declaredToo amongToo
  obtain ⟨samePackage, sameName⟩ :=
    writable.core_eq writableToo described describedToo (sameCore.symm.trans sameCoreToo)
  exact ⟨samePackage, sameName, Descriptor.bare_eq_iff sameBase samePackage sameName⟩

/-- Two aliases whose names differ in a capital letter, and references to maps with the one and the
other for keys. -/
def capitalKeyUnits : List DeclUnit :=
  [⟨"keys", "p", [.alias "k" (.named [] "int") "keys", .alias "K" (.named [] "string") "keys",
    .struct "M" [] "keys",
    .struct "T" [⟨["A"], .map (.named [] "k") (.named [] "M"), some "ref:\"a\""⟩,
      ⟨["B"], .map (.named [] "K") (.named [] "M"), some "ref:\"b\""⟩] "keys"]⟩]

/-- The first reference. -/
def lowerKeyMember : Member :=
  ⟨"A", .map (.named "" "k") (.named "" "M"), some (.reference "A" "a" .id false)⟩

/-- The second reference. -/
def upperKeyMember : Member :=
  ⟨"B", .map (.named "" "K") (.named "" "M"), some (.reference "B" "b" .id false)⟩

/-- The package of the declarations. -/
def capitalKeyPackage : Package where
  name := "p"
  settings := {}
  units := ["keys"]
  types := (capitalKeyUnits.flatMap (·.decls)).map fun decl => (decl.name, decl)
  aliases := [("k", .named "" "int"), ("K", .named "" "string")]
  structs := [("M", []), ("T", [lowerKeyMember, upperKeyMember])]
  referenced := [("MapOfKToM", lowerKeyMember.type)]
  imported := []

/-- The package is what the declarations are collected to. -/
theorem collect_capitalKey : collect "p" {} capitalKeyUnits = .ok capitalKeyPackage :=
  eq_ok_of_toOption (by decide +kernel)

/-- The types of the declarations are read from texts. -/
theorem readable_capitalKey : ∀ unit ∈ capitalKeyUnits, ∀ type ∈ unit.types, type.Readable := by
  have writable : ∀ unit ∈ capitalKeyUnits, ∀ type ∈ unit.types, type.Writable := by decide
  intro unit isUnit type member
  exact (TypeExpr.readable_iff type).2 (writable unit isUnit type member)

/-- The two references are an instance. -/
theorem eq_of_wrapperName_capitalKey :
    capitalKeyPackage.wrapperName lowerKeyMember.type =
        capitalKeyPackage.wrapperName upperKeyMember.type ∧
      (lowerKeyMember.type.bare = upperKeyMember.type.bare ↔
        lowerKeyMember.type.mapKeys = upperKeyMember.type.mapKeys) := by
  have shared : capitalKeyPackage.wrapperName lowerKeyMember.type =
      capitalKeyPackage.wrapperName upperKeyMember.type := by decide +kernel
  have declared : ("T", [lowerKeyMember, upperKeyMember]) ∈ capitalKeyPackage.structs := by
    simp [capitalKeyPackage]
  exact ⟨shared, (eq_of_wrapperName collect_capitalKey readable_capitalKey declared declared
    (by simp) (by simp) rfl rfl shared).2.2⟩

/-- They have one wrapper although their types differ in a map key. -/
theorem not_eq_of_wrapperName_capitalKey :
    collect "p" {} capitalKeyUnits = .ok capitalKeyPackage ∧
      ("T", [lowerKeyMember, upperKeyMember]) ∈ capitalKeyPackage.structs ∧
      lowerKeyMember.isReference = true ∧ upperKeyMember.isReference = true ∧
      capitalKeyPackage.wrapperName lowerKeyMember.type =
        capitalKeyPackage.wrapperName upperKeyMember.type ∧
      lowerKeyMember.type.bare ≠ upperKeyMember.type.bare :=
  ⟨collect_capitalKey, by simp [capitalKeyPackage], rfl, rfl, by decide +kernel, by decide⟩

end Package

end DeclCodec
