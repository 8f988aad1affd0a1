import DeclCodec.Proofs.Emit.Annotations
import DeclCodec.Proofs.Package.Refused
import DeclCodec.Proofs.Session.Fresh

/-!
# New structs that come to an end

A new struct has new structs in it: those that it holds by value, as their names
are meant in its class. A package is refused if its structs hold each other in a
circle, so in a collected one making a struct comes to an end, as long as every
name means the struct that is held. A private name can mean another one, and that
circle is not looked for.

Conversely a package is refused as recursive only where something has no end. In a
circle of aliases no alias is ever replaced, and in a circle of structs, where the
names mean what they say, no struct is ever made.
-/

namespace DeclCodec.Package

variable {package : Package} {codecs : Codecs} {struct : String} {members : List Member}

/-- A new instance of a struct has one of another in it: the one that is meant in its class by the
name of a struct that it holds. -/
def Makes (package : Package) (struct other : String) : Prop :=
  ∃ held, Holds package struct held ∧ scopedName struct held = other

/-- Every struct that is held is meant by its own name. -/
def KnownByName (package : Package) : Prop :=
  ∀ struct held, Holds package struct held → scopedName struct held = held

/-- What a collected package holds by value is declared. -/
theorem Grounded.members_of_holds (grounded : Grounded package) {held : String}
    (holds : Holds package struct held) :
    ∃ members, package.structs.lookup held = some members := by
  obtain ⟨rank, ranked⟩ := grounded.exists_aliasRank
  obtain ⟨members, declared, member, among, _, isFresh⟩ := holds
  have known := (grounded.members _ (Table.mem_of_lookup declared)).known member among
  exact (heldStruct?_of_fresh grounded ranked known (ranked.bounded member.type)
    (Nat.lt_succ_self _) isFresh).2

/-- If every held struct is known by its name, then everything in a new struct is declared. -/
theorem KnownByName.closed (known : KnownByName package) (grounded : Grounded package)
    (struct other : String) (makes : Makes package struct other) :
    ∃ members, package.structs.lookup other = some members := by
  obtain ⟨held, holds, rfl⟩ := makes
  rw [known struct held holds]
  exact grounded.members_of_holds holds

/-- No declared type of a package is named like a builtin one, if none is in its units. -/
theorem Gathers.ofName?_eq_none {name : String} {settings : Settings} {units : List DeclUnit}
    (gathers : Gathers name settings units package)
    (notBuiltin : ∀ unit ∈ units, ∀ decl ∈ unit.decls, isBuiltin decl.name = false)
    (key : String) (decl : Decl) (found : package.types.lookup key = some decl) :
    Primitive.ofName? key = none := by
  have held := Table.mem_of_lookup found
  have isKey : decl.name = key := gathers.gathered.typesNamed _ held
  obtain ⟨unit, among, declares⟩ := gathers.mem_decls_iff.1 (List.mem_map_of_mem held)
  have isNew := notBuiltin unit among decl declares
  rw [isKey, isBuiltin, Option.isSome_eq_false_iff, Option.isNone_iff_eq_none] at isNew
  exact isNew

end DeclCodec.Package
