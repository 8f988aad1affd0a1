import DeclCodec.Emit.Codec
import DeclCodec.Proofs.Emit.Expansion
import Mathlib.Logic.Relation

/-!
# How structs use each other

A struct uses another one if the type of a member on the wire mentions it, or if
it holds it by value: then a new instance of the first has a new instance of the
second in it. The structs of a collected package do not hold each other in a
circle, so they have ranks that go down from a struct to those that it holds.

A package is portable if its types can be written and read without anything from
outside: no declared type is taken for a builtin one, no type is of another
package, raw JSON text apart, and identifiers are integers or texts. The shape of
a type then has only builtin classes in it and those of the structs mentioned.
-/

namespace DeclCodec

namespace Member

/-- The names under which something can be received for a member: its name on the wire, and for a
reference that of its identifier as well. -/
def receivedNames (member : Member) : List Points :=
  match member.policy with
  | some (.plain wireName _) => [wireName]
  | some (.reference wireName idName _ _) => [wireName, idName]
  | _ => []

end Member

namespace Package

variable {package : Package}

/-- The structs that a type mentions, apart from its map keys, those behind aliases included. -/
inductive Mentions (package : Package) : Descriptor → String → Prop
  | following {path name struct : String} {target : Descriptor}
      (found : package.aliasTarget? path name = some target)
      (inside : Mentions package target struct) : Mentions package (.named path name) struct
  | here {name : String} {members : List Member}
      (declared : package.structs.lookup name = some members) :
        Mentions package (.named "" name) name
  | pointer {elem : Descriptor} {struct : String} (inside : Mentions package elem struct) :
      Mentions package (.pointer elem) struct
  | slice {elem : Descriptor} {struct : String} (inside : Mentions package elem struct) :
      Mentions package (.slice elem) struct
  | value {key value : Descriptor} {struct : String} (inside : Mentions package value struct) :
      Mentions package (.map key value) struct

/-- A struct sends another one if the type of a member on the wire mentions it. -/
def Sends (package : Package) (struct other : String) : Prop :=
  ∃ members, package.structs.lookup struct = some members ∧
    ∃ member ∈ members, member.isWired = true ∧ Mentions package member.type other

/-- A struct holds another one by value if a new instance of it has one of the other in it. -/
def Holds (package : Package) (struct other : String) : Prop :=
  ∃ members, package.structs.lookup struct = some members ∧
    ∃ member ∈ members, member.isReference = false ∧
      package.defaultOf member.type = .fresh other

/-- A struct uses those that it sends and those that it holds. -/
def Uses (package : Package) (struct other : String) : Prop :=
  Sends package struct other ∨ Holds package struct other

/-- The classes of the structs used by a struct, by what it uses and so on, are known by their own
names where they are used. -/
def Visible (package : Package) (struct : String) : Prop :=
  ∀ user, Relation.ReflTransGen (Uses package) struct user →
    ∀ other, Uses package user other → scopedName user other = other

/-- In a struct, in those that it sends, in those that they send and so on, different things are
received under different names. -/
def Distinct (package : Package) (struct : String) : Prop :=
  ∀ sender, Relation.ReflTransGen (Sends package) struct sender →
    ∀ members, package.structs.lookup sender = some members →
      (members.flatMap Member.receivedNames).Nodup

/-- In a struct, in those that it sends, in those that they send and so on, no name that is written
has surrogate pairs to be joined. -/
def NamesJoined (package : Package) (struct : String) : Prop :=
  ∀ sender, Relation.ReflTransGen (Sends package) struct sender →
    ∀ members, package.structs.lookup sender = some members →
      ∀ member ∈ members, ∀ write, member.write? = some write → Text.IsJoined write.key

/-- A package whose types can be written and read without anything from outside. -/
structure Portable (package : Package) : Prop where
  notBuiltin : ∀ entry ∈ package.types, isBuiltin entry.1 = false
  aliasesLocal : ∀ entry ∈ package.aliases, entry.2.foreignPackages = []
  membersLocal : ∀ entry ∈ package.structs, ∀ member ∈ entry.2, member.type.foreignPackages = []
  identifiers : ∃ name, package.idType = .ok (.named "" name) ∧
    (Primitive.ofName? name = some .int ∨ Primitive.ofName? name = some .text)

/-- What is used by a visible struct is visible. -/
theorem Visible.of_uses {struct other : String} (visible : Visible package struct)
    (uses : Uses package struct other) : Visible package other :=
  fun user reaches => visible user (reaches.head uses)

/-- What is sent by a struct with distinct names has distinct names. -/
theorem Distinct.of_sends {struct other : String} (distinct : Distinct package struct)
    (sends : Sends package struct other) : Distinct package other :=
  fun sender reaches => distinct sender (reaches.head sends)

/-- Every struct has distinct names if the members of each have. -/
theorem Distinct.of_forall {struct : String}
    (each : ∀ entry ∈ package.structs, (entry.2.flatMap Member.receivedNames).Nodup) :
    Distinct package struct :=
  fun _ _ _ declared => each _ (Table.mem_of_lookup declared)

/-- What is sent by a struct with such names has such names. -/
theorem NamesJoined.of_sends {struct other : String} (joined : NamesJoined package struct)
    (sends : Sends package struct other) : NamesJoined package other :=
  fun sender reaches => joined sender (reaches.head sends)

/-- Every struct has such names if the members of each have. -/
theorem NamesJoined.of_forall {struct : String} (each : ∀ entry ∈ package.structs,
    ∀ write ∈ entry.2.filterMap Member.write?, Text.IsJoined write.key) :
    NamesJoined package struct :=
  fun _ _ _ declared _ among _ writes =>
    each _ (Table.mem_of_lookup declared) _ (List.mem_filterMap.2 ⟨_, among, writes⟩)

/-- A struct with members is declared as a struct. -/
theorem Gathered.struct_of_lookup (gathered : Gathered package) {name : String}
    {members : List Member} (declared : package.structs.lookup name = some members) :
    ∃ fields unit, package.types.lookup name = some (.struct name fields unit) := by
  have isStruct : name ∈ package.structs.map (·.1) :=
    Table.isSome_lookup_iff.1 (by rw [declared]; rfl)
  rw [gathered.structNames] at isStruct
  obtain ⟨decl, found, isName⟩ := gathered.lookup_of_named Decl.name_of_structName? isStruct
  obtain ⟨_, fields, unit⟩ | ⟨_, type, unit⟩ := decl
  · cases isName
    exact ⟨fields, unit, found⟩
  · cases isName

/-- A struct is no alias. -/
theorem Gathered.aliasTarget?_of_lookup (gathered : Gathered package) {name : String}
    {members : List Member} (declared : package.structs.lookup name = some members) :
    package.aliasTarget? "" name = none := by
  obtain ⟨fields, unit, found⟩ := gathered.struct_of_lookup declared
  simp [aliasTarget?, found]

/-- A declared name is no builtin one. -/
theorem Portable.ofName?_eq_none (portable : Portable package) {name : String} {decl : Decl}
    (declared : package.types.lookup name = some decl) : Primitive.ofName? name = none := by
  have notBuiltin := portable.notBuiltin _ (Table.mem_of_lookup declared)
  rw [isBuiltin, Option.isSome_eq_false_iff, Option.isNone_iff_eq_none] at notBuiltin
  exact notBuiltin

/-! ## Structs held by value -/

/-- A type whose default is a new instance holds the struct of the instance. Aliases are followed,
so the induction is on a bound of their ranks. -/
theorem heldStruct?_of_fresh (grounded : Grounded package)
    {rank : String → Nat} (ranked : AliasRank package rank) {bound steps : Nat} {type : Descriptor}
    (known : type.Known package.types) (below : package.Below rank bound type)
    (enough : bound < steps) {struct : String}
    (fresh : package.defaultOf type = .fresh struct) :
    package.heldStruct? steps type = some struct ∧
      ∃ members, package.structs.lookup struct = some members := by
  induction bound using Nat.strongRecOn generalizing steps type with
  | ind bound lowerRanks =>
    obtain ⟨steps, rfl⟩ : ∃ fewer, steps = fewer + 1 := ⟨steps - 1, by omega⟩
    cases type with
    | named path name =>
      by_cases isLocal : path = ""
      · subst isLocal
        cases builtin : Primitive.ofName? name with
        | some primitive =>
          rw [defaultOf_builtin builtin] at fresh
          cases primitive <;> cases fresh
        | none =>
          have isDeclared : (package.types.lookup name).isSome = true := by
            refine (known name (by simp [Descriptor.localNames])).resolve_left ?_
            simp [isBuiltin, builtin]
          obtain ⟨decl, declared⟩ := Option.isSome_iff_exists.1 isDeclared
          have sameName : decl.name = name := grounded.typesNamed _ (Table.mem_of_lookup declared)
          obtain ⟨declaredName, fields, unit⟩ | ⟨declaredName, expression, unit⟩ := decl
          · have isName : declaredName = name := sameName
            have noAlias : package.aliasTarget? "" name = none := by simp [aliasTarget?, declared]
            rw [defaultOf_struct builtin noAlias, Default.fresh.injEq] at fresh
            subst fresh
            exact ⟨by simp [heldStruct?, declared, isName], grounded.members_isSome declared⟩
          · obtain ⟨target, found⟩ := grounded.aliasTarget?_isSome declared
            have lower := below.rank_lt found
            rw [grounded.defaultOf_following builtin found] at fresh
            have followed := lowerRanks (rank name) lower (grounded.target_known found)
              (ranked.lower "" name target found) (by omega : rank name < steps) fresh
            have isName : declaredName = name := sameName
            subst isName
            simpa [heldStruct?, declared, (lookup_of_aliasTarget? found).2] using followed
      · rw [defaultOf_foreign isLocal] at fresh
        cases fresh
    | _ => simp [defaultOf, defaultWithin] at fresh

/-- What holds a struct by value is the struct's name or that of an alias for something that holds
it. -/
theorem Gathered.heldStruct?_cases (gathered : Gathered package) {steps : Nat} {type : Descriptor}
    {struct : String} (held : package.heldStruct? (steps + 1) type = some struct) :
    ∃ name decl, type = .named "" name ∧ package.types.lookup name = some decl ∧
      ((name = struct ∧ package.aliasTarget? "" name = none) ∨
        ∃ target, package.aliasTarget? "" name = some target ∧
          package.heldStruct? steps target = some struct) := by
  cases type with
  | named path name =>
    rw [heldStruct?] at held
    split at held
    · next isLocal =>
      subst isLocal
      split at held
      · next declared fields unit found =>
        cases held
        have sameName : struct = name := gathered.typesNamed _ (Table.mem_of_lookup found)
        exact ⟨name, _, rfl, found, .inl ⟨sameName.symm, by simp [aliasTarget?, found]⟩⟩
      · next declared type unit found =>
        have sameName : declared = name := gathered.typesNamed _ (Table.mem_of_lookup found)
        subst sameName
        split at held
        · next target isTarget =>
          exact ⟨declared, _, rfl, found,
            .inr ⟨target, by simp [aliasTarget?, found, isTarget], held⟩⟩
        · cases held
      · cases held
    · cases held
  | _ => simp [heldStruct?] at held

/-- A struct that is held is declared. -/
theorem Gathered.members_of_heldStruct? (gathered : Gathered package) {steps : Nat}
    {type : Descriptor} {struct : String} (held : package.heldStruct? steps type = some struct) :
    ∃ members, package.structs.lookup struct = some members := by
  induction steps generalizing type with
  | zero => simp [heldStruct?] at held
  | succ steps inductionHypothesis =>
    obtain ⟨name, decl, _, found, ⟨rfl, isCore⟩ | ⟨target, _, heldToo⟩⟩ :=
      gathered.heldStruct?_cases held
    · exact gathered.members_of_core (by simp [found]) isCore
    · exact inductionHypothesis heldToo

/-- The structs that members hold by value. A reference holds nothing. -/
def heldStructs (package : Package) (members : List Member) : List String :=
  (members.filter fun member => !member.isReference).filterMap fun member =>
    package.heldStruct? (package.aliases.length + 1) member.type

/-- They are declared. -/
theorem Gathered.isSome_of_held (gathered : Gathered package) {members : List Member}
    {other : String} (held : other ∈ package.heldStructs members) :
    (package.structs.lookup other).isSome = true := by
  obtain ⟨member, _, isHeld⟩ := List.mem_filterMap.1 held
  exact Option.isSome_iff_exists.2 (gathered.members_of_heldStruct? isHeld)

/-- The structs of a collected package have ranks below their number. A struct holds declared
structs of lower ranks only. -/
theorem Collected.exists_structRank (collected : Collected package) :
    ∃ rank : String → Nat,
      (∀ struct members, package.structs.lookup struct = some members →
        rank struct < package.structs.length) ∧
      ∀ struct other, Holds package struct other →
        rank other < rank struct ∧ ∃ members, package.structs.lookup other = some members := by
  have closed : ∀ struct members, package.structs.lookup struct = some members →
      ∀ other ∈ package.heldStructs members, (package.structs.lookup other).isSome = true :=
    fun _ _ _ _ held => collected.isSome_of_held held
  obtain ⟨rank, lower⟩ := Graph.exists_rank_of_table closed collected.structsAcyclic
  obtain ⟨aliasRank, ranked⟩ := collected.exists_aliasRank
  refine ⟨rank, fun struct members declared => (lower struct members declared).1, ?_⟩
  rintro struct other ⟨members, declared, member, among, plain, fresh⟩
  have known := (collected.members _ (Table.mem_of_lookup declared)).known member among
  obtain ⟨held, isDeclared⟩ := heldStruct?_of_fresh collected.toGrounded ranked known
    (ranked.bounded member.type) (Nat.lt_succ_self _) fresh
  refine ⟨(lower struct members declared).2 other ?_, isDeclared⟩
  exact List.mem_filterMap.2 ⟨member, List.mem_filter.2 ⟨among, by simp [plain]⟩, held⟩

end Package

end DeclCodec
