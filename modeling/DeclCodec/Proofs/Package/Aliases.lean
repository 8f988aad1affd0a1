import DeclCodec.Emit.Default
import DeclCodec.Emit.Shape
import DeclCodec.Proofs.Package.Collected

/-!
# Following aliases

In a collected package the aliases have ranks below their number, and an alias
mentions only aliases of lower ranks. So aliases can be followed until none is
left, and whatever follows them step by step never runs out of steps: the shapes,
the key shapes, the defaults and the expanded annotations of types satisfy the
equations that one would define them by.

Types of a collected package are treated by the induction that these equations
ask for: besides the cases of a type there is one for an alias, in which the
type that it stands for is done already.
-/

namespace DeclCodec.Package

variable {package : Package}

/-- An alias is found under its name among the aliases. -/
theorem lookup_of_aliasTarget? {path name : String} {target : Descriptor}
    (found : package.aliasTarget? path name = some target) :
    path = "" ∧ package.aliases.lookup name = some target := by
  unfold aliasTarget? at found
  split at found
  · next isLocal =>
    split at found
    · exact ⟨isLocal, found⟩
    · cases found
  · cases found

/-- An alias is declared. -/
theorem isDeclared_of_aliasTarget? {path name : String} {target : Descriptor}
    (found : package.aliasTarget? path name = some target) :
    ∃ decl, package.types.lookup name = some decl := by
  unfold aliasTarget? at found
  cases declared : package.types.lookup name with
  | none => simp [declared] at found
  | some decl => exact ⟨decl, rfl⟩

/-- Every declared alias stands for something. -/
theorem Gathered.aliasTarget?_isSome (gathered : Gathered package) {name declared unit : String}
    {type : TypeExpr} (found : package.types.lookup name = some (.alias declared type unit)) :
    ∃ target, package.aliasTarget? "" name = some target := by
  have member := Table.mem_of_lookup found
  have sameName : declared = name := gathered.typesNamed _ member
  have isAlias : name ∈ package.aliases.map (·.1) := by
    rw [gathered.aliasNames, List.mem_filterMap]
    exact ⟨_, List.mem_map.2 ⟨_, member, rfl⟩, by rw [sameName]; rfl⟩
  obtain ⟨target, isTarget⟩ := Option.isSome_iff_exists.1 (Table.isSome_lookup_iff.2 isAlias)
  exact ⟨target, by simp [aliasTarget?, found, isTarget]⟩

/-- Every declared struct has its members. -/
theorem Gathered.members_isSome (gathered : Gathered package) {name declared unit : String}
    {fields : List Field}
    (found : package.types.lookup name = some (.struct declared fields unit)) :
    ∃ members, package.structs.lookup name = some members := by
  have member := Table.mem_of_lookup found
  have sameName : declared = name := gathered.typesNamed _ member
  have isStruct : name ∈ package.structs.map (·.1) := by
    rw [gathered.structNames, List.mem_filterMap]
    exact ⟨_, List.mem_map.2 ⟨_, member, rfl⟩, by rw [sameName]; rfl⟩
  exact Option.isSome_iff_exists.1 (Table.isSome_lookup_iff.2 isStruct)

/-- A declared name that is no alias is that of a struct. -/
theorem Gathered.members_of_core (gathered : Gathered package) {name : String}
    (declared : ¬(package.types.lookup name).isNone = true)
    (core : package.aliasTarget? "" name = none) :
    ∃ members, package.structs.lookup name = some members := by
  rw [Option.isNone_iff_eq_none, ← ne_eq, Option.ne_none_iff_exists'] at declared
  obtain ⟨decl, found⟩ := declared
  obtain ⟨declaredName, fields, unit⟩ | ⟨declaredName, expression, unit⟩ := decl
  · exact gathered.members_isSome found
  · obtain ⟨target, isAlias⟩ := gathered.aliasTarget?_isSome found
    rw [isAlias] at core
    cases core

/-- What an alias stands for mentions known types only. -/
theorem Gathered.target_known (gathered : Gathered package) {path name : String}
    {target : Descriptor} (found : package.aliasTarget? path name = some target) :
    target.Known package.types :=
  gathered.targets _ (Table.mem_of_lookup (lookup_of_aliasTarget? found).2)

/-- The aliases that a type mentions all have ranks below a bound. -/
def Below (package : Package) (rank : String → Nat) (bound : Nat) (type : Descriptor) : Prop :=
  ∀ name ∈ type.localNames, ∀ target, package.aliasTarget? "" name = some target →
    rank name < bound

/-- Ranks of aliases: they are below the number of aliases, and what an alias stands for mentions
aliases of lower ranks only. -/
structure AliasRank (package : Package) (rank : String → Nat) : Prop where
  bounded : ∀ type, package.Below rank package.aliases.length type
  lower : ∀ path name target, package.aliasTarget? path name = some target →
    package.Below rank (rank name) target

/-- The aliases of a collected package have ranks. -/
theorem Grounded.exists_aliasRank (grounded : Grounded package) :
    ∃ rank, AliasRank package rank := by
  have closed : ∀ key target, package.aliases.lookup key = some target →
      ∀ other ∈ target.localNames.filter fun next => (package.aliases.lookup next).isSome,
        (package.aliases.lookup other).isSome = true :=
    fun _ _ _ other mentioned => (List.mem_filter.1 mentioned).2
  obtain ⟨rank, ranked⟩ := Graph.exists_rank_of_table closed grounded.aliasesAcyclic
  refine ⟨rank, ?_, ?_⟩
  · intro type name _ target found
    exact (ranked name target (lookup_of_aliasTarget? found).2).1
  · intro path name target found next mentioned nextTarget nextFound
    refine (ranked name target (lookup_of_aliasTarget? found).2).2 next ?_
    rw [List.mem_filter, (lookup_of_aliasTarget? nextFound).2]
    exact ⟨mentioned, rfl⟩

/-- A bound on the aliases of a part. -/
theorem Below.of_map {rank : String → Nat} {bound : Nat} {key value : Descriptor}
    (below : package.Below rank bound (.map key value)) :
    package.Below rank bound key ∧ package.Below rank bound value :=
  ⟨fun name member => below name (List.mem_append_left _ member),
    fun name member => below name (List.mem_append_right _ member)⟩

/-- An alias itself has a rank below the bound. -/
theorem Below.rank_lt {rank : String → Nat} {bound : Nat} {path name : String}
    {target : Descriptor} (below : package.Below rank bound (.named path name))
    (found : package.aliasTarget? path name = some target) : rank name < bound := by
  obtain ⟨rfl, _⟩ := lookup_of_aliasTarget? found
  exact below name (by simp [Descriptor.localNames]) target found

/-- The bound may be larger. -/
theorem Below.mono {rank : String → Nat} {bound larger : Nat} {type : Descriptor}
    (below : package.Below rank bound type) (le : bound ≤ larger) :
    package.Below rank larger type :=
  fun name member target found => Nat.lt_of_lt_of_le (below name member target found) le

/-- Induction over the types of a collected package. An alias comes after the type that it stands
for. -/
theorem Grounded.induction (grounded : Grounded package) {motive : Descriptor → Prop}
    (following : ∀ {path name target}, package.aliasTarget? path name = some target →
      motive target → motive (.named path name))
    (core : ∀ {path name}, package.aliasTarget? path name = none → motive (.named path name))
    (pointer : ∀ {elem}, motive elem → motive (.pointer elem))
    (slice : ∀ {elem}, motive elem → motive (.slice elem))
    (map : ∀ {key value}, motive key → motive value → motive (.map key value))
    (type : Descriptor) : motive type := by
  obtain ⟨rank, ranked⟩ := grounded.exists_aliasRank
  have below : ∀ bound type, package.Below rank bound type → motive type := by
    intro bound
    induction bound using Nat.strongRecOn with
    | ind bound lowerRanks =>
      intro type below
      induction type with
      | named path name =>
        cases found : package.aliasTarget? path name with
        | none => exact core found
        | some target =>
          exact following found
            (lowerRanks (rank name) (below.rank_lt found) target
              (ranked.lower path name target found))
      | pointer elem elem_ih => exact pointer (elem_ih below)
      | slice elem elem_ih => exact slice (elem_ih below)
      | map key value key_ih value_ih => exact map (key_ih below.of_map.1) (value_ih below.of_map.2)
  exact below _ type (ranked.bounded type)

/-! ## Following aliases within a number of steps -/

/-- What is made of a type within a number of steps depends on what is made of the aliases that the
type mentions, each of which takes a step. -/
def Follows (package : Package) {α : Type} (within : Nat → Descriptor → α) : Prop :=
  ∀ steps others type, (∀ name ∈ type.localNames, ∀ target,
    package.aliasTarget? "" name = some target → ∃ fewer fewerOthers, steps = fewer + 1 ∧
      others = fewerOthers + 1 ∧ within fewer target = within fewerOthers target) →
    within steps type = within others type

/-- More steps than there are ranks make no difference. -/
theorem Follows.within_eq {α : Type} {within : Nat → Descriptor → α}
    (follows : package.Follows within) {rank : String → Nat} (ranked : AliasRank package rank)
    {bound steps : Nat} {type : Descriptor} (below : package.Below rank bound type)
    (enough : bound ≤ steps) : within steps type = within bound type := by
  induction bound generalizing steps type with
  | zero => exact follows _ _ _ fun name member target found =>
      absurd (below name member target found) (Nat.not_lt_zero _)
  | succ bound lowerRanks =>
    refine follows _ _ _ fun name member target found => ⟨steps - 1, bound, by omega, rfl, ?_⟩
    have lower : package.Below rank bound target :=
      (ranked.lower "" name target found).mono (Nat.le_of_lt_succ (below name member target found))
    exact lowerRanks lower (by omega)

/-- As many steps as there are aliases are enough: what is made of a type is made of what an alias
stands for, if the type needs but one step to get there. -/
theorem Follows.eq_of_step {α : Type} {within : Nat → Descriptor → α}
    (follows : package.Follows within) (grounded : Grounded package) {type target : Descriptor}
    {name : String} (inside : name ∈ type.localNames)
    (found : package.aliasTarget? "" name = some target)
    (step : ∀ steps, within (steps + 1) type = within steps target) :
    within package.aliases.length type = within package.aliases.length target := by
  obtain ⟨rank, ranked⟩ := grounded.exists_aliasRank
  have positive := ranked.bounded type name inside target found
  obtain ⟨steps, count⟩ : ∃ steps, package.aliases.length = steps + 1 :=
    ⟨package.aliases.length - 1, by omega⟩
  have lower := ranked.lower "" name target found
  have more := follows.within_eq ranked lower (by omega : rank name ≤ steps)
  have most := follows.within_eq ranked lower (by omega : rank name ≤ steps + 1)
  rw [count, step, more, most]

/-! ## Shapes -/

/-- The shape of a type depends on what becomes of the aliases that the type mentions. -/
theorem shapeWith_congr {onAlias other : Descriptor → Except Fault Shape} {type : Descriptor}
    (agree : ∀ path name target, package.aliasTarget? path name = some target →
      name ∈ type.localNames → onAlias target = other target) :
    package.shapeWith onAlias type = package.shapeWith other type := by
  induction type with
  | named path name =>
    unfold shapeWith
    cases found : package.aliasTarget? path name with
    | none => rfl
    | some target =>
      obtain ⟨rfl, _⟩ := lookup_of_aliasTarget? found
      exact agree "" name target found (by simp [Descriptor.localNames])
  | pointer elem elem_ih => rw [shapeWith, elem_ih agree, shapeWith]
  | slice elem elem_ih => rw [shapeWith, elem_ih agree, shapeWith]
  | map key value _ value_ih =>
    have agreeOnValue : ∀ path name target, package.aliasTarget? path name = some target →
        name ∈ value.localNames → onAlias target = other target :=
      fun path name target found member =>
        agree path name target found (List.mem_append_right _ member)
    rw [shapeWith, value_ih agreeOnValue, shapeWith]

/-- The shape of a type follows the aliases that the type mentions. -/
theorem follows_shape : package.Follows package.shapeWithin := by
  intro steps others type agree
  cases steps <;> cases others <;> simp only [shapeWithin] <;>
    refine shapeWith_congr fun path name target found member => ?_ <;>
    obtain ⟨rfl, _⟩ := lookup_of_aliasTarget? found <;>
    obtain ⟨fewer, fewerOthers, positive, otherPositive, same⟩ := agree name member target found <;>
    cases positive <;> cases otherPositive
  exact same

/-- The shape of an alias is the shape of what it stands for. -/
theorem Grounded.shape_following (grounded : Grounded package) {path name : String}
    {target : Descriptor} (found : package.aliasTarget? path name = some target) :
    package.shape (.named path name) = package.shape target := by
  obtain ⟨rfl, _⟩ := lookup_of_aliasTarget? found
  refine follows_shape.eq_of_step grounded (by simp [Descriptor.localNames]) found fun steps => ?_
  rw [shapeWithin, shapeWith, found]

/-- The class of a name that is no alias. -/
inductive HasClass (package : Package) : String → String → Class → Prop
  | raw {path name : String} (elsewhere : path ≠ "") (isRaw : isRawMessage path name = true) :
      HasClass package path name .raw
  | foreign {path name : String} (elsewhere : path ≠ "") (notRaw : isRawMessage path name = false) :
      HasClass package path name (.foreign (Descriptor.qualify path name))
  | builtin {name : String} {primitive : Primitive}
      (kind : Primitive.ofName? name = some primitive) :
      HasClass package "" name (.ofPrimitive primitive)
  | declared {name : String} (notBuiltin : Primitive.ofName? name = none)
      (isDeclared : ¬(package.types.lookup name).isNone = true) :
      HasClass package "" name (.declared name)

/-- A name has a class unless it is unknown. -/
theorem classOf_eq_ok_iff {path name : String} {cls : Class} :
    package.classOf path name = .ok cls ↔ HasClass package path name cls := by
  constructor
  · intro isClass
    unfold classOf at isClass
    split at isClass
    · next elsewhere =>
      cases isClass
      split
      · next isRaw => exact .raw elsewhere isRaw
      · next notRaw => exact .foreign elsewhere (Bool.eq_false_iff.2 notRaw)
    · next here =>
      rw [Decidable.not_not] at here
      subst here
      split at isClass
      · next kind =>
        cases isClass
        exact .builtin kind
      · next notBuiltin =>
        split at isClass
        · cases isClass
        · next isDeclared =>
          cases isClass
          exact .declared notBuiltin isDeclared
  · intro hasClass
    cases hasClass with
    | raw elsewhere isRaw => rw [classOf, if_pos elsewhere, if_pos isRaw]
    | foreign elsewhere notRaw => rw [classOf, if_pos elsewhere, notRaw]; rfl
    | builtin kind => simp [classOf, kind]
    | declared notBuiltin isDeclared => simpa [classOf, notBuiltin] using isDeclared

/-- The shape of a name that is no alias is its class. -/
theorem shape_core {path name : String} (core : package.aliasTarget? path name = none) :
    package.shape (.named path name) = Shape.named <$> package.classOf path name := by
  unfold shape
  cases package.aliases.length <;> rw [shapeWithin, shapeWith, core] <;> rfl

/-- The shape of a pointer. -/
theorem shape_pointer (elem : Descriptor) :
    package.shape (.pointer elem) = Shape.pointer <$> package.shape elem := by
  unfold shape
  cases package.aliases.length <;> rfl

/-- The shape of a slice. -/
theorem shape_slice (elem : Descriptor) :
    package.shape (.slice elem) = Shape.slice <$> package.shape elem := by
  unfold shape
  cases package.aliases.length <;> rfl

/-- The shape of a map, of which the value is looked at before the key. -/
theorem shape_map (key value : Descriptor) :
    package.shape (.map key value) = (do
      let valueShape ← package.shape value
      let keyShape ← package.keyShape key
      pure (.map keyShape valueShape)) := by
  unfold shape
  cases package.aliases.length <;> rfl

/-! ## Shapes of map keys -/

attribute [local simp] keyShapeWithin

/-- The name at the core of a type is among the names that the type mentions. -/
theorem typeName_mem_localNames {type : Descriptor} (isLocal : type.package = "") :
    type.typeName ∈ type.localNames := by
  induction type with
  | named path name =>
    have isEmpty : path = "" := isLocal
    rw [Descriptor.localNames, if_pos isEmpty]
    exact List.mem_singleton_self name
  | pointer elem inductionHypothesis => exact inductionHypothesis isLocal
  | slice elem inductionHypothesis => exact inductionHypothesis isLocal
  | map key value _ inductionHypothesis =>
    exact List.mem_append_right _ (inductionHypothesis isLocal)

/-- The shape of a map key follows the alias at the core of the key. -/
theorem follows_keyShape : package.Follows package.keyShapeWithin := by
  intro steps others key agree
  cases found : package.aliasTarget? key.package key.typeName with
  | none => cases steps <;> cases others <;> simp [found]
  | some target =>
    obtain ⟨isLocal, _⟩ := lookup_of_aliasTarget? found
    obtain ⟨fewer, fewerOthers, rfl, rfl, same⟩ :=
      agree key.typeName (typeName_mem_localNames isLocal) target (isLocal ▸ found)
    rw [keyShapeWithin, keyShapeWithin, found]
    exact same

/-- A key with an alias at its core has the shape of what the alias stands for, whatever layers it
has. -/
theorem Grounded.keyShape_following (grounded : Grounded package) {key target : Descriptor}
    (found : package.aliasTarget? key.package key.typeName = some target) :
    package.keyShape key = package.keyShape target := by
  obtain ⟨isLocal, _⟩ := lookup_of_aliasTarget? found
  refine follows_keyShape.eq_of_step grounded (typeName_mem_localNames isLocal) (isLocal ▸ found)
    fun steps => ?_
  rw [keyShapeWithin, found]

/-- A key without an alias at its core has to be a bare integer or text. -/
theorem keyShape_core {key : Descriptor}
    (core : package.aliasTarget? key.package key.typeName = none) :
    package.keyShape key = plainKeyShape key := by
  unfold keyShape
  cases package.aliases.length <;> rw [keyShapeWithin, core]

/-! ## Defaults -/

attribute [local simp] defaultWithin

/-- The default of a name of this package that is not builtin. -/
theorem defaultWithin_named {steps : Nat} {name : String}
    (notBuiltin : Primitive.ofName? name = none) :
    package.defaultWithin (steps + 1) (.named "" name) =
      match package.aliasTarget? "" name with
      | some target => package.defaultWithin steps target
      | none => .fresh name := by
  cases found : package.aliasTarget? "" name <;> simp [notBuiltin, found]

/-- The default of a type follows the alias that the type is. -/
theorem follows_default : package.Follows package.defaultWithin := by
  intro steps others type agree
  cases type with
  | named path name =>
    cases found : package.aliasTarget? path name with
    | none => simp [found]
    | some target =>
      obtain ⟨rfl, _⟩ := lookup_of_aliasTarget? found
      obtain ⟨fewer, fewerOthers, rfl, rfl, same⟩ :=
        agree name (by simp [Descriptor.localNames]) target found
      simp [found, same]
  | _ => simp

/-- An alias that is not named like a builtin type has the default of what it stands for. -/
theorem Grounded.defaultOf_following (grounded : Grounded package) {name : String}
    {target : Descriptor} (notBuiltin : Primitive.ofName? name = none)
    (found : package.aliasTarget? "" name = some target) :
    package.defaultOf (.named "" name) = package.defaultOf target := by
  refine follows_default.eq_of_step grounded (by simp [Descriptor.localNames]) found
    fun steps => ?_
  rw [defaultWithin_named notBuiltin, found]

/-- A builtin type has the default of its kind. -/
theorem defaultOf_builtin {name : String} {primitive : Primitive}
    (builtin : Primitive.ofName? name = some primitive) :
    package.defaultOf (.named "" name) = .ofPrimitive primitive := by
  unfold defaultOf defaultWithin
  simp [builtin]

/-- A struct that is not named like a builtin type has a new instance as its default. -/
theorem defaultOf_struct {name : String} (notBuiltin : Primitive.ofName? name = none)
    (core : package.aliasTarget? "" name = none) :
    package.defaultOf (.named "" name) = .fresh name := by
  unfold defaultOf defaultWithin
  simp [notBuiltin, core]

/-- A type of another package has no value to begin with. -/
theorem defaultOf_foreign {path name : String} (foreign : path ≠ "") :
    package.defaultOf (.named path name) = .null := by
  unfold defaultOf defaultWithin
  simp [foreign]

end DeclCodec.Package
