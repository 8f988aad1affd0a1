import DeclCodec.Proofs.Emit.Classes

/-!
# Annotations and shapes

Annotations and shapes are made of types by different recursions, which look at
aliases and builtin names in different orders. Where no alias is named like a
builtin type the order makes no difference: the annotation of a type, its aliases
replaced, has the class of the shape at its innermost position.
-/

namespace DeclCodec

/-- The class at the innermost position of an annotation. Anything is an object. -/
def Annotation.innermost : Annotation → Class
  | .any => .object
  | .bool => .bool
  | .int => .int
  | .float => .float
  | .str => .str
  | .rawMessage => .raw
  | .declared name => .declared name
  | .foreign path => .foreign path
  | .optional type => type.innermost
  | .list item => item.innermost
  | .dict _ value => value.innermost

namespace Annotation

/-- It does not matter for the class whether the value may be absent. -/
theorem innermost_orNone (type : Annotation) : type.orNone.innermost = type.innermost := by
  unfold orNone
  split <;> rfl

/-- A builtin kind is annotated with its class. -/
theorem innermost_ofPrimitive (primitive : Primitive) :
    (ofPrimitive primitive).innermost = .ofPrimitive primitive := by
  cases primitive <;> rfl

end Annotation

namespace Package

variable {package : Package}

attribute [local simp] annotateName annotateWith expandWithin

/-- The annotation of a name depends on what becomes of the alias that it is. -/
theorem annotateName_congr {onAlias others : Descriptor → Except Fault Annotation}
    {path name : String} (agree : ∀ target, package.aliasTarget? path name = some target →
      onAlias target = others target) :
    package.annotateName (some onAlias) path name =
        package.annotateName (some others) path name := by
  unfold annotateName
  cases found : package.aliasTarget? path name with
  | none => rfl
  | some target => simp only [agree target found]

/-- The annotation of a type depends on what becomes of the aliases that the type mentions. -/
theorem annotateWith_congr {onAlias others : Descriptor → Except Fault Annotation}
    {type : Descriptor}
    (agree : ∀ path name target, package.aliasTarget? path name = some target →
      name ∈ type.localNames → onAlias target = others target) :
    package.annotateWith (some onAlias) type = package.annotateWith (some others) type := by
  induction type with
  | named path name =>
    refine annotateName_congr fun target found => agree path name target found ?_
    obtain ⟨rfl, _⟩ := lookup_of_aliasTarget? found
    simp [Descriptor.localNames]
  | pointer elem elem_ih => rw [annotateWith, elem_ih agree, annotateWith]
  | slice elem elem_ih => rw [annotateWith, elem_ih agree, annotateWith]
  | map key value key_ih value_ih =>
    have onKey := key_ih fun path name target found member =>
      agree path name target found (List.mem_append_left _ member)
    have onValue := value_ih fun path name target found member =>
      agree path name target found (List.mem_append_right _ member)
    rw [annotateWith, onKey, onValue, annotateWith]

/-- The expanded annotation of a type follows the aliases that the type mentions. -/
theorem follows_expansion : package.Follows package.expandWithin := by
  intro steps others type agree
  cases steps <;> cases others <;> simp only [expandWithin] <;>
    refine annotateWith_congr fun path name target found member => ?_ <;>
    obtain ⟨rfl, _⟩ := lookup_of_aliasTarget? found <;>
    obtain ⟨fewer, fewerOthers, positive, otherPositive, same⟩ := agree name member target found <;>
    cases positive <;> cases otherPositive
  exact same

/-- An alias that is not named like a builtin type is replaced by what becomes of it. -/
theorem annotateWith_following {onAlias : Descriptor → Except Fault Annotation} {name : String}
    {target : Descriptor} (notBuiltin : Primitive.ofName? name = none)
    (found : package.aliasTarget? "" name = some target) :
    package.annotateWith (some onAlias) (.named "" name) = onAlias target := by
  obtain ⟨decl, declared⟩ := isDeclared_of_aliasTarget? found
  simp [notBuiltin, declared, found]

/-- So it is annotated as what it stands for. -/
theorem Grounded.expandedAnnotation_following (grounded : Grounded package) {name : String}
    {target : Descriptor} (notBuiltin : Primitive.ofName? name = none)
    (found : package.aliasTarget? "" name = some target) :
    package.expandedAnnotation (.named "" name) = package.expandedAnnotation target := by
  apply follows_expansion.eq_of_step grounded (by simp [Descriptor.localNames]) found
  intro steps
  rw [expandWithin, annotateWith_following notBuiltin found]

/-- A name that is no alias is annotated as it is. -/
theorem expandedAnnotation_core {path name : String}
    (core : package.aliasTarget? path name = none) :
    package.expandedAnnotation (.named path name) = package.annotateName none path name := by
  unfold expandedAnnotation
  cases package.aliases.length <;> simp [core]

/-- The annotation of a pointer. -/
theorem expandedAnnotation_pointer (elem : Descriptor) :
    package.expandedAnnotation (.pointer elem) =
      Annotation.orNone <$> package.expandedAnnotation elem := by
  unfold expandedAnnotation
  cases package.aliases.length <;> rfl

/-- The annotation of a slice. -/
theorem expandedAnnotation_slice (elem : Descriptor) :
    package.expandedAnnotation (.slice elem) =
      Annotation.list <$> package.expandedAnnotation elem := by
  unfold expandedAnnotation
  cases package.aliases.length <;> rfl

/-- The annotation of a map, of which the value is looked at before the key. -/
theorem expandedAnnotation_map (key value : Descriptor) :
    package.expandedAnnotation (.map key value) = (do
      let valueLabel ← package.expandedAnnotation value
      let keyLabel ← package.expandedAnnotation key
      pure (.dict keyLabel valueLabel)) := by
  unfold expandedAnnotation
  cases package.aliases.length <;> rfl

/-! ## Types that have annotations -/

/-- A known name has an annotation, unless it is an alias that cannot be replaced. -/
theorem annotateName_cases (onAlias : Option (Descriptor → Except Fault Annotation))
    {path name : String} (known : (Descriptor.named path name).Known package.types) :
    (∃ label, package.annotateName onAlias path name = .ok label) ∨
      ∃ replace target fault, onAlias = some replace ∧
        package.aliasTarget? path name = some target ∧ replace target = .error fault ∧
        package.annotateName onAlias path name = .error fault := by
  unfold annotateName
  split
  · exact .inl ⟨_, rfl⟩
  · next here =>
    rw [Decidable.not_not] at here
    split
    · exact .inl ⟨_, rfl⟩
    · next notBuiltin =>
      split
      · next undeclared =>
        rw [Option.isNone_iff_eq_none] at undeclared
        rcases known name (by simp [Descriptor.localNames, here]) with builtin | declared
        · simp [isBuiltin, notBuiltin] at builtin
        · simp [undeclared] at declared
      · split
        · next replace target found =>
          cases replaced : replace target with
          | ok label => exact .inl ⟨label, rfl⟩
          | error fault => exact .inr ⟨replace, target, fault, rfl, found, replaced, rfl⟩
        · exact .inl ⟨_, rfl⟩

/-- A type that mentions known types only has an annotation, unless it mentions an alias that
cannot be replaced. -/
theorem annotateWith_cases (onAlias : Option (Descriptor → Except Fault Annotation))
    {type : Descriptor} (known : type.Known package.types) :
    (∃ label, package.annotateWith onAlias type = .ok label) ∨
      ∃ replace name target fault, onAlias = some replace ∧ name ∈ type.localNames ∧
        package.aliasTarget? "" name = some target ∧ replace target = .error fault ∧
        package.annotateWith onAlias type = .error fault := by
  induction type with
  | named path name =>
    rcases annotateName_cases onAlias known with
      annotated | ⟨replace, target, fault, isReplace, found, failed, failure⟩
    · exact .inl annotated
    · obtain ⟨rfl, _⟩ := lookup_of_aliasTarget? found
      exact .inr ⟨replace, name, target, fault, isReplace, by simp [Descriptor.localNames], found,
        failed, failure⟩
  | pointer elem elem_ih =>
    rcases elem_ih known with
      ⟨label, annotated⟩ | ⟨replace, name, target, fault, isReplace, inside, found, failed, failure⟩
    · exact .inl ⟨label.orNone, by rw [annotateWith, annotated]; rfl⟩
    · exact .inr ⟨replace, name, target, fault, isReplace, inside, found, failed, by
        rw [annotateWith, failure]; rfl⟩
  | slice elem elem_ih =>
    rcases elem_ih known with
      ⟨label, annotated⟩ | ⟨replace, name, target, fault, isReplace, inside, found, failed, failure⟩
    · exact .inl ⟨.list label, by rw [annotateWith, annotated]; rfl⟩
    · exact .inr ⟨replace, name, target, fault, isReplace, inside, found, failed, by
        rw [annotateWith, failure]; rfl⟩
  | map key value key_ih value_ih =>
    have knownKey : key.Known package.types := fun name member =>
      known name (List.mem_append_left _ member)
    have knownValue : value.Known package.types := fun name member =>
      known name (List.mem_append_right _ member)
    rcases value_ih knownValue with
      ⟨label, annotated⟩ | ⟨replace, name, target, fault, isReplace, inside, found, failed, failure⟩
    · rcases key_ih knownKey with ⟨keyLabel, keyAnnotated⟩ |
        ⟨replace, name, target, fault, isReplace, inside, found, failed, failure⟩
      · exact .inl ⟨.dict keyLabel label, by rw [annotateWith, annotated, keyAnnotated]; rfl⟩
      · exact .inr ⟨replace, name, target, fault, isReplace, List.mem_append_left _ inside, found,
          failed, by rw [annotateWith, annotated, failure]; rfl⟩
    · exact .inr ⟨replace, name, target, fault, isReplace, List.mem_append_right _ inside, found,
        failed, by rw [annotateWith, failure]; rfl⟩

/-- A type that mentions known types only has an annotation. -/
theorem exists_annotation {type : Descriptor} (known : type.Known package.types) :
    ∃ label, package.annotation type = .ok label := by
  rcases annotateWith_cases none known with annotated | ⟨_, _, _, _, ⟨⟩, _⟩
  exact annotated

/-- Replacing the aliases of a type fails only where the steps have run out at an alias, or where
replacing the aliases of what an alias stands for fails with one step less. -/
theorem expandWithin_cases (steps : Nat) {type : Descriptor} (known : type.Known package.types) :
    (∃ label, package.expandWithin steps type = .ok label) ∨
      ∃ name target fault, name ∈ type.localNames ∧ package.aliasTarget? "" name = some target ∧
        package.expandWithin steps type = .error fault ∧
        ((steps = 0 ∧ fault = .endlessAlias target.typeName) ∨
          ∃ fewer, steps = fewer + 1 ∧ package.expandWithin fewer target = .error fault) := by
  cases steps with
  | zero =>
    rcases annotateWith_cases (some fun target => .error (.endlessAlias target.typeName)) known with
      annotated | ⟨_, name, target, fault, isReplace, inside, found, failed, failure⟩
    · exact .inl annotated
    · cases isReplace
      cases failed
      exact .inr ⟨name, target, _, inside, found, failure, .inl ⟨rfl, rfl⟩⟩
  | succ steps =>
    rcases annotateWith_cases (some (package.expandWithin steps)) known with
      annotated | ⟨_, name, target, fault, isReplace, inside, found, failed, failure⟩
    · exact .inl annotated
    · cases isReplace
      exact .inr ⟨name, target, fault, inside, found, failure, .inr ⟨steps, rfl, failed⟩⟩

/-- As many steps as there are ranks are enough for replacing aliases. -/
theorem Grounded.exists_expandWithin (grounded : Grounded package) {rank : String → Nat}
    (ranked : AliasRank package rank) {bound steps : Nat} {type : Descriptor}
    (known : type.Known package.types) (below : package.Below rank bound type)
    (enough : bound ≤ steps) : ∃ label, package.expandWithin steps type = .ok label := by
  induction bound generalizing steps type with
  | zero =>
    rcases expandWithin_cases steps known with annotated | ⟨name, target, _, inside, found, _⟩
    · exact annotated
    · exact absurd (below name inside target found) (Nat.not_lt_zero _)
  | succ bound lowerRanks =>
    rcases expandWithin_cases steps known with
      annotated | ⟨name, target, fault, inside, found, _, ⟨none, _⟩ | ⟨fewer, rfl, failed⟩⟩
    · exact annotated
    · omega
    · have lower : package.Below rank bound target := (ranked.lower "" name target found).mono
        (Nat.le_of_lt_succ (below name inside target found))
      obtain ⟨label, replaced⟩ :=
        lowerRanks (grounded.target_known found) lower (by omega : bound ≤ fewer)
      rw [replaced] at failed
      cases failed

/-- A type that mentions known types only has an annotation with its aliases replaced. -/
theorem Grounded.exists_expandedAnnotation (grounded : Grounded package) {type : Descriptor}
    (known : type.Known package.types) : ∃ label, package.expandedAnnotation type = .ok label := by
  obtain ⟨rank, ranked⟩ := grounded.exists_aliasRank
  exact grounded.exists_expandWithin ranked known (ranked.bounded type) (Nat.le_refl _)

/-! ## Aliases without an end -/

/-- No alias is named like a builtin type. -/
def NoBuiltinAlias (package : Package) : Prop :=
  ∀ entry ∈ package.aliases, isBuiltin entry.1 = false

instance : Decidable (NoBuiltinAlias package) :=
  inferInstanceAs (Decidable (∀ entry ∈ package.aliases, isBuiltin entry.1 = false))

/-- Such an alias is found only under other names. -/
theorem NoBuiltinAlias.ofName?_eq_none (noBuiltin : NoBuiltinAlias package) {path name : String}
    {target : Descriptor} (found : package.aliasTarget? path name = some target) :
    Primitive.ofName? name = none := by
  have notBuiltin := noBuiltin _ (Table.mem_of_lookup (lookup_of_aliasTarget? found).2)
  rwa [isBuiltin, Option.isSome_eq_false_iff, Option.isNone_iff_eq_none] at notBuiltin

/-- A name that is no alias is annotated with its class. -/
theorem annotateName_none {path name : String} {cls : Class}
    (isClass : package.classOf path name = .ok cls) :
    ∃ label, package.annotateName none path name = .ok label ∧
      label.innermost = cls := by
  unfold annotateName
  cases classOf_eq_ok_iff.1 isClass with
  | raw elsewhere isRaw =>
    rw [if_pos elsewhere, if_pos isRaw]
    exact ⟨_, rfl, rfl⟩
  | foreign elsewhere notRaw =>
    rw [if_pos elsewhere, notRaw]
    exact ⟨_, rfl, rfl⟩
  | @builtin _ primitive kind =>
    rw [if_neg (by simp), kind]
    exact ⟨_, rfl, Annotation.innermost_ofPrimitive primitive⟩
  | declared notBuiltin isDeclared =>
    rw [if_neg (by simp), notBuiltin]
    dsimp only
    rw [if_neg isDeclared]
    exact ⟨_, rfl, rfl⟩

/-- Every known type has an annotation, and the class of its shape is at the innermost position. -/
theorem Collected.exists_expandedAnnotation (collected : Collected package)
    (noBuiltin : NoBuiltinAlias package) {type : Descriptor} (known : type.Known package.types) :
    ∃ label, package.expandedAnnotation type = .ok label ∧
      ∀ shape, package.shape type = .ok shape → label.innermost = shape.innermost := by
  induction type using collected.induction with
  | following found inductionHypothesis =>
    have notBuiltin := noBuiltin.ofName?_eq_none found
    obtain ⟨rfl, _⟩ := lookup_of_aliasTarget? found
    rw [collected.expandedAnnotation_following notBuiltin found, collected.shape_following found]
    exact inductionHypothesis (collected.target_known found)
  | core isCore =>
    obtain ⟨cls, isClass⟩ := classOf_ok known
    obtain ⟨label, annotated, sameClass⟩ := annotateName_none isClass
    refine ⟨label, by rw [expandedAnnotation_core isCore, annotated], ?_⟩
    intro shape isShape
    rw [shape_core isCore, isClass] at isShape
    cases isShape
    exact sameClass
  | pointer inductionHypothesis =>
    obtain ⟨label, annotated, sameClass⟩ := inductionHypothesis known
    refine ⟨label.orNone, by rw [expandedAnnotation_pointer, annotated]; rfl, ?_⟩
    intro shape isShape
    rw [shape_pointer, map_eq_ok] at isShape
    obtain ⟨elem, isElem, rfl⟩ := isShape
    exact label.innermost_orNone.trans (sameClass elem isElem)
  | slice inductionHypothesis =>
    obtain ⟨label, annotated, sameClass⟩ := inductionHypothesis known
    refine ⟨.list label, by rw [expandedAnnotation_slice, annotated]; rfl, ?_⟩
    intro shape isShape
    rw [shape_slice, map_eq_ok] at isShape
    obtain ⟨elem, isElem, rfl⟩ := isShape
    exact sameClass elem isElem
  | map key_ih value_ih =>
    obtain ⟨keyLabel, keyAnnotated, _⟩ := key_ih fun name member =>
      known name (List.mem_append_left _ member)
    obtain ⟨label, annotated, sameClass⟩ := value_ih fun name member =>
      known name (List.mem_append_right _ member)
    refine ⟨.dict keyLabel label, by
      rw [expandedAnnotation_map, annotated, keyAnnotated]; rfl, ?_⟩
    intro shape isShape
    simp only [shape_map, bind_eq_ok] at isShape
    obtain ⟨valueShape, isValue, keyShape, _, same⟩ := isShape
    cases same
    exact sameClass valueShape isValue

end Package

end DeclCodec
