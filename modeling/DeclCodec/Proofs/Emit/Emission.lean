import DeclCodec.Emit.Render
import DeclCodec.Proofs.Emit.Annotations
import DeclCodec.Proofs.Package.Tables

/-!
# When a package cannot be emitted

A collected package is emitted unless a map key is in the way. Everything that a
module is made of is there: the types mentioned are known, each alias has its
target and each struct its members, and following aliases comes to an end. What
is left to go wrong are the shapes, and of these only the map keys.

The parts of a module are made one after another, and each either succeeds, or
fails for a map key exactly if something is wrong with it. Such parts make up a
whole of the same kind.
-/

namespace DeclCodec.Package

variable {package : Package}

/-! ## Steps that fail for a map key -/

/-- A step that fails exactly if something is wrong, and then for a map key. -/
def FailsFor {α : Type} (step : Except Fault α) (wrong : Prop) : Prop :=
  (∃ value, step = .ok value) ∧ ¬wrong ∨
    (∃ written, step = .error (.unsupportedKey written)) ∧ wrong

/-- A step that succeeds fails for nothing. -/
theorem FailsFor.of_ok {α : Type} {step : Except Fault α} (succeeds : ∃ value, step = .ok value) :
    FailsFor step False :=
  .inl ⟨succeeds, id⟩

/-- What is wrong may be said in other words. -/
theorem FailsFor.congr {α : Type} {step : Except Fault α} {wrong other : Prop}
    (fails : FailsFor step wrong) (same : wrong ↔ other) : FailsFor step other :=
  propext same ▸ fails

/-- Two steps fail for what is wrong with either. -/
theorem FailsFor.bind {α β : Type} {first : Except Fault α} {second : α → Except Fault β}
    {wrong other : Prop} (firstFails : FailsFor first wrong)
    (secondFails : ∀ value, first = .ok value → FailsFor (second value) other) :
    FailsFor (first >>= second) (wrong ∨ other) := by
  rcases firstFails with ⟨⟨value, done⟩, right⟩ | ⟨⟨written, failed⟩, isWrong⟩
  · rw [done]
    exact (secondFails value done).congr (by simp [right])
  · rw [failed]
    exact .inr ⟨⟨written, rfl⟩, .inl isWrong⟩

/-- A run over items that succeeds only if every step does, and fails only as one of them does,
fails for what is wrong with an item. -/
theorem FailsFor.of_items {α β γ : Type} {step : α → Except Fault β} {wrong : α → Prop}
    {items : List α} {run : Except Fault γ}
    (each : ∀ item ∈ items, FailsFor (step item) (wrong item))
    (succeeds : ∀ results, run = .ok results → ∀ item ∈ items, ∃ result, step item = .ok result)
    (fails : ∀ fault, run = .error fault → ∃ item ∈ items, step item = .error fault) :
    FailsFor run (∃ item ∈ items, wrong item) := by
  cases run with
  | ok results =>
    refine .inl ⟨⟨results, rfl⟩, ?_⟩
    rintro ⟨item, member, isWrong⟩
    obtain ⟨result, done⟩ := succeeds results rfl item member
    rcases each item member with ⟨_, right⟩ | ⟨⟨written, failed⟩, _⟩
    · exact right isWrong
    · rw [done] at failed
      cases failed
  | error fault =>
    obtain ⟨item, member, blame⟩ := fails fault rfl
    rcases each item member with ⟨⟨value, done⟩, _⟩ | ⟨⟨written, failed⟩, isWrong⟩
    · rw [done] at blame
      cases blame
    · rw [failed] at blame
      cases blame
      exact .inr ⟨⟨written, rfl⟩, item, member, isWrong⟩

/-- Steps over a list fail for what is wrong with an item. -/
theorem FailsFor.mapM {α β : Type} {step : α → Except Fault β} {wrong : α → Prop} {items : List α}
    (each : ∀ item ∈ items, FailsFor (step item) (wrong item)) :
    FailsFor (items.mapM step) (∃ item ∈ items, wrong item) := by
  refine of_items each ?_ fun _ failed => exists_of_mapM_error failed
  intro results succeeded item member
  obtain ⟨result, _, done⟩ := exists_of_mapM_ok succeeded member
  exact ⟨result, done⟩

/-- Selecting steps over a list do so too. -/
theorem FailsFor.filterMapM {α β : Type} {step : α → Except Fault (Option β)} {wrong : α → Prop}
    {items : List α} (each : ∀ item ∈ items, FailsFor (step item) (wrong item)) :
    FailsFor (items.filterMapM step) (∃ item ∈ items, wrong item) :=
  of_items each (fun _ succeeded _ member => exists_of_filterMapM_ok succeeded member)
    fun _ failed => exists_of_filterMapM_error failed

/-! ## What a module is made of -/

/-- The types whose shapes a member needs: its own if it is on the wire, and that of identifiers if
it is a reference. -/
def NeedsShape (package : Package) (member : Member) (type : Descriptor) : Prop :=
  member.isWired = true ∧ type = member.type ∨
    member.isReference = true ∧ package.idType = .ok type

/-- A type with a map key that has no shape. -/
def HasBadKey (package : Package) (type : Descriptor) : Prop :=
  ∃ key, MapKey package type key ∧ ∀ shape, package.keyShape key ≠ .ok shape

/-- Asking for the shape of a type fails for a map key only. -/
theorem Collected.failsFor_shape (collected : Collected package) {type : Descriptor}
    (known : type.Known package.types) :
    FailsFor (package.shape type) (HasBadKey package type) := by
  rcases collected.shape_cases known with ⟨accepted, keys⟩ | refused
  · refine .inl ⟨accepted, ?_⟩
    rintro ⟨key, inside, noShape⟩
    obtain ⟨shape, isShape⟩ := keys key inside
    exact noShape shape isShape
  · exact .inr refused

/-- The type of identifiers is there and known. -/
theorem Gathered.exists_idType (gathered : Gathered package) :
    ∃ type, package.idType = .ok type ∧ type.Known package.types :=
  gathered.idType

/-- The line of a member with a known type is always there. -/
theorem exists_fieldLine {member : Member} (known : member.type.Known package.types) :
    ∃ line, package.fieldLine member = .ok line := by
  obtain ⟨label, annotated⟩ := exists_annotation known
  have fieldAnnotated : ∃ label, package.fieldAnnotation member.type = .ok label := by
    unfold fieldAnnotation
    rw [annotated]
    by_cases absent : package.defaultOf member.type = .null ∧ label ≠ .any
    · exact ⟨label.orNone, if_pos absent⟩
    · exact ⟨label, if_neg absent⟩
  obtain ⟨fieldLabel, fieldAnnotated⟩ := fieldAnnotated
  unfold fieldLine
  rw [fieldAnnotated]
  split
  · exact ⟨_, rfl⟩
  · exact ⟨_, rfl⟩

/-- The entry that a member reads fails for the shapes that it needs. -/
theorem Collected.failsFor_read? (collected : Collected package) {member : Member}
    (known : member.type.Known package.types) :
    FailsFor (package.read? member)
      (∃ type, NeedsShape package member type ∧ HasBadKey package type) := by
  obtain ⟨idType, isIdType, idKnown⟩ := collected.exists_idType
  have ownShape := collected.failsFor_shape known
  have idShape := collected.failsFor_shape idKnown
  unfold read? NeedsShape
  rcases policy : member.policy with
    _ | _ | ⟨wireName, omitEmpty⟩ | ⟨wireName, idName, variant, omitEmpty⟩
  · refine (FailsFor.of_ok ⟨_, rfl⟩).congr ?_
    simp [Member.isWired, Member.isReference, policy]
  · refine (FailsFor.of_ok ⟨_, rfl⟩).congr ?_
    simp [Member.isWired, Member.isReference, policy, Policy.isWired, Policy.isReference]
  · refine (ownShape.bind fun _ _ => .of_ok ⟨_, rfl⟩).congr ?_
    simp [Member.isWired, Member.isReference, policy, Policy.isWired, Policy.isReference]
  · have both : FailsFor (package.idType >>= package.shape) (HasBadKey package idType) := by
      rw [isIdType]
      exact idShape
    simp only [← bind_assoc]
    refine (ownShape.bind fun _ _ => both.bind fun _ _ => .of_ok ⟨_, rfl⟩).congr ?_
    simp [Member.isWired, Member.isReference, policy, Policy.isWired, Policy.isReference, isIdType,
      or_and_right, exists_or]

/-- The class of a struct fails for the shapes that its members need. -/
theorem Collected.failsFor_structClass (collected : Collected package)
    {entry : String × List Member} (declared : entry ∈ package.structs) :
    FailsFor (package.structClass entry.1 entry.2)
      (∃ member ∈ entry.2, ∃ type, NeedsShape package member type ∧ HasBadKey package type) := by
  have known := (collected.members entry declared).known
  have lines : FailsFor (entry.2.mapM package.fieldLine) (∃ member ∈ entry.2, False) :=
    .mapM fun member among => .of_ok (exists_fieldLine (known member among))
  have entries := FailsFor.filterMapM fun member among =>
    collected.failsFor_read? (known member among)
  refine (lines.bind fun _ _ => entries.bind fun _ _ => .of_ok ⟨_, rfl⟩).congr ?_
  simp

/-- The line of an alias is always there. -/
theorem Collected.exists_aliasLine (collected : Collected package) {entry : String × Descriptor}
    (declared : entry ∈ package.aliases) :
    ∃ line, package.aliasLine entry.1 entry.2 = .ok line := by
  obtain ⟨label, annotated⟩ :=
    collected.toGrounded.exists_expandedAnnotation (collected.targets entry declared)
  rw [aliasLine, annotated]
  exact ⟨_, rfl⟩

/-- The wrapper of a known type is always there. -/
theorem Gathered.exists_wrapper (gathered : Gathered package) {type : Descriptor}
    (known : type.Known package.types) : ∃ wrapper, package.wrapper type = .ok wrapper := by
  obtain ⟨idType, isIdType, idKnown⟩ := gathered.exists_idType
  obtain ⟨idLabel, idAnnotated⟩ := exists_annotation idKnown
  have valueKnown : (if type.nullable then type else .pointer type).Known package.types := by
    split
    · exact known
    · exact known
  obtain ⟨label, annotated⟩ := exists_annotation valueKnown
  unfold wrapper
  dsimp only
  rw [annotated, isIdType]
  simp only [bind, Except.bind]
  rw [idAnnotated]
  exact ⟨_, rfl⟩

/-- The type in the table of wrappers is that of a reference, so it is known. -/
theorem Tables.referenced_known {units : List DeclUnit} (tables : Tables units package)
    (gathered : Gathered package) {entry : String × Descriptor}
    (held : entry ∈ package.referenced) : entry.2.Known package.types := by
  obtain ⟨member, among, isType⟩ := tables.exists_reference held
  obtain ⟨struct, declared, inside⟩ := List.mem_flatMap.1 among
  exact isType ▸ (gathered.members struct declared).known member inside

/-- A module fails for the shapes that the members of the package need. -/
theorem Collected.failsFor_emit (collected : Collected package) {units : List DeclUnit}
    (tables : Tables units package) :
    FailsFor package.emit (∃ entry ∈ package.structs, ∃ member ∈ entry.2,
      ∃ type, NeedsShape package member type ∧ HasBadKey package type) := by
  have structs := FailsFor.mapM fun entry declared => collected.failsFor_structClass declared
  have aliases : FailsFor (package.aliases.mapM fun entry => package.aliasLine entry.1 entry.2)
      (∃ entry ∈ package.aliases, False) :=
    .mapM fun entry declared => .of_ok (collected.exists_aliasLine declared)
  have wrappers : FailsFor package.wrappers
      (∃ entry ∈ Text.sortBy (·.1) package.referenced, False) :=
    .mapM fun entry held => .of_ok (collected.exists_wrapper
      (tables.referenced_known collected.toGathered (Text.mem_sortBy.1 held)))
  have module : FailsFor package.module (_ ∨ _ ∨ _ ∨ False) :=
    structs.bind fun _ _ => aliases.bind fun _ _ => wrappers.bind fun _ _ => .of_ok ⟨_, rfl⟩
  refine (module.bind fun _ _ => .of_ok ⟨_, rfl⟩).congr ?_
  simp

/-! ## Emission -/

/-- Following the aliases of a type comes to an end by itself: with more steps than there are
aliases, nothing else is made of the type. -/
structure Ends (package : Package) (type : Descriptor) : Prop where
  annotation : ∀ steps, package.aliases.length ≤ steps →
    package.expandWithin steps type = package.expandedAnnotation type
  default : ∀ steps, package.aliases.length ≤ steps →
    package.defaultWithin steps type = package.defaultOf type
  keyShape : ∀ steps, package.aliases.length ≤ steps →
    package.keyShapeWithin steps type = package.keyShape type
  shape : ∀ steps, package.aliases.length ≤ steps →
    package.shapeWithin steps type = package.shape type

/-- Following the aliases of any type comes to an end in a collected package. -/
theorem Grounded.ends (grounded : Grounded package) (type : Descriptor) : Ends package type := by
  obtain ⟨rank, ranked⟩ := grounded.exists_aliasRank
  have below := ranked.bounded type
  exact ⟨fun _ => follows_expansion.within_eq ranked below,
    fun _ => follows_default.within_eq ranked below,
    fun _ => follows_keyShape.within_eq ranked below,
    fun _ => follows_shape.within_eq ranked below⟩

/-- Emitting a collected package either gives the text of a module, or fails for a map key. It
fails exactly if a type whose shape is needed, that of a member on the wire or of identifiers where
there is a reference, has a map key that has no shape, aliases followed. Nothing else stands in the
way: every declared alias has its target and every declared struct its members, and following the
aliases of a type comes to an end. -/
theorem emit_fails_iff {name : String} {settings : Settings} {units : List DeclUnit}
    (success : collect name settings units = .ok package) :
    ((∃ text, package.emit = .ok text) ∨
        ∃ written, package.emit = .error (.unsupportedKey written)) ∧
      ((∃ fault, package.emit = .error fault) ↔
        ∃ entry ∈ package.structs, ∃ member ∈ entry.2, ∃ type, NeedsShape package member type ∧
          ∃ key, MapKey package type key ∧ ∀ shape, package.keyShape key ≠ .ok shape) ∧
      (∀ key declared type unit, package.types.lookup key = some (.alias declared type unit) →
        ∃ target, package.aliases.lookup key = some target) ∧
      (∀ key declared fields unit, package.types.lookup key = some (.struct declared fields unit) →
        ∃ members, package.structs.lookup key = some members) ∧
      ∀ type, Ends package type := by
  have collected := collected_of_collect success
  have tables := tables_of_collect success
  refine ⟨?_, ?_, ?_, ?_, collected.ends⟩
  · rcases collected.failsFor_emit tables with ⟨emitted, _⟩ | ⟨refused, _⟩
    · exact .inl emitted
    · exact .inr refused
  · rcases collected.failsFor_emit tables with
      ⟨⟨text, emitted⟩, right⟩ | ⟨⟨written, refused⟩, wrong⟩
    · refine iff_of_false ?_ right
      rintro ⟨fault, failed⟩
      rw [emitted] at failed
      cases failed
    · exact iff_of_true ⟨_, refused⟩ wrong
  · intro key declared type unit found
    obtain ⟨target, isTarget⟩ := collected.aliasTarget?_isSome found
    exact ⟨target, (lookup_of_aliasTarget? isTarget).2⟩
  · intro key declared fields unit found
    exact collected.members_isSome found

/-- A struct with a map that has the struct itself, behind an alias, for its keys. -/
def boxedKeyUnits : List DeclUnit :=
  [⟨"boxes", "p", [.alias "Key" (.named [] "Box") "boxes",
    .struct "Box" [⟨["Inner"], .map (.named [] "Key") (.named [] "int"), none⟩] "boxes"]⟩]

/-- Its package. -/
def boxedKeyPackage : Package where
  name := "p"
  settings := {}
  units := ["boxes"]
  types := (boxedKeyUnits.flatMap (·.decls)).map fun decl => (decl.name, decl)
  aliases := [("Key", .named "" "Box")]
  structs := [("Box", [⟨"Inner", .map (.named "" "Key") (.named "" "int"),
    some (.plain "Inner" false)⟩])]
  referenced := []
  imported := []

/-- It is an instance: the package is collected, and emitting it fails for that key. -/
theorem emit_fails_iff_boxedKey :
    collect "p" {} boxedKeyUnits = .ok boxedKeyPackage ∧
      (∃ fault, boxedKeyPackage.emit = .error fault) ∧
      ∃ written, boxedKeyPackage.emit = .error (.unsupportedKey written) := by
  have collects : collect "p" {} boxedKeyUnits = .ok boxedKeyPackage :=
    eq_ok_of_toOption (by decide +kernel)
  obtain ⟨outcome, fails_iff, _⟩ := emit_fails_iff collects
  have fails : ∃ fault, boxedKeyPackage.emit = .error fault := by
    refine fails_iff.2 ⟨_, List.mem_singleton_self _, _, List.mem_singleton_self _, _,
      .inl ⟨rfl, rfl⟩, .named "" "Key", .here, ?_⟩
    intro shape isShape
    have noShape : (boxedKeyPackage.keyShape (.named "" "Key")).toOption = none := by decide +kernel
    rw [isShape] at noShape
    cases noShape
  refine ⟨collects, fails, outcome.resolve_left ?_⟩
  rintro ⟨text, emitted⟩
  obtain ⟨fault, failed⟩ := fails
  rw [emitted] at failed
  cases failed

end DeclCodec.Package
