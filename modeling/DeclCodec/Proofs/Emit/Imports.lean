import DeclCodec.Emit.Render
import DeclCodec.Proofs.Emit.Annotations
import DeclCodec.Proofs.Emit.Wrapped
import DeclCodec.Proofs.Package.Mentions

/-!
# The imports of a module

A module names types of other modules in its annotations, in what its aliases stand
for and in the shapes of the entries that it reads. Annotations and shapes are made
by recursions of their own, which follow aliases where the packages are gathered
from the types as they are declared. An alias stands for a type of the package, so
that both see the same names: a name with a point in it is one of the runtime, or a
qualified name of the declarations, whose package is imported.
-/

namespace DeclCodec

/-- The names with a point that the text of an annotation has. -/
def Annotation.dottedNames : Annotation → List String
  | .rawMessage => ["_wire.RawMessage"]
  | .foreign path => [path]
  | .optional type => type.dottedNames
  | .list item => item.dottedNames
  | .dict key value => key.dottedNames ++ value.dottedNames
  | _ => []

/-- The names with a point that a class has in an expression. -/
def Class.dottedNames : Class → List String
  | .raw => ["_wire.RawMessage"]
  | .foreign path => [path]
  | _ => []

/-- The names with a point in the expression of a shape. -/
def Shape.dottedNames : Shape → List String
  | .named cls => "_wire.Named" :: cls.dottedNames
  | .pointer elem => "_wire.Pointer" :: elem.dottedNames
  | .slice elem => "_wire.Slice" :: elem.dottedNames
  | .map key value => "_wire.Map" :: (key.dottedNames ++ value.dottedNames)

/-- The names with a point in the shapes of an entry. -/
def Read.dottedNames (entry : Read) : List String :=
  entry.shape.dottedNames ++
    match entry.reference with
    | some reference => reference.idShape.dottedNames
    | none => []

/-- The names with a point in the annotations, the aliases and the shapes of a module. -/
def Module.dottedNames (module : Module) : List String :=
  (module.wrappers.flatMap fun wrapper =>
      wrapper.valueAnnotation.dottedNames ++ wrapper.idAnnotation.dottedNames) ++
    (module.structs.flatMap fun cls =>
      (cls.fields.flatMap fun line => line.annotation.dottedNames) ++
        cls.reads.flatMap Read.dottedNames) ++
    module.aliases.flatMap fun line => line.2.dottedNames

/-- The names of the runtime among them. -/
def runtimeNames : List String :=
  ["_wire.Named", "_wire.Pointer", "_wire.Slice", "_wire.Map", "_wire.RawMessage"]

/-- It does not matter for the names whether the value may be absent. -/
theorem Annotation.dottedNames_orNone (type : Annotation) :
    type.orNone.dottedNames = type.dottedNames := by
  unfold orNone
  split <;> rfl

/-- Every point in the text of an annotation stands in one of these names, if the declared names in
it have none. -/
theorem Annotation.count_text {label : Annotation}
    (plain : ∀ name ∈ label.declaredNames, '.' ∉ name.toList) :
    label.text.toList.count '.' = (label.dottedNames.map (·.toList.count '.')).sum := by
  induction label with
  | any | bool | int | float | str | rawMessage => decide
  | declared name =>
    rw [text, List.count_eq_zero_of_not_mem (plain name (List.mem_singleton_self _))]
    rfl
  | foreign path => simp [text, dottedNames]
  | optional type inductionHypothesis => simp [text, dottedNames, inductionHypothesis plain]
  | list item inductionHypothesis => simp [text, dottedNames, inductionHypothesis plain]
  | dict key value key_ih value_ih =>
    obtain ⟨plainKey, plainValue⟩ := List.forall_mem_append.1 plain
    simp [text, dottedNames, key_ih plainKey, value_ih plainValue]

/-- So does every point in the text of a class. -/
theorem Class.count_text {cls : Class}
    (plain : ∀ name, cls = .declared name → '.' ∉ name.toList) :
    cls.text.toList.count '.' = (cls.dottedNames.map (·.toList.count '.')).sum := by
  cases cls with
  | declared name => exact List.count_eq_zero_of_not_mem (plain name rfl)
  | foreign path => simp [text, dottedNames]
  | bool | int | float | str | object | raw | bytes | list | dict => decide

/-- And so does every point in the expression of a shape. -/
theorem Shape.count_source {shape : Shape}
    (plain : shape.Each fun cls => ∀ name, cls = .declared name → '.' ∉ name.toList) :
    shape.source.toList.count '.' = (shape.dottedNames.map (·.toList.count '.')).sum := by
  induction shape with
  | named cls =>
    rw [source.eq_def]
    simp [dottedNames, Class.count_text plain, Nat.add_comm]
  | pointer elem inductionHypothesis =>
    rw [source.eq_def]
    simp [dottedNames, inductionHypothesis plain, Nat.add_comm]
  | slice elem inductionHypothesis =>
    rw [source.eq_def]
    simp [dottedNames, inductionHypothesis plain, Nat.add_comm]
  | map key value key_ih value_ih =>
    rw [source.eq_def]
    simp [dottedNames, key_ih plain.1, value_ih plain.2]
    omega

namespace Package

variable {package : Package} {module : Module}

/-- Is it a name of the runtime, or the qualified name of a type that the package mentions? -/
def Provides (package : Package) (dotted : String) : Prop :=
  dotted ∈ runtimeNames ∨ ∃ type path name, package.HasType type ∧
    (path, name) ∈ type.foreignNames ∧ dotted = path ++ "." ++ name

/-- Are the qualified names of the type those of types that the package mentions? -/
def Covers (package : Package) (type : Descriptor) : Prop :=
  ∀ path name, (path, name) ∈ type.foreignNames → package.Provides (path ++ "." ++ name)

/-- A type of the package is covered. -/
theorem HasType.covers {type : Descriptor} (has : package.HasType type) : package.Covers type :=
  fun path name mentioned => .inr ⟨type, path, name, has, mentioned, rfl⟩

/-- So is what an alias stands for. -/
theorem covers_of_aliasTarget? {path name : String} {target : Descriptor}
    (found : package.aliasTarget? path name = some target) : package.Covers target :=
  HasType.covers
    (.inr (.inl ⟨(name, target), Table.mem_of_lookup (lookup_of_aliasTarget? found).2, rfl⟩))

/-- The key and the value of a map that is covered are covered. -/
theorem Covers.of_map {key value : Descriptor} (covers : package.Covers (.map key value)) :
    package.Covers key ∧ package.Covers value :=
  ⟨fun path name inKey => covers path name (List.mem_append_left _ inKey),
    fun path name inValue => covers path name (List.mem_append_right _ inValue)⟩

/-- A name with a package path is the runtime's, or qualified. -/
theorem Covers.foreign {path name : String} (covers : package.Covers (.named path name))
    (foreign : path ≠ "") (notRaw : ¬isRawMessage path name = true) :
    package.Provides (Descriptor.qualify path name) := by
  rw [Descriptor.qualify, if_neg foreign]
  refine covers path name ?_
  rw [Descriptor.foreignNames, if_neg (by simp [foreign, notRaw])]
  exact List.mem_singleton_self _

/-! ## Annotations -/

/-- The names in the annotation of a type that is covered are provided, if those in what replaces an
alias are. -/
theorem provides_of_annotateWith {onAlias : Option (Descriptor → Except Fault Annotation)}
    (replaced : ∀ replace target label, onAlias = some replace → package.Covers target →
      replace target = .ok label → ∀ dotted ∈ label.dottedNames, package.Provides dotted)
    {type : Descriptor} (covers : package.Covers type) {label : Annotation}
    (annotated : package.annotateWith onAlias type = .ok label) :
    ∀ dotted ∈ label.dottedNames, package.Provides dotted := by
  induction type generalizing label with
  | named path name =>
    simp only [annotateWith, annotateName] at annotated
    split at annotated
    · next foreign =>
      cases annotated
      split
      · exact List.forall_mem_singleton.2 (.inl (by decide))
      · next notRaw => exact List.forall_mem_singleton.2 (covers.foreign foreign notRaw)
    · split at annotated
      · next primitive _ =>
        cases annotated
        cases primitive <;> exact fun _ member => by cases member
      · split at annotated
        · cases annotated
        · split at annotated
          · next replace target found =>
            exact replaced replace target label rfl (covers_of_aliasTarget? found) annotated
          · cases annotated
            exact fun _ member => by cases member
  | pointer elem inductionHypothesis =>
    obtain ⟨inner, isInner, same⟩ := bind_eq_ok.1 annotated
    cases same
    rw [ Annotation.dottedNames_orNone]
    exact inductionHypothesis covers isInner
  | slice elem inductionHypothesis =>
    obtain ⟨inner, isInner, same⟩ := bind_eq_ok.1 annotated
    cases same
    rw [ Annotation.dottedNames]
    exact inductionHypothesis covers isInner
  | map key value key_ih value_ih =>
    simp only [annotateWith, bind_eq_ok] at annotated
    obtain ⟨valueLabel, isValue, keyLabel, isKey, same⟩ := annotated
    cases same
    obtain ⟨coversKey, coversValue⟩ := covers.of_map
    exact List.forall_mem_append.2 ⟨key_ih coversKey isKey, value_ih coversValue isValue⟩

/-- The names in the annotation of a type are provided. -/
theorem provides_of_annotation {type : Descriptor} (has : package.HasType type)
    {label : Annotation} (annotated : package.annotation type = .ok label) :
    ∀ dotted ∈ label.dottedNames, package.Provides dotted :=
  provides_of_annotateWith (fun _ _ _ none => by cases none) has.covers annotated

/-- They are when its aliases are replaced, too. -/
theorem provides_of_expandWithin {steps : Nat} {type : Descriptor} (covers : package.Covers type)
    {label : Annotation} (expanded : package.expandWithin steps type = .ok label) :
    ∀ dotted ∈ label.dottedNames, package.Provides dotted := by
  induction steps generalizing type label with
  | zero =>
    refine provides_of_annotateWith ?_ covers expanded
    intro replace target label isReplace _ success
    cases isReplace
    cases success
  | succ steps inductionHypothesis =>
    refine provides_of_annotateWith ?_ covers expanded
    intro replace target label isReplace covers success
    cases isReplace
    exact inductionHypothesis covers success

/-! ## Shapes -/

/-- The names in the shape of a type that is covered are provided. -/
theorem Collected.provides_of_shape (collected : Collected package) {type : Descriptor}
    (covers : package.Covers type) {shape : Shape} (isShape : package.shape type = .ok shape) :
    ∀ dotted ∈ shape.dottedNames, package.Provides dotted := by
  have runtime {name : String} (among : name ∈ runtimeNames) : package.Provides name := .inl among
  induction type using collected.induction generalizing shape with
  | following found inductionHypothesis =>
    rw [collected.shape_following found] at isShape
    exact inductionHypothesis (covers_of_aliasTarget? found) isShape
  | core isCore =>
    rw [shape_core isCore, map_eq_ok] at isShape
    obtain ⟨cls, isClass, rfl⟩ := isShape
    refine List.forall_mem_cons.2 ⟨runtime (by decide), ?_⟩
    cases classOf_eq_ok_iff.1 isClass with
    | raw => exact List.forall_mem_singleton.2 (runtime (by decide))
    | foreign elsewhere notRaw =>
      exact List.forall_mem_singleton.2 (covers.foreign elsewhere (Bool.eq_false_iff.1 notRaw))
    | @builtin _ primitive => cases primitive <;> exact fun _ member => by cases member
    | declared => exact fun _ member => by cases member
  | pointer inductionHypothesis =>
    rw [shape_pointer, map_eq_ok] at isShape
    obtain ⟨elem, isElem, rfl⟩ := isShape
    exact List.forall_mem_cons.2 ⟨runtime (by decide), inductionHypothesis covers isElem⟩
  | slice inductionHypothesis =>
    rw [shape_slice, map_eq_ok] at isShape
    obtain ⟨elem, isElem, rfl⟩ := isShape
    exact List.forall_mem_cons.2 ⟨runtime (by decide), inductionHypothesis covers isElem⟩
  | map _ value_ih =>
    simp only [shape_map, bind_eq_ok] at isShape
    obtain ⟨valueShape, isValue, keyShape, isKey, same⟩ := isShape
    cases same
    refine List.forall_mem_cons.2 ⟨runtime (by decide), List.forall_mem_append.2 ⟨?_, ?_⟩⟩
    · rcases collected.keyShape_cases isKey with rfl | rfl <;>
        exact List.forall_mem_singleton.2 (runtime (by decide))
    · exact value_ih covers.of_map.2 isValue

/-! ## Modules -/

/-- The type of a member is one of the package. -/
theorem hasType_of_member {entry : String × List Member} (declared : entry ∈ package.structs)
    {member : Member} (among : member ∈ entry.2) : package.HasType member.type :=
  .inr (.inr ⟨member, List.mem_flatMap.2 ⟨entry, declared, among⟩, rfl⟩)

/-- The names in the line of a member are provided. -/
theorem provides_of_fieldLine {member : Member} (has : package.HasType member.type)
    {line : FieldLine} (success : package.fieldLine member = .ok line) :
    ∀ dotted ∈ line.annotation.dottedNames, package.Provides dotted := by
  obtain ⟨_, isWrapper⟩ | ⟨_, label, isLabel, sameLabel⟩ := annotation_of_fieldLine success
  · rw [isWrapper]
    exact fun _ member => by cases member
  · have provided := provides_of_annotation has isLabel
    obtain same | same := sameLabel
    · rwa [← same]
    · rwa [← same, Annotation.dottedNames_orNone]

/-- The names in the entry that a member reads are provided. -/
theorem Collected.provides_of_read? (collected : Collected package) {member : Member}
    (has : package.HasType member.type) {entry : Read}
    (success : package.read? member = .ok (some entry)) :
    ∀ dotted ∈ entry.dottedNames, package.Provides dotted := by
  cases read?_eq_ok_iff.1 success with
  | plain policy isShape =>
    rw [Read.dottedNames, List.append_nil]
    exact collected.provides_of_shape has.covers isShape
  | reference policy isShape isIdType isIdShape =>
    have idHas : package.HasType _ := .inl isIdType
    exact List.forall_mem_append.2 ⟨collected.provides_of_shape has.covers isShape,
      collected.provides_of_shape idHas.covers isIdShape⟩

/-- The names in the wrapper of a type are provided. -/
theorem provides_of_wrapper {type : Descriptor} (has : package.HasType type) {wrapper : Wrapper}
    (success : package.wrapper type = .ok wrapper) :
    ∀ dotted ∈ wrapper.valueAnnotation.dottedNames ++ wrapper.idAnnotation.dottedNames,
      package.Provides dotted := by
  simp only [Package.wrapper, bind_eq_ok] at success
  obtain ⟨label, annotated, idType, isIdType, idLabel, idAnnotated, same⟩ := success
  cases same
  have valueCovers : package.Covers (if type.nullable then type else .pointer type) := by
    split <;> exact has.covers
  refine List.forall_mem_append.2 ⟨?_, provides_of_annotation (.inl isIdType) idAnnotated⟩
  rw [ Annotation.dottedNames_orNone]
  exact provides_of_annotateWith (fun _ _ _ none => by cases none) valueCovers annotated

/-- The names with a point in a module are provided. -/
theorem Collected.provides_of_module (collected : Collected package) {units : List DeclUnit}
    (tables : Tables units package) (emitted : package.module = .ok module) :
    ∀ dotted ∈ module.dottedNames, package.Provides dotted := by
  simp only [Package.module, bind_eq_ok] at emitted
  obtain ⟨structs, structsRun, aliases, aliasesRun, wrappers, wrappersRun, same⟩ := emitted
  cases same
  unfold Module.dottedNames
  simp only [List.forall_mem_append, List.forall_mem_flatMap]
  refine ⟨⟨?wrappers, ?structs⟩, ?aliases⟩
  case wrappers =>
    intro wrapper isWrapper
    obtain ⟨entry, held, success⟩ := exists_item_of_mapM_ok wrappersRun isWrapper
    obtain ⟨member, among, isType⟩ := tables.exists_reference (Text.mem_sortBy.1 held)
    rw [← List.forall_mem_append]
    exact provides_of_wrapper (.inr (.inr ⟨member, among, isType⟩)) success
  case structs =>
    intro cls isClass
    obtain ⟨entry, declared, success⟩ := exists_item_of_mapM_ok structsRun isClass
    obtain ⟨fieldsRun, readsRun⟩ := runs_of_structClass success
    constructor
    · intro line isLine
      obtain ⟨member, among, lineMade⟩ := exists_item_of_mapM_ok fieldsRun isLine
      exact provides_of_fieldLine (hasType_of_member declared among) lineMade
    · intro read isRead
      obtain ⟨member, among, readMade⟩ := (mem_of_filterMapM_ok readsRun).1 isRead
      exact collected.provides_of_read? (hasType_of_member declared among) readMade
  case aliases =>
    intro line isLine
    obtain ⟨entry, declared, success⟩ := exists_item_of_mapM_ok aliasesRun isLine
    simp only [aliasLine, bind_eq_ok] at success
    obtain ⟨label, expanded, same⟩ := success
    cases same
    have has : package.HasType entry.2 := .inr (.inl ⟨entry, declared, rfl⟩)
    exact provides_of_expandWithin has.covers expanded

/-- A module has a line for each package that is imported. -/
theorem import_mem_lines (module : Module) {path : String} (imported : path ∈ module.dependencies) :
    "import " ++ path ∈ module.lines := by
  unfold Module.lines
  simp only [List.mem_append]
  exact .inl (.inl (.inl (.inl (.inr (List.mem_map.2 ⟨path, imported, rfl⟩)))))

/-- A module imports what its package does. -/
theorem dependencies_of_module (emitted : package.module = .ok module) :
    module.dependencies = package.dependencies := by
  simp only [Package.module, bind_eq_ok] at emitted
  obtain ⟨_, _, _, _, _, _, same⟩ := emitted
  cases same
  rfl

/-- The imports are exact. The packages that a collected package imports, each once, are those of
the settings and those of the qualified names, raw JSON text left out, that the type of identifiers
or a type in a declaration mentions at any depth. So once the module is there, each of these
packages has its line, and a name with a point in an annotation, an alias or a shape is one of the
runtime or one of those qualified names, whose package is imported. -/
theorem imports_exact {name : String} {settings : Settings} {units : List DeclUnit}
    (success : collect name settings units = .ok package) :
    package.dependencies.Nodup ∧
      (∀ path, path ∈ package.dependencies ↔ path ∈ settings.imports ∨
        ∃ own, Qualifies settings (units.flatMap DeclUnit.types) path own) ∧
      ∀ module, package.module = .ok module →
        module.dependencies = package.dependencies ∧
        (∀ path ∈ module.dependencies, "import " ++ path ∈ module.lines) ∧
        ∀ dotted ∈ module.dottedNames, dotted ∈ runtimeNames ∨
          ∃ path own, dotted = path ++ "." ++ own ∧ path ∈ module.dependencies ∧
            Qualifies settings (units.flatMap DeclUnit.types) path own := by
  refine ⟨nodup_dependencies package, fun path => mem_dependencies_iff success, ?_⟩
  intro module emitted
  have same := dependencies_of_module emitted
  refine ⟨same, fun path => import_mem_lines module, ?_⟩
  intro dotted mentioned
  rcases (collected_of_collect success).provides_of_module (tables_of_collect success) emitted
    dotted mentioned with runtime | ⟨type, path, own, has, inside, isName⟩
  · exact .inl runtime
  · have qualifies := qualifies_of_hasType success has inside
    have imported : path ∈ package.dependencies :=
      (mem_dependencies_iff success).2 (.inr ⟨own, qualifies⟩)
    exact .inr ⟨path, own, isName, same ▸ imported, qualifies⟩

/-- Settings that name a module and a type of another module for identifiers. -/
def shopSettings : Settings := { idType := "ids.Key", imports := ["base"] }

/-- An alias for a map with a key of another module, and fields that are not exported, left out of
the wire, and raw JSON text. -/
def shopUnits : List DeclUnit :=
  [⟨"shop", "p", [.alias "Index" (.map (.named ["cal"] "Day") (.named ["uuid"] "UUID")) "shop",
    .struct "Order" [⟨["hidden"], .slice (.named ["decimal"] "Decimal"), none⟩,
      ⟨["Skipped"], .named ["big"] "Int", some "json:\"-\""⟩,
      ⟨["Raw"], .named ["json"] "RawMessage", none⟩] "shop"]⟩]

/-- Their package. -/
def shopPackage : Package where
  name := "p"
  settings := shopSettings
  units := ["shop"]
  types := (shopUnits.flatMap (·.decls)).map fun decl => (decl.name, decl)
  aliases := [("Index", .map (.named "cal" "Day") (.named "uuid" "UUID"))]
  structs := [("Order", [⟨"hidden", .slice (.named "decimal" "Decimal"), none⟩,
    ⟨"Skipped", .named "big" "Int", some (.omitted "Skipped")⟩,
    ⟨"Raw", .named "json" "RawMessage", some (.plain "Raw" false)⟩])]
  referenced := []
  imported := ["base", "ids", "cal", "uuid", "decimal", "big"]

/-- Only raw JSON text needs no import. -/
example : shopPackage.dependencies = ["base", "big", "cal", "decimal", "ids", "uuid"] := by
  decide +kernel

/-- They are an instance: the module of the map key is imported. -/
theorem imports_exact_shop :
    collect "p" shopSettings shopUnits = .ok shopPackage ∧ "cal" ∈ shopPackage.dependencies ∧
      ∃ module, shopPackage.module = .ok module ∧ "import cal" ∈ module.lines := by
  have collects : collect "p" shopSettings shopUnits = .ok shopPackage :=
    eq_ok_of_toOption (by decide +kernel)
  obtain ⟨_, imported_iff, emission⟩ := imports_exact collects
  have imported : "cal" ∈ shopPackage.dependencies :=
    (imported_iff "cal").2 (.inr ⟨"Day", .inr ⟨_, List.mem_cons_self, .key (.named rfl), by decide,
      rfl⟩⟩)
  obtain ⟨module, emitted⟩ : ∃ module, shopPackage.module = .ok module :=
    exists_ok_of_isSome (by decide +kernel)
  obtain ⟨same, hasLine, _⟩ := emission module emitted
  exact ⟨collects, imported, module, emitted, hasLine "cal" (same ▸ imported)⟩

end Package

end DeclCodec
