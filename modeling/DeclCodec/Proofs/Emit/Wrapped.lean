import DeclCodec.Proofs.Emit.Entries
import DeclCodec.Proofs.Emit.Loaded
import DeclCodec.Proofs.Package.Tables

/-!
# The wrappers of a module

A module names wrappers in the lines and in the entries of its references, and
it has a class for each type in the table of wrappers. Since the tables of the
package are closed, the two fit together: a wrapper that is named is defined by
one class, under a name that nothing else in the module bears, and a wrapper that
is defined is named by a reference.
-/

namespace DeclCodec

/-- The names of this module that an annotation mentions. -/
@[simp]
def Annotation.declaredNames : Annotation → List String
  | .declared name => [name]
  | .optional type => type.declaredNames
  | .list item => item.declaredNames
  | .dict key value => key.declaredNames ++ value.declaredNames
  | _ => []

namespace Module

/-- The names that a module gives to its classes and aliases, each as often as it is given. -/
def definedNames (module : Module) : List String :=
  module.wrappers.map (·.name) ++ module.structs.map (·.name) ++ module.aliases.map (·.1)

/-- Is this the name of a wrapper, and of nothing else in the module? -/
def DefinesWrapper (module : Module) (name : String) : Prop :=
  name ∈ module.wrappers.map (·.name) ∧ module.definedNames.count name = 1

/-- Does a field of the module hold the wrapper? Its line names the wrapper, and so does the entry
that it reads. -/
def HoldsWrapper (module : Module) (name : String) : Prop :=
  ∃ cls ∈ module.structs, ∃ line ∈ cls.fields, ∃ entry ∈ cls.reads,
    line.annotation = .optional (.declared name) ∧ entry.field = line.name ∧
      ∃ reference, entry.reference = some reference ∧ reference.wrapper = name

end Module

namespace Package

variable {package : Package} {module : Module}

/-! ## Names in annotations -/

/-- An annotation in which aliases are named mentions declared types only. -/
theorem declared_of_annotation {type : Descriptor} {label : Annotation}
    (annotated : package.annotation type = .ok label) :
    ∀ name ∈ label.declaredNames, (package.types.lookup name).isSome = true := by
  unfold annotation at annotated
  induction type generalizing label with
  | named path name =>
    simp only [annotateWith, annotateName] at annotated
    split at annotated
    · cases annotated
      split <;> simp
    · split at annotated
      · next primitive _ =>
        cases annotated
        cases primitive <;> intro name member <;> cases member
      · split at annotated
        · cases annotated
        · next declared =>
          cases annotated
          simpa [Option.isSome_iff_ne_none] using declared
  | pointer elem elem_ih =>
    simp only [annotateWith, bind_eq_ok] at annotated
    obtain ⟨inner, isInner, same⟩ := annotated
    cases same
    intro name member
    refine elem_ih isInner name ?_
    unfold Annotation.orNone at member
    split at member
    · exact member
    · exact member
  | slice elem elem_ih =>
    simp only [annotateWith, bind_eq_ok] at annotated
    obtain ⟨inner, isInner, same⟩ := annotated
    cases same
    intro name member
    exact elem_ih isInner name member
  | map key value key_ih value_ih =>
    simp only [annotateWith, bind_eq_ok] at annotated
    obtain ⟨valueLabel, isValue, keyLabel, isKey, same⟩ := annotated
    cases same
    intro name member
    rcases List.mem_append.1 member with inKey | inValue
    · exact key_ih isKey name inKey
    · exact value_ih isValue name inValue

/-- The line of a reference names the wrapper of its type; any other line mentions declared types
only. -/
theorem fieldLine_names {member : Member} {line : FieldLine}
    (success : package.fieldLine member = .ok line) :
    (member.isReference = true ∧
        line.annotation = .optional (.declared (package.wrapperName member.type))) ∨
      member.isReference = false ∧
        ∀ name ∈ line.annotation.declaredNames, (package.types.lookup name).isSome = true := by
  obtain reference | ⟨plain, label, isLabel, sameLabel⟩ := annotation_of_fieldLine success
  · exact .inl reference
  · have declared := declared_of_annotation isLabel
    refine .inr ⟨plain, ?_⟩
    obtain same | same := sameLabel
    · rwa [← same]
    · rw [← same]
      unfold Annotation.orNone
      split
      · exact declared
      · exact declared

/-- A reference reads an entry of its own field, which names the wrapper of its type. No other entry
names a wrapper. -/
theorem read?_names {member : Member} {chosen : Option Read}
    (success : package.read? member = .ok chosen) :
    (member.isReference = true ∧ ∃ entry reference, chosen = some entry ∧
        entry.field = member.name ∧ entry.reference = some reference ∧
        reference.wrapper = package.wrapperName member.type) ∨
      member.isReference = false ∧ ∀ entry, chosen = some entry → entry.reference = none := by
  cases read?_eq_ok_iff.1 success with
  | plain policy =>
    refine .inr ⟨by simp [Member.isReference, policy, Policy.isReference], ?_⟩
    intro entry same
    cases same
    rfl
  | reference policy =>
    exact .inl ⟨by simp [Member.isReference, policy, Policy.isReference], _, _, rfl, rfl, rfl, rfl⟩
  | nothing offWire =>
    refine .inr ⟨?_, fun entry same => by cases same⟩
    rw [← Bool.not_eq_true] at offWire ⊢
    exact fun isReference => offWire (Member.isWired_of_isReference isReference)

/-! ## Names that are defined -/

/-- The names that a module defines: those of the wrappers, by base name, of the structs and of the
aliases. -/
theorem definedNames_of_module (emitted : package.module = .ok module) :
    module.wrappers.map (·.name) =
        (Text.sortBy (·.1) package.referenced).map (fun entry => package.wrapperName entry.2) ∧
      module.structs.map (·.name) = package.structs.map (·.1) ∧
      module.aliases.map (·.1) = package.aliases.map (·.1) := by
  simp only [Package.module, bind_eq_ok] at emitted
  obtain ⟨structs, structsRun, aliases, aliasesRun, wrappers, wrappersRun, same⟩ := emitted
  cases same
  refine ⟨map_eq_of_mapM_ok ?_ wrappersRun, map_eq_of_mapM_ok ?_ structsRun,
    map_eq_of_mapM_ok ?_ aliasesRun⟩
  · intro entry wrapper success
    simp only [Package.wrapper, bind_eq_ok] at success
    obtain ⟨_, _, _, _, _, _, same⟩ := success
    cases same
    rfl
  · intro entry cls success
    exact (isCodec_of_structClass success true).type
  · intro entry line success
    simp only [aliasLine, bind_eq_ok] at success
    obtain ⟨_, _, same⟩ := success
    cases same
    rfl

/-- No name is defined twice in a module. -/
theorem definedNames_nodup {units : List DeclUnit} (collected : Collected package)
    (tables : Tables units package) (emitted : package.module = .ok module) :
    module.definedNames.Nodup := by
  obtain ⟨wrappers, structs, aliases⟩ := definedNames_of_module emitted
  have wrappersOnce : ((Text.sortBy (·.1) package.referenced).map fun entry =>
      package.wrapperName entry.2).Nodup := by
    rw [((Text.sortBy_perm (·.1) package.referenced).map _).nodup_iff]
    exact wrapperNames_nodup collected tables
  have wrappersNew : ∀ name ∈ (Text.sortBy (·.1) package.referenced).map (fun entry =>
      package.wrapperName entry.2), package.types.lookup name = none := by
    intro name member
    obtain ⟨entry, among, rfl⟩ := List.mem_map.1 member
    exact tables.wrappersNew entry (Text.mem_sortBy.1 among)
  have structDeclared : ∀ name ∈ package.structs.map (·.1), ∃ decl,
      package.types.lookup name = some decl ∧ decl.structName? = some name := by
    intro name member
    exact collected.lookup_of_named Decl.name_of_structName? (collected.structNames ▸ member)
  have aliasDeclared : ∀ name ∈ package.aliases.map (·.1), ∃ decl,
      package.types.lookup name = some decl ∧ decl.aliasName? = some name := by
    intro name member
    exact collected.lookup_of_named Decl.name_of_aliasName? (collected.aliasNames ▸ member)
  rw [Module.definedNames, wrappers, structs, aliases]
  refine List.nodup_append.2 ⟨List.nodup_append.2 ⟨wrappersOnce, collected.structs_nodup, ?_⟩,
    collected.aliases_nodup, ?_⟩
  · rintro name isWrapper _ isStruct rfl
    obtain ⟨decl, found, _⟩ := structDeclared name isStruct
    rw [wrappersNew name isWrapper] at found
    cases found
  · rintro name earlier _ isAlias rfl
    obtain ⟨decl, found, aliasName⟩ := aliasDeclared name isAlias
    rcases List.mem_append.1 earlier with isWrapper | isStruct
    · rw [wrappersNew name isWrapper] at found
      cases found
    · obtain ⟨other, foundToo, structName⟩ := structDeclared name isStruct
      rw [found] at foundToo
      cases foundToo
      cases decl
      · cases aliasName
      · cases structName

/-! ## Wrappers -/

/-- The lines and the entries of a class are those of the members. -/
theorem runs_of_structClass {name : String} {members : List Member} {cls : StructClass}
    (success : package.structClass name members = .ok cls) :
    members.mapM package.fieldLine = .ok cls.fields ∧
      members.filterMapM package.read? = .ok cls.reads := by
  simp only [structClass, bind_eq_ok] at success
  obtain ⟨fields, fieldsRun, reads, readsRun, same⟩ := success
  cases same
  exact ⟨fieldsRun, readsRun⟩

/-- The classes of a module are those of the structs. -/
theorem structs_of_module (emitted : package.module = .ok module) :
    (package.structs.mapM fun entry => package.structClass entry.1 entry.2) = .ok module.structs :=
  mapM_eq_ok_iff.2 (forall₂_of_module emitted)

/-- The wrapper of each reference is defined. -/
theorem definesWrapper_of_reference {units : List DeclUnit} (collected : Collected package)
    (tables : Tables units package) (emitted : package.module = .ok module)
    {entry : String × List Member} (declared : entry ∈ package.structs) {member : Member}
    (among : member ∈ entry.2) (reference : member.isReference = true) :
    module.DefinesWrapper (package.wrapperName member.type) := by
  have defined : package.wrapperName member.type ∈ module.wrappers.map (·.name) := by
    obtain ⟨first, found, _⟩ := (collected.members entry declared).wrapped member among reference
    have held := Table.mem_of_lookup found
    rw [(definedNames_of_module emitted).1]
    refine List.mem_map.2 ⟨_, Text.mem_sortBy.2 held, ?_⟩
    rw [wrapperName, wrapperName, ← collected.bases _ held]
  refine ⟨defined, List.count_eq_one_of_mem (definedNames_nodup collected tables emitted) ?_⟩
  exact List.mem_append_left _ (List.mem_append_left _ defined)

/-- Each wrapper that is defined is held by a field. -/
theorem holdsWrapper_of_wrapper {units : List DeclUnit} (tables : Tables units package)
    (emitted : package.module = .ok module) :
    ∀ wrapper ∈ module.wrappers, module.HoldsWrapper wrapper.name := by
  intro wrapper member
  have named : wrapper.name ∈ module.wrappers.map (·.name) := List.mem_map.2 ⟨_, member, rfl⟩
  rw [(definedNames_of_module emitted).1] at named
  obtain ⟨⟨base, type⟩, held, isName⟩ := List.mem_map.1 named
  -- The type in the table is that of the first reference of its base name.
  have found := Table.lookup_of_mem tables.referenced.distinct (Text.mem_sortBy.1 held)
  rw [tables.referenced.lookup_eq] at found
  obtain ⟨reference, among, rfl⟩ := List.mem_map.1 (List.mem_of_find?_eq_some found)
  obtain ⟨isMember, isReference⟩ := List.mem_filter.1 among
  obtain ⟨entry, declared, inside⟩ := List.mem_flatMap.1 isMember
  obtain ⟨cls, isClass, success⟩ := exists_of_mapM_ok (structs_of_module emitted) declared
  obtain ⟨fieldsRun, readsRun⟩ := runs_of_structClass success
  obtain ⟨line, isLine, lineMade⟩ := exists_of_mapM_ok fieldsRun inside
  obtain ⟨chosen, readMade⟩ := exists_of_filterMapM_ok readsRun inside
  rcases read?_names readMade with ⟨_, read, own, rfl, isField, isOwn, isWrapper⟩ | ⟨plain, _⟩
  · have isRead : read ∈ cls.reads :=
      (mem_of_filterMapM_ok readsRun).2 ⟨reference, inside, readMade⟩
    rcases fieldLine_names lineMade with ⟨_, annotated⟩ | ⟨plain, _⟩
    · rw [← isName]
      exact ⟨cls, isClass, line, isLine, read, isRead, annotated,
        isField.trans (fieldLine_ok lineMade).1.symm, own, isOwn, isWrapper⟩
    · rw [isReference] at plain
      cases plain
  · rw [isReference] at plain
    cases plain

/-- The tables of a collected package are closed: the types are the declarations, once each and in
order; the aliases and the structs are exactly the declared ones; the members of a struct are the
names of its field lines, without a policy exactly if they are not exported; and under each base
name of a reference, and under no other, there is the first type referred to by it, with whose core
all others agree. No wrapper is named like a declared type. So once the module is there, each
wrapper that a field line or an entry names is defined by one class only, and each that is defined
is held by a field. -/
theorem tables_closed {name : String} {settings : Settings} {units : List DeclUnit}
    (success : collect name settings units = .ok package) :
    Tables units package ∧
      ∀ module, package.module = .ok module →
        (∀ cls ∈ module.structs,
          (∀ line ∈ cls.fields, ∀ name ∈ line.annotation.declaredNames,
            (package.types.lookup name).isSome = true ∨ module.DefinesWrapper name) ∧
          ∀ entry ∈ cls.reads, ∀ reference, entry.reference = some reference →
            module.DefinesWrapper reference.wrapper) ∧
        ∀ wrapper ∈ module.wrappers, module.HoldsWrapper wrapper.name := by
  have collected := collected_of_collect success
  have tables := tables_of_collect success
  refine ⟨tables, fun module emitted => ⟨?_, holdsWrapper_of_wrapper tables emitted⟩⟩
  intro cls isClass
  obtain ⟨entry, declared, success⟩ := exists_item_of_mapM_ok (structs_of_module emitted) isClass
  obtain ⟨fieldsRun, readsRun⟩ := runs_of_structClass success
  have defined {member : Member} (among : member ∈ entry.2)
      (reference : member.isReference = true) :
      module.DefinesWrapper (package.wrapperName member.type) :=
    definesWrapper_of_reference collected tables emitted declared among reference
  constructor
  · intro line isLine named mentioned
    obtain ⟨member, among, lineMade⟩ := exists_item_of_mapM_ok fieldsRun isLine
    rcases fieldLine_names lineMade with ⟨reference, annotated⟩ | ⟨_, declared⟩
    · right
      rw [annotated] at mentioned
      rw [List.mem_singleton.1 mentioned]
      exact defined among reference
    · exact .inl (declared named mentioned)
  · intro read isRead own isOwn
    obtain ⟨member, among, readMade⟩ := (mem_of_filterMapM_ok readsRun).1 isRead
    rcases read?_names readMade with ⟨reference, _, _, same, _, isOwnToo, isWrapper⟩ | ⟨_, plain⟩
    · cases same
      rw [isOwn] at isOwnToo
      cases isOwnToo
      rw [isWrapper]
      exact defined among reference
    · rw [plain read rfl] at isOwn
      cases isOwn

/-- Two units, the second of which declares the type that the first refers to: twice under one base
name and once under another. -/
def orderUnits : List DeclUnit :=
  [⟨"orders", "p", [.struct "Order" [⟨["First", "second"], .named [] "Item", none⟩,
      ⟨["Given"], .pointer (.named [] "Item"), some "ref:\"given\""⟩,
      ⟨["Other"], .named [] "Item", some "ref:\"other\""⟩,
      ⟨["All"], .slice (.named [] "Item"), some "ref:\"all\""⟩] "orders"]⟩,
    ⟨"items", "p", [.alias "Item" (.named [] "string") "items"]⟩]

/-- Their package. -/
def orderPackage : Package where
  name := "p"
  settings := {}
  units := ["items", "orders"]
  types := (orderUnits.reverse.flatMap (·.decls)).map fun decl => (decl.name, decl)
  aliases := [("Item", .named "" "string")]
  structs := [("Order",
    [⟨"First", .named "" "Item", some (.plain "First" false)⟩,
      ⟨"second", .named "" "Item", none⟩,
      ⟨"Given", .pointer (.named "" "Item"), some (.reference "Given" "given" .id false)⟩,
      ⟨"Other", .named "" "Item", some (.reference "Other" "other" .id false)⟩,
      ⟨"All", .slice (.named "" "Item"), some (.reference "All" "all" .id false)⟩])]
  referenced := [("Item", .pointer (.named "" "Item")), ("ArrayOfItem", .slice (.named "" "Item"))]
  imported := []

/-- They are an instance: their tables are closed, and the wrapper that two references share is
held by a field of the module. -/
theorem tables_closed_order :
    collect "p" {} orderUnits = .ok orderPackage ∧ Tables orderUnits orderPackage ∧
      ∃ module, orderPackage.module = .ok module ∧ module.HoldsWrapper "ItemRef" := by
  have collects : collect "p" {} orderUnits = .ok orderPackage :=
    eq_ok_of_toOption (by decide +kernel)
  obtain ⟨tables, closed⟩ := tables_closed collects
  obtain ⟨module, emitted⟩ : ∃ module, orderPackage.module = .ok module :=
    exists_ok_of_isSome (by decide +kernel)
  have named : "ItemRef" ∈ module.wrappers.map (·.name) := by
    rw [(definedNames_of_module emitted).1]
    decide +kernel
  obtain ⟨wrapper, isWrapper, isName⟩ := List.mem_map.1 named
  exact ⟨collects, tables, module, emitted, isName ▸ (closed module emitted).2 wrapper isWrapper⟩

end Package

end DeclCodec
