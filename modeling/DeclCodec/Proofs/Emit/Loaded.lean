import DeclCodec.Emit.Codec
import DeclCodec.Proofs.Package.Collected

/-!
# The codecs of a loaded package

Once the module of a package is loaded, every struct has its codec, and the codec
says of each member what the declaration says: its default, the entry it writes
and the entry it reads. A member on the wire is exported, so it is never private
and keeps its name in the class; the other names may be private.

The module is loaded, and every class can be made from a map, unless a struct or a
field takes the name of the decorator of class methods or a special name.
-/

namespace DeclCodec

/-- An exported name is not private: it does not begin with an underscore. -/
theorem isPrivate_of_isExportedName {name : String}
    (exported : Descriptor.isExportedName name = true) : isPrivate name = false := by
  unfold Descriptor.isExportedName Text.isCapitalized at exported
  unfold isPrivate
  cases letters : name.toList with
  | nil => rfl
  | cons first rest =>
    rw [letters] at exported
    have notUnderscore : first ≠ '_' := by
      intro underscore
      rw [underscore] at exported
      change Text.isUpper '_' = true at exported
      exact absurd exported (by decide)
    simp [List.isPrefixOf, notUnderscore.symm]

/-- Only an exported name itself stands for an exported name: the others become private names. -/
theorem eq_of_scopedName_eq {cls name other : String} (same : scopedName cls name = other)
    (exported : Descriptor.isExportedName other = true) : name = other := by
  unfold scopedName at same
  split at same
  · exact same
  · next stem _ =>
    split at same
    · rw [← same, Descriptor.isExportedName, String.toList_append, String.toList_append] at exported
      change Text.isUpper '_' = true at exported
      exact absurd exported (by decide)
    · exact same

/-- An exported name stands for itself in every class. -/
theorem scopedName_of_isExportedName {name : String}
    (exported : Descriptor.isExportedName name = true) (cls : String) :
    scopedName cls name = name :=
  scopedName_eq (isPrivate_of_isExportedName exported) cls

namespace Member

/-- A member on the wire has a policy. -/
theorem isSome_policy {member : Member} (wired : member.isWired = true) :
    member.policy.isSome = true := by
  unfold isWired at wired
  cases policy : member.policy with
  | none => simp [policy] at wired
  | some policy => rfl

/-- A reference is on the wire. -/
theorem isWired_of_isReference {member : Member} (reference : member.isReference = true) :
    member.isWired = true := by
  rcases policy : member.policy with _ | _ | _ | _ <;>
    simp_all [isReference, Policy.isReference, isWired, Policy.isWired]

/-- The entry that a member writes is of its own field. -/
theorem field_of_write? {member : Member} {entry : Write} (writes : member.write? = some entry) :
    entry.field = member.name := by
  unfold write? at writes
  split at writes <;> cases writes <;> rfl

end Member

namespace Package

variable {package : Package} {codecs : Codecs}

/-- The default of a member. A reference holds nothing at first. -/
def fieldDefault (package : Package) (member : Member) : Default :=
  if member.isReference then .null else package.defaultOf member.type

/-- The codecs are those of the package's module, once it is loaded among the other modules that
they know. -/
def Loads (package : Package) (codecs : Codecs) : Prop :=
  ∃ module, package.module = .ok module ∧ module.load codecs.foreign = .ok codecs

/-- Loading gives the classes of the structs their codecs and those of the wrappers their
defaults. -/
theorem load_inv {module : Module} {foreign : Foreign} {codecs : Codecs}
    (loading : module.load foreign = .ok codecs) :
    loadClasses none module.structs = .ok codecs.structs ∧
      codecs.wrappers = (module.wrappers.map fun wrapper =>
        (wrapper.name, wrapper.idDefault.scoped wrapper.name)) ∧ codecs.foreign = foreign := by
  simp only [Module.load, bind_eq_ok] at loading
  obtain ⟨_, _, structs, classes, same⟩ := loading
  cases same
  exact ⟨classes, rfl, rfl⟩

/-- Where emitting and loading give the structs and the wrappers of codecs, these are the codecs. -/
theorem loads_of_toOption {package : Package} {codecs : Codecs}
    (loading : (package.module.toOption.bind fun module =>
      (module.load codecs.foreign).toOption.map fun loaded => (loaded.structs, loaded.wrappers)) =
        some (codecs.structs, codecs.wrappers)) :
    package.Loads codecs := by
  obtain ⟨module, emitted, loaded⟩ := Option.bind_eq_some_iff.1 loading
  obtain ⟨found, isFound, same⟩ := Option.map_eq_some_iff.1 loaded
  have isLoaded := eq_ok_of_toOption isFound
  have sameForeign := (load_inv isLoaded).2.2
  obtain ⟨sameStructs, sameWrappers⟩ := Prod.mk.inj same
  have isCodecs : found = codecs := by
    cases found
    cases codecs
    cases sameStructs
    cases sameWrappers
    cases sameForeign
    rfl
  exact ⟨module, eq_ok_of_toOption emitted, isCodecs ▸ isLoaded⟩

/-- What the codec of a struct has to do with the struct's members. -/
structure IsCodec (package : Package) (name : String) (members : List Member) (codec : Codec) :
    Prop where
  type : codec.type = name
  fields : codec.fields = members.map fun member =>
    (scopedName name member.name, (package.fieldDefault member).scoped name)
  writes : codec.writes = (members.filterMap Member.write?).map fun entry =>
    ⟨scopedName name entry.field, entry.key, entry.part⟩
  reads : ∃ reads, members.filterMapM package.read? = .ok reads ∧
    codec.reads = reads.map (Read.scoped name)

/-- The line of a member has the member's name and default. -/
theorem fieldLine_ok {member : Member} {line : FieldLine}
    (success : package.fieldLine member = .ok line) :
    line.name = member.name ∧ line.default = package.fieldDefault member := by
  unfold fieldLine at success
  unfold fieldDefault
  split at success
  · next reference =>
    cases success
    exact ⟨rfl, by rw [if_pos reference]⟩
  · next plain =>
    rw [bind_eq_ok] at success
    obtain ⟨_, _, same⟩ := success
    cases same
    exact ⟨rfl, by rw [if_neg plain]⟩

/-- The class of a struct has the struct's codec. -/
theorem isCodec_of_structClass {name : String} {members : List Member} {cls : StructClass}
    (success : package.structClass name members = .ok cls) (fromMaps : Bool) :
    package.IsCodec name members (cls.codec fromMaps) := by
  simp only [structClass, bind_eq_ok] at success
  obtain ⟨fields, lines, reads, entries, same⟩ := success
  cases same
  refine ⟨rfl, ?_, rfl, reads, entries, rfl⟩
  refine map_eq_of_mapM_ok (fun member line isLine => ?_) lines
  obtain ⟨sameName, sameDefault⟩ := fieldLine_ok isLine
  rw [sameName, sameDefault]

/-- Loading gives each class its codec. -/
theorem forall₂_of_loadClasses {hider : Option StructClass} {classes : List StructClass}
    {loaded : List Codec} (success : loadClasses hider classes = .ok loaded) :
    List.Forall₂ (fun cls codec => ∃ fromMaps, codec = cls.codec fromMaps) classes loaded := by
  induction classes generalizing hider loaded with
  | nil =>
    cases success
    exact .nil
  | cons cls rest inductionHypothesis =>
    rw [loadClasses.eq_def] at success
    dsimp only at success
    generalize (cls.hidesDecorator || _) = refused at success
    cases refused with
    | true => cases success
    | false =>
      rw [if_neg Bool.false_ne_true] at success
      change (loadClasses _ rest >>= fun codecs => pure (cls.codec hider.isNone :: codecs)) = _
        at success
      rw [bind_eq_ok] at success
      obtain ⟨others, later, same⟩ := success
      cases same
      exact .cons ⟨_, rfl⟩ (inductionHypothesis later)

/-- Nothing bears the name of the decorator of class methods. -/
def LeavesDecorator (package : Package) : Prop :=
  ∀ entry ∈ package.structs, entry.1 ≠ decoratorName ∧
    ∀ member ∈ entry.2, member.name ≠ decoratorName

instance : Decidable package.LeavesDecorator :=
  inferInstanceAs (Decidable (∀ entry ∈ package.structs, entry.1 ≠ decoratorName ∧
    ∀ member ∈ entry.2, member.name ≠ decoratorName))

/-- Nothing bears a special name. -/
def LeavesSpecial (package : Package) : Prop :=
  ∀ entry ∈ package.structs, isSpecial entry.1 = false ∧
    ∀ member ∈ entry.2, isSpecial member.name = false

instance : Decidable package.LeavesSpecial :=
  inferInstanceAs (Decidable (∀ entry ∈ package.structs, isSpecial entry.1 = false ∧
    ∀ member ∈ entry.2, isSpecial member.name = false))

/-- Classes that leave the decorator alone are all defined, and can all be made from maps. -/
theorem loadClasses_eq_ok {classes : List StructClass}
    (leaves : ∀ cls ∈ classes, cls.name ≠ decoratorName ∧ cls.hidesDecorator = false) :
    loadClasses none classes = .ok (classes.map (·.codec true)) := by
  induction classes with
  | nil => rfl
  | cons cls rest inductionHypothesis =>
    obtain ⟨notNamed, notHiding⟩ := leaves cls List.mem_cons_self
    have later := inductionHypothesis fun other member =>
      leaves other (List.mem_cons_of_mem _ member)
    simp [loadClasses, notNamed, notHiding, later, bind, Except.bind, pure, Except.pure]

/-- What is found of a table is found of a list that belongs to it entry by entry. -/
theorem exists_find?_of_lookup {α β : Type} {related : String × α → β → Prop} {name : β → String}
    {table : List (String × α)} {list : List β} (each : List.Forall₂ related table list)
    (named : ∀ entry item, related entry item → name item = entry.1) {key : String} {value : α}
    (found : table.lookup key = some value) :
    ∃ item, list.find? (name · == key) = some item ∧ related (key, value) item := by
  induction each with
  | nil => cases found
  | @cons entry item _ _ first _ inductionHypothesis =>
    obtain ⟨held, old⟩ := entry
    have sameName := named _ _ first
    by_cases here : key == held
    · have same : key = held := eq_of_beq here
      subst same
      rw [List.lookup_cons_self] at found
      cases found
      exact ⟨item, by simp [sameName], first⟩
    · have different : ¬(name item == key) = true := by
        intro same
        have isHeld : held = key := by rw [← eq_of_beq same, sameName]
        exact here (by rw [isHeld]; exact beq_self_eq_true key)
      rw [List.lookup_cons, Bool.eq_false_iff.2 here] at found
      obtain ⟨other, isFound, belongs⟩ := inductionHypothesis found
      exact ⟨other, by simp [different, isFound], belongs⟩

/-- The classes of a module belong to the structs of its package. -/
theorem forall₂_of_module {module : Module} (success : package.module = .ok module) :
    List.Forall₂ (fun entry cls => package.structClass entry.1 entry.2 = .ok cls)
      package.structs module.structs := by
  simp only [Package.module, bind_eq_ok] at success
  obtain ⟨structs, classes, aliases, _, wrappers, _, same⟩ := success
  cases same
  exact mapM_eq_ok_iff.1 classes

/-- The codecs of the classes of structs belong to the structs. -/
theorem forall₂_isCodec {entries : List (String × List Member)} {classes : List StructClass}
    {loaded : List Codec}
    (emitted : List.Forall₂ (fun entry cls => package.structClass entry.1 entry.2 = .ok cls)
      entries classes)
    (made : List.Forall₂ (fun cls codec => ∃ fromMaps, codec = cls.codec fromMaps) classes loaded) :
    List.Forall₂ (fun entry codec => package.IsCodec entry.1 entry.2 codec) entries loaded := by
  induction emitted generalizing loaded with
  | nil =>
    cases made
    exact .nil
  | cons first _ inductionHypothesis =>
    cases made with
    | cons isCodec others =>
      obtain ⟨fromMaps, rfl⟩ := isCodec
      exact .cons (isCodec_of_structClass first fromMaps) (inductionHypothesis others)

/-- The codecs of a loaded package belong to its structs. -/
theorem Loads.forall₂_structs (loaded : package.Loads codecs) :
    List.Forall₂ (fun entry codec => package.IsCodec entry.1 entry.2 codec) package.structs
      codecs.structs := by
  obtain ⟨module, emitted, loading⟩ := loaded
  exact forall₂_isCodec (forall₂_of_module emitted) (forall₂_of_loadClasses (load_inv loading).1)

/-- A struct of a loaded package has its codec. -/
theorem Loads.exists_codec (loaded : package.Loads codecs) {name : String} {members : List Member}
    (declared : package.structs.lookup name = some members) :
    ∃ codec, codecs.find? name = some codec ∧ package.IsCodec name members codec :=
  exists_find?_of_lookup loaded.forall₂_structs (fun _ _ isCodec => isCodec.type) declared

/-- Nothing else has a codec. -/
theorem Loads.find?_eq_none (loaded : package.Loads codecs) {name : String}
    (undeclared : package.structs.lookup name = none) : codecs.find? name = none := by
  have each := loaded.forall₂_structs
  rw [Codecs.find?, List.find?_eq_none]
  intro codec member isNamed
  obtain ⟨entry, declared, isCodec⟩ := exists_left_of_forall₂ each member
  have isKey : entry.1 = name := by rw [← isCodec.type, eq_of_beq isNamed]
  have isThere := Table.isSome_lookup_iff.2 (List.mem_map.2 ⟨entry, declared, isKey⟩)
  rw [undeclared] at isThere
  cases isThere

/-- A loaded package has as many codecs as it has structs. -/
theorem Loads.length_structs (loaded : package.Loads codecs) :
    codecs.structs.length = package.structs.length :=
  loaded.forall₂_structs.length_eq.symm

/-- A class and its fields bear the names of the struct and of its members. -/
theorem names_of_structClass {name : String} {members : List Member} {cls : StructClass}
    (success : package.structClass name members = .ok cls) :
    cls.name = name ∧ cls.fields.map (·.name) = members.map (·.name) := by
  simp only [structClass, bind_eq_ok] at success
  obtain ⟨fields, lines, _, _, same⟩ := success
  cases same
  exact ⟨rfl, map_eq_of_mapM_ok (fun _ _ isLine => (fieldLine_ok isLine).1) lines⟩

/-- The names of a module's structs and fields are those of the package. -/
theorem structNames_of_module {module : Module} (emitted : package.module = .ok module) :
    ∀ cls ∈ module.structs, ∃ entry ∈ package.structs, cls.name = entry.1 ∧
      cls.fields.map (·.name) = entry.2.map (·.name) := by
  intro cls among
  obtain ⟨entry, held, isClass⟩ := exists_left_of_forall₂ (forall₂_of_module emitted) among
  exact ⟨entry, held, names_of_structClass isClass⟩

/-- Where nothing bears the name of the decorator, it is hidden by no class. -/
theorem LeavesDecorator.classes (leaves : package.LeavesDecorator) {module : Module}
    (emitted : package.module = .ok module) :
    ∀ cls ∈ module.structs, cls.name ≠ decoratorName ∧ cls.hidesDecorator = false := by
  intro cls among
  obtain ⟨entry, held, isNamed, fields⟩ := structNames_of_module emitted cls among
  obtain ⟨notNamed, others⟩ := leaves entry held
  refine ⟨isNamed ▸ notNamed, ?_⟩
  rw [StructClass.hidesDecorator, List.any_eq_false]
  intro line isLine hides
  have isField : line.name ∈ entry.2.map (·.name) := fields ▸ List.mem_map_of_mem isLine
  obtain ⟨member, isMember, sameName⟩ := List.mem_map.1 isField
  exact others member isMember (sameName.trans (eq_of_beq hides))

/-- A module in which nothing bears a special name is not refused for one. -/
theorem LeavesSpecial.checkSpecial (leaves : package.LeavesSpecial) {module : Module}
    (emitted : package.module = .ok module) : module.checkSpecial = .ok () := by
  have none : module.structNames.find? isSpecial = none := by
    rw [List.find?_eq_none]
    intro name among
    obtain ⟨cls, isClass, inside⟩ := List.mem_flatMap.1 among
    obtain ⟨entry, held, isNamed, fields⟩ := structNames_of_module emitted cls isClass
    obtain ⟨notSpecial, others⟩ := leaves entry held
    rw [isNamed, fields, List.mem_cons, List.mem_map] at inside
    rw [Bool.not_eq_true]
    rcases inside with rfl | ⟨member, isMember, rfl⟩
    · exact notSpecial
    · exact others member isMember
  rw [Module.checkSpecial, none]

/-- All structs can be made from maps then. -/
theorem LeavesDecorator.fromMaps (leaves : package.LeavesDecorator) (loaded : package.Loads codecs)
    {name : String} {codec : Codec} (found : codecs.find? name = some codec) :
    codec.fromMaps = true := by
  obtain ⟨module, emitted, loading⟩ := loaded
  have classes := (load_inv loading).1
  rw [loadClasses_eq_ok (leaves.classes emitted), Except.ok.injEq] at classes
  have among := List.mem_of_find?_eq_some found
  rw [← classes] at among
  obtain ⟨cls, _, rfl⟩ := List.mem_map.1 among
  rfl

/-- A wrapper is named like its type and has the default of identifiers. -/
theorem wrapper_ok {type idType : Descriptor} (isIdType : package.idType = .ok idType)
    {wrapper : Wrapper} (success : package.wrapper type = .ok wrapper) :
    wrapper.name = package.wrapperName type ∧ wrapper.idDefault = package.defaultOf idType := by
  simp only [Package.wrapper, bind_eq_ok] at success
  obtain ⟨_, _, id, isId, _, _, same⟩ := success
  rw [isIdType] at isId
  cases isId
  cases same
  exact ⟨rfl, rfl⟩

/-- The class of a wrapped type is there, and its identifiers have their default, if that is the
same in every class. -/
theorem Loads.lookup_wrapper (loaded : package.Loads codecs) (collected : Collected package)
    {type idType : Descriptor} (isIdType : package.idType = .ok idType)
    (settled : ∀ cls, (package.defaultOf idType).scoped cls = package.defaultOf idType)
    (wrapped : (package.referenced.lookup type.base).isSome = true) :
    codecs.wrappers.lookup (package.wrapperName type) = some (package.defaultOf idType) := by
  obtain ⟨module, emitted, loading⟩ := loaded
  rw [(load_inv loading).2.1]
  simp only [Package.module, bind_eq_ok] at emitted
  obtain ⟨_, _, _, _, wrappers, made, same⟩ := emitted
  cases same
  dsimp only
  have isThere : package.wrapperName type ∈ (wrappers.map fun wrapper =>
      (wrapper.name, wrapper.idDefault.scoped wrapper.name)).map (·.1) := by
    obtain ⟨first, found⟩ := Option.isSome_iff_exists.1 wrapped
    have among := Table.mem_of_lookup found
    have sameBase : type.base = first.base := collected.bases _ among
    obtain ⟨wrapper, held, isWrapper⟩ := exists_of_mapM_ok made (Text.mem_sortBy.2 among)
    refine List.mem_map.2 ⟨_, List.mem_map.2 ⟨wrapper, held, rfl⟩, ?_⟩
    rw [(wrapper_ok isIdType isWrapper).1, wrapperName, wrapperName, sameBase]
  obtain ⟨default, found⟩ := Option.isSome_iff_exists.1 (Table.isSome_lookup_iff.2 isThere)
  obtain ⟨wrapper, held, isEntry⟩ := List.mem_map.1 (Table.mem_of_lookup found)
  obtain ⟨entry, _, isWrapper⟩ := exists_item_of_mapM_ok made held
  have isDefault := (wrapper_ok isIdType isWrapper).2
  rw [found, ← (Prod.mk.inj isEntry).2, isDefault, settled]

/-- The entries that a codec writes are those of the members, whose names are not private. -/
theorem IsCodec.writes_eq {name : String} {members : List Member} {codec : Codec}
    (isCodec : package.IsCodec name members codec) {types : List (String × Decl)}
    {referenced : List (String × Descriptor)} (ok : MembersOk types referenced members) :
    codec.writes = members.filterMap Member.write? := by
  rw [isCodec.writes]
  refine (List.map_congr_left fun entry held => ?_).trans (List.map_id _)
  obtain ⟨member, among, writes⟩ := List.mem_filterMap.1 held
  have wired : member.isWired = true := by
    rw [← member.isSome_write?, writes]
    rfl
  rw [Member.field_of_write? writes,
    scopedName_of_isExportedName (ok.exported member among (Member.isSome_policy wired)),
    ← Member.field_of_write? writes]
  rfl

end Package

/-- Among the names that a class gives to things with different names, an exported one is found with
what stands beside it. -/
theorem lookup_exported {ρ α : Type} {rows : List ρ} {name : ρ → String}
    (distinct : (rows.map name).Nodup) (cls : String) (beside : ρ → α) {row : ρ}
    (among : row ∈ rows)
    (exported : Descriptor.isExportedName (name row) = true) :
    (rows.map fun other => (scopedName cls (name other), beside other)).lookup (name row) =
      some (beside row) := by
  induction rows with
  | nil => cases among
  | cons first rest inductionHypothesis =>
    rw [List.map_cons, List.nodup_cons] at distinct
    rcases List.mem_cons.1 among with rfl | later
    · rw [List.map_cons, scopedName_of_isExportedName exported, List.lookup_cons_self]
    · have different : name row ≠ scopedName cls (name first) := by
        intro same
        have sameName := eq_of_scopedName_eq same.symm exported
        exact distinct.1 (sameName ▸ List.mem_map.2 ⟨row, later, rfl⟩)
      rw [List.map_cons, List.lookup_cons, beq_eq_false_iff_ne.2 different]
      exact inductionHypothesis distinct.2 later

end DeclCodec
