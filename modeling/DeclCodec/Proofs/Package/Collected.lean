import DeclCodec.Package.Collect
import DeclCodec.Proofs.Package.Acyclic
import DeclCodec.Proofs.Traversal

/-!
# What a collected package is like

Collecting succeeds only if the package is in order: every type has one
declaration, every alias and every struct is resolved, every mentioned type is
known, the members of a struct have different names, references have wrappers,
and neither aliases nor structs contain themselves.

The names are recorded before anything is resolved, so that each resolving step
sees the same types. What the steps gather is a function of the declarations
resolved so far, which is the invariant of the run.
-/

namespace DeclCodec

/-- The name of a declared type that is an alias. -/
def Decl.aliasName? : Decl → Option String
  | .alias name _ _ => some name
  | .struct _ _ _ => none

/-- The name of a declared type that is a struct. -/
def Decl.structName? : Decl → Option String
  | .alias _ _ _ => none
  | .struct name _ _ => some name

/-- An alias goes by its name. -/
theorem Decl.name_of_aliasName? {decl : Decl} {name : String}
    (isAlias : decl.aliasName? = some name) : decl.name = name := by
  cases decl <;> cases isAlias
  rfl

/-- A struct goes by its name. -/
theorem Decl.name_of_structName? {decl : Decl} {name : String}
    (isStruct : decl.structName? = some name) : decl.name = name := by
  cases decl <;> cases isStruct
  rfl

/-- Does a type mention only builtin and declared types? -/
def Descriptor.Known (types : List (String × Decl)) (type : Descriptor) : Prop :=
  ∀ name ∈ type.localNames, isBuiltin name = true ∨ (types.lookup name).isSome = true

instance (types : List (String × Decl)) (type : Descriptor) : Decidable (type.Known types) :=
  inferInstanceAs (Decidable
    (∀ name ∈ type.localNames, isBuiltin name = true ∨ (types.lookup name).isSome = true))

namespace Package

/-- The check of a type passes exactly if all it mentions is known. -/
theorem checkKnown_eq_ok_iff {types : List (String × Decl)} {type : Descriptor} :
    checkKnown types type = .ok () ↔ type.Known types := by
  unfold checkKnown
  cases unknown : unknownName? types type with
  | none =>
    simp only [unknownName?, List.find?_eq_none, Bool.and_eq_true, Bool.not_eq_true',
      Option.isNone_iff_eq_none, not_and] at unknown
    simp only [true_iff]
    intro name member
    rcases Bool.eq_false_or_eq_true (isBuiltin name) with builtin | notBuiltin
    · exact .inl builtin
    · exact .inr (Option.isSome_iff_ne_none.2 (unknown name member notBuiltin))
  | some name =>
    have member := List.mem_of_find?_eq_some unknown
    have fails := List.find?_some unknown
    simp only [Bool.and_eq_true, Bool.not_eq_true', Option.isNone_iff_eq_none] at fails
    simp only [reduceCtorEq, false_iff]
    intro known
    rcases known name member with builtin | declared
    · rw [fails.1] at builtin
      cases builtin
    · rw [fails.2] at declared
      cases declared

/-- A type is described as it is by itself, if it mentions known types only. -/
theorem describeKnown_eq_ok_iff {types : List (String × Decl)} {type : TypeExpr}
    {described : Descriptor} :
    describeKnown types type = .ok described ↔
      type.describe = .ok described ∧ described.Known types := by
  simp only [describeKnown, bind_eq_ok]
  constructor
  · rintro ⟨descriptor, isDescribed, ⟨⟩, checked, same⟩
    cases same
    exact ⟨isDescribed, checkKnown_eq_ok_iff.1 checked⟩
  · rintro ⟨isDescribed, known⟩
    exact ⟨described, isDescribed, (), checkKnown_eq_ok_iff.2 known, rfl⟩

/-- Is there a wrapper for the type, made for a type with the same core? -/
def Wrapped (referenced : List (String × Descriptor)) (type : Descriptor) : Prop :=
  ∃ first, referenced.lookup type.base = some first ∧ first.qualified = type.qualified

/-- Members of a struct that are in order, given the types that are known and the types that have
wrappers. -/
structure MembersOk (types : List (String × Decl)) (referenced : List (String × Descriptor))
    (members : List Member) : Prop where
  distinct : (members.map (·.name)).Nodup
  known : ∀ member ∈ members, member.type.Known types
  exported : ∀ member ∈ members, member.policy.isSome = true →
    Descriptor.isExportedName member.name = true
  wrapped : ∀ member ∈ members, member.isReference = true → Wrapped referenced member.type

/-- Every wrapper is still the one of its type, and those added are of the bases of types. -/
structure Extends (referenced later : List (String × Descriptor)) : Prop where
  keeps : ∀ base first, referenced.lookup base = some first → later.lookup base = some first
  bases : ∀ entry ∈ later, entry ∈ referenced ∨ entry.1 = entry.2.base

/-- No wrapper may be added. -/
theorem Extends.refl (referenced : List (String × Descriptor)) : Extends referenced referenced :=
  ⟨fun _ _ held => held, fun _ held => .inl held⟩

/-- Wrappers may be added again. -/
theorem Extends.trans {referenced later last : List (String × Descriptor)}
    (extension : Extends referenced later) (further : Extends later last) :
    Extends referenced last := by
  refine ⟨fun base first held => further.keeps base first (extension.keeps base first held), ?_⟩
  intro entry held
  rcases further.bases entry held with earlier | base
  · exact extension.bases entry earlier
  · exact .inr base

/-- A type keeps its wrapper. -/
theorem Wrapped.extend {referenced later : List (String × Descriptor)} {type : Descriptor}
    (wrapped : Wrapped referenced type) (extension : Extends referenced later) :
    Wrapped later type := by
  obtain ⟨first, held, sameCore⟩ := wrapped
  exact ⟨first, extension.keeps _ first held, sameCore⟩

/-- More wrappers do no harm. -/
theorem MembersOk.extend {types : List (String × Decl)}
    {referenced later : List (String × Descriptor)} {members : List Member}
    (ok : MembersOk types referenced members) (extension : Extends referenced later) :
    MembersOk types later members :=
  ⟨ok.distinct, ok.known, ok.exported, fun member held reference =>
    (ok.wrapped member held reference).extend extension⟩

/-- One more member may be added, if its name is new and it is in order itself. -/
theorem MembersOk.add {types : List (String × Decl)} {referenced : List (String × Descriptor)}
    {members : List Member} {member : Member} (ok : MembersOk types referenced members)
    (fresh : member.name ∉ members.map (·.name)) (known : member.type.Known types)
    (exported : member.policy.isSome = true → Descriptor.isExportedName member.name = true)
    (wrapped : member.isReference = true → Wrapped referenced member.type) :
    MembersOk types referenced (members ++ [member]) := by
  have each {holds : Member → Prop} (before : ∀ other ∈ members, holds other)
      (last : holds member) : ∀ other ∈ members ++ [member], holds other := by
    intro other held
    rcases List.mem_append.1 held with earlier | isLast
    · exact before other earlier
    · exact List.mem_singleton.1 isLast ▸ last
  refine ⟨?_, each ok.known known, each ok.exported exported, each ok.wrapped wrapped⟩
  rw [List.map_append, List.map_singleton, List.nodup_append]
  refine ⟨ok.distinct, by simp, ?_⟩
  intro held earlier other single same
  rw [same, List.mem_singleton.1 single] at earlier
  exact fresh earlier

/-- Announcing keeps the wrappers there are and makes sure of one more. -/
theorem extends_of_announce {referenced later : List (String × Descriptor)} {field : String}
    {type : Descriptor} (announced : announce referenced field type = .ok later) :
    Extends referenced later ∧ Wrapped later type := by
  unfold announce at announced
  split at announced
  · cases announced
  · split at announced
    · next absent =>
      cases announced
      refine ⟨⟨?_, ?_⟩, ?_⟩
      · intro base first held
        rw [List.lookup_append, held]
        rfl
      · intro entry held
        rcases List.mem_append.1 held with earlier | last
        · exact .inl earlier
        · exact .inr (List.mem_singleton.1 last ▸ rfl)
      · refine ⟨type, ?_, rfl⟩
        rw [List.lookup_append, absent]
        simp
    · next first present =>
      split at announced
      · next sameCore =>
        cases announced
        exact ⟨.refl _, first, present, sameCore⟩
      · cases announced

/-- What is attempted succeeds as it does by itself. -/
theorem attempt_eq_ok {α : Type} {progress : Progress} {result : Except Fault α} {value : α} :
    progress.attempt result = .ok value ↔ result = .ok value := by
  cases result <;> simp [Progress.attempt, Except.mapError]

/-- A field name that is not refused is new. -/
theorem not_mem_of_checkField {name : String} {taken : List Member}
    (success : checkField name taken = .ok ()) : name ∉ taken.map (·.name) := by
  intro held
  simp only [checkField, bind_eq_ok] at success
  obtain ⟨_, _, rest⟩ := success
  split at rest
  · cases rest
  · simp only [List.contains_iff_mem.2 held, if_true] at rest
    cases rest

/-- Collecting a name adds a member of that name, at most one wrapper, and no package. -/
theorem collectName_cases {type : Descriptor} {policies : List (String × Policy)}
    {progress next : Progress} {name : String}
    (success : collectName type policies progress name = .ok next) :
    name ∉ progress.members.map (·.name) ∧
      next.members = progress.members ++ [⟨name, type, policies.lookup name⟩] ∧
      Extends progress.referenced next.referenced ∧
      ((Member.mk name type (policies.lookup name)).isReference = true →
        Wrapped next.referenced type) ∧
      next.imported = progress.imported := by
  simp only [collectName, bind_eq_ok, attempt_eq_ok] at success
  obtain ⟨_, checked, rest⟩ := success
  refine ⟨not_mem_of_checkField checked, ?_⟩
  split at rest
  · simp only [bind_eq_ok, attempt_eq_ok] at rest
    obtain ⟨referenced, announced, same⟩ := rest
    obtain ⟨extension, wrapped⟩ := extends_of_announce announced
    cases same
    exact ⟨rfl, extension, fun _ => wrapped, rfl⟩
  · next noReference =>
    cases rest
    exact ⟨rfl, .refl _, fun reference => absurd reference noReference, rfl⟩

/-- Only exported names of a field line have policies. -/
theorem exported_of_resolveField {names : List String} {tag : Option Points}
    {wireKey refKey : Points} {name : String} {policies : List (String × Policy)}
    (success : Policy.resolveField names tag wireKey refKey = .ok policies)
    (found : (policies.lookup name).isSome = true) : Descriptor.isExportedName name = true := by
  simp only [Policy.resolveField, bind_eq_ok] at success
  obtain ⟨wireValue, _, refValue, _, rest⟩ := success
  split at rest
  · cases rest
  · obtain ⟨entry, member, same⟩ := List.mem_map.1 (Table.isSome_lookup_iff.1 found)
    obtain ⟨exportedName, among, resolved⟩ := exists_item_of_mapM_ok rest member
    rw [bind_eq_ok] at resolved
    obtain ⟨policy, _, isEntry⟩ := resolved
    cases isEntry
    exact same ▸ (List.mem_filter.1 among).2

/-- Collecting a field line keeps the members in order. -/
theorem membersOk_of_collectField {settings : Settings} {types : List (String × Decl)}
    {progress next : Progress} {field : Field}
    (success : collectField settings types progress field = .ok next)
    (ok : MembersOk types progress.referenced progress.members) :
    MembersOk types next.referenced next.members ∧
      Extends progress.referenced next.referenced := by
  simp only [collectField, bind_eq_ok, attempt_eq_ok] at success
  obtain ⟨type, described, policies, resolved, run⟩ := success
  have known := (describeKnown_eq_ok_iff.1 described).2
  refine foldlM_invariant (fun _ state => MembersOk types state.referenced state.members ∧
    Extends progress.referenced state.referenced) ?_ ⟨ok, .refl _⟩ run
  rintro _ name state next ⟨ok, extension⟩ success
  obtain ⟨fresh, members, further, wrapped, _⟩ := collectName_cases success
  refine ⟨?_, extension.trans further⟩
  rw [members]
  exact (ok.extend further).add fresh known (exported_of_resolveField resolved) wrapped

/-- A package in which these declarations are resolved, given the package in which they are recorded
only. -/
structure Resolved (recorded : Package) (decls : List Decl) (package : Package) : Prop where
  settings : package.settings = recorded.settings
  units : package.units = recorded.units
  types : package.types = recorded.types
  aliasNames : package.aliases.map (·.1) = decls.filterMap Decl.aliasName?
  structNames : package.structs.map (·.1) = decls.filterMap Decl.structName?
  targets : ∀ entry ∈ package.aliases, entry.2.Known recorded.types
  members : ∀ entry ∈ package.structs, MembersOk recorded.types package.referenced entry.2
  bases : ∀ entry ∈ package.referenced, entry.1 = entry.2.base

/-- Naming the declaration in a fault makes no difference to a success. -/
theorem resolveDecl_of_resolveNamed {package next : Package} {decl : Decl}
    (success : resolveNamed package decl = .ok next) : resolveDecl package decl = .ok next := by
  unfold resolveNamed at success
  cases done : resolveDecl package decl <;> simp_all [Except.mapError]

/-- Resolving one more declaration. -/
theorem Resolved.step {recorded package next : Package} {decls : List Decl} {decl : Decl}
    (resolved : Resolved recorded decls package) (success : resolveNamed package decl = .ok next) :
    Resolved recorded (decls ++ [decl]) next := by
  have plain := resolveDecl_of_resolveNamed success
  obtain ⟨name, fields, unit⟩ | ⟨name, type, unit⟩ := decl
  · simp only [resolveDecl, bind_eq_ok] at plain
    obtain ⟨progress, run, same⟩ := plain
    cases same
    have empty : MembersOk package.types package.referenced [] :=
      ⟨by simp, by simp, by simp, by simp⟩
    obtain ⟨ok, extension⟩ := foldlM_invariant (fun _ state =>
      MembersOk package.types state.referenced state.members ∧
        Extends package.referenced state.referenced)
      (by
        rintro _ field state next ⟨ok, extension⟩ success
        obtain ⟨stillOk, further⟩ := membersOk_of_collectField success ok
        exact ⟨stillOk, extension.trans further⟩)
      ⟨empty, .refl _⟩ run
    rw [resolved.types] at ok
    refine ⟨resolved.settings, resolved.units, resolved.types, ?_, ?_, resolved.targets, ?_, ?_⟩
    · simp [resolved.aliasNames, Decl.aliasName?]
    · simp [resolved.structNames, Decl.structName?]
    · intro entry held
      rcases List.mem_append.1 held with earlier | last
      · exact (resolved.members entry earlier).extend extension
      · rw [List.mem_singleton.1 last]
        exact ok
    · intro entry held
      exact (extension.bases entry held).elim (resolved.bases entry) id
  · simp only [resolveDecl, bind_eq_ok, attempt_eq_ok] at plain
    obtain ⟨target, described, same⟩ := plain
    cases same
    have known := (describeKnown_eq_ok_iff.1 described).2
    rw [resolved.types] at known
    refine ⟨resolved.settings, resolved.units, resolved.types, ?_, ?_, ?_, resolved.members,
      resolved.bases⟩
    · simp [resolved.aliasNames, Decl.aliasName?]
    · simp [resolved.structNames, Decl.structName?]
    · intro entry held
      rcases List.mem_append.1 held with earlier | last
      · exact resolved.targets entry earlier
      · exact List.mem_singleton.1 last ▸ known

/-- Recording gives each declaration its name once. -/
theorem recorded_ok {name : String} {settings : Settings} {units : List DeclUnit}
    {package : Package} (success : record name settings units = .ok package) :
    package.settings = settings ∧ package.aliases = [] ∧ package.structs = [] ∧
      package.referenced = [] ∧ package.imported = settings.imports ∧
      (package.types.map (·.1)).Nodup ∧ ∀ entry ∈ package.types, entry.2.name = entry.1 := by
  simp only [record, bind_eq_ok] at success
  obtain ⟨types, run, same⟩ := success
  cases same
  refine ⟨rfl, rfl, rfl, rfl, rfl, ?_⟩
  refine foldlM_invariant (fun _ types => (types.map (·.1)).Nodup ∧
    ∀ entry ∈ types, entry.2.name = entry.1) ?_ ⟨by simp, by simp⟩ run
  rintro _ decl types next ⟨distinct, named⟩ success
  simp only [recordDecl, bind_eq_ok] at success
  obtain ⟨_, _, rest⟩ := success
  split at rest
  · cases rest
  · next absent =>
    cases rest
    constructor
    · rw [List.map_append, List.map_singleton, List.nodup_append]
      refine ⟨distinct, by simp, ?_⟩
      intro held earlier other single same
      rw [same, List.mem_singleton.1 single] at earlier
      have found := Table.isSome_lookup_iff.2 earlier
      rw [absent] at found
      cases found
    · intro entry held
      rcases List.mem_append.1 held with earlier | last
      · exact named entry earlier
      · rw [List.mem_singleton.1 last]

/-- A package whose declarations are recorded and resolved. -/
structure Gathered (package : Package) : Prop where
  typesDistinct : (package.types.map (·.1)).Nodup
  typesNamed : ∀ entry ∈ package.types, entry.2.name = entry.1
  aliasNames : package.aliases.map (·.1) = (package.types.map (·.2)).filterMap Decl.aliasName?
  structNames : package.structs.map (·.1) = (package.types.map (·.2)).filterMap Decl.structName?
  targets : ∀ entry ∈ package.aliases, entry.2.Known package.types
  members : ∀ entry ∈ package.structs, MembersOk package.types package.referenced entry.2
  bases : ∀ entry ∈ package.referenced, entry.1 = entry.2.base
  idType : ∃ type, Descriptor.parse package.settings.idType = .ok type ∧
    type.Known package.types

/-- A declaration that goes by a name is found under it. -/
theorem Gathered.lookup_of_named {package : Package} (gathered : Gathered package)
    {pick : Decl → Option String}
    (named : ∀ {decl : Decl} {name : String}, pick decl = some name → decl.name = name)
    {name : String} (among : name ∈ (package.types.map (·.2)).filterMap pick) :
    ∃ decl, package.types.lookup name = some decl ∧ pick decl = some name := by
  obtain ⟨decl, member, picked⟩ := List.mem_filterMap.1 among
  obtain ⟨⟨key, _⟩, held, rfl⟩ := List.mem_map.1 member
  have isKey : name = key := (named picked).symm.trans (gathered.typesNamed _ held)
  subst isKey
  exact ⟨_, Table.lookup_of_mem gathered.typesDistinct held, picked⟩

/-- A gathered package in which no alias comes back to itself. -/
structure Grounded (package : Package) : Prop extends Gathered package where
  aliasesAcyclic : package.aliasGraph.findCycle? = none

/-- A package as collecting leaves it. -/
structure Collected (package : Package) : Prop extends Grounded package where
  structsAcyclic : package.structGraph.findCycle? = none

/-- The type of identifiers is resolved if it is known, and its packages are to be imported. -/
theorem resolveIdType_eq_ok_iff {recorded started : Package} :
    recorded.resolveIdType = .ok started ↔
      ∃ type, Descriptor.parse recorded.settings.idType = .ok type ∧ type.Known recorded.types ∧
        started = { recorded with imported := recorded.imported ++ type.foreignPackages } := by
  simp only [resolveIdType, bind_eq_ok]
  constructor
  · rintro ⟨type, parsed, _, known, same⟩
    cases same
    exact ⟨type, parsed, checkKnown_eq_ok_iff.1 known, rfl⟩
  · rintro ⟨type, parsed, known, rfl⟩
    exact ⟨type, parsed, (), checkKnown_eq_ok_iff.2 known, rfl⟩

/-- A package is what units are gathered to, if their declarations are recorded and then, behind the
type of identifiers, resolved to it. It is not checked as a whole yet. -/
def Gathers (name : String) (settings : Settings) (units : List DeclUnit) (package : Package) :
    Prop :=
  ∃ recorded started, record name settings units = .ok recorded ∧
    recorded.resolveIdType = .ok started ∧
    (started.types.map (·.2)).foldlM resolveNamed started = .ok package

/-- Collecting is gathering and checking the whole. -/
theorem collect_eq_ok_iff {name : String} {settings : Settings} {units : List DeclUnit}
    {package : Package} :
    collect name settings units = .ok package ↔
      Gathers name settings units package ∧ package.checkWhole = .ok () := by
  constructor
  · intro success
    unfold collect at success
    split at success
    · cases success
    next recorded recording =>
    split at success
    · cases success
    next started starting =>
    split at success
    · cases success
    next resolvedPackage resolving =>
    split at success
    · cases success
    next wholeChecked =>
    cases success
    exact ⟨⟨recorded, started, recording, starting, resolving⟩, wholeChecked⟩
  · rintro ⟨⟨recorded, started, recording, starting, resolving⟩, wholeChecked⟩
    simp only [collect, recording, starting, resolving, wholeChecked]

/-- A graph that is not refused has no cycle. -/
theorem findCycle?_of_checkAcyclic {graph : Graph} (success : checkAcyclic graph = .ok ()) :
    graph.findCycle? = none := by
  unfold checkAcyclic at success
  cases found : graph.findCycle? with
  | none => rfl
  | some cycle => simp [found] at success

/-- Resolving the recorded declarations one after another resolves them all. -/
theorem resolved_of_record {name : String} {settings : Settings} {units : List DeclUnit}
    {recorded started package : Package} (recording : record name settings units = .ok recorded)
    (starting : recorded.resolveIdType = .ok started)
    (resolving : (started.types.map (·.2)).foldlM resolveNamed started = .ok package) :
    Resolved started (started.types.map (·.2)) package := by
  obtain ⟨_, noAlias, noStruct, noReference, _⟩ := recorded_ok recording
  obtain ⟨_, _, _, rfl⟩ := resolveIdType_eq_ok_iff.1 starting
  refine foldlM_invariant (Resolved _) (fun _ _ _ _ resolved => resolved.step)
    ⟨rfl, rfl, rfl, ?_, ?_, ?_, ?_, ?_⟩ resolving
  · rw [noAlias]
    rfl
  · rw [noStruct]
    rfl
  · simp [noAlias]
  · simp [noStruct]
  · simp [noReference]

/-- What is gathered is in order. -/
theorem Gathers.gathered {name : String} {settings : Settings} {units : List DeclUnit}
    {package : Package} (gathers : Gathers name settings units package) : Gathered package := by
  obtain ⟨recorded, started, recording, starting, resolving⟩ := gathers
  obtain ⟨_, _, _, _, _, distinct, named⟩ := recorded_ok recording
  have resolved := resolved_of_record recording starting resolving
  obtain ⟨idType, parsed, idKnown, rfl⟩ := resolveIdType_eq_ok_iff.1 starting
  rw [← resolved.types] at distinct named idKnown
  refine ⟨distinct, named, ?_, ?_, ?_, ?_, resolved.bases, ⟨idType, ?_, idKnown⟩⟩
  · rw [resolved.types]
    exact resolved.aliasNames
  · rw [resolved.types]
    exact resolved.structNames
  · rw [resolved.types]
    exact resolved.targets
  · rw [resolved.types]
    exact resolved.members
  · rw [resolved.settings]
    exact parsed

/-- What is collected is in order. -/
theorem collected_of_collect {name : String} {settings : Settings} {units : List DeclUnit}
    {package : Package} (success : collect name settings units = .ok package) :
    Collected package := by
  obtain ⟨gathers, wholeChecked⟩ := collect_eq_ok_iff.1 success
  simp only [checkWhole, bind_eq_ok] at wholeChecked
  obtain ⟨_, aliasesChecked, _, structsChecked, _⟩ := wholeChecked
  exact ⟨⟨gathers.gathered, findCycle?_of_checkAcyclic aliasesChecked⟩,
    findCycle?_of_checkAcyclic structsChecked⟩

end Package

end DeclCodec
