import DeclCodec.Proofs.Package.Collected
import Mathlib.Data.List.Nodup

/-!
# The tables of a package

The tables of a collected package are closed. Every declaration stands in the
table of types once, every alias and every struct in its own table, in the same
order, and a struct has one member for each name of its field lines.

A type that needs a wrapper is announced under its base name by the first
reference to a type of that base name; a later reference finds it there, and has
to have the same core. So the table of the wrappers is a function of the members
resolved so far, which is the invariant of the run.
-/

namespace DeclCodec

/-- Members that belong to field lines: there is one for every name of the lines, in their order,
and exactly those with exported names have policies. -/
structure Field.Listed (fields : List Field) (members : List Member) : Prop where
  names : members.map (·.name) = fields.flatMap (·.names)
  policies : ∀ member ∈ members,
    member.policy = none ↔ Descriptor.isExportedName member.name = false

namespace Package

/-- The types of the references among members. -/
def referenceTypes (members : List Member) : List Descriptor :=
  (members.filter (·.isReference)).map (·.type)

/-- All members of a package, struct by struct. -/
def allMembers (package : Package) : List Member := package.structs.flatMap (·.2)

/-- The names of the wrappers. -/
def wrapperNames (package : Package) : List String :=
  package.referenced.map fun entry => package.wrapperName entry.2

/-- A table that holds, under each base name of some types, the first type of that base name. -/
structure FirstOfEach (types : List Descriptor) (table : List (String × Descriptor)) : Prop where
  distinct : (table.map (·.1)).Nodup
  lookup_eq : ∀ base, table.lookup base = types.find? fun type => type.base == base

/-- The tables of the package that units declare. -/
structure Tables (units : List DeclUnit) (package : Package) : Prop where
  unitNames : package.units = (Text.sortBy (·.name) units).map (·.name)
  types : package.types = ((Text.sortBy (·.name) units).flatMap (·.decls)).map fun decl =>
    (decl.name, decl)
  once : (package.types.map (·.1)).Nodup
  aliases : package.aliases.map (·.1) = (package.types.map (·.2)).filterMap Decl.aliasName?
  structs : package.structs.map (·.1) = (package.types.map (·.2)).filterMap Decl.structName?
  members : ∀ name fields unit, package.types.lookup name = some (.struct name fields unit) →
    ∃ members, package.structs.lookup name = some members ∧ Field.Listed fields members ∧
      (members.map (·.name)).Nodup
  referenced : FirstOfEach (referenceTypes package.allMembers) package.referenced
  sameCore : ∀ type ∈ referenceTypes package.allMembers, Wrapped package.referenced type
  wrappersNew : ∀ entry ∈ package.referenced,
    package.types.lookup (package.wrapperName entry.2) = none

/-! ## Types -/

/-- Recording fills the table of types with the declarations in the order of the units. -/
theorem types_of_record {name : String} {settings : Settings} {units : List DeclUnit}
    {package : Package} (success : record name settings units = .ok package) :
    package.units = (Text.sortBy (·.name) units).map (·.name) ∧
      package.types = ((Text.sortBy (·.name) units).flatMap (·.decls)).map fun decl =>
        (decl.name, decl) := by
  simp only [record, bind_eq_ok] at success
  obtain ⟨types, run, same⟩ := success
  cases same
  refine ⟨rfl, ?_⟩
  refine foldlM_invariant (fun before types => types = before.map fun decl => (decl.name, decl))
    ?_ rfl run
  intro before decl types next holds success
  simp only [recordDecl, bind_eq_ok] at success
  obtain ⟨_, _, rest⟩ := success
  split at rest
  · cases rest
  · cases rest
    rw [List.map_append, holds, List.map_singleton]

/-! ## Members -/

/-- The names with policies are the exported names of a field line. -/
theorem names_of_resolveField {names : List String} {tag : Option Points} {wireKey refKey : Points}
    {policies : List (String × Policy)}
    (success : Policy.resolveField names tag wireKey refKey = .ok policies) :
    policies.map (·.1) = names.filter Descriptor.isExportedName := by
  simp only [Policy.resolveField, bind_eq_ok] at success
  obtain ⟨wireValue, _, refValue, _, rest⟩ := success
  split at rest
  · cases rest
  · have kept : policies.map (·.1) = (names.filter Descriptor.isExportedName).map id := by
      refine map_eq_of_mapM_ok (fun name entry resolved => ?_) rest
      obtain ⟨policy, _, isEntry⟩ := bind_eq_ok.1 resolved
      cases isEntry
      rfl
    rwa [List.map_id] at kept

/-- A field line adds a member for each of its names, and the packages that its type mentions. -/
theorem collectField_cases {settings : Settings} {types : List (String × Decl)}
    {progress next : Progress} {field : Field}
    (success : collectField settings types progress field = .ok next) :
    ∃ type policies, field.type.describe = .ok type ∧
      Policy.resolveField field.names field.tag settings.wireTag settings.refTag = .ok policies ∧
      next.members = progress.members ++
        field.names.map (fun name => ⟨name, type, policies.lookup name⟩) ∧
      next.imported = progress.imported ++ type.foreignPackages := by
  simp only [collectField, bind_eq_ok, attempt_eq_ok] at success
  obtain ⟨type, described, policies, resolved, run⟩ := success
  refine ⟨type, policies, (describeKnown_eq_ok_iff.1 described).1, resolved, ?_⟩
  refine foldlM_invariant (fun before state => state.members = progress.members ++
      before.map (fun name => ⟨name, type, policies.lookup name⟩) ∧
    state.imported = progress.imported ++ type.foreignPackages) ?_ (by simp [Progress.meet]) run
  rintro before name state next ⟨members, imported⟩ success
  obtain ⟨_, isMembers, _, _, isImported⟩ := collectName_cases success
  refine ⟨?_, isImported.trans imported⟩
  rw [isMembers, members, List.map_append, List.append_assoc]
  rfl

/-- So the members belong to one field line more. -/
theorem listed_of_collectField {settings : Settings} {types : List (String × Decl)}
    {progress next : Progress} {before : List Field} {field : Field}
    (success : collectField settings types progress field = .ok next)
    (listed : Field.Listed before progress.members) :
    Field.Listed (before ++ [field]) next.members := by
  obtain ⟨type, policies, _, resolved, isMembers, _⟩ := collectField_cases success
  have isExported {name : String} (among : name ∈ field.names) :
      policies.lookup name = none ↔ Descriptor.isExportedName name = false := by
    rw [← Option.not_isSome_iff_eq_none, Table.isSome_lookup_iff, names_of_resolveField resolved,
      List.mem_filter]
    simp [among]
  refine ⟨?_, ?_⟩
  · simp [isMembers, listed.names, Function.comp_def]
  · intro member among
    rw [isMembers, List.mem_append] at among
    rcases among with earlier | last
    · exact listed.policies member earlier
    · obtain ⟨name, isName, rfl⟩ := List.mem_map.1 last
      exact isExported isName

/-! ## Wrappers -/

/-- References of some members and of others are those of all of them. -/
theorem referenceTypes_append (members others : List Member) :
    referenceTypes (members ++ others) = referenceTypes members ++ referenceTypes others := by
  simp [referenceTypes]

/-- Announcing a type puts it into the table if it is the first of its base name. -/
theorem FirstOfEach.announce {types : List Descriptor}
    {referenced later : List (String × Descriptor)} {field : String} {type : Descriptor}
    (first : FirstOfEach types referenced)
    (announced : Package.announce referenced field type = .ok later) :
    FirstOfEach (types ++ [type]) later := by
  unfold Package.announce at announced
  split at announced
  · cases announced
  · split at announced
    · next absent =>
      cases announced
      constructor
      · rw [List.map_append, List.map_singleton, List.nodup_append]
        refine ⟨first.distinct, by simp, ?_⟩
        intro held earlier other single same
        rw [same, List.mem_singleton.1 single, ← Table.isSome_lookup_iff, absent] at earlier
        cases earlier
      · intro base
        rw [List.lookup_append, List.find?_append, first.lookup_eq]
        congr 1
        by_cases same : type.base = base
        · simp [same]
        · simp [List.lookup_cons, same, beq_eq_false_iff_ne.2 (Ne.symm same)]
    · next present =>
      split at announced
      · cases announced
        refine ⟨first.distinct, fun base => ?_⟩
        rw [List.find?_append, first.lookup_eq]
        by_cases same : type.base = base
        · rw [first.lookup_eq, same] at present
          rw [present]
          rfl
        · simp [same]
      · cases announced

/-- Collecting a name announces its type if it is a reference. -/
theorem firstOfEach_of_collectName {type : Descriptor} {policies : List (String × Policy)}
    {progress next : Progress} {name : String} {earlier : List Descriptor}
    (success : collectName type policies progress name = .ok next)
    (first : FirstOfEach (earlier ++ referenceTypes progress.members) progress.referenced) :
    FirstOfEach (earlier ++ referenceTypes next.members) next.referenced := by
  rw [(collectName_cases success).2.1, referenceTypes_append, ← List.append_assoc]
  simp only [collectName, bind_eq_ok, attempt_eq_ok] at success
  obtain ⟨_, _, rest⟩ := success
  split at rest
  · next reference =>
    simp only [bind_eq_ok, attempt_eq_ok] at rest
    obtain ⟨referenced, announced, same⟩ := rest
    cases same
    have one : referenceTypes [⟨name, type, policies.lookup name⟩] = [type] := by
      simp [referenceTypes, reference]
    rw [one]
    exact first.announce announced
  · next plain =>
    cases rest
    have none : referenceTypes [⟨name, type, policies.lookup name⟩] = [] := by
      simp [referenceTypes, plain]
    rwa [none, List.append_nil]

/-! ## All declarations -/

/-- A package in which these declarations are resolved has their members, and announces the types
of the references among them. -/
structure Tabled (decls : List Decl) (package : Package) : Prop where
  members : ∀ name fields unit, Decl.struct name fields unit ∈ decls →
    ∃ members, (name, members) ∈ package.structs ∧ Field.Listed fields members
  referenced : FirstOfEach (referenceTypes package.allMembers) package.referenced

/-- Resolving one more declaration. -/
theorem Tabled.step {package next : Package} {decls : List Decl} {decl : Decl}
    (tabled : Tabled decls package) (success : resolveNamed package decl = .ok next) :
    Tabled (decls ++ [decl]) next := by
  obtain ⟨name, fields, unit⟩ | ⟨name, type, unit⟩ := decl
  · obtain ⟨progress, run, same⟩ := bind_eq_ok.1 (resolveDecl_of_resolveNamed success)
    cases same
    have start : package.progress = ⟨[], package.referenced, package.imported⟩ := rfl
    rw [start] at run
    obtain ⟨listed, first⟩ := foldlM_invariant
      (fun before state => Field.Listed before state.members ∧
        FirstOfEach (referenceTypes package.allMembers ++ referenceTypes state.members)
          state.referenced)
      (by
        rintro before field state next ⟨listed, first⟩ success
        refine ⟨listed_of_collectField success listed, ?_⟩
        simp only [collectField, bind_eq_ok, attempt_eq_ok] at success
        obtain ⟨type, _, policies, _, run⟩ := success
        exact foldlM_invariant (fun _ state => FirstOfEach (referenceTypes package.allMembers ++
          referenceTypes state.members) state.referenced)
          (fun _ _ _ _ first success => firstOfEach_of_collectName success first) first run)
      ⟨⟨rfl, by simp⟩, by simpa [referenceTypes] using tabled.referenced⟩ run
    constructor
    · intro other otherFields otherUnit member
      rcases List.mem_append.1 member with earlier | last
      · obtain ⟨members, among, isListed⟩ := tabled.members other otherFields otherUnit earlier
        exact ⟨members, List.mem_append_left _ among, isListed⟩
      · cases List.mem_singleton.1 last
        exact ⟨progress.members, by simp, listed⟩
    · have all : referenceTypes package.allMembers ++ referenceTypes progress.members =
          referenceTypes (allMembers { package with
            structs := package.structs ++ [(name, progress.members)]
            referenced := progress.referenced
            imported := progress.imported }) := by
        simp [allMembers, referenceTypes]
      rw [← all]
      exact first
  · obtain ⟨target, _, same⟩ := bind_eq_ok.1 (resolveDecl_of_resolveNamed success)
    cases same
    refine ⟨?_, tabled.referenced⟩
    intro other fields otherUnit member
    rcases List.mem_append.1 member with earlier | last
    · exact tabled.members other fields otherUnit earlier
    · cases List.mem_singleton.1 last

/-! ## Tables -/

/-- Names of some declarations, each name that of its declaration, are a part of the names of
all. -/
theorem filterMap_sublist_names {pick : Decl → Option String}
    (named : ∀ {decl : Decl} {name : String}, pick decl = some name → decl.name = name)
    (decls : List Decl) :
    (decls.filterMap pick).Sublist (decls.map (·.name)) := by
  induction decls with
  | nil => exact .slnil
  | cons decl decls inductionHypothesis =>
    rw [List.filterMap_cons, List.map_cons]
    cases picked : pick decl with
    | none => exact inductionHypothesis.cons _
    | some name =>
      rw [named picked]
      exact inductionHypothesis.cons_cons _

/-- The declarations of a gathered package have different names. -/
theorem Gathered.names_nodup {package : Package} (gathered : Gathered package) :
    ((package.types.map (·.2)).map (·.name)).Nodup := by
  have same : (package.types.map (·.2)).map (·.name) = package.types.map (·.1) := by
    rw [List.map_map]
    exact List.map_congr_left gathered.typesNamed
  rw [same]
  exact gathered.typesDistinct

/-- So have its structs. -/
theorem Gathered.structs_nodup {package : Package} (gathered : Gathered package) :
    (package.structs.map (·.1)).Nodup := by
  rw [gathered.structNames]
  exact gathered.names_nodup.sublist (filterMap_sublist_names Decl.name_of_structName? _)

/-- And so have its aliases. -/
theorem Gathered.aliases_nodup {package : Package} (gathered : Gathered package) :
    (package.aliases.map (·.1)).Nodup := by
  rw [gathered.aliasNames]
  exact gathered.names_nodup.sublist (filterMap_sublist_names Decl.name_of_aliasName? _)

/-- A wrapper is not named like a declared type. -/
theorem wrapperNames_of_checkWhole {package : Package} (success : package.checkWhole = .ok ()) :
    ∀ entry ∈ package.referenced, package.types.lookup (package.wrapperName entry.2) = none := by
  simp only [checkWhole, bind_eq_ok] at success
  obtain ⟨_, _, _, _, wrappersChecked⟩ := success
  unfold checkWrapperNames at wrappersChecked
  split at wrappersChecked
  · cases wrappersChecked
  · next none =>
    intro entry member
    have isNew := List.find?_eq_none.1 none entry member
    rwa [Option.not_isSome_iff_eq_none] at isNew

/-- Collecting units fills the tables of their package. -/
theorem tables_of_collect {name : String} {settings : Settings} {units : List DeclUnit}
    {package : Package} (success : collect name settings units = .ok package) :
    Tables units package := by
  have collected := collected_of_collect success
  obtain ⟨⟨recorded, _, recording, starting, resolving⟩, wholeChecked⟩ :=
    collect_eq_ok_iff.1 success
  obtain ⟨_, _, noStruct, noReference, _⟩ := recorded_ok recording
  obtain ⟨unitNames, types⟩ := types_of_record recording
  have resolved := resolved_of_record recording starting resolving
  obtain ⟨_, _, _, rfl⟩ := resolveIdType_eq_ok_iff.1 starting
  have tabled : Tabled (recorded.types.map (·.2)) package :=
    foldlM_invariant Tabled (fun _ _ _ _ tabled => tabled.step)
      (by
        refine ⟨by simp, by simp [noReference], fun base => ?_⟩
        simp [allMembers, referenceTypes, noStruct, noReference])
      resolving
  rw [← resolved.types] at types tabled
  rw [← resolved.units] at unitNames
  refine ⟨unitNames, types, collected.typesDistinct, collected.aliasNames, collected.structNames,
    ?_, tabled.referenced, ?_, wrapperNames_of_checkWhole wholeChecked⟩
  · intro struct fields unit found
    have among : Decl.struct struct fields unit ∈ package.types.map (·.2) :=
      List.mem_map.2 ⟨_, Table.mem_of_lookup found, rfl⟩
    obtain ⟨members, declared, listed⟩ := tabled.members struct fields unit among
    exact ⟨members, Table.lookup_of_mem collected.structs_nodup declared, listed,
      (collected.members _ declared).distinct⟩
  · intro type member
    obtain ⟨reference, among, rfl⟩ := List.mem_map.1 member
    obtain ⟨held, isReference⟩ := List.mem_filter.1 among
    obtain ⟨entry, declared, inside⟩ := List.mem_flatMap.1 held
    exact (collected.members entry declared).wrapped reference inside isReference

/-- The type in the table of wrappers is that of a reference. -/
theorem Tables.exists_reference {units : List DeclUnit} {package : Package}
    (tables : Tables units package) {entry : String × Descriptor}
    (held : entry ∈ package.referenced) :
    ∃ member ∈ package.allMembers, member.type = entry.2 := by
  have found := Table.lookup_of_mem tables.referenced.distinct held
  rw [tables.referenced.lookup_eq] at found
  obtain ⟨member, among, isType⟩ := List.mem_map.1 (List.mem_of_find?_eq_some found)
  exact ⟨member, (List.mem_filter.1 among).1, isType⟩

/-- Wrappers have different names. -/
theorem wrapperNames_nodup {units : List DeclUnit} {package : Package}
    (collected : Collected package) (tables : Tables units package) :
    package.wrapperNames.Nodup := by
  have distinct := List.Nodup.map (f := (· ++ package.settings.refSuffix))
    (fun first second same => (String.append_left_inj _).1 same) tables.referenced.distinct
  rw [List.map_map] at distinct
  rw [wrapperNames]
  convert distinct using 1
  refine List.map_congr_left fun entry member => ?_
  rw [wrapperName, ← collected.bases entry member]
  rfl

end Package

end DeclCodec
