import DeclCodec.Decl.UnitText
import DeclCodec.Proofs.Decl.Tags
import DeclCodec.Proofs.Emit.Emission
import DeclCodec.Proofs.Generation.Runs
import DeclCodec.Proofs.Package.Faults
import DeclCodec.Proofs.Package.Structs

/-!
# What generation fails with

Units that are read and generated fail with faults of the declarations, but for
tags: the inside of a quoted tag, and a value that is looked up in the tag of a
field line, have to be JSON strings, and where one is none the fault of the JSON
reader is left as it is.

Looking up a name in a table of a package does not fail: once all declarations are
resolved, every declared alias has its target and every declared struct its
members, and the graphs lead to nodes of theirs only.
-/

namespace DeclCodec

/-- The fault of a tag in a unit's text: of its first quoted tag that is no JSON string, or of a
value in the tag of one of the field lines that are read from it. -/
def UnitText.TagFault (settings : Settings) (source : UnitText) (fault : Fault) : Prop :=
  (∃ cause, source.tagFault? = some cause ∧ fault = .invalidTagLiteral cause) ∨
    ∃ unit, source.parse = .ok unit ∧ unit.TagFault settings fault

/-- Is it a fault of the declarations, or else of a tag in one of these texts? -/
def FaultOfTexts (settings : Settings) (sources : List UnitText) (fault : Fault) : Prop :=
  fault.isGeneration = true ∨ ∃ source ∈ sources, source.TagFault settings fault

/-- Texts are refused for the place where one is wrong, or for a quoted tag. -/
theorem UnitText.faults_parseAll (settings : Settings) (sources : List UnitText) :
    FaultsAre (FaultOfTexts settings sources) (parseAll sources) := by
  refine .mapM fun source member fault failed => ?_
  rcases source.parse_cases with
    ⟨⟨unit, parsed⟩, _⟩ | ⟨position, wrong⟩ | ⟨cause, refused, isFirst⟩
  · rw [parsed] at failed
    cases failed
  · rw [wrong] at failed
    cases failed
    exact .inl rfl
  · rw [refused] at failed
    cases failed
    exact .inr ⟨source, member, .inl ⟨cause, isFirst, rfl⟩⟩

/-- Is it a fault of the declarations, or else of the tag of a field line in one of these units? -/
def FaultOfUnits (settings : Settings) (units : List DeclUnit) (fault : Fault) : Prop :=
  fault.isGeneration = true ∨ ∃ unit ∈ units, unit.TagFault settings fault

/-- A fault of some units is one of more units. -/
theorem FaultOfUnits.mono {settings : Settings} {units more : List DeclUnit} {fault : Fault}
    (isFault : FaultOfUnits settings units fault) (among : units ⊆ more) :
    FaultOfUnits settings more fault :=
  isFault.imp id fun ⟨unit, member, broken⟩ => ⟨unit, among member, broken⟩

/-- A fault of units that are read from texts is one of the texts. -/
theorem FaultOfUnits.of_parseAll {settings : Settings} {sources : List UnitText}
    {units : List DeclUnit} (parsed : UnitText.parseAll sources = .ok units) {fault : Fault}
    (isFault : FaultOfUnits settings units fault) : FaultOfTexts settings sources fault := by
  refine isFault.imp id ?_
  rintro ⟨unit, member, broken⟩
  obtain ⟨source, among, isUnit⟩ := exists_item_of_mapM_ok parsed member
  exact ⟨source, among, .inr ⟨unit, isUnit, broken⟩⟩

/-- A package fails with a fault of its units. -/
theorem faults_processPackage (name : String) (settings : Settings) (units : List DeclUnit) :
    FaultsAre (FaultOfUnits settings units) (processPackage name settings units).result := by
  unfold processPackage
  split
  · next failure refused => exact .of_error (Package.faults_collect name units failure refused)
  next package collects =>
  dsimp only
  split
  · next fault notEmitted =>
    have collected := Package.collected_of_collect collects
    rcases collected.failsFor_emit (Package.tables_of_collect collects) with
      ⟨⟨text, emitted⟩, _⟩ | ⟨⟨written, isFault⟩, _⟩
    · rw [emitted] at notEmitted
      cases notEmitted
    · rw [isFault] at notEmitted
      cases notEmitted
      exact .of_error (.inl rfl)
  · exact .of_ok

/-- Units are not grouped because one is without a package. -/
theorem faults_groupUnits (settings : Settings) (units : List DeclUnit) :
    FaultsAre (FaultOfUnits settings units) (groupUnits units) := by
  refine .foldlM fun unit _ groups => ?_
  unfold groupUnit
  split
  · exact .of_error (.inl rfl)
  · exact .of_ok

/-- Units that are grouped all have a package. -/
theorem packaged_of_groupUnits {units : List DeclUnit} {groups : List (String × List DeclUnit)}
    (grouped : groupUnits units = .ok groups) : ∀ unit ∈ units, unit.package ≠ "" := by
  refine foldlM_invariant (fun before _ => ∀ unit ∈ before, unit.package ≠ "") ?_ (by simp) grouped
  intro before unit groups next packaged success other member
  rcases List.mem_append.1 member with earlier | last
  · exact packaged other earlier
  · rw [List.mem_singleton.1 last]
    intro missing
    rw [groupUnit, if_pos missing] at success
    cases success

/-- A run fails with a fault of its units. -/
theorem faults_generate (settings : Settings) (units : List DeclUnit) :
    FaultsAre (FaultOfUnits settings units) (generate settings units).result := by
  cases grouped : groupUnits units with
  | error fault =>
    rw [generate, grouped]
    exact .of_error (faults_groupUnits settings units fault grouped)
  | ok groups =>
    rw [generate_eq settings (packaged_of_groupUnits grouped)]
    obtain ⟨rest, _, _, ⟨_, success⟩ | ⟨package, later, fault, _, failed, isFault⟩⟩ :=
      processEach_outputs settings (unitsOf units) (packageNames units) []
    · rw [success]
      exact .of_ok
    · rw [isFault]
      have own := faults_processPackage package settings (unitsOf units package) fault failed
      exact .of_error (own.mono (List.filter_subset_self _))

/-- Texts that are read and generated fail with faults of theirs. -/
theorem faults_parseAll_generate (settings : Settings) (sources : List UnitText) :
    FaultsAre (FaultOfTexts settings sources)
      (UnitText.parseAll sources >>= fun units => (generate settings units).result) :=
  (UnitText.faults_parseAll settings sources).bind fun units parsed =>
    (faults_generate settings units).mono fun _ isFault => isFault.of_parseAll parsed

/-! ## Lookups -/

namespace Package

variable {package : Package}

/-- What is looked up in the tables of a package is there: the targets of aliases, the members of
structs, and the nodes that the edges of a graph lead to. Where no alias comes back to itself, the
search for a held struct ends by itself. -/
structure LookupsSucceed (package : Package) : Prop where
  target : ∀ name declared type unit, package.types.lookup name = some (.alias declared type unit) →
    ∃ target, package.aliases.lookup name = some target
  members : ∀ name declared fields unit,
    package.types.lookup name = some (.struct declared fields unit) →
      ∃ members, package.structs.lookup name = some members
  aliasGraph : package.aliasGraph.Closed
  structGraph : package.structGraph.Closed
  held : package.aliasGraph.findCycle? = none → ∀ type steps, package.aliases.length < steps →
    package.heldStruct? steps type = package.heldStruct? (package.aliases.length + 1) type

/-- The struct that a type holds depends on what the alias holds that the type is. -/
theorem Gathered.follows_heldStruct? (gathered : Gathered package) :
    package.Follows fun steps => package.heldStruct? (steps + 1) := by
  intro steps others type agree
  cases type with
  | named path name =>
    dsimp only
    rw [heldStruct?, heldStruct?]
    split
    · next isLocal =>
      subst isLocal
      split
      · rfl
      · next declared type unit found =>
        have sameName : declared = name := gathered.typesNamed _ (Table.mem_of_lookup found)
        subst sameName
        split
        · next target isTarget =>
          obtain ⟨fewer, fewerOthers, rfl, rfl, same⟩ :=
            agree declared (by simp [Descriptor.localNames])
            target (by simp [aliasTarget?, found, isTarget])
          exact same
        · rfl
      · rfl
    · rfl
  | _ => rfl

/-- In a gathered package all lookups succeed. -/
theorem Gathered.lookupsSucceed (gathered : Gathered package) : LookupsSucceed package where
  target name declared type unit found := by
    obtain ⟨target, isTarget⟩ := gathered.aliasTarget?_isSome found
    exact ⟨target, (lookup_of_aliasTarget? isTarget).2⟩
  members name declared fields unit found := gathered.members_isSome found
  aliasGraph := Graph.closed_map fun _ _ _ _ mentioned => (List.mem_filter.1 mentioned).2
  structGraph := by
    have closed : ∀ struct members, package.structs.lookup struct = some members →
        ∀ other ∈ package.heldStructs members, (package.structs.lookup other).isSome = true :=
      fun _ _ _ _ held => gathered.isSome_of_held held
    exact Graph.closed_map closed
  held acyclic type steps enough := by
    obtain ⟨rank, ranked⟩ := Grounded.exists_aliasRank ⟨gathered, acyclic⟩
    obtain ⟨more, rfl⟩ : ∃ more, steps = more + 1 := ⟨steps - 1, by omega⟩
    exact gathered.follows_heldStruct?.within_eq ranked (ranked.bounded type) (by omega)

end Package

end DeclCodec
