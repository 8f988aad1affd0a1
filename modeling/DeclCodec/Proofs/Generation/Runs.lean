import DeclCodec.Generation
import DeclCodec.Proofs.Text.Sorted
import Mathlib.Data.List.Dedup

/-!
# Generation runs, package by package

A run processes the packages of its units in ascending order of their names, each
with the units of its own. The order in which units are given shows in nothing
that comes of a package, as long as its units have different names, since they are
sorted before anything is done with them. So it does not show in a run either.

What a run hands over are the packages before the first one that fails, each with
the text that comes of its own units.
-/

namespace DeclCodec

/-- The units of a package among these, in the given order. -/
def unitsOf (units : List DeclUnit) (package : String) : List DeclUnit :=
  units.filter fun unit => unit.package == package

/-- The names of the packages of units, in ascending order, each once. -/
def packageNames (units : List DeclUnit) : List String :=
  Text.sort (units.map (·.package)).dedup

/-! ## Grouping -/

/-- Adding a unit to the group of its package is writing the longer group into the table. -/
theorem addToGroup_eq_put (unit : DeclUnit) (groups : List (String × List DeclUnit)) :
    addToGroup unit groups =
      Table.put unit.package ((groups.lookup unit.package).getD [] ++ [unit]) groups := by
  induction groups with
  | nil => rfl
  | cons group rest inductionHypothesis =>
    obtain ⟨package, units⟩ := group
    by_cases here : unit.package = package
    · subst here
      simp [addToGroup, Table.put]
    · simp [addToGroup, Table.put, here, inductionHypothesis, List.lookup_cons,
        beq_eq_false_iff_ne.2 here]

/-- The groups of units: one for each package, with the units of the package. -/
structure Grouped (units : List DeclUnit) (groups : List (String × List DeclUnit)) : Prop where
  distinct : (groups.map (·.1)).Nodup
  lookup_iff : ∀ package own, groups.lookup package = some own ↔
    package ∈ units.map (·.package) ∧ own = unitsOf units package

/-- One more unit goes to the units of its package. -/
theorem unitsOf_append_self (units : List DeclUnit) (unit : DeclUnit) :
    unitsOf (units ++ [unit]) unit.package = unitsOf units unit.package ++ [unit] := by
  simp [unitsOf]

/-- It leaves the units of the other packages as they are. -/
theorem unitsOf_append_other (units : List DeclUnit) {unit : DeclUnit} {package : String}
    (different : package ≠ unit.package) :
    unitsOf (units ++ [unit]) package = unitsOf units package := by
  simp [unitsOf, different.symm]

/-- No unit is of a package that none names. -/
theorem unitsOf_eq_nil {units : List DeclUnit} {package : String}
    (absent : package ∉ units.map (·.package)) : unitsOf units package = [] := by
  rw [unitsOf, List.filter_eq_nil_iff]
  intro unit member isOf
  exact absent (List.mem_map.2 ⟨unit, member, eq_of_beq isOf⟩)

/-- Adding a unit keeps the groups in order. -/
theorem Grouped.add {units : List DeclUnit} {groups : List (String × List DeclUnit)}
    (grouped : Grouped units groups) (unit : DeclUnit) :
    Grouped (units ++ [unit]) (addToGroup unit groups) := by
  rw [addToGroup_eq_put]
  refine ⟨Table.nodup_keys_put grouped.distinct _ _, fun package own => ?_⟩
  by_cases same : package = unit.package
  · subst same
    have before : (groups.lookup unit.package).getD [] = unitsOf units unit.package := by
      cases found : groups.lookup unit.package with
      | some own => exact ((grouped.lookup_iff _ own).1 found).2
      | none =>
        refine (unitsOf_eq_nil fun present => ?_).symm
        rw [(grouped.lookup_iff _ _).2 ⟨present, rfl⟩] at found
        cases found
    rw [Table.lookup_put_self, unitsOf_append_self, before, Option.some.injEq]
    simp [eq_comm]
  · rw [Table.lookup_put_of_ne same, grouped.lookup_iff, unitsOf_append_other units same]
    simp [same]

/-- Units that all have a package are grouped. -/
theorem exists_grouped {units : List DeclUnit} (packaged : ∀ unit ∈ units, unit.package ≠ "") :
    ∃ groups, groupUnits units = .ok groups ∧ Grouped units groups := by
  have onward : ∀ (rest before : List DeclUnit) (groups : List (String × List DeclUnit)),
      (∀ unit ∈ rest, unit.package ≠ "") → Grouped before groups →
        ∃ later, rest.foldlM groupUnit groups = .ok later ∧ Grouped (before ++ rest) later := by
    intro rest
    induction rest with
    | nil => exact fun before groups _ grouped => ⟨groups, rfl, by rwa [List.append_nil]⟩
    | cons unit rest inductionHypothesis =>
      intro before groups packaged grouped
      obtain ⟨later, run, groupedLater⟩ := inductionHypothesis (before ++ [unit])
        (addToGroup unit groups)
        (fun other member => packaged other (List.mem_cons_of_mem _ member)) (grouped.add unit)
      refine ⟨later, ?_, by rwa [List.append_assoc, List.singleton_append] at groupedLater⟩
      rw [List.foldlM_cons, groupUnit, if_neg (packaged unit List.mem_cons_self)]
      exact run
  exact onward units [] [] packaged ⟨List.nodup_nil, fun package own => by simp⟩

/-- Sorted groups are the packages in ascending order, each with its units. -/
theorem Grouped.sorted {units : List DeclUnit} {groups : List (String × List DeclUnit)}
    (grouped : Grouped units groups) :
    Text.sortBy (·.1) groups =
      (packageNames units).map fun package => (package, unitsOf units package) := by
  have perm : groups.Perm
      ((units.map (·.package)).dedup.map fun package => (package, unitsOf units package)) := by
    rw [List.perm_ext_iff_of_nodup (.of_map _ grouped.distinct)
      ((List.nodup_dedup _).map fun first second same => (Prod.mk.inj same).1)]
    rintro ⟨package, own⟩
    have found : (package, own) ∈ groups ↔ groups.lookup package = some own :=
      ⟨Table.lookup_of_mem grouped.distinct, Table.mem_of_lookup⟩
    rw [found, grouped.lookup_iff]
    constructor
    · rintro ⟨present, rfl⟩
      exact List.mem_map.2 ⟨package, List.mem_dedup.2 present, rfl⟩
    · intro isEntry
      obtain ⟨other, present, same⟩ := List.mem_map.1 isEntry
      cases same
      exact ⟨List.mem_dedup.1 present, rfl⟩
  rw [Text.sortBy_eq_of_perm_names (·.1) perm grouped.distinct, Text.sortBy_map]
  rfl

/-- A run over units that all have a package processes the packages in ascending order. -/
theorem generate_eq (settings : Settings) {units : List DeclUnit}
    (packaged : ∀ unit ∈ units, unit.package ≠ "") :
    generate settings units = processEach settings []
      ((packageNames units).map fun package => (package, unitsOf units package)) := by
  obtain ⟨groups, isGroups, grouped⟩ := exists_grouped packaged
  rw [generate, isGroups]
  dsimp only
  rw [grouped.sorted]

/-! ## Order of the units -/

/-- A package does not depend on the order in which its units are given, if their names differ. -/
theorem processPackage_perm (name : String) (settings : Settings) {units others : List DeclUnit}
    (perm : units.Perm others) (distinct : (units.map (·.name)).Nodup) :
    processPackage name settings units = processPackage name settings others := by
  have sorted : Text.sortBy (fun unit => unit.name) units =
      Text.sortBy (fun unit => unit.name) others :=
    Text.sortBy_eq_of_perm_names (·.name) perm distinct
  rw [processPackage, processPackage, Package.collect, Package.collect, Package.record,
    Package.record, sorted]

/-- What comes of packages depends only on what comes of each. -/
theorem processEach_congr (settings : Settings) {units others : String → List DeclUnit}
    {packages : List String}
    (agree : ∀ package ∈ packages, processPackage package settings (units package) =
      processPackage package settings (others package)) (finished : List String) :
    processEach settings finished (packages.map fun package => (package, units package)) =
      processEach settings finished (packages.map fun package => (package, others package)) := by
  induction packages generalizing finished with
  | nil => rfl
  | cons package rest inductionHypothesis =>
    have later := inductionHypothesis
      (fun other member => agree other (List.mem_cons_of_mem _ member)) (finished ++ [package])
    simp only [List.map_cons, processEach, agree package List.mem_cons_self, later]

/-- The packages of units do not depend on the order of the units. -/
theorem packageNames_perm {units others : List DeclUnit} (perm : units.Perm others) :
    packageNames units = packageNames others := by
  exact Text.sortBy_eq_of_perm_names id (perm.map _).dedup
    (by rw [List.map_id]; exact List.nodup_dedup _)

/-! ## What is handed over -/

/-- Nothing is handed over when a failure is logged. -/
theorem outputs_failureEvents (package : String) (finished : Nat) (fault : Fault) :
    (failureEvents package finished fault).filterMap Event.output? = [] := by
  unfold failureEvents
  split <;> rfl

/-- Of packages processed one after another, those before the first that fails are handed over, each
with its text. They are all if the run succeeds; otherwise the fault is that of the first package
that is not handed over. -/
theorem processEach_outputs (settings : Settings) (units : String → List DeclUnit)
    (packages finished : List String) :
    ∃ rest, packages = (processEach settings finished
        (packages.map fun package => (package, units package))).outputs.map (·.1) ++ rest ∧
      (∀ output ∈ (processEach settings finished
          (packages.map fun package => (package, units package))).outputs,
        (processPackage output.1 settings (units output.1)).result = .ok output.2) ∧
      ((rest = [] ∧ (processEach settings finished
          (packages.map fun package => (package, units package))).result =
            .ok (finished ++ packages)) ∨
        ∃ failing later fault, rest = failing :: later ∧
          (processPackage failing settings (units failing)).result = .error fault ∧
          (processEach settings finished
            (packages.map fun package => (package, units package))).result = .error fault) := by
  induction packages generalizing finished with
  | nil => exact ⟨[], rfl, by simp [processEach, Run.outputs], .inl ⟨rfl, by simp [processEach]⟩⟩
  | cons package packages inductionHypothesis =>
    have own := outputs_processPackage package settings (units package)
    rw [List.map_cons, processEach]
    dsimp only
    cases processed : (processPackage package settings (units package)).result with
    | error fault =>
      have nothing : (Run.mk ((processPackage package settings (units package)).events ++
          failureEvents package finished.length fault) (.error fault) :
            Run (List String)).outputs = [] := by
        rw [processed] at own
        rw [Run.outputs, List.filterMap_append, outputs_failureEvents, List.append_nil]
        exact own
      dsimp only
      rw [nothing]
      exact ⟨package :: packages, rfl, by simp,
        .inr ⟨package, packages, fault, rfl, processed, rfl⟩⟩
    | ok text =>
      obtain ⟨rest, split, texts, ending⟩ := inductionHypothesis (finished ++ [package])
      generalize processEach settings (finished ++ [package])
        (packages.map fun package => (package, units package)) = laterRun at split texts ending ⊢
      have outputs : (Run.mk ((processPackage package settings (units package)).events ++
          laterRun.events) laterRun.result).outputs = (package, text) :: laterRun.outputs := by
        rw [processed] at own
        rw [Run.outputs, List.filterMap_append]
        change (processPackage package settings (units package)).outputs ++ laterRun.outputs = _
        rw [own]
        rfl
      dsimp only
      rw [outputs]
      refine ⟨rest, by rw [List.map_cons, List.cons_append, ← split], ?_, ?_⟩
      · intro output member
        rcases List.mem_cons.1 member with rfl | later
        · exact processed
        · exact texts output later
      · rwa [List.append_assoc, List.singleton_append] at ending

/-- Packages are generated independently of the order of the units and of each other. Let all units
have a package, and the units of each package different names. Then a run over them in another
order does the same in all: it hands over the same texts, logs the same and ends the same. And it
hands over the first packages in ascending order, each once and with the text that comes of its own
units, up to the first package that fails, with whose fault the run fails; if none fails, it hands
over all. -/
theorem generate_independent (settings : Settings) {units : List DeclUnit}
    (packaged : ∀ unit ∈ units, unit.package ≠ "")
    (distinct : ∀ package, ((unitsOf units package).map (·.name)).Nodup) :
    (∀ others, units.Perm others → generate settings others = generate settings units) ∧
      ∃ rest, packageNames units = (generate settings units).outputs.map (·.1) ++ rest ∧
        (∀ output ∈ (generate settings units).outputs,
          (processPackage output.1 settings (unitsOf units output.1)).result = .ok output.2) ∧
        ((rest = [] ∧ (generate settings units).result = .ok (packageNames units)) ∨
          ∃ failing later fault, rest = failing :: later ∧
            (processPackage failing settings (unitsOf units failing)).result = .error fault ∧
            (generate settings units).result = .error fault) := by
  constructor
  · intro others perm
    have packagedToo : ∀ unit ∈ others, unit.package ≠ "" :=
      fun unit member => packaged unit (perm.mem_iff.2 member)
    rw [generate_eq settings packaged, generate_eq settings packagedToo, packageNames_perm perm]
    refine processEach_congr settings (fun package _ => ?_) []
    exact (processPackage_perm package settings (perm.filter _) (distinct package)).symm
  · rw [generate_eq settings packaged]
    exact processEach_outputs settings (unitsOf units) (packageNames units) []

/-- Units of three packages in no order. The second package in ascending order fails, since it
names a type that nothing declares. -/
def mixedUnits : List DeclUnit :=
  [⟨"c", "gamma", [.alias "C" (.named [] "int") "c"]⟩,
    ⟨"b", "beta", [.alias "B" (.pointer (.named [] "Missing")) "b"]⟩,
    ⟨"a2", "alpha", [.struct "S" [⟨["X"], .named [] "A", some "ref:\"x\""⟩] "a2"]⟩,
    ⟨"a1", "alpha", [.alias "A" (.named [] "int") "a1"]⟩]

/-- They are an instance: backwards they give the same run, which hands over the first package
only. -/
theorem generate_independent_mixed :
    (∀ unit ∈ mixedUnits, unit.package ≠ "") ∧
      (∀ package, ((unitsOf mixedUnits package).map (·.name)).Nodup) ∧
      generate {} mixedUnits.reverse = generate {} mixedUnits ∧
      ∃ text, (generate {} mixedUnits).outputs = [("alpha", text)] ∧
        (processPackage "alpha" {} (unitsOf mixedUnits "alpha")).result = .ok text := by
  have packaged : ∀ unit ∈ mixedUnits, unit.package ≠ "" := by decide
  have distinct : ∀ package, ((unitsOf mixedUnits package).map (·.name)).Nodup := by
    intro package
    have all : (mixedUnits.map (·.name)).Nodup := by decide
    exact all.sublist (List.filter_sublist.map _)
  obtain ⟨independent, _, _, texts, _⟩ := generate_independent {} packaged distinct
  have handedOver : (generate {} mixedUnits).outputs.map (·.1) = ["alpha"] := by decide +kernel
  obtain ⟨⟨package, text⟩, outputs, isAlpha⟩ := List.map_eq_singleton_iff.1 handedOver
  cases isAlpha
  have isText := texts ("alpha", text) (by rw [outputs]; exact List.mem_singleton_self _)
  exact ⟨packaged, distinct, independent _ (List.reverse_perm _).symm, text, outputs, isText⟩

end DeclCodec
