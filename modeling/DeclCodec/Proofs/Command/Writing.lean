import DeclCodec.Command.Generate
import DeclCodec.Proofs.Files.Sources
import DeclCodec.Proofs.Generation.Faults
import DeclCodec.Proofs.Generation.Forced

/-!
# What generating writes

In a directory the command selects the packages that are to be generated, and with
them all of their units. So a package that is selected is generated from the same
units as if all packages were.

The modules that are handed over are written one after another, up to the first that
cannot be written. None of this makes or removes a directory, so it is known
beforehand which modules can be written. The command is done exactly if every
package can be told to be up to date or is generated and written.
-/

namespace DeclCodec

/-! ## Selected packages -/

/-- A package that a unit names has a unit, and no other has. -/
theorem unitsOf_ne_nil_iff {units : List DeclUnit} {package : String} :
    unitsOf units package ≠ [] ↔ package ∈ units.map (·.package) := by
  constructor
  · intro some
    by_contra absent
    exact some (unitsOf_eq_nil absent)
  · intro present none
    obtain ⟨unit, member, rfl⟩ := List.mem_map.1 present
    have isOf : unit ∈ unitsOf units unit.package := List.mem_filter.2 ⟨member, beq_self_eq_true _⟩
    rw [none] at isOf
    cases isOf

/-- The packages of units are those that have a unit. -/
theorem mem_packageNames {units : List DeclUnit} {package : String} :
    package ∈ packageNames units ↔ unitsOf units package ≠ [] := by
  rw [packageNames, Text.sort, Text.mem_sortBy, List.mem_dedup, unitsOf_ne_nil_iff]

/-- The units of one package hold no units of another. -/
theorem unitsOf_unitsOf (units : List DeclUnit) (other package : String) :
    unitsOf (unitsOf units other) package =
      if package = other then unitsOf units package else [] := by
  split
  · next same =>
    rw [same]
    simp [unitsOf]
  · next different =>
    rw [unitsOf, List.filter_eq_nil_iff]
    intro unit member isOf
    exact different ((eq_of_beq isOf).symm.trans (eq_of_beq (List.mem_filter.1 member).2))

/-- Among the units of several packages, those of each package are its own. -/
theorem unitsOf_flatMap {units : List DeclUnit} {groups : List (String × List DeclUnit)}
    (own : ∀ group ∈ groups, group.2 = unitsOf units group.1)
    (distinct : (groups.map (·.1)).Nodup) (package : String) :
    unitsOf (groups.flatMap (·.2)) package =
      if package ∈ groups.map (·.1) then unitsOf units package else [] := by
  induction groups with
  | nil => rfl
  | cons group groups inductionHypothesis =>
    obtain ⟨name, members⟩ := group
    rw [List.map_cons, List.nodup_cons] at distinct
    have isOwn : members = unitsOf units name := own _ List.mem_cons_self
    have later := inductionHypothesis (fun other held => own other (List.mem_cons_of_mem _ held))
      distinct.2
    have split : unitsOf (((name, members) :: groups).flatMap (·.2)) package =
        unitsOf members package ++ unitsOf (groups.flatMap (·.2)) package := List.filter_append ..
    rw [split, later, isOwn, unitsOf_unitsOf]
    by_cases same : package = name
    · subst same
      simp [distinct.1]
    · rw [if_neg same, List.nil_append]
      refine if_congr ?_ rfl rfl
      rw [List.map_cons, List.mem_cons]
      exact (or_iff_right same).symm

/-- Among the units of some of the groups, those of a package are its own, or there are none. -/
theorem Grouped.unitsOf_filter {units : List DeclUnit} {groups : List (String × List DeclUnit)}
    (grouped : Grouped units groups) (chosen : String × List DeclUnit → Bool) (package : String) :
    unitsOf ((groups.filter chosen).flatMap (·.2)) package =
      if chosen (package, unitsOf units package) then unitsOf units package else [] := by
  have held_iff (own : List DeclUnit) : (package, own) ∈ groups ↔
      package ∈ units.map (·.package) ∧ own = unitsOf units package := by
    rw [← grouped.lookup_iff]
    exact ⟨Table.lookup_of_mem grouped.distinct, Table.mem_of_lookup⟩
  have own : ∀ group ∈ groups.filter chosen, group.2 = unitsOf units group.1 := fun group held =>
    ((grouped.lookup_iff _ _).1
      (Table.lookup_of_mem grouped.distinct (List.mem_filter.1 held).1)).2
  have present : package ∈ (groups.filter chosen).map (·.1) ↔
      package ∈ units.map (·.package) ∧ chosen (package, unitsOf units package) = true := by
    simp only [List.mem_map, List.mem_filter, Prod.exists, exists_and_right, exists_eq_right,
      held_iff]
    constructor
    · rintro ⟨_, ⟨isPackage, rfl⟩, isChosen⟩
      exact ⟨isPackage, isChosen⟩
    · rintro ⟨isPackage, isChosen⟩
      exact ⟨_, ⟨isPackage, rfl⟩, isChosen⟩
  rw [unitsOf_flatMap own (grouped.distinct.sublist (List.filter_sublist.map _))]
  simp only [present]
  by_cases isPackage : package ∈ units.map (·.package)
  · simp [isPackage]
  · simp [unitsOf_eq_nil isPackage]

/-- The units of groups are the units that are grouped. -/
theorem subset_of_groupUnits {units : List DeclUnit} {groups : List (String × List DeclUnit)}
    (grouped : groupUnits units = .ok groups) : groups.flatMap (·.2) ⊆ units := by
  obtain ⟨others, isGroups, own⟩ := exists_grouped (packaged_of_groupUnits grouped)
  rw [grouped] at isGroups
  cases isGroups
  intro unit member
  obtain ⟨⟨package, units⟩, held, inside⟩ := List.mem_flatMap.1 member
  obtain ⟨_, rfl⟩ := (own.lookup_iff _ _).1 (Table.lookup_of_mem own.distinct held)
  exact List.filter_subset_self _ inside

namespace GenerateOptions

/-- Is it found that a package is to be generated? -/
def selects (options : GenerateOptions) (files : Files) (directory : String)
    (group : String × List DeclUnit) : Bool :=
  (options.wants files directory group.1 group.2).toOption.getD false

/-- Packages can be selected if it can be told of each whether it is to be generated. The units of
those that are are taken. -/
theorem select_eq_ok_iff {options : GenerateOptions} {files : Files} {directory : String}
    {groups : List (String × List DeclUnit)} {stale : List DeclUnit} :
    (options.select files directory groups).2 = .ok stale ↔
      (∀ group ∈ groups, ∃ wanted, options.wants files directory group.1 group.2 = .ok wanted) ∧
        stale = (groups.filter (options.selects files directory)).flatMap (·.2) := by
  induction groups generalizing stale with
  | nil => simp [select, eq_comm]
  | cons group groups inductionHypothesis =>
    obtain ⟨package, units⟩ := group
    rw [select, List.forall_mem_cons]
    rcases told : options.wants files directory package units with fault | wanted
    · simp
    · have isSelected : options.selects files directory (package, units) = wanted := by
        rw [selects, told]
        rfl
      have known : ∃ other, (.ok wanted : Except FileFault Bool) = .ok other := ⟨wanted, rfl⟩
      rw [and_assoc, and_iff_right known]
      cases wanted with
      | false =>
        rw [List.filter_cons_of_neg (by simp [isSelected])]
        exact inductionHypothesis
      | true =>
        rw [List.filter_cons_of_pos isSelected, List.flatMap_cons]
        dsimp only
        cases later : (options.select files directory groups).2 with
        | error fault =>
          refine iff_of_false (by simp [Except.map]) fun others => ?_
          rw [inductionHypothesis.2 ⟨others.1, rfl⟩] at later
          cases later
        | ok others =>
          obtain ⟨known, rfl⟩ := inductionHypothesis.1 later
          rw [and_iff_right known]
          simp [Except.map, eq_comm]

/-- The units that are to be generated are among those given. -/
theorem subset_of_select {options : GenerateOptions} {files : Files} {directory : String}
    {groups : List (String × List DeclUnit)} {stale : List DeclUnit}
    (selected : (options.select files directory groups).2 = .ok stale) :
    stale ⊆ groups.flatMap (·.2) := by
  rw [(select_eq_ok_iff.1 selected).2]
  intro unit member
  obtain ⟨group, chosen, inside⟩ := List.mem_flatMap.1 member
  exact List.mem_flatMap.2 ⟨group, (List.mem_filter.1 chosen).1, inside⟩

/-- The units of the packages of a directory that are to be generated. There are none if they cannot
be told. -/
def staleUnits (options : GenerateOptions) (files : Files) (directory : String) : List DeclUnit :=
  ((do
    let units ← (files.loadUnits directory).toOption
    let groups ← (groupUnits units).toOption
    (options.select files directory groups).2.toOption) : Option (List DeclUnit)).getD []

/-- Can a module be written? -/
def writable (options : GenerateOptions) (files : Files) (directory : String)
    (output : String × String) : Bool :=
  (files.write (options.target directory output.1) output.2 0).toOption.isSome

/-- The modules that are written in a directory, each with its package. -/
def written (options : GenerateOptions) (files : Files) (directory : String) :
    List (String × String) :=
  (generate options.settings (options.staleUnits files directory)).outputs.takeWhile
    (options.writable files directory)

/-- The tree with the module of a package, if it can be written. -/
def put (options : GenerateOptions) (directory : String) (now : Time) (files : Files)
    (output : String × String) : Files :=
  (files.write (options.target directory output.1) output.2 now).toOption.getD files

variable {options : GenerateOptions} {files : Files} {directory : String} {units : List DeclUnit}

/-- Can it be told of the packages of a directory, which have these units, whether they are to be
generated? -/
structure Tells (options : GenerateOptions) (files : Files) (directory : String)
    (units : List DeclUnit) : Prop where
  loaded : files.loadUnits directory = .ok units
  packaged : ∀ unit ∈ units, unit.package ≠ ""
  told : ∀ package ∈ packageNames units, ∃ wanted,
    options.wants files directory package (unitsOf units package) = .ok wanted

/-- What is told of packages is told of their groups. -/
theorem told_iff {groups : List (String × List DeclUnit)} (grouped : Grouped units groups) :
    (∀ group ∈ groups, ∃ wanted, options.wants files directory group.1 group.2 = .ok wanted) ↔
      ∀ package ∈ packageNames units, ∃ wanted,
        options.wants files directory package (unitsOf units package) = .ok wanted := by
  constructor
  · intro told package present
    have isPackage := unitsOf_ne_nil_iff.1 (mem_packageNames.1 present)
    exact told (package, _) (Table.mem_of_lookup ((grouped.lookup_iff _ _).2 ⟨isPackage, rfl⟩))
  · rintro told ⟨package, own⟩ held
    obtain ⟨isPackage, rfl⟩ :=
      (grouped.lookup_iff _ _).1 (Table.lookup_of_mem grouped.distinct held)
    exact told package (mem_packageNames.2 (unitsOf_ne_nil_iff.2 isPackage))

/-- It is told if the units are read, grouped and selected. -/
theorem tells_of_select {groups : List (String × List DeclUnit)} {stale : List DeclUnit}
    (loaded : files.loadUnits directory = .ok units) (isGroups : groupUnits units = .ok groups)
    (selected : (options.select files directory groups).2 = .ok stale) :
    options.Tells files directory units := by
  have packaged := packaged_of_groupUnits isGroups
  obtain ⟨others, isOthers, grouped⟩ := exists_grouped packaged
  rw [isGroups] at isOthers
  cases isOthers
  exact ⟨loaded, packaged, (told_iff grouped).1 (select_eq_ok_iff.1 selected).1⟩

/-- And if it is told, they are. -/
theorem Tells.exists_groups (tells : options.Tells files directory units) :
    ∃ groups, groupUnits units = .ok groups ∧ Grouped units groups ∧
      (options.select files directory groups).2 = .ok (options.staleUnits files directory) := by
  obtain ⟨groups, isGroups, grouped⟩ := exists_grouped tells.packaged
  have selected := select_eq_ok_iff.2 ⟨(told_iff grouped).2 tells.told, rfl⟩
  refine ⟨groups, isGroups, grouped, ?_⟩
  rw [staleUnits, tells.loaded, Except.toOption, Option.bind_eq_bind, Option.bind_some, isGroups,
    Except.toOption, Option.bind_eq_bind, Option.bind_some, selected]
  rfl

/-- Where it is not told, nothing is to be generated. -/
theorem staleUnits_eq_nil (untold : ¬∃ units, options.Tells files directory units) :
    options.staleUnits files directory = [] := by
  rw [staleUnits]
  cases loaded : files.loadUnits directory with
  | error fault => rfl
  | ok units =>
    rw [Except.toOption, Option.bind_eq_bind, Option.bind_some]
    cases isGroups : groupUnits units with
    | error fault => rfl
    | ok groups =>
      rw [Except.toOption, Option.bind_eq_bind, Option.bind_some]
      cases selected : (options.select files directory groups).2 with
      | error fault => rfl
      | ok stale => exact absurd ⟨units, tells_of_select loaded isGroups selected⟩ untold

/-- The units that are to be generated are those of the packages that are. -/
theorem Tells.unitsOf_staleUnits (tells : options.Tells files directory units) (package : String) :
    unitsOf (options.staleUnits files directory) package =
      if options.selects files directory (package, unitsOf units package) then
        unitsOf units package else [] := by
  obtain ⟨groups, _, grouped, selected⟩ := tells.exists_groups
  rw [← grouped.unitsOf_filter (options.selects files directory) package,
    (select_eq_ok_iff.1 selected).2]

/-- So a package is generated exactly if it is to be, and from its own units. -/
theorem Tells.mem_packageNames (tells : options.Tells files directory units) {package : String} :
    package ∈ packageNames (options.staleUnits files directory) ↔
      package ∈ packageNames units ∧
        options.wants files directory package (unitsOf units package) = .ok true := by
  rw [DeclCodec.mem_packageNames, DeclCodec.mem_packageNames, tells.unitsOf_staleUnits]
  constructor
  · intro some
    split at some
    · next isSelected =>
      obtain ⟨wanted, told⟩ := tells.told package (DeclCodec.mem_packageNames.2 some)
      rw [selects, told] at isSelected
      exact ⟨some, isSelected ▸ told⟩
    · exact absurd rfl some
  · rintro ⟨some, told⟩
    rw [selects, told]
    exact some

/-- A module can be written if its path leads to a place where no directory is. -/
theorem writable_iff {output : String × String} :
    options.writable files directory output = true ↔
      ∃ place, files.locate (options.target directory output.1) = .ok place ∧
        ¬files.IsDirectoryAt place := by
  rw [writable]
  cases result : files.write (options.target directory output.1) output.2 0 with
  | error fault =>
    refine iff_of_false (by simp [Except.toOption]) ?_
    rintro ⟨place, located, free⟩
    rw [Files.write_eq_ok_iff.2 ⟨place, located, free, rfl⟩] at result
    cases result
  | ok later =>
    obtain ⟨place, located, free, _⟩ := Files.write_eq_ok_iff.1 result
    exact iff_of_true rfl ⟨place, located, free⟩

/-- It is written to that place. -/
theorem put_eq {output : String × String} {place : Location}
    (located : files.locate (options.target directory output.1) = .ok place)
    (free : ¬files.IsDirectoryAt place) (now : Time) :
    options.put directory now files output = files.setFile place output.2 now := by
  rw [put, Files.write_eq_ok_iff.2 ⟨place, located, free, rfl⟩]
  rfl

/-- Where the directories are the same, the same modules can be written. -/
theorem writable_eq {later : Files} (same : Files.SameDirectories files later) :
    options.writable later directory = options.writable files directory := by
  funext output
  rw [Bool.eq_iff_iff, writable_iff, writable_iff]
  simp only [same.locate_iff, same.isDirectoryAt_iff]

end GenerateOptions

/-! ## Writing -/

/-- What a run fails with. -/
def Run.fault? {α : Type} (run : Run α) : Option Fault :=
  match run.result with
  | .error fault => some fault
  | .ok _ => none

/-- A run fails with nothing if it succeeds. -/
theorem Run.fault?_eq_none_iff {α : Type} {run : Run α} :
    run.fault? = none ↔ ∃ result, run.result = .ok result := by
  rw [fault?]
  cases run.result <;> simp

/-- A command that meets a fault is not done. -/
theorem Ending.ofFault_ne_done (fault : SourceFault) : Ending.ofFault fault ≠ .done := by
  unfold ofFault
  split
  · split <;> simp
  · simp

namespace Workspace

variable {options : GenerateOptions} {directory : String}

/-- Directories are taken one after another, up to the first fault. -/
theorem generateAll_cons (workspace : Workspace) (options : GenerateOptions) (now : Time)
    (directory : String) (rest : List String) :
    workspace.generateAll options now (directory :: rest) =
      match workspace.generateDirectory options now directory with
      | (workspace, some fault) => (workspace, some fault)
      | (workspace, none) => workspace.generateAll options now rest := by
  exact rfl

/-- Logging leaves the files as they are. -/
theorem files_record (workspace : Workspace) (level : Level) (entry : LogEntry) :
    (workspace.record level entry).files = workspace.files := by
  unfold record
  split <;> rfl

/-- A module that can be written is delivered. The directories stay the same. -/
theorem deliver_of_writable (toFiles : options.toOutput = false) {workspace : Workspace}
    {output : String × String}
    (can : options.writable workspace.files directory output = true) (now : Time) :
    ∃ later, workspace.deliver options now directory output.1 output.2 = .ok later ∧
      later.files = options.put directory now workspace.files output ∧
      Files.SameDirectories workspace.files later.files := by
  obtain ⟨place, located, free⟩ := GenerateOptions.writable_iff.1 can
  rw [deliver, toFiles, if_neg Bool.false_ne_true, GenerateOptions.put_eq located free]
  dsimp only
  rw [Files.write_eq_ok_iff.2 ⟨place, located, free, rfl⟩]
  exact ⟨_, rfl, rfl, Files.sameDirectories_setFile free output.2 now⟩

/-- One that cannot be written is not. -/
theorem deliver_of_not_writable (toFiles : options.toOutput = false) {workspace : Workspace}
    {output : String × String}
    (cannot : options.writable workspace.files directory output = false) (now : Time) :
    ∃ fault, workspace.deliver options now directory output.1 output.2 = .error fault := by
  rw [deliver, toFiles, if_neg Bool.false_ne_true]
  dsimp only
  cases result : workspace.files.write (options.target directory output.1) output.2 now with
  | error fault => exact ⟨fault, rfl⟩
  | ok later =>
    obtain ⟨place, located, free, _⟩ := Files.write_eq_ok_iff.1 result
    rw [GenerateOptions.writable_iff.2 ⟨place, located, free⟩] at cannot
    cases cannot

/-- The modules that are handed over are written up to the first that cannot be. -/
theorem perform_eq (toFiles : options.toOutput = false) (workspace : Workspace) (now : Time)
    (events : List Event) :
    (workspace.perform options now directory events).1.files =
        ((events.filterMap Event.output?).takeWhile
          (options.writable workspace.files directory)).foldl
            (options.put directory now) workspace.files ∧
      ((workspace.perform options now directory events).2 = none ↔
        ∀ output ∈ events.filterMap Event.output?,
          options.writable workspace.files directory output = true) := by
  induction events generalizing workspace with
  | nil => exact ⟨rfl, iff_of_true rfl (by simp)⟩
  | cons event events inductionHypothesis =>
    cases event with
    | logged entry =>
      have later := inductionHypothesis (workspace.record options.logLevel entry)
      rw [files_record] at later
      exact later
    | handedOver package text =>
      have outputs : (Event.handedOver package text :: events).filterMap Event.output? =
          (package, text) :: events.filterMap Event.output? := rfl
      rw [outputs, perform, List.takeWhile_cons, List.forall_mem_cons]
      cases can : options.writable workspace.files directory (package, text) with
      | true =>
        obtain ⟨next, delivered, isPut, same⟩ := deliver_of_writable toFiles can now
        have later := inductionHypothesis next
        rw [isPut, ← isPut, GenerateOptions.writable_eq same, isPut] at later
        rw [delivered, and_iff_right rfl]
        exact later
      | false =>
        obtain ⟨fault, refused⟩ := deliver_of_not_writable toFiles can now
        rw [refused]
        exact ⟨rfl, iff_of_false (by simp) (by simp)⟩

/-- Where it is told what is to be generated, that is generated and written. A module that cannot be
written is what is wrong; else it is what the run fails with. -/
theorem generateDirectory_of_tells {workspace : Workspace} {units : List DeclUnit}
    (tells : options.Tells workspace.files directory units) (now : Time) :
    ∃ begun : Workspace, begun.files = workspace.files ∧
      (workspace.generateDirectory options now directory).1 =
        (begun.perform options now directory (generate options.settings
          (options.staleUnits workspace.files directory)).events).1 ∧
      (workspace.generateDirectory options now directory).2 =
        ((begun.perform options now directory (generate options.settings
          (options.staleUnits workspace.files directory)).events).2.map .file).or
        ((generate options.settings
          (options.staleUnits workspace.files directory)).fault?.map .declarations) := by
  have loaded := tells.loaded
  obtain ⟨groups, isGroups, _, selected⟩ := tells.exists_groups
  rcases isSelected : options.select workspace.files directory groups with ⟨notices, result⟩
  rw [isSelected] at selected
  cases selected
  refine ⟨workspace.print notices, rfl, ?_⟩
  unfold generateDirectory
  split
  · next failed => cases loaded.symm.trans failed
  next othersLoaded =>
  cases loaded.symm.trans othersLoaded
  split
  · next failed => cases isGroups.symm.trans failed
  next othersGroups =>
  cases isGroups.symm.trans othersGroups
  split
  · next failed => cases isSelected.symm.trans failed
  next othersSelected =>
  cases isSelected.symm.trans othersSelected
  dsimp only
  generalize generate options.settings (options.staleUnits workspace.files directory) = run
  rcases (workspace.print notices).perform options now directory run.events with ⟨later, _ | fault⟩
  · rw [Run.fault?]
    cases run.result <;> exact ⟨rfl, rfl⟩
  · exact ⟨rfl, rfl⟩

/-- Where it is not told, nothing is written. -/
theorem generateDirectory_of_not_tells {workspace : Workspace}
    (untold : ¬∃ units, options.Tells workspace.files directory units) (now : Time) :
    (workspace.generateDirectory options now directory).1.files = workspace.files ∧
      (workspace.generateDirectory options now directory).2 ≠ none := by
  unfold generateDirectory
  split
  · exact ⟨rfl, by simp⟩
  next units loaded =>
  split
  · exact ⟨rfl, by simp⟩
  next groups isGroups =>
  split
  · exact ⟨rfl, by simp⟩
  next notices stale selected =>
  exact absurd ⟨units, GenerateOptions.tells_of_select loaded isGroups (congrArg Prod.snd selected)⟩
    untold

/-- What is done in a directory. It goes well if all that is asked is told, the modules can be
written, and the run succeeds. -/
theorem generateDirectory_eq (toFiles : options.toOutput = false) (workspace : Workspace)
    (now : Time) (directory : String) :
    (workspace.generateDirectory options now directory).1.files =
        (options.written workspace.files directory).foldl (options.put directory now)
          workspace.files ∧
      ((workspace.generateDirectory options now directory).2 = none ↔
        (∃ units, options.Tells workspace.files directory units) ∧
          (∀ output ∈ (generate options.settings
              (options.staleUnits workspace.files directory)).outputs,
            options.writable workspace.files directory output = true) ∧
          ∃ packages, (generate options.settings
            (options.staleUnits workspace.files directory)).result = .ok packages) := by
  by_cases tells : ∃ units, options.Tells workspace.files directory units
  · obtain ⟨begun, isBegun, isFirst, goesWell⟩ := generateDirectory_of_tells tells.choose_spec now
    obtain ⟨files, unhindered⟩ := perform_eq toFiles begun now
      (generate options.settings (options.staleUnits workspace.files directory)).events
    rw [isBegun] at files unhindered
    rw [isFirst, files, goesWell, Option.or_eq_none_iff, Option.map_eq_none_iff,
      Option.map_eq_none_iff, unhindered, Run.fault?_eq_none_iff, and_iff_right tells]
    exact ⟨rfl, .rfl⟩
  · obtain ⟨same, failed⟩ := generateDirectory_of_not_tells tells now
    refine ⟨?_, iff_of_false failed fun wentWell => tells wentWell.1⟩
    rw [same, GenerateOptions.written, GenerateOptions.staleUnits_eq_nil tells]
    rfl

end Workspace
/-! ## Runs -/

namespace GenerateOptions

variable {options : GenerateOptions} {files : Files} {directory : String} {units : List DeclUnit}

/-- A package that is to be generated has all of its units. -/
theorem Tells.unitsOf_eq (tells : options.Tells files directory units) {package : String}
    (present : package ∈ packageNames (options.staleUnits files directory)) :
    unitsOf (options.staleUnits files directory) package = unitsOf units package := by
  rw [tells.unitsOf_staleUnits, selects, (tells.mem_packageNames.1 present).2]
  rfl

/-- The units that are to be generated all have a package. -/
theorem Tells.packaged_staleUnits (tells : options.Tells files directory units) :
    ∀ unit ∈ options.staleUnits files directory, unit.package ≠ "" := by
  obtain ⟨groups, isGroups, _, selected⟩ := tells.exists_groups
  intro unit member
  exact tells.packaged unit (subset_of_groupUnits isGroups (subset_of_select selected member))

/-- What is handed over in a directory: modules of the first packages that are to be generated, each
from all units of its package. The first package behind them fails, and so does the run. -/
theorem Tells.split_outputs (tells : options.Tells files directory units) :
    ∃ rest, packageNames (options.staleUnits files directory) =
        (generate options.settings (options.staleUnits files directory)).outputs.map (·.1) ++ rest ∧
      (∀ output ∈ (generate options.settings (options.staleUnits files directory)).outputs,
        (processPackage output.1 options.settings (unitsOf units output.1)).result =
          .ok output.2) ∧
      ((rest = [] ∧ (generate options.settings (options.staleUnits files directory)).result =
          .ok (packageNames (options.staleUnits files directory))) ∨
        ∃ failing later fault, rest = failing :: later ∧
          (processPackage failing options.settings (unitsOf units failing)).result =
            .error fault ∧
          (generate options.settings (options.staleUnits files directory)).result =
            .error fault) := by
  obtain ⟨rest, split, texts, ending⟩ := processEach_outputs options.settings
    (unitsOf (options.staleUnits files directory))
    (packageNames (options.staleUnits files directory)) []
  rw [← generate_eq options.settings tells.packaged_staleUnits] at split texts ending
  refine ⟨rest, split, fun output member => ?_, ending.imp id ?_⟩
  · have present : output.1 ∈ packageNames (options.staleUnits files directory) := by
      rw [split]
      exact List.mem_append_left _ (List.mem_map.2 ⟨output, member, rfl⟩)
    exact tells.unitsOf_eq present ▸ texts output member
  · rintro ⟨failing, later, fault, rfl, blame, failed⟩
    have present : failing ∈ packageNames (options.staleUnits files directory) := by
      rw [split]
      simp
    exact ⟨failing, later, fault, rfl, tells.unitsOf_eq present ▸ blame, failed⟩

/-- They are all if the run succeeds; else one of those packages fails. -/
theorem Tells.outputs (tells : options.Tells files directory units) :
    (∀ output ∈ (generate options.settings (options.staleUnits files directory)).outputs,
      output.1 ∈ packageNames (options.staleUnits files directory) ∧
        (processPackage output.1 options.settings (unitsOf units output.1)).result =
          .ok output.2) ∧
      (((∃ packages, (generate options.settings (options.staleUnits files directory)).result =
          .ok packages) ∧
        ∀ package ∈ packageNames (options.staleUnits files directory), ∃ text, (package, text) ∈
          (generate options.settings (options.staleUnits files directory)).outputs) ∨
        ∃ failing ∈ packageNames (options.staleUnits files directory), ∃ fault,
          (processPackage failing options.settings (unitsOf units failing)).result =
            .error fault ∧
          (generate options.settings (options.staleUnits files directory)).result =
            .error fault) := by
  obtain ⟨rest, split, texts, ending⟩ := tells.split_outputs
  rw [split]
  generalize generate options.settings (options.staleUnits files directory) = run
    at texts ending ⊢
  refine ⟨fun output member => ⟨?_, texts output member⟩, ?_⟩
  · exact List.mem_append_left _ (List.mem_map.2 ⟨output, member, rfl⟩)
  · rcases ending with ⟨rfl, succeeded⟩ | ⟨failing, later, fault, rfl, blame, failed⟩
    · refine .inl ⟨⟨_, succeeded⟩, fun package present => ?_⟩
      rw [List.append_nil] at present
      obtain ⟨⟨_, text⟩, member, rfl⟩ := List.mem_map.1 present
      exact ⟨text, member⟩
    · exact .inr ⟨failing, by simp, fault, blame, failed⟩

/-- A written module is that of a package of the directory, and is made from all units of the
package. -/
theorem of_mem_written {output : String × String}
    (member : output ∈ options.written files directory) :
    ∃ units, files.loadUnits directory = .ok units ∧ output.1 ∈ packageNames units ∧
      unitsOf (options.staleUnits files directory) output.1 = unitsOf units output.1 ∧
      (processPackage output.1 options.settings (unitsOf units output.1)).result =
        .ok output.2 := by
  by_cases tells : ∃ units, options.Tells files directory units
  · obtain ⟨units, tells⟩ := tells
    obtain ⟨present, text⟩ := tells.outputs.1 output (List.takeWhile_subset _ member)
    exact ⟨units, tells.loaded, (tells.mem_packageNames.1 present).1, tells.unitsOf_eq present,
      text⟩
  · rw [written, staleUnits_eq_nil tells] at member
    cases member

/-- Does everything go well in a directory with these units? -/
structure Succeeds (options : GenerateOptions) (files : Files) (directory : String)
    (units : List DeclUnit) : Prop extends options.Tells files directory units where
  generated : ∀ package ∈ packageNames units,
    options.wants files directory package (unitsOf units package) = .ok true →
      ∃ text, (processPackage package options.settings (unitsOf units package)).result = .ok text ∧
        options.writable files directory (package, text) = true

/-- Then all that is handed over is written. -/
theorem Succeeds.written_eq (succeeds : options.Succeeds files directory units) :
    options.written files directory =
      (generate options.settings (options.staleUnits files directory)).outputs := by
  rw [written, List.takeWhile_eq_self_iff]
  intro output member
  obtain ⟨present, isText⟩ := succeeds.outputs.1 output member
  obtain ⟨isPackage, wanted⟩ := succeeds.mem_packageNames.1 present
  obtain ⟨text, made, can⟩ := succeeds.generated _ isPackage wanted
  rw [isText] at made
  cases made
  exact can

/-- And all packages that are to be generated are. -/
theorem Succeeds.exists_mem_written (succeeds : options.Succeeds files directory units)
    {package : String} (isPackage : package ∈ packageNames units)
    (wanted : options.wants files directory package (unitsOf units package) = .ok true) :
    ∃ text, (package, text) ∈ options.written files directory := by
  rw [succeeds.written_eq]
  rcases succeeds.outputs.2 with ⟨_, all⟩ | ⟨failing, present, fault, blame, _⟩
  · exact all package (succeeds.mem_packageNames.2 ⟨isPackage, wanted⟩)
  · obtain ⟨isFailing, failingWanted⟩ := succeeds.mem_packageNames.1 present
    obtain ⟨text, made, _⟩ := succeeds.generated _ isFailing failingWanted
    rw [blame] at made
    cases made

end GenerateOptions

/-- No fault is met in a directory exactly if everything goes well. -/
theorem Workspace.generateDirectory_eq_none_iff {options : GenerateOptions}
    (toFiles : options.toOutput = false) (workspace : Workspace) (now : Time) (directory : String) :
    (workspace.generateDirectory options now directory).2 = none ↔
      ∃ units, options.Succeeds workspace.files directory units := by
  rw [(generateDirectory_eq toFiles workspace now directory).2]
  constructor
  · rintro ⟨⟨units, tells⟩, can, _, succeeded⟩
    refine ⟨units, tells, fun package isPackage wanted => ?_⟩
    rcases tells.outputs.2 with ⟨_, all⟩ | ⟨failing, _, fault, _, failed⟩
    · obtain ⟨text, member⟩ := all package (tells.mem_packageNames.2 ⟨isPackage, wanted⟩)
      exact ⟨text, (tells.outputs.1 _ member).2, can _ member⟩
    · rw [failed] at succeeded
      cases succeeded
  · rintro ⟨units, succeeds⟩
    refine ⟨⟨units, succeeds.toTells⟩, List.takeWhile_eq_self_iff.1 succeeds.written_eq, ?_⟩
    rcases succeeds.outputs.2 with ⟨wentWell, _⟩ | ⟨failing, present, fault, blame, _⟩
    · exact wentWell
    · obtain ⟨isFailing, wanted⟩ := succeeds.mem_packageNames.1 present
      obtain ⟨text, made, _⟩ := succeeds.generated _ isFailing wanted
      rw [blame] at made
      cases made

/-- What the command does in a single directory. -/
theorem runGenerate_single {words : List String} {options : GenerateOptions} {directory : String}
    (understood : GenerateOptions.ofWords? words = some options)
    (single : options.directories = [directory]) (toFiles : options.toOutput = false)
    {files : Files} (isDirectory : files.isDirectory directory = true) (now : Time) :
    (runGenerate files now words).files =
        (options.written files directory).foldl (options.put directory now) files ∧
      ((runGenerate files now words).ending = .done ↔
        ∃ units, options.Succeeds files directory units) := by
  have done := Workspace.generateDirectory_eq_none_iff toFiles ⟨files, "", []⟩ now directory
  have written := (Workspace.generateDirectory_eq toFiles ⟨files, "", []⟩ now directory).1
  rw [← done, ← written, runGenerate, understood]
  dsimp only
  rw [single, List.all_cons, isDirectory, List.all_nil, Bool.and_true, if_pos rfl,
    Workspace.generateAll_cons]
  rcases (⟨files, "", []⟩ : Workspace).generateDirectory options now directory
    with ⟨later, _ | fault⟩
  · exact ⟨rfl, iff_of_true rfl rfl⟩
  · refine ⟨rfl, iff_of_false (Ending.ofFault_ne_done fault) (by simp)⟩

/-- Where there is no such directory, the command does nothing. -/
theorem runGenerate_misused {words : List String} {options : GenerateOptions} {directory : String}
    (understood : GenerateOptions.ofWords? words = some options)
    (single : options.directories = [directory]) {files : Files}
    (noDirectory : files.isDirectory directory = false) (now : Time) :
    runGenerate files now words = .misused files := by
  rw [runGenerate, understood]
  dsimp only
  rw [single, List.all_cons, noDirectory, Bool.false_and, if_neg Bool.false_ne_true]

/-! ## Generating everything -/

/-- An option in front of the arguments changes nothing about the others. -/
theorem Arguments.addOption_others (arguments : Arguments) {name other : String}
    (different : other ≠ name) (value : String) :
    (arguments.addOption name value).has other = arguments.has other ∧
      (arguments.addOption name value).values other = arguments.values other ∧
      (arguments.addOption name value).value? other = arguments.value? other := by
  have values : (arguments.addOption name value).values other = arguments.values other := by
    rw [Arguments.values, addOption, List.filter_cons_of_neg (by simpa using different.symm)]
    rfl
  refine ⟨?_, values, ?_⟩
  · rw [has, addOption, List.lookup_cons, beq_eq_false_iff_ne.2 different]
    rfl
  · rw [value?, values, value?]

namespace GenerateOptions

/-- The options with the word to generate everything. -/
def forced (options : GenerateOptions) : GenerateOptions :=
  { options with settings := options.settings.forced }

/-- The word to generate everything on the command line changes nothing else. -/
theorem ofWords?_force (words : List String) :
    ofWords? ("--force" :: words) = (ofWords? words).map forced := by
  have parsed : Arguments.parse forms ("--force" :: words) =
      (Arguments.parse forms words).map (Arguments.addOption "force" "") := by
    have given : Arguments.WordKind.ofWord? forms "--force" = some (.given "force" "") := rfl
    rw [Arguments.parse, Arguments.parseAwaiting, if_neg (by decide), given]
    rfl
  unfold ofWords?
  rw [parsed]
  cases Arguments.parse forms words with
  | none => rfl
  | some arguments =>
    have others {name : String} (different : name ≠ "force") :=
      arguments.addOption_others different ""
    dsimp only [Option.map_some, Option.bind_eq_bind, Option.bind_some]
    rw [(others (by decide : "id-type" ≠ "force")).2.2,
      (others (by decide : "suffix" ≠ "force")).2.2,
      (others (by decide : "trace" ≠ "force")).1, (others (by decide : "import" ≠ "force")).2.1,
      (others (by decide : "runtime-import" ≠ "force")).2.2,
      (others (by decide : "stdout" ≠ "force")).1]
    change (if arguments.positional.isEmpty then none else _) =
      Option.map forced (if arguments.positional.isEmpty then none else _)
    split <;> rfl

end GenerateOptions

end DeclCodec
