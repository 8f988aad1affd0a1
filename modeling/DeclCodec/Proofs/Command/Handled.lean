import DeclCodec.Proofs.Command.Stale

/-!
# What is done in a directory

A directory is handled in one of three ways. Its units cannot be read; or one of them
belongs to no package; or its stale packages are generated one after another in
ascending order. Each is generated from all of its units and written to its place, up
to the first that fails or whose place is taken by a directory.

Nothing else is written. The name of a module is no declaration file's, so what is
declared in all directories stays.
-/

namespace DeclCodec

/-! ## Several files -/

namespace Files

/-- The tree with texts written to places, one after another. -/
def setFiles (files : Files) (now : Time) (writes : List (Location × String)) : Files :=
  writes.foldl (fun files write => files.setFile write.1 write.2 now) files

variable {files : Files} {writes : List (Location × String)}

/-- Some can be written first and the others then. -/
theorem setFiles_append (files : Files) (now : Time) (first second : List (Location × String)) :
    files.setFiles now (first ++ second) = (files.setFiles now first).setFiles now second :=
  List.foldl_append

/-- Writing them makes and removes no directory. -/
theorem sameDirectories_setFiles (free : ∀ write ∈ writes, ¬files.IsDirectoryAt write.1)
    (now : Time) : SameDirectories files (files.setFiles now writes) := by
  induction writes generalizing files with
  | nil => exact .refl files
  | cons write writes inductionHypothesis =>
    rw [List.forall_mem_cons] at free
    have same := sameDirectories_setFile free.1 write.2 now
    refine same.trans (inductionHypothesis fun other member => ?_)
    rw [same.isDirectoryAt_iff]
    exact free.2 other member

/-- What is kept at a place is one of the texts, or none is written to the place and it is what was
kept there. -/
theorem node?_setFiles (free : ∀ write ∈ writes, ¬files.IsDirectoryAt write.1) (now : Time)
    (place : Location) :
    (∃ text, (place, text) ∈ writes ∧
        (files.setFiles now writes).node? place = some (.file text now)) ∨
      place ∉ writes.map (·.1) ∧ (files.setFiles now writes).node? place = files.node? place := by
  induction writes generalizing files with
  | nil => exact .inr ⟨by simp, rfl⟩
  | cons write writes inductionHypothesis =>
    rw [List.forall_mem_cons] at free
    have same := sameDirectories_setFile free.1 write.2 now
    have node := node?_setFile free.1 write.2 now place
    have othersFree : ∀ other ∈ writes,
        ¬(files.setFile write.1 write.2 now).IsDirectoryAt other.1 := by
      intro other member
      rw [same.isDirectoryAt_iff]
      exact free.2 other member
    rcases inductionHypothesis othersFree with ⟨text, member, kept⟩ | ⟨unwritten, kept⟩
    · exact .inl ⟨text, List.mem_cons_of_mem _ member, kept⟩
    · by_cases here : place = write.1
      · rw [if_pos here] at node
        exact .inl ⟨write.2, here ▸ List.mem_cons_self, kept.trans node⟩
      · rw [if_neg here] at node
        exact .inr ⟨by simp [here, unwritten], kept.trans node⟩

end Files

namespace GenerateOptions

/-- Are these texts that can be written as modules? Each has the place of a package's module, and no
directory is there. -/
def AreModules (options : GenerateOptions) (files : Files) (writes : List (Location × String)) :
    Prop :=
  ∀ write ∈ writes, (∃ inside package, write.1 = options.modulePlace inside package) ∧
    ¬files.IsDirectoryAt write.1

variable {options : GenerateOptions} {files : Files} {writes : List (Location × String)}

/-- Modules are no declaration files. -/
theorem AreModules.sameSources (areModules : options.AreModules files writes) (now : Time) :
    files.SameSources (files.setFiles now writes) := by
  have free : ∀ write ∈ writes, ¬files.IsDirectoryAt write.1 :=
    fun write member => (areModules write member).2
  refine ⟨Files.sameDirectories_setFiles free now, fun inside name isSource => ?_⟩
  rcases Files.node?_setFiles free now (inside ++ [name]) with ⟨text, member, _⟩ | ⟨_, kept⟩
  · obtain ⟨⟨other, package, isPlace⟩, _⟩ := areModules _ member
    rw [not_isSourceName_of_modulePlace isPlace.symm] at isSource
    cases isSource
  · exact kept

/-- So a tree stays in order. -/
theorem AreModules.sound (areModules : options.AreModules files writes) (sound : files.Sound)
    (now : Time) : (files.setFiles now writes).Sound := by
  induction writes generalizing files with
  | nil => exact sound
  | cons write writes inductionHypothesis =>
    obtain ⟨⟨⟨inside, package, isPlace⟩, free⟩, others⟩ := List.forall_mem_cons.1 areModules
    have same := Files.sameDirectories_setFile free write.2 now
    refine inductionHypothesis (fun other member => ?_) (sound.setFile ?_ write.2 now)
    · rw [same.isDirectoryAt_iff]
      exact others other member
    · intro before name isOther isSource
      rw [not_isSourceName_of_modulePlace (isPlace.symm.trans isOther)] at isSource
      cases isSource

/-! ## Packages -/

/-- Packages of a directory, which has these units, are generated and written one after another, up
to the first that fails or whose place is taken. -/
inductive Generates (options : GenerateOptions) (files : Files) (inside : Location)
    (units : List DeclUnit) : List String → List (Location × String) → Option SourceFault → Prop
  | done : Generates options files inside units [] [] none
  | generated {package text : String} {packages : List String}
      {writes : List (Location × String)} {fault? : Option SourceFault}
      (made : (processPackage package options.settings (unitsOf units package)).result = .ok text)
      (free : ¬files.IsDirectoryAt (options.modulePlace inside package))
      (later : Generates options files inside units packages writes fault?) :
      Generates options files inside units (package :: packages)
        ((options.modulePlace inside package, text) :: writes) fault?
  | refused {package : String} {packages : List String} {fault : Fault}
      (failed : (processPackage package options.settings (unitsOf units package)).result =
        .error fault) :
      Generates options files inside units (package :: packages) [] (some (.declarations fault))
  | taken {package text : String} {packages : List String}
      (made : (processPackage package options.settings (unitsOf units package)).result = .ok text)
      (isDirectory : files.IsDirectoryAt (options.modulePlace inside package)) :
      Generates options files inside units (package :: packages) [] (some (.file .isDirectory))

variable {directory : String} {inside : Location} {units : List DeclUnit} {packages : List String}
  {fault? : Option SourceFault}

/-- What is written are modules of these packages, each made from all units of its package. -/
theorem Generates.of_mem (generates : options.Generates files inside units packages writes fault?)
    {write : Location × String} (member : write ∈ writes) :
    ∃ package ∈ packages, write.1 = options.modulePlace inside package ∧
      (processPackage package options.settings (unitsOf units package)).result = .ok write.2 ∧
      ¬files.IsDirectoryAt write.1 := by
  induction generates with
  | done => cases member
  | @generated package text _ _ _ made free _ inductionHypothesis =>
    rcases List.mem_cons.1 member with rfl | among
    · exact ⟨package, List.mem_cons_self, rfl, made, free⟩
    · obtain ⟨other, isOther, written⟩ := inductionHypothesis among
      exact ⟨other, List.mem_cons_of_mem _ isOther, written⟩
  | refused => cases member
  | taken => cases member

/-- If nothing is wrong, the modules of all packages are written. -/
theorem Generates.exists_mem (generates : options.Generates files inside units packages writes none)
    {package : String} (isPackage : package ∈ packages) :
    options.modulePlace inside package ∈ writes.map (·.1) := by
  generalize isNone : (none : Option SourceFault) = fault? at generates
  induction generates with
  | done => cases isPackage
  | generated _ _ _ inductionHypothesis =>
    rcases List.mem_cons.1 isPackage with rfl | among
    · exact List.mem_cons_self
    · exact List.mem_cons_of_mem _ (inductionHypothesis among isNone)
  | refused => cases isNone
  | taken => cases isNone

/-- Modules that are handed over are generated and written, as far as they can be, before the
packages behind them. -/
theorem Generates.of_outputs {outputs : List (String × String)} {rest : List String}
    (located : ∀ output ∈ outputs, files.locate (options.target directory output.1) =
      .ok (options.modulePlace inside output.1))
    (texts : ∀ output ∈ outputs,
      (processPackage output.1 options.settings (unitsOf units output.1)).result = .ok output.2)
    (ending : options.Generates files inside units rest [] fault?) :
    options.Generates files inside units (outputs.map (·.1) ++ rest)
      ((outputs.takeWhile (options.writable files directory)).map fun output =>
        (options.modulePlace inside output.1, output.2))
      (if outputs.all (options.writable files directory) then fault?
        else some (.file .isDirectory)) := by
  induction outputs with
  | nil => exact ending
  | cons output outputs inductionHypothesis =>
    rw [List.forall_mem_cons] at located texts
    cases can : options.writable files directory output with
    | true =>
      obtain ⟨place, isPlace, free⟩ := writable_iff.1 can
      cases located.1.symm.trans isPlace
      rw [List.takeWhile_cons_of_pos can, List.all_cons, can, Bool.true_and]
      exact .generated texts.1 free (inductionHypothesis located.2 texts.2)
    | false =>
      rw [List.takeWhile_cons_of_neg (by simp [can]), List.all_cons, can, Bool.false_and,
        if_neg Bool.false_ne_true]
      refine .taken texts.1 (Classical.byContradiction fun free => ?_)
      rw [writable_iff.2 ⟨_, located.1, free⟩] at can
      cases can

/-- Modules that can be written are written to their places. -/
theorem foldl_put_eq {outputs : List (String × String)}
    (located : ∀ output ∈ outputs, files.locate (options.target directory output.1) =
      .ok (options.modulePlace inside output.1))
    (can : ∀ output ∈ outputs, options.writable files directory output = true) (now : Time) :
    outputs.foldl (options.put directory now) files =
      files.setFiles now (outputs.map fun output =>
        (options.modulePlace inside output.1, output.2)) := by
  induction outputs generalizing files with
  | nil => rfl
  | cons output outputs inductionHypothesis =>
    rw [List.forall_mem_cons] at located can
    obtain ⟨place, isPlace, free⟩ := writable_iff.1 can.1
    cases located.1.symm.trans isPlace
    have same := Files.sameDirectories_setFile free output.2 now
    rw [List.foldl_cons, put_eq located.1 free]
    refine inductionHypothesis (fun other member => ?_) (fun other member => ?_)
    · exact same.locate_iff.2 (located.2 other member)
    · rw [writable_eq same]
      exact can.2 other member

/-! ## Directories -/

/-- A directory is handled: its units cannot be read, or one belongs to no package, or its stale
packages are generated in ascending order. -/
inductive Handles (options : GenerateOptions) (files : Files) (directory : String) :
    List (Location × String) → Option SourceFault → Prop
  | unread {fault : SourceFault} (failed : files.loadUnits directory = .error fault) :
      Handles options files directory [] (some fault)
  | unpackaged {before rest : List DeclUnit} {unit : DeclUnit}
      (loaded : files.loadUnits directory = .ok (before ++ unit :: rest))
      (packaged : ∀ other ∈ before, other.package ≠ "") (lacks : unit.package = "") :
      Handles options files directory [] (some (.declarations (.missingPackage unit.name)))
  | handled {inside : Location} {units : List DeclUnit} {packages : List String}
      {writes : List (Location × String)} {fault? : Option SourceFault}
      (read : files.Loaded directory inside units)
      (packaged : ∀ unit ∈ units, unit.package ≠ "")
      (ascending : Text.Ascending (fun name : String => name) packages) (distinct : packages.Nodup)
      (stale : ∀ package, package ∈ packages ↔
        package ∈ units.map (·.package) ∧ options.Stale files inside units package)
      (generates : options.Generates files inside units packages writes fault?) :
      Handles options files directory writes fault?

/-- What is written are modules of stale packages, each made from all units of its package. -/
theorem Handles.of_mem (handles : options.Handles files directory writes fault?)
    {write : Location × String} (member : write ∈ writes) :
    ∃ inside units package, files.Loaded directory inside units ∧
      package ∈ units.map (·.package) ∧ options.Stale files inside units package ∧
      write.1 = options.modulePlace inside package ∧
      (processPackage package options.settings (unitsOf units package)).result = .ok write.2 ∧
      ¬files.IsDirectoryAt write.1 := by
  cases handles with
  | unread => cases member
  | unpackaged => cases member
  | @handled inside units _ _ _ read _ _ _ stale generates =>
    obtain ⟨package, among, isPlace, made, free⟩ := generates.of_mem member
    obtain ⟨isPackage, isStale⟩ := (stale package).1 among
    exact ⟨inside, units, package, read, isPackage, isStale, isPlace, made, free⟩

/-- They are modules that can be written. -/
theorem Handles.areModules (handles : options.Handles files directory writes fault?) :
    options.AreModules files writes := by
  intro write member
  obtain ⟨inside, _, package, _, _, _, isPlace, _, free⟩ := handles.of_mem member
  exact ⟨⟨inside, package, isPlace⟩, free⟩

end GenerateOptions

/-- Units are not grouped because of the first that belongs to no package. -/
theorem groupUnits_eq_error {before rest : List DeclUnit} {unit : DeclUnit}
    (packaged : ∀ other ∈ before, other.package ≠ "") (lacks : unit.package = "") :
    groupUnits (before ++ unit :: rest) = .error (.missingPackage unit.name) := by
  refine foldlM_eq_error (fun other member groups => ?_) (fun groups => ?_) []
  · exact ⟨_, if_neg (packaged other member)⟩
  · exact if_pos lacks

namespace Workspace

variable {options : GenerateOptions} {directory : String}

/-- No module is written to a place where a directory is. -/
theorem deliver_of_isDirectoryAt (toFiles : options.toOutput = false) {workspace : Workspace}
    (output : String × String) {place : Location}
    (located : workspace.files.locate (options.target directory output.1) = .ok place)
    (isDirectory : workspace.files.IsDirectoryAt place) (now : Time) :
    workspace.deliver options now directory output.1 output.2 = .error .isDirectory := by
  obtain ⟨time, kept⟩ := isDirectory
  have refused : workspace.files.write (options.target directory output.1) output.2 now =
      .error .isDirectory := by
    rw [Files.write, located]
    simp [bind, Except.bind, kept, throw, throwThe, MonadExceptOf.throw]
  rw [deliver, toFiles, if_neg Bool.false_ne_true]
  dsimp only
  rw [refused]
  rfl

/-- The only thing that can hinder writing to a path that leads somewhere is a directory there. -/
theorem eq_isDirectory_of_perform (toFiles : options.toOutput = false) (workspace : Workspace)
    {now : Time} {events : List Event} {fault : FileFault}
    (located : ∀ output ∈ events.filterMap Event.output?, ∃ place,
      workspace.files.locate (options.target directory output.1) = .ok place)
    (failed : (workspace.perform options now directory events).2 = some fault) :
    fault = .isDirectory := by
  induction events generalizing workspace with
  | nil => cases failed
  | cons event events inductionHypothesis =>
    cases event with
    | logged entry =>
      refine inductionHypothesis (workspace.record options.logLevel entry) ?_ failed
      rw [files_record]
      exact located
    | handedOver package text =>
      obtain ⟨⟨place, isPlace⟩, others⟩ := List.forall_mem_cons.1 located
      rw [perform] at failed
      by_cases isDirectory : workspace.files.IsDirectoryAt place
      · rw [deliver_of_isDirectoryAt toFiles (package, text) isPlace isDirectory] at failed
        cases failed
        rfl
      · obtain ⟨next, delivered, _, same⟩ := deliver_of_writable toFiles
          (GenerateOptions.writable_iff.2 ⟨place, isPlace, isDirectory⟩) now
        rw [delivered] at failed
        refine inductionHypothesis next (fun output member => ?_) failed
        exact (others output member).imp fun _ isOther => same.locate_iff.2 isOther

/-- Where the units cannot be read, that is all. -/
theorem generateDirectory_of_unread {workspace : Workspace} {fault : SourceFault}
    (failed : workspace.files.loadUnits directory = .error fault) (now : Time) :
    workspace.generateDirectory options now directory = (workspace, some fault) := by
  unfold generateDirectory
  split
  · next found =>
    cases failed.symm.trans found
    rfl
  · next found => cases failed.symm.trans found

/-- And where they cannot be grouped. -/
theorem generateDirectory_of_ungrouped {workspace : Workspace} {units : List DeclUnit}
    {fault : Fault} (loaded : workspace.files.loadUnits directory = .ok units)
    (failed : groupUnits units = .error fault) (now : Time) :
    workspace.generateDirectory options now directory =
      (workspace, some (.declarations fault)) := by
  unfold generateDirectory
  split
  · next found => cases loaded.symm.trans found
  · next found =>
    cases loaded.symm.trans found
    rw [failed]

/-- What is handed over for the first of some packages is written, as far as it can be. -/
theorem perform_generates (toFiles : options.toOutput = false) (workspace : Workspace) (now : Time)
    {inside : Location} {units : List DeclUnit} {run : Run (List String)} {rest : List String}
    {fault? : Option SourceFault}
    (located : ∀ output ∈ run.outputs, workspace.files.locate (options.target directory output.1) =
      .ok (options.modulePlace inside output.1))
    (texts : ∀ output ∈ run.outputs,
      (processPackage output.1 options.settings (unitsOf units output.1)).result = .ok output.2)
    (ending : options.Generates workspace.files inside units rest [] fault?) :
    ∃ writes, options.Generates workspace.files inside units (run.outputs.map (·.1) ++ rest) writes
        (((workspace.perform options now directory run.events).2.map .file).or fault?) ∧
      (workspace.perform options now directory run.events).1.files =
        workspace.files.setFiles now writes := by
  -- The first module that cannot be written ends the directory before the run's own fault is seen.
  obtain ⟨written, unhindered⟩ := @perform_eq options directory toFiles workspace now run.events
  have outputs : run.events.filterMap Event.output? = run.outputs := rfl
  rw [outputs] at written unhindered
  have isFault : ((workspace.perform options now directory run.events).2.map .file).or fault? =
      if run.outputs.all (options.writable workspace.files directory) then fault?
        else some (.file .isDirectory) := by
    rw [← List.all_eq_true] at unhindered
    split
    · next all => rw [unhindered.2 all, Option.map_none, Option.none_or]
    · next hindered =>
      obtain ⟨fault, failed⟩ := Option.ne_none_iff_exists'.1 (mt unhindered.1 hindered)
      rw [failed, eq_isDirectory_of_perform toFiles workspace
        (fun output member => ⟨_, located output member⟩) failed]
      rfl
  rw [isFault, written, GenerateOptions.foldl_put_eq
    (fun output member => located output (List.takeWhile_subset _ member))
    (fun output member => List.mem_takeWhile_imp member) now]
  exact ⟨_, .of_outputs located texts ending, rfl⟩

/-- Where they are read and grouped, the stale packages are generated. -/
theorem generateDirectory_of_loaded (toFiles : options.toOutput = false) {workspace : Workspace}
    {inside : Location} {units : List DeclUnit}
    (read : workspace.files.Loaded directory inside units)
    (sound : workspace.files.Sound) (solid : workspace.files.SolidWorkingDirectory)
    (solidSuffix : '/' ∉ options.settings.suffix.toList)
    (packaged : ∀ unit ∈ units, unit.package ≠ "") (now : Time) :
    ∃ writes, options.Handles workspace.files directory writes
        (workspace.generateDirectory options now directory).2 ∧
      (workspace.generateDirectory options now directory).1.files =
        workspace.files.setFiles now writes := by
  have tells := GenerateOptions.tells_of_loaded toFiles read sound solid solidSuffix packaged
  have stale := GenerateOptions.mem_packageNames_staleUnits toFiles read sound solid solidSuffix
    packaged
  obtain ⟨ascending, distinct⟩ :=
    ascending_packageNames (options.staleUnits workspace.files directory)
  obtain ⟨rest, split, texts, ending⟩ := tells.split_outputs
  obtain ⟨begun, sameFiles, isFirst, isFault⟩ := generateDirectory_of_tells tells now
  rw [isFirst, isFault]
  generalize generate options.settings (options.staleUnits workspace.files directory) = run
    at split texts ending ⊢
  have located : ∀ output ∈ run.outputs,
    workspace.files.locate (options.target directory output.1) =
      .ok (options.modulePlace inside output.1) := by
    intro output member
    have present : output.1 ∈ packageNames (options.staleUnits workspace.files directory) := by
      rw [split]
      exact List.mem_append_left _ (List.mem_map.2 ⟨output, member, rfl⟩)
    exact GenerateOptions.locate_target read sound solid solidSuffix ((stale output.1).1 present).1
  have isRest : options.Generates workspace.files inside units rest []
      (run.fault?.map .declarations) := by
    rw [Run.fault?]
    rcases ending with ⟨rfl, succeeded⟩ | ⟨failing, later, fault, rfl, blame, failed⟩
    · rw [succeeded]
      exact .done
    · rw [failed]
      exact .refused blame
  rw [← sameFiles] at located isRest
  obtain ⟨writes, generates, written⟩ := perform_generates toFiles begun now located texts isRest
  rw [← split, sameFiles] at generates
  rw [sameFiles] at written
  exact ⟨writes, .handled read packaged ascending distinct stale generates, written⟩

/-- What the command does in a directory. -/
theorem generateDirectory_handles (toFiles : options.toOutput = false) {workspace : Workspace}
    (sound : workspace.files.Sound) (solid : workspace.files.SolidWorkingDirectory)
    (solidSuffix : '/' ∉ options.settings.suffix.toList)
    (isDirectory : workspace.files.isDirectory directory = true) (now : Time) :
    ∃ writes, options.Handles workspace.files directory writes
        (workspace.generateDirectory options now directory).2 ∧
      (workspace.generateDirectory options now directory).1.files =
        workspace.files.setFiles now writes := by
  cases loaded : workspace.files.loadUnits directory with
  | error fault =>
    rw [generateDirectory_of_unread loaded]
    exact ⟨[], .unread loaded, rfl⟩
  | ok units =>
    by_cases packaged : ∀ unit ∈ units, unit.package ≠ ""
    · obtain ⟨inside, read⟩ := Files.exists_loaded isDirectory loaded
      exact generateDirectory_of_loaded toFiles read sound solid solidSuffix packaged now
    · obtain ⟨before, unit, rest, rfl, others, lacks⟩ := exists_first_of_not_forall packaged
      rw [not_not] at lacks
      rw [generateDirectory_of_ungrouped loaded (groupUnits_eq_error others lacks)]
      exact ⟨[], .unpackaged loaded others lacks, rfl⟩

end Workspace

end DeclCodec
