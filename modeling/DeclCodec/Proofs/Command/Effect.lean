import DeclCodec.Proofs.Command.Handled

/-!
# What a run of the command writes

The command handles its directories one after another, each in the tree that the
directories before have left, up to the first fault. So all that it writes is known:
the modules of the packages that are stale when their directory is reached.

Modules are written over modules of the same package only, and no declarations are
changed. So a module that is not out of date at the start stays as it is, and after a
run without faults no module is out of date if the clock does not lag behind the
declaration files. Then a further run has nothing to do.
-/

namespace DeclCodec

/-! ## Stale packages after writing -/

namespace Files

variable {files later : Files} {directory other : String} {inside : Location}
  {units others : List DeclUnit}

/-- The units of a directory stay where no declarations change. -/
theorem Loaded.mono (read : files.Loaded directory inside units) (sound : files.Sound)
    (laterSound : later.Sound) (same : files.SameSources later) :
    later.Loaded directory inside units :=
  ⟨same.directories.locate_iff.2 read.located,
    (same.directories.isDirectoryAt_iff _).2 read.isDirectory,
    same.loadUnits sound laterSound read.loaded⟩

/-- They do not depend on the path by which the directory is reached. -/
theorem Loaded.mem_iff (read : files.Loaded directory inside units)
    (otherRead : files.Loaded other inside others) (sound : files.Sound) (unit : DeclUnit) :
    unit ∈ units ↔ unit ∈ others := by
  rw [(loadUnits_of_ok sound read.loaded).2, (loadUnits_of_ok sound otherRead.loaded).2]
  unfold HasSource
  rw [directoryName_eq read.located, directoryName_eq otherRead.located, locate_ofText read.located,
    locate_ofText otherRead.located]

/-- The names of the working directory stay where the directories do. -/
theorem SameDirectories.solid (same : files.SameDirectories later)
    (solid : files.SolidWorkingDirectory) : later.SolidWorkingDirectory := by
  rw [SolidWorkingDirectory, same.workingDirectory]
  exact solid

end Files

namespace GenerateOptions

variable {options : GenerateOptions} {files later : Files} {directory : String} {inside : Location}
  {units others : List DeclUnit} {package : String} {writes : List (Location × String)}

/-- The options without the word to generate everything. -/
def unforced (options : GenerateOptions) : GenerateOptions :=
  { options with settings := { options.settings with force := false } }

/-- What is stale without that word is stale. -/
theorem Stale.of_unforced (stale : options.unforced.Stale files inside units package) :
    options.Stale files inside units package := by
  rcases stale with forced | outdated
  · cases forced
  · exact .inr outdated

/-- Whether a package is stale does not depend on the order of the units. -/
theorem Stale.congr (stale : options.Stale files inside units package)
    (same : ∀ unit, unit ∈ units ↔ unit ∈ others) : options.Stale files inside others package := by
  rcases stale with forced | missing | ⟨made, isMade, unit, member, younger⟩
  · exact .inl forced
  · exact .inr (.inl missing)
  · obtain ⟨isUnit, isOf⟩ := List.mem_filter.1 member
    exact .inr (.inr ⟨made, isMade, unit, List.mem_filter.2 ⟨(same unit).1 isUnit, isOf⟩, younger⟩)

/-- A package becomes stale only if its module or its declarations change. -/
theorem Stale.of_later (stale : options.Stale later inside units package)
    (read : files.Loaded directory inside units) (sound : files.Sound)
    (same : files.SameSources later)
    (kept : later.node? (options.modulePlace inside package) =
      files.node? (options.modulePlace inside package)) :
    options.Stale files inside units package := by
  rw [Stale, kept] at stale
  rcases stale with forced | missing | ⟨made, isMade, unit, member, source, isSource, younger⟩
  · exact .inl forced
  · exact .inr (.inl missing)
  · obtain ⟨_, _, _, _, isName, _⟩ := read.exists_source sound (List.mem_filter.1 member).1
    rw [same.node?_eq _ _ isName] at isSource
    exact .inr (.inr ⟨made, isMade, unit, member, source, isSource, younger⟩)

/-- Are all modules of a directory up to date? -/
def UpToDate (options : GenerateOptions) (files : Files) (directory : String) : Prop :=
  ∃ inside units, files.Loaded directory inside units ∧ (∀ unit ∈ units, unit.package ≠ "") ∧
    ∀ package ∈ units.map (·.package), ¬options.Stale files inside units package

/-- Is no declaration file of a directory younger than this time? -/
def NoYounger (files : Files) (directory : String) (now : Time) : Prop :=
  ∀ source changed, files.HasSource directory source changed → changed ≤ now

/-- A module that is written is up to date if no declaration file is younger, and one that is up to
date stays so. -/
theorem AreModules.not_stale (areModules : options.AreModules files writes) {now : Time}
    (read : files.Loaded directory inside units) (sound : files.Sound)
    (old : NoYounger files directory now)
    (fresh : options.modulePlace inside package ∈ writes.map (·.1) ∨
      ¬options.unforced.Stale files inside units package) :
    ¬options.unforced.Stale (files.setFiles now writes) inside units package := by
  have same := areModules.sameSources now
  have free : ∀ write ∈ writes, ¬files.IsDirectoryAt write.1 :=
    fun write member => (areModules write member).2
  intro stale
  rcases Files.node?_setFiles free now (options.modulePlace inside package) with
    ⟨text, _, written⟩ | ⟨unwritten, kept⟩
  · -- What is there was written just now, and every unit is older than that.
    rcases stale with forced | missing | ⟨made, isMade, unit, member, source, isSource, younger⟩
    · cases forced
    · cases missing.symm.trans written
    · cases isMade.symm.trans written
      obtain ⟨_, _, changed, has, isName, isKept⟩ :=
        read.exists_source sound (List.mem_filter.1 member).1
      rw [same.node?_eq _ _ isName] at isSource
      cases isKept.symm.trans isSource
      exact absurd younger (not_lt.2 (old _ changed has))
  · exact fresh.elim unwritten fun notStale => notStale (stale.of_later read sound same kept)

/-- So a directory whose modules are up to date stays so. -/
theorem AreModules.upToDate (areModules : options.AreModules files writes) {now : Time}
    (sound : files.Sound) (old : NoYounger files directory now)
    (upToDate : options.unforced.UpToDate files directory) :
    options.unforced.UpToDate (files.setFiles now writes) directory := by
  obtain ⟨inside, units, read, packaged, fresh⟩ := upToDate
  refine ⟨inside, units, read.mono sound (areModules.sound sound now) (areModules.sameSources now),
    packaged, fun package isPackage => ?_⟩
  exact areModules.not_stale read sound old (.inr (fresh package isPackage))

variable {fault? : Option SourceFault}

/-- And one that is handled without faults comes to be. -/
theorem Handles.upToDate (handles : options.Handles files directory writes none) {now : Time}
    (sound : files.Sound) (old : NoYounger files directory now) :
    options.unforced.UpToDate (files.setFiles now writes) directory := by
  have areModules := handles.areModules
  cases handles with
  | @handled inside units _ _ _ read packaged _ _ stale generates =>
    refine ⟨inside, units,
      read.mono sound (areModules.sound sound now) (areModules.sameSources now),
      packaged, fun package isPackage => areModules.not_stale read sound old ?_⟩
    by_cases isStale : options.Stale files inside units package
    · exact .inl (generates.exists_mem ((stale package).2 ⟨isPackage, isStale⟩))
    · exact .inr fun unforced => isStale unforced.of_unforced

/-- Where all modules are up to date, there is nothing to do. -/
theorem Handles.eq_nil (handles : options.Handles files directory writes fault?)
    (upToDate : options.UpToDate files directory) : writes = [] ∧ fault? = none := by
  obtain ⟨inside, units, read, packaged, fresh⟩ := upToDate
  cases handles with
  | unread failed => cases read.loaded.symm.trans failed
  | unpackaged loaded _ lacks =>
    cases read.loaded.symm.trans loaded
    exact absurd lacks (packaged _ (by simp))
  | @handled other others packages _ _ otherRead _ _ _ stale generates =>
    cases read.loaded.symm.trans otherRead.loaded
    cases read.located.symm.trans otherRead.located
    have nothing : packages = [] := List.eq_nil_iff_forall_not_mem.2 fun package among =>
      fresh package ((stale package).1 among).1 ((stale package).1 among).2
    subst nothing
    cases generates
    exact ⟨rfl, rfl⟩

/-- A module that is up to date is not written. -/
theorem Handles.not_mem (handles : options.Handles files directory writes fault?)
    {other : String} (read : files.Loaded other inside units) (sound : files.Sound)
    (fresh : ¬options.Stale files inside units package) :
    options.modulePlace inside package ∉ writes.map (·.1) := by
  intro among
  obtain ⟨write, member, isPlace⟩ := List.mem_map.1 among
  obtain ⟨place, others, written, otherRead, _, stale, isWritten, _⟩ := handles.of_mem member
  -- Only the package itself has this place, in the same directory by whatever path it is reached.
  obtain ⟨rfl, rfl⟩ := modulePlace_inj (isPlace.symm.trans isWritten)
  exact fresh (stale.congr (otherRead.mem_iff read sound))

/-! ## Directory after directory -/

/-- Directories are handled one after another, each in the tree that the ones before have left, up
to the first fault. -/
inductive Runs (options : GenerateOptions) (now : Time) :
    Files → List String → List (Location × String) → Option SourceFault → Prop
  | done {files : Files} : Runs options now files [] [] none
  | stopped {files : Files} {directory : String} {rest : List String}
      {writes : List (Location × String)} {fault : SourceFault}
      (handles : options.Handles files directory writes (some fault)) :
      Runs options now files (directory :: rest) writes (some fault)
  | next {files : Files} {directory : String} {rest : List String}
      {writes more : List (Location × String)} {fault? : Option SourceFault}
      (handles : options.Handles files directory writes none)
      (later : Runs options now (files.setFiles now writes) rest more fault?) :
      Runs options now files (directory :: rest) (writes ++ more) fault?

variable {now : Time} {directories : List String}

/-- All that is written are modules. -/
theorem Runs.areModules (runs : options.Runs now files directories writes fault?) :
    options.AreModules files writes := by
  induction runs with
  | done => exact fun _ member => by cases member
  | stopped handles => exact handles.areModules
  | next handles _ inductionHypothesis =>
    have same := (handles.areModules.sameSources now).directories
    intro write member
    rcases List.mem_append.1 member with first | later
    · exact handles.areModules write first
    · rw [← same.isDirectoryAt_iff]
      exact inductionHypothesis write later

/-- A module that is up to date at the start is not written. -/
theorem Runs.not_mem (runs : options.Runs now files directories writes fault?)
    (read : files.Loaded directory inside units) (sound : files.Sound)
    (fresh : ¬options.Stale files inside units package) :
    options.modulePlace inside package ∉ writes.map (·.1) := by
  induction runs with
  | done => simp
  | stopped handles => exact handles.not_mem read sound fresh
  | @next files _ _ writes _ _ handles _ inductionHypothesis =>
    have areModules := handles.areModules
    have same := areModules.sameSources now
    have laterSound := areModules.sound sound now
    have unwritten := handles.not_mem read sound fresh
    rw [List.map_append, List.mem_append, not_or]
    -- The package is still not stale when the next directory is reached, since nothing of it
    -- changed.
    refine ⟨unwritten, inductionHypothesis (read.mono sound laterSound same) laterSound ?_⟩
    intro stale
    rcases Files.node?_setFiles (fun write member => (areModules write member).2) now
      (options.modulePlace inside package) with ⟨text, written, _⟩ | ⟨_, kept⟩
    · exact unwritten (List.mem_map.2 ⟨_, written, rfl⟩)
    · exact fresh (stale.of_later read sound same kept)

/-- After a run without faults, all modules of all directories are up to date, if no declaration
file is younger than the run. -/
theorem Runs.upToDate (runs : options.Runs now files directories writes none)
    (sound : files.Sound) (old : ∀ directory ∈ directories, NoYounger files directory now) :
    ∀ directory ∈ directories,
      options.unforced.UpToDate (files.setFiles now writes) directory := by
  generalize isNone : (none : Option SourceFault) = fault? at runs
  induction runs with
  | done => simp
  | stopped => cases isNone
  | @next files directory rest writes more _ handles later inductionHypothesis =>
    obtain ⟨oldFirst, oldLater⟩ := List.forall_mem_cons.1 old
    have same := handles.areModules.sameSources now
    have laterSound := handles.areModules.sound sound now
    have stillOld {other : String} (oldBefore : NoYounger files other now) :
        NoYounger (files.setFiles now writes) other now :=
      fun source changed has => oldBefore source changed (same.hasSource_iff.1 has)
    rw [Files.setFiles_append, List.forall_mem_cons]
    -- The directories behind may write into the first one again, but no module becomes older by
    -- that.
    refine ⟨later.areModules.upToDate laterSound (stillOld oldFirst)
      (handles.upToDate sound oldFirst), ?_⟩
    exact inductionHypothesis laterSound
      (fun other member => stillOld (oldLater other member)) isNone

/-- Where all modules of all directories are up to date, a run does nothing. -/
theorem Runs.eq_nil (runs : options.Runs now files directories writes fault?)
    (upToDate : ∀ directory ∈ directories, options.UpToDate files directory) :
    writes = [] ∧ fault? = none := by
  induction runs with
  | done => exact ⟨rfl, rfl⟩
  | stopped handles => exact handles.eq_nil (upToDate _ List.mem_cons_self)
  | next handles _ inductionHypothesis =>
    obtain ⟨first, others⟩ := List.forall_mem_cons.1 upToDate
    obtain ⟨rfl, _⟩ := handles.eq_nil first
    exact inductionHypothesis others

end GenerateOptions

/-- The command handles directories that are there one after another. -/
theorem Workspace.generateAll_runs {options : GenerateOptions} (toFiles : options.toOutput = false)
    (solidSuffix : '/' ∉ options.settings.suffix.toList) (now : Time) {directories : List String}
    (workspace : Workspace) (sound : workspace.files.Sound)
    (solid : workspace.files.SolidWorkingDirectory)
    (areDirectories : ∀ directory ∈ directories, workspace.files.isDirectory directory = true) :
    ∃ writes, options.Runs now workspace.files directories writes
        (workspace.generateAll options now directories).2 ∧
      (workspace.generateAll options now directories).1.files =
        workspace.files.setFiles now writes := by
  induction directories generalizing workspace with
  | nil => exact ⟨[], .done, rfl⟩
  | cons directory rest inductionHypothesis =>
    obtain ⟨isDirectory, others⟩ := List.forall_mem_cons.1 areDirectories
    obtain ⟨writes, handles, files⟩ :=
      generateDirectory_handles toFiles sound solid solidSuffix isDirectory now
    rw [generateAll_cons]
    rcases isNext : workspace.generateDirectory options now directory with ⟨next, _ | fault⟩ <;>
      rw [isNext] at handles files
    · dsimp only at handles files ⊢
      have same := (handles.areModules.sameSources now).directories
      have laterSound := handles.areModules.sound sound now
      rw [← files] at same laterSound
      obtain ⟨more, later, isLater⟩ := inductionHypothesis next laterSound (same.solid solid)
        fun other member => (same.isDirectory_eq other).trans (others other member)
      rw [files] at later isLater
      refine ⟨writes ++ more, .next handles later, ?_⟩
      rw [isLater, Files.setFiles_append]
    · exact ⟨writes, .stopped handles, files⟩

/-- A command that meets a fault ends with one. -/
theorem Ending.exitCode_ofFault (fault : SourceFault) : (Ending.ofFault fault).exitCode = 1 := by
  unfold ofFault
  split
  · split <;> rfl
  · rfl

variable {options : GenerateOptions} {files : Files} {words : List String}

/-- What the command does in directories that are all there. -/
theorem runGenerate_runs (understood : GenerateOptions.ofWords? words = some options)
    (toFiles : options.toOutput = false) (solidSuffix : '/' ∉ options.settings.suffix.toList)
    (sound : files.Sound) (solid : files.SolidWorkingDirectory)
    (areDirectories : ∀ directory ∈ options.directories, files.isDirectory directory = true)
    (now : Time) :
    ∃ writes fault?, options.Runs now files options.directories writes fault? ∧
      (runGenerate files now words).files = files.setFiles now writes ∧
      (runGenerate files now words).ending = (fault?.map Ending.ofFault).getD .done := by
  obtain ⟨writes, runs, isWritten⟩ := Workspace.generateAll_runs toFiles solidSuffix now
    ⟨files, "", []⟩ sound solid areDirectories
  refine ⟨writes, _, runs, ?_⟩
  rw [runGenerate, understood]
  dsimp only
  rw [if_pos (List.all_eq_true.2 areDirectories)]
  exact ⟨isWritten, rfl⟩

/-- What a run of the command writes. Let the command be told to write files, with a suffix that
holds no slash, in directories that are all there. It handles them one after another up to the first
fault: it writes the modules of the packages that are stale when their directory is reached, each
made from all units of its package. Without a fault it is done, and otherwise it exits with one. At
every place is one of these modules or what was there before; so declaration files are left alone,
and modules that are up to date at the start. If there is no fault and no declaration file is
younger than the run, a further run that is not told to generate everything is done and changes
nothing. -/
theorem runGenerate_effect (understood : GenerateOptions.ofWords? words = some options)
    (toFiles : options.toOutput = false) (solidSuffix : '/' ∉ options.settings.suffix.toList)
    (sound : files.Sound) (solid : files.SolidWorkingDirectory)
    (areDirectories : ∀ directory ∈ options.directories, files.isDirectory directory = true)
    (now : Time) :
    ∃ writes fault?, options.Runs now files options.directories writes fault? ∧
      (runGenerate files now words).files = files.setFiles now writes ∧
      (fault? = none → (runGenerate files now words).ending = .done) ∧
      (∀ fault, fault? = some fault →
        (runGenerate files now words).ending = .ofFault fault ∧
        (runGenerate files now words).ending.exitCode = 1) ∧
      (∀ place, (∃ text, (place, text) ∈ writes ∧
          (runGenerate files now words).files.node? place = some (.file text now)) ∨
        place ∉ writes.map (·.1) ∧
          (runGenerate files now words).files.node? place = files.node? place) ∧
      (∀ inside name, isSourceName name = true →
        (runGenerate files now words).files.node? (inside ++ [name]) =
          files.node? (inside ++ [name])) ∧
      (∀ directory inside units, files.Loaded directory inside units →
        ∀ package, ¬options.Stale files inside units package →
          (runGenerate files now words).files.node? (options.modulePlace inside package) =
            files.node? (options.modulePlace inside package)) ∧
      (fault? = none →
        (∀ directory ∈ options.directories, GenerateOptions.NoYounger files directory now) →
        ∀ again, GenerateOptions.ofWords? again = some options.unforced → ∀ later,
          (runGenerate (runGenerate files now words).files later again).files =
              (runGenerate files now words).files ∧
            (runGenerate (runGenerate files now words).files later again).ending = .done) := by
  obtain ⟨writes, fault?, runs, isWritten, isEnding⟩ :=
    runGenerate_runs understood toFiles solidSuffix sound solid areDirectories now
  have areModules := runs.areModules
  have same := areModules.sameSources now
  have node := Files.node?_setFiles (fun write member => (areModules write member).2) now
  rw [isWritten]
  refine ⟨writes, fault?, runs, rfl, ?_, ?_, node, same.node?_eq, ?_, ?_⟩
  · rintro rfl
    exact isEnding
  · rintro fault rfl
    exact ⟨isEnding, isEnding ▸ Ending.exitCode_ofFault fault⟩
  · intro directory inside units read package fresh
    rcases node (options.modulePlace inside package) with ⟨text, member, _⟩ | ⟨_, kept⟩
    · exact absurd (List.mem_map.2 ⟨_, member, rfl⟩) (runs.not_mem read sound fresh)
    · exact kept
  · rintro rfl old again understoodAgain later
    obtain ⟨more, fault?, further, isMore, isDone⟩ := runGenerate_runs understoodAgain toFiles
      solidSuffix (areModules.sound sound now) (same.directories.solid solid)
      (fun directory member =>
        (same.directories.isDirectory_eq directory).trans (areDirectories directory member)) later
    obtain ⟨rfl, rfl⟩ := further.eq_nil (runs.upToDate sound old)
    exact ⟨isMore, isDone⟩

/-- A tree with two directories. In the first, the module of one package is younger than its
declaration file and that of another is older; in the second, there is no module. -/
def twoDirectories : Files :=
  ⟨[], [(["d"], .directory 0), (["e"], .directory 0),
    (["d", "a.decl"], .file "package p type A int" 1),
    (["d", "b.decl"], .file "package q type B int" 3),
    (["d", "p_ref.py"], .file "" 2), (["d", "q_ref.py"], .file "" 2),
    (["e", "c.decl"], .file "type C int" 4)]⟩

/-- It is an instance: two modules are written and the third is left alone, and then there is
nothing more to do. -/
theorem runGenerate_effect_twoDirectories :
    (GenerateOptions.ofWords? ["d", "e"] = some ⟨{}, false, ["d", "e"]⟩ ∧
      '/' ∉ ({} : Settings).suffix.toList ∧ twoDirectories.Sound ∧
      twoDirectories.SolidWorkingDirectory ∧
      ∀ directory ∈ ["d", "e"], twoDirectories.isDirectory directory = true ∧
        GenerateOptions.NoYounger twoDirectories directory 4) ∧
      ([["d", "p_ref.py"], ["d", "q_ref.py"], ["e", "e_ref.py"]].map fun place =>
        ((runGenerate twoDirectories 4 ["d", "e"]).files.node? place).map Node.changed) =
          [some 2, some 4, some 4] ∧
      ∀ later,
        (runGenerate (runGenerate twoDirectories 4 ["d", "e"]).files later ["d", "e"]).files =
            (runGenerate twoDirectories 4 ["d", "e"]).files ∧
          (runGenerate (runGenerate twoDirectories 4 ["d", "e"]).files later
            ["d", "e"]).ending = .done := by
  have understood : GenerateOptions.ofWords? ["d", "e"] = some ⟨{}, false, ["d", "e"]⟩ := by
    decide +kernel
  have solidSuffix : '/' ∉ ({} : Settings).suffix.toList := by decide
  have names : ∀ entry ∈ twoDirectories.nodes, ∀ name ∈ entry.1, '/' ∉ name.toList := by decide
  have sound : twoDirectories.Sound := by
    refine ⟨by decide, fun entry held inside name isPlace _ => names entry held name ?_⟩
    rw [isPlace]
    simp
  have areDirectories : ∀ directory ∈ ["d", "e"], twoDirectories.isDirectory directory = true := by
    decide +kernel
  have times : ∀ entry ∈ twoDirectories.nodes, entry.2.changed ≤ 4 := by decide
  have old (directory : String) : GenerateOptions.NoYounger twoDirectories directory 4 := by
    rintro source changed ⟨_, _, inside, text, _, _, kept, _⟩
    exact times _ (Files.mem_nodes_of_node? (by simp) kept)
  have checked : (runGenerate twoDirectories 4 ["d", "e"]).ending.exitCode ≠ 1 ∧
      ([["d", "p_ref.py"], ["d", "q_ref.py"], ["e", "e_ref.py"]].map fun place =>
        ((runGenerate twoDirectories 4 ["d", "e"]).files.node? place).map Node.changed) =
          [some 2, some 4, some 4] := by
    decide +kernel
  obtain ⟨_, fault?, _, _, _, failed, _, _, _, again⟩ :=
    runGenerate_effect understood rfl solidSuffix
    sound (by decide) areDirectories 4
  cases fault? with
  | some fault => exact absurd (failed fault rfl).2 checked.1
  | none =>
    refine ⟨⟨understood, solidSuffix, sound, by decide, fun directory member =>
      ⟨areDirectories directory member, old directory⟩⟩, checked.2, ?_⟩
    exact again rfl (fun directory _ => old directory) ["d", "e"] understood

end DeclCodec
