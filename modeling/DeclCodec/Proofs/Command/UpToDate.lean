import DeclCodec.Proofs.Command.Writing

/-!
# Modules that are up to date

The command is run in a directory again and again, and in between declaration files
are saved and deleted. A package whose module is younger than all of its declaration
files is left alone. Which declaration files a module was made from is written
nowhere, so the command does not notice that one of them is no longer the
package's: it was deleted, or it now belongs to another package.

Nothing else is missed. Let each declaration file that is saved be younger than every
file that is there. Then a module whose package still has all units that the module
was made from is what generating everything makes of the package.
-/

namespace DeclCodec

/-- How the command is run: in one directory, and so that it writes what is out of date. -/
structure Invocation where
  words : List String
  options : GenerateOptions
  directory : String
  understood : GenerateOptions.ofWords? words = some options
  single : options.directories = [directory]
  unforced : options.settings.force = false
  toFiles : options.toOutput = false

/-- The path of the module of a package. -/
def Invocation.target (invocation : Invocation) (package : String) : String :=
  invocation.options.target invocation.directory package

/-- Is nothing kept where the module of a package belongs? -/
def Invocation.Lacks (invocation : Invocation) (files : Files) (package : String) : Prop :=
  ∀ node, files.find (invocation.target package) ≠ .ok node

/-- Is the module of a package, whose directory has these units, what comes of the package when
everything is generated? -/
def Invocation.Current (invocation : Invocation) (files : Files) (units : List DeclUnit)
    (package : String) : Prop :=
  ∃ text, files.read (invocation.target package) = .ok text ∧
    (processPackage package invocation.options.settings.forced (unitsOf units package)).result =
      .ok text

/-- A tree of files, and for each place to which a module was written the names of the declaration
files that it was last made from. -/
structure Project where
  files : Files
  origins : List (Location × List String)

/-! ## Histories -/

namespace Project

/-- A module is written, made from the units of its package among these. -/
def deliver (options : GenerateOptions) (directory : String) (stale : List DeclUnit) (now : Time)
    (project : Project) (output : String × String) : Project where
  files := options.put directory now project.files output
  origins :=
    match project.files.locate (options.target directory output.1) with
    | .ok place => Table.put place ((unitsOf stale output.1).map (·.name)) project.origins
    | .error _ => project.origins

/-- The modules that a run writes in a project. -/
def written (project : Project) (invocation : Invocation) : List (String × String) :=
  if project.files.isDirectory invocation.directory then
    invocation.options.written project.files invocation.directory
  else []

/-- The project after a run. -/
def run (project : Project) (invocation : Invocation) (now : Time) : Project where
  files := (runGenerate project.files now invocation.words).files
  origins := ((project.written invocation).foldl
    (deliver invocation.options invocation.directory
      (invocation.options.staleUnits project.files invocation.directory) now) project).origins

/-- The names of the declaration files that the module of a package was last made from. -/
def originOf (project : Project) (invocation : Invocation) (package : String) : List String :=
  ((project.files.locate (invocation.target package)).toOption.bind
    fun place => project.origins.lookup place).getD []

/-- Does a package, whose directory has these units, still have all units that its module was last
made from? They may have changed. -/
def KeepsUnits (project : Project) (invocation : Invocation) (units : List DeclUnit)
    (package : String) : Prop :=
  ∀ name ∈ project.originOf invocation package, name ∈ (unitsOf units package).map (·.name)

instance (project : Project) (invocation : Invocation) (units : List DeclUnit) (package : String) :
    Decidable (project.KeepsUnits invocation units package) :=
  inferInstanceAs (Decidable (∀ name ∈ project.originOf invocation package, _))

end Project

/-- What can become of a tree of files. A declaration file is saved, with a time later than that of
every file; a file is deleted; or the command is run. -/
inductive History (invocation : Invocation) (start : Files) : Project → Prop
  | start (sound : start.Sound) : History invocation start ⟨start, []⟩
  | save {project : Project} (history : History invocation start project) (inside : Location)
      (name text : String) (time : Time) (isSource : isSourceName name = true)
      (solid : '/' ∉ name.toList) (free : ¬project.files.IsDirectoryAt (inside ++ [name]))
      (later : ∀ entry ∈ project.files.nodes, entry.2.isFile = true → entry.2.changed < time) :
      History invocation start
        { project with files := project.files.setFile (inside ++ [name]) text time }
  | delete {project : Project} (history : History invocation start project) (place : Location)
      (free : ¬project.files.IsDirectoryAt place) :
      History invocation start { project with files := project.files.remove place }
  | run {project : Project} (history : History invocation start project) (now : Time) :
      History invocation start (project.run invocation now)

/-! ## Runs -/

namespace Project

variable {options : GenerateOptions} {directory : String}

/-- The files after modules are written. -/
theorem files_foldl_deliver (stale : List DeclUnit) (now : Time) (outputs : List (String × String))
    (project : Project) :
    (outputs.foldl (deliver options directory stale now) project).files =
      outputs.foldl (options.put directory now) project.files := by
  induction outputs generalizing project with
  | nil => rfl
  | cons output outputs inductionHypothesis =>
    rw [List.foldl_cons, List.foldl_cons, inductionHypothesis, deliver]

/-- Modules are written in a run, and nothing else is done to the files. -/
theorem run_eq (project : Project) (invocation : Invocation) (now : Time) :
    project.run invocation now = (project.written invocation).foldl
      (deliver invocation.options invocation.directory
        (invocation.options.staleUnits project.files invocation.directory) now) project := by
  have files : (project.run invocation now).files =
      ((project.written invocation).foldl (deliver invocation.options invocation.directory
        (invocation.options.staleUnits project.files invocation.directory) now) project).files := by
    rw [files_foldl_deliver, written]
    split
    · next isDirectory =>
      exact (runGenerate_single invocation.understood invocation.single invocation.toFiles
        isDirectory now).1
    · next noDirectory =>
      rw [run, runGenerate_misused invocation.understood invocation.single
        (Bool.eq_false_iff.2 noDirectory) now]
      rfl
  exact congrArg (Project.mk · _) files

/-- What is at a place after modules that can be written are: what was there before, and no module
belongs there, or one of the modules. -/
theorem foldl_deliver (stale : List DeclUnit) (now : Time) {outputs : List (String × String)}
    (project : Project) {later : Project} (sound : project.files.Sound)
    (can : ∀ output ∈ outputs, options.writable project.files directory output = true)
    (isLater : later = outputs.foldl (deliver options directory stale now) project) :
    later.files.Sound ∧ project.files.SameSources later.files ∧ ∀ place,
      ((∀ output ∈ outputs, project.files.locate (options.target directory output.1) ≠ .ok place) ∧
          later.files.node? place = project.files.node? place ∧
          later.origins.lookup place = project.origins.lookup place) ∨
        ∃ output ∈ outputs,
          project.files.locate (options.target directory output.1) = .ok place ∧
          later.files.node? place = some (.file output.2 now) ∧
          later.origins.lookup place = some ((unitsOf stale output.1).map (·.name)) := by
  subst isLater
  induction outputs generalizing project with
  | nil => exact ⟨sound, .refl _, fun place => .inl ⟨by simp, rfl, rfl⟩⟩
  | cons output outputs inductionHypothesis =>
    rw [List.forall_mem_cons] at can
    obtain ⟨own, located, free⟩ := GenerateOptions.writable_iff.1 can.1
    have noSource : ∀ before name, own = before ++ [name] → isSourceName name = false :=
      fun before name isPlace => Bool.eq_false_iff.2 fun isSource =>
        Files.ne_of_locate_outputFile located before isSource isPlace
    obtain ⟨next, isNext⟩ : ∃ next, next = project.deliver options directory stale now output :=
      ⟨_, rfl⟩
    have files : next.files = project.files.setFile own output.2 now := by
      rw [isNext, deliver, GenerateOptions.put_eq located free]
    have origins : next.origins =
        Table.put own ((unitsOf stale output.1).map (·.name)) project.origins := by
      rw [isNext, deliver, located]
    have same : project.files.SameSources next.files :=
      files ▸ Files.sameSources_setFile free noSource output.2 now
    obtain ⟨laterSound, laterSame, each⟩ := inductionHypothesis next
      (files ▸ sound.setFile (fun before name isPlace isSource => by
        rw [noSource before name isPlace] at isSource
        cases isSource) output.2 now)
      (by rw [GenerateOptions.writable_eq same.directories]; exact can.2)
    rw [List.foldl_cons, ← isNext]
    refine ⟨laterSound, same.trans laterSame, fun place => ?_⟩
    rcases each place with ⟨unwritten, node, origin⟩ | ⟨other, member, isOther, kept⟩
    · by_cases here : place = own
      · refine .inr ⟨output, List.mem_cons_self, here ▸ located, ?_, ?_⟩
        · rw [node, files, Files.node?_setFile free, if_pos here]
        · rw [origin, origins, here, Table.lookup_put_self]
      · refine .inl ⟨?_, ?_, ?_⟩
        · rw [List.forall_mem_cons]
          refine ⟨fun isOwn => here (Except.ok.inj (isOwn.symm.trans located)), ?_⟩
          exact fun other member isOther =>
            unwritten other member (same.directories.locate_iff.2 isOther)
        · rw [node, files, Files.node?_setFile free, if_neg here]
        · rw [origin, origins, Table.lookup_put_of_ne here]
    · exact .inr ⟨other, List.mem_cons_of_mem _ member, same.directories.locate_iff.1 isOther, kept⟩

variable {invocation : Invocation} {start : Files} {project : Project}

/-- Is the text at a place that of a package, made from its units among these? No declaration file
that is as old as the text says anything but one of these units. -/
structure Made (project : Project) (invocation : Invocation) (place : Location) (text : String)
    (changed : Time) (units : List DeclUnit) (package : String) : Prop where
  origin : project.origins.lookup place = some ((unitsOf units package).map (·.name))
  distinct : (units.map (·.name)).Nodup
  nonempty : unitsOf units package ≠ []
  result : (processPackage package invocation.options.settings (unitsOf units package)).result =
    .ok text
  covers : ∀ source time, project.files.HasSource invocation.directory source time →
    time ≤ changed → ∃ unit ∈ units, source.parse = .ok unit

/-- Is it known of every module, unless it was there at the start, what it was made from? -/
structure Tracked (project : Project) (invocation : Invocation) (start : Files) : Prop where
  sound : project.files.Sound
  same : start.SameDirectories project.files
  made : ∀ package place text changed,
    project.files.locate (invocation.target package) = .ok place →
    start.node? place = none → project.files.node? place = some (.file text changed) →
    ∃ units owner, project.Made invocation place text changed units owner

/-- What a module was made from stays known while the module stays, if each declaration file is
older than the module only if it was there before. -/
theorem Made.mono {later : Project} {place : Location} {text : String} {changed : Time}
    {units : List DeclUnit} {package : String}
    (made : project.Made invocation place text changed units package)
    (origin : later.origins.lookup place = project.origins.lookup place)
    (sources : ∀ source time, later.files.HasSource invocation.directory source time →
      time ≤ changed → project.files.HasSource invocation.directory source time) :
    later.Made invocation place text changed units package :=
  ⟨origin.trans made.origin, made.distinct, made.nonempty, made.result,
    fun source time has old => made.covers source time (sources source time has old) old⟩

/-- It stays known when a declaration file is saved that is younger than every file. -/
theorem Tracked.save (tracked : project.Tracked invocation start) {inside : Location}
    {name : String}
    (text : String) {time : Time} (isSource : isSourceName name = true) (solid : '/' ∉ name.toList)
    (free : ¬project.files.IsDirectoryAt (inside ++ [name]))
    (later : ∀ entry ∈ project.files.nodes, entry.2.isFile = true → entry.2.changed < time) :
    Tracked { project with files := project.files.setFile (inside ++ [name]) text time } invocation
      start := by
  have same := Files.sameDirectories_setFile free text time
  refine ⟨tracked.sound.setFile ?_ text time, tracked.same.trans same, ?_⟩
  · intro before last isPlace _
    obtain ⟨_, sameName⟩ := List.append_inj' isPlace rfl
    rwa [← List.singleton_inj.1 sameName]
  · intro package place content changed located fresh kept
    rw [Files.node?_setFile free, if_neg (Files.ne_of_locate_outputFile located inside isSource)]
      at kept
    obtain ⟨units, owner, made⟩ :=
      tracked.made package place content changed (same.locate_iff.1 located) fresh kept
    refine ⟨units, owner, made.mono rfl fun source other has old => ?_⟩
    rcases Files.hasSource_of_setFile free has with rfl | before
    · have notRoot : place ≠ [] := by
        rintro rfl
        cases kept
      exact absurd (later _ (Files.mem_nodes_of_node? notRoot kept) rfl) (not_lt.2 old)
    · exact before

/-- And when a file is deleted. -/
theorem Tracked.delete (tracked : project.Tracked invocation start) {place : Location}
    (free : ¬project.files.IsDirectoryAt place) :
    Tracked { project with files := project.files.remove place } invocation start := by
  have same := Files.sameDirectories_remove free
  refine ⟨tracked.sound.remove place, tracked.same.trans same, ?_⟩
  intro package other text changed located fresh kept
  rw [Files.node?_remove free] at kept
  split at kept
  · cases kept
  · obtain ⟨units, owner, made⟩ :=
      tracked.made package other text changed (same.locate_iff.1 located) fresh kept
    exact ⟨units, owner, made.mono rfl fun source time has _ => Files.hasSource_of_remove free has⟩

/-- What a run leaves at a place: what was there before, and no module belongs there, or a module,
made from the units that the directory has. -/
theorem run_at (invocation : Invocation) (sound : project.files.Sound) (now : Time) :
    (project.run invocation now).files.Sound ∧
      project.files.SameSources (project.run invocation now).files ∧ ∀ place,
      ((∀ output ∈ project.written invocation, project.files.locate
          (invocation.target output.1) ≠ .ok place) ∧
        (project.run invocation now).files.node? place = project.files.node? place ∧
        (project.run invocation now).origins.lookup place = project.origins.lookup place) ∨
      ∃ text units package, project.files.loadUnits invocation.directory = .ok units ∧
        (project.run invocation now).files.node? place = some (.file text now) ∧
        (project.run invocation now).Made invocation place text now units package := by
  have isWritten : ∀ output ∈ project.written invocation,
      output ∈ invocation.options.written project.files invocation.directory := by
    intro output member
    rw [written] at member
    split at member
    · exact member
    · cases member
  obtain ⟨laterSound, same, each⟩ := foldl_deliver
    (invocation.options.staleUnits project.files invocation.directory) now project sound
    (fun output member => List.mem_takeWhile_imp (isWritten output member))
    (run_eq project invocation now)
  refine ⟨laterSound, same, fun place => (each place).imp id ?_⟩
  rintro ⟨output, member, located, kept, origin⟩
  obtain ⟨units, loaded, isPackage, own, result⟩ :=
    GenerateOptions.of_mem_written (isWritten output member)
  obtain ⟨distinct, isUnit⟩ := Files.loadUnits_of_ok sound loaded
  refine ⟨output.2, units, output.1, loaded, kept, own ▸ origin, distinct,
    mem_packageNames.1 isPackage, result, fun source time has _ => ?_⟩
  exact Files.exists_of_hasSource sound loaded (same.hasSource_iff.1 has)

/-- Is the module of a package there, made from all of these units of the package, and perhaps from
others? -/
def HasModule (project : Project) (invocation : Invocation) (package : String)
    (own : List DeclUnit) : Prop :=
  ∃ place text changed all owner,
    project.files.locate (invocation.target package) = .ok place ∧
    project.files.node? place = some (.file text changed) ∧
    project.Made invocation place text changed all owner ∧ own ⊆ all

/-- It stays known in a run. -/
theorem Tracked.run (tracked : project.Tracked invocation start) (now : Time) :
    (project.run invocation now).Tracked invocation start := by
  obtain ⟨sound, same, each⟩ := run_at invocation tracked.sound now
  refine ⟨sound, tracked.same.trans same.directories, ?_⟩
  intro package place text changed located fresh kept
  rcases each place with ⟨_, node, origin⟩ | ⟨other, units, owner, _, node, made⟩
  · obtain ⟨units, owner, made⟩ := tracked.made package place text changed
      (same.directories.locate_iff.1 located) fresh (node.symm.trans kept)
    exact ⟨units, owner, made.mono origin fun source time has _ => same.hasSource_iff.1 has⟩
  · rw [node] at kept
    cases kept
    exact ⟨units, owner, made⟩

/-- In every history it is known what the modules were made from. -/
theorem tracked_of_history (history : History invocation start project) :
    project.Tracked invocation start := by
  induction history with
  | start sound =>
    refine ⟨sound, .refl _, fun package place text changed _ fresh kept => ?_⟩
    rw [fresh] at kept
    cases kept
  | save _ inside name text time isSource solid free later tracked =>
    exact tracked.save text isSource solid free later
  | delete _ place free tracked => exact tracked.delete free
  | run _ now tracked => exact tracked.run now

/-- A module whose package still has all units that it was made from, and no others, is what comes
of the package. -/
theorem Made.result_of_keeps {place : Location} {text : String} {changed : Time}
    {all units : List DeclUnit} {owner package : String}
    (made : project.Made invocation place text changed all owner)
    (distinct : (units.map (·.name)).Nodup) (covered : unitsOf units package ⊆ all)
    (keeps : ∀ name ∈ (unitsOf all owner).map (·.name),
      name ∈ (unitsOf units package).map (·.name)) :
    (processPackage package invocation.options.settings (unitsOf units package)).result =
      .ok text := by
  have kept : unitsOf all owner ⊆ unitsOf units package := by
    intro unit member
    obtain ⟨other, among, sameName⟩ :=
      List.mem_map.1 (keeps unit.name (List.mem_map.2 ⟨unit, member, rfl⟩))
    have same : other = unit := List.inj_on_of_nodup_map made.distinct (covered among)
      (List.mem_filter.1 member).1 sameName
    exact same ▸ among
  have isOwner : owner = package := by
    obtain ⟨unit, member⟩ := List.exists_mem_of_ne_nil _ made.nonempty
    exact (eq_of_beq (List.mem_filter.1 member).2).symm.trans
      (eq_of_beq (List.mem_filter.1 (kept member)).2)
  subst isOwner
  have allDistinct : ((unitsOf all owner).map (·.name)).Nodup :=
    made.distinct.sublist (List.filter_sublist.map _)
  have ownDistinct : ((unitsOf units owner).map (·.name)).Nodup :=
    distinct.sublist (List.filter_sublist.map _)
  have perm : (unitsOf all owner).Perm (unitsOf units owner) := by
    rw [List.perm_ext_iff_of_nodup (.of_map _ allDistinct) (.of_map _ ownDistinct)]
    refine fun unit => ⟨fun member => kept member, fun member => ?_⟩
    exact List.mem_filter.2 ⟨covered member, (List.mem_filter.1 member).2⟩
  rw [← processPackage_perm owner invocation.options.settings perm allDistinct]
  exact made.result

/-- A module that a run leaves alone is younger than all units of its package. -/
theorem exists_module_of_wants (tracked : project.Tracked invocation start)
    {units : List DeclUnit} (loaded : project.files.loadUnits invocation.directory = .ok units)
    {package : String} (isPackage : package ∈ packageNames units)
    (unwanted : invocation.options.wants project.files invocation.directory package
      (unitsOf units package) = .ok false)
    (lacks : invocation.Lacks start package) :
    ∃ place text changed,
      project.files.locate (invocation.target package) = .ok place ∧
      start.node? place = none ∧ project.files.node? place = some (.file text changed) ∧
      ∀ unit ∈ unitsOf units package, ∃ source time,
        project.files.HasSource invocation.directory source time ∧ source.parse = .ok unit ∧
        time ≤ changed := by
  rw [GenerateOptions.wants, invocation.unforced, invocation.toFiles,
    if_neg (by decide), Files.needsUpdate_eq_false_iff] at unwanted
  have notOutdated {unit : DeclUnit} (member : unit ∈ unitsOf units package) :=
    Files.isOutOfDate_eq_false_iff.1 (unwanted _ (List.mem_map.2 ⟨unit, member, rfl⟩))
  obtain ⟨first, isFirst⟩ := List.exists_mem_of_ne_nil _ (mem_packageNames.1 isPackage)
  obtain ⟨made, _, found, _⟩ := notOutdated isFirst
  obtain ⟨place, located, kept⟩ := Files.find_eq_ok_iff.1 found
  have unkept : start.node? place = none := by
    rw [Option.eq_none_iff_forall_ne_some]
    intro node keptBefore
    exact lacks node
      (Files.find_eq_ok_iff.2 ⟨place, tracked.same.locate_iff.1 located, keptBefore⟩)
  cases made with
  | directory time =>
    obtain ⟨_, keptBefore⟩ := (tracked.same.isDirectoryAt_iff place).1 ⟨time, kept⟩
    rw [unkept] at keptBefore
    cases keptBefore
  | file text changed =>
    refine ⟨place, text, changed, located, unkept, kept, fun unit member => ?_⟩
    obtain ⟨source, time, has, parsed⟩ :=
      ((Files.loadUnits_of_ok tracked.sound loaded).2 unit).1 (List.mem_filter.1 member).1
    obtain ⟨_, node, foundModule, foundSource, age⟩ := notOutdated member
    obtain ⟨isSource, _, inside, read, insideLocated, isDirectory, keptSource, _⟩ := id has
    rw [Files.name_of_parse parsed,
      Files.find_fileIn tracked.sound insideLocated isDirectory isSource
      keptSource] at foundSource
    rw [found] at foundModule
    cases foundModule
    cases foundSource
    exact ⟨source, time, has, parsed, age⟩

/-- After a run that is done, the module of each package is there, made from all units that the
package has, and perhaps from others. -/
theorem Tracked.hasModule (tracked : project.Tracked invocation start) {units : List DeclUnit}
    (isDirectory : project.files.isDirectory invocation.directory = true)
    (succeeds : invocation.options.Succeeds project.files invocation.directory units)
    {package : String} (isPackage : package ∈ packageNames units)
    (lacks : invocation.Lacks start package) (now : Time) :
    (project.run invocation now).HasModule invocation package (unitsOf units package) := by
  obtain ⟨_, same, each⟩ := run_at invocation tracked.sound now
  -- A module that this run writes is made from the units that are there.
  have ofWritten {place : Location} (located : project.files.locate
        (invocation.target package) = .ok place)
      (written : ∃ text others owner, project.files.loadUnits invocation.directory = .ok others ∧
        (project.run invocation now).files.node? place = some (.file text now) ∧
        (project.run invocation now).Made invocation place text now others owner) :
      (project.run invocation now).HasModule invocation package (unitsOf units package) := by
    obtain ⟨text, others, owner, loaded, kept, made⟩ := written
    rw [succeeds.loaded] at loaded
    cases loaded
    exact ⟨place, text, now, units, owner, same.directories.locate_iff.2 located, kept, made,
      List.filter_subset_self _⟩
  obtain ⟨wanted, told⟩ := succeeds.told package isPackage
  cases wanted with
  | true =>
    obtain ⟨text, member⟩ := succeeds.exists_mem_written isPackage told
    obtain ⟨place, located, _⟩ := GenerateOptions.writable_iff.1 (List.mem_takeWhile_imp member)
    have isWritten : (package, text) ∈ project.written invocation := by
      rwa [written, if_pos isDirectory]
    rcases each place with ⟨unwritten, _⟩ | written
    · exact absurd located (unwritten _ isWritten)
    · exact ofWritten located written
  | false =>
    obtain ⟨place, text, changed, located, unkept, kept, old⟩ :=
      exists_module_of_wants tracked succeeds.loaded isPackage told lacks
    rcases each place with ⟨_, node, origin⟩ | written
    · obtain ⟨all, owner, made⟩ := tracked.made package place text changed located unkept kept
      refine ⟨place, text, changed, all, owner, same.directories.locate_iff.2 located,
        node.trans kept, made.mono origin fun source time has _ => same.hasSource_iff.1 has, ?_⟩
      intro unit member
      obtain ⟨source, time, has, parsed, age⟩ := old unit member
      obtain ⟨other, among, isOther⟩ := made.covers source time has age
      rw [parsed] at isOther
      cases isOther
      exact among
    · exact ofWritten located written

/-- Where every module is current, generating everything is done and writes what is there. -/
theorem runGenerate_force {files : Files} (sound : files.Sound) {units : List DeclUnit}
    (isDirectory : files.isDirectory invocation.directory = true)
    (loaded : files.loadUnits invocation.directory = .ok units)
    (packaged : ∀ unit ∈ units, unit.package ≠ "")
    (current : ∀ package ∈ packageNames units, invocation.Current files units package)
    (now : Time) :
    (runGenerate files now ("--force" :: invocation.words)).ending = .done ∧
      ∀ package ∈ packageNames units,
        (runGenerate files now ("--force" :: invocation.words)).files.read
          (invocation.target package) = files.read (invocation.target package) := by
  have understood : GenerateOptions.ofWords? ("--force" :: invocation.words) =
      some invocation.options.forced := by
    rw [GenerateOptions.ofWords?_force, invocation.understood]
    rfl
  obtain ⟨isWritten, isDone⟩ := runGenerate_single understood invocation.single invocation.toFiles
    isDirectory now
  have succeeds : invocation.options.forced.Succeeds files invocation.directory units := by
    refine ⟨⟨loaded, packaged, fun package _ => ⟨true, rfl⟩⟩, fun package isPackage _ => ?_⟩
    obtain ⟨text, read, result⟩ := current package isPackage
    obtain ⟨place, changed, located, kept⟩ := Files.read_eq_ok_iff.1 read
    refine ⟨text, result, GenerateOptions.writable_iff.2 ⟨place, located, ?_⟩⟩
    rintro ⟨time, isDirectory⟩
    rw [kept] at isDirectory
    cases isDirectory
  refine ⟨isDone.2 ⟨units, succeeds⟩, fun package isPackage => ?_⟩
  obtain ⟨_, same, each⟩ := foldl_deliver [] now ⟨files, []⟩ sound
    (fun output (member : output ∈ invocation.options.forced.written files invocation.directory) =>
      List.mem_takeWhile_imp member) rfl
  rw [files_foldl_deliver, ← isWritten] at same each
  obtain ⟨text, read, _⟩ := current package isPackage
  obtain ⟨place, changed, located, kept⟩ := Files.read_eq_ok_iff.1 read
  have laterLocated := same.directories.locate_iff.2 located
  rw [read]
  apply Files.read_eq_ok_iff.2
  rcases each place with ⟨_, node, _⟩ | ⟨output, member, isOutput, node, _⟩
  · exact ⟨place, changed, laterLocated, node.trans kept⟩
  · obtain ⟨others, othersLoaded, isOther, _, result⟩ := GenerateOptions.of_mem_written member
    rw [loaded] at othersLoaded
    cases othersLoaded
    -- What is there is also what comes of the package whose module is written here.
    obtain ⟨otherText, otherRead, otherResult⟩ := current output.1 isOther
    obtain ⟨otherPlace, time, otherLocated, otherKept⟩ := Files.read_eq_ok_iff.1 otherRead
    cases isOutput.symm.trans otherLocated
    cases result.symm.trans otherResult
    cases kept.symm.trans otherKept
    exact ⟨place, now, laterLocated, node⟩

end Project

/-- Modules are current after a run. Let a tree of files come about by saving declaration files,
each with a time later than that of every file, by deleting files, and by running the command in a
directory; and let the command be run there once more and exit with zero. Then the units of the
directory can be read, and the module of a package is what comes of the package when everything is
generated, if nothing was kept in its place at the start and the package still has all units that
the module was last made from. If that is so of all packages, the command that generates everything
would exit with zero and leave all modules as they are. -/
theorem current_of_history {invocation : Invocation} {start : Files} {project : Project}
    (history : History invocation start project) (now : Time)
    (done : (runGenerate project.files now invocation.words).ending.exitCode = 0) :
    ∃ units, (project.run invocation now).files.loadUnits invocation.directory = .ok units ∧
      (∀ package ∈ packageNames units, invocation.Lacks start package →
        (project.run invocation now).KeepsUnits invocation units package →
        invocation.Current (project.run invocation now).files units package) ∧
      ((∀ package ∈ packageNames units, invocation.Lacks start package ∧
          (project.run invocation now).KeepsUnits invocation units package) →
        ∀ later, (runGenerate (project.run invocation now).files later
            ("--force" :: invocation.words)).ending.exitCode = 0 ∧
          ∀ package ∈ packageNames units,
            (runGenerate (project.run invocation now).files later
                ("--force" :: invocation.words)).files.read (invocation.target package) =
              (project.run invocation now).files.read (invocation.target package)) := by
  have tracked := Project.tracked_of_history history
  obtain ⟨laterSound, same, _⟩ := Project.run_at invocation tracked.sound now
  rw [Ending.exitCode_eq_zero] at done
  have isDirectory : project.files.isDirectory invocation.directory = true := by
    by_contra noDirectory
    rw [runGenerate_misused invocation.understood invocation.single
      (Bool.eq_false_iff.2 noDirectory) now] at done
    cases done
  obtain ⟨units, succeeds⟩ := (runGenerate_single invocation.understood invocation.single
    invocation.toFiles isDirectory now).2.1 done
  obtain ⟨distinct, _⟩ := Files.loadUnits_of_ok tracked.sound succeeds.loaded
  have loaded := same.loadUnits tracked.sound laterSound succeeds.loaded
  have current : ∀ package ∈ packageNames units, invocation.Lacks start package →
      (project.run invocation now).KeepsUnits invocation units package →
      invocation.Current (project.run invocation now).files units package := by
    intro package isPackage lacks keeps
    obtain ⟨place, text, changed, all, owner, located, kept, made, covered⟩ :=
      tracked.hasModule isDirectory succeeds isPackage lacks now
    rw [Project.KeepsUnits, Project.originOf, located, Except.toOption, Option.bind_some,
      made.origin, Option.getD_some] at keeps
    refine ⟨text, Files.read_eq_ok_iff.2 ⟨place, changed, located, kept⟩, ?_⟩
    rw [processPackage_forced]
    exact made.result_of_keeps distinct covered keeps
  refine ⟨units, loaded, current, fun all later => ?_⟩
  have everyCurrent : ∀ package ∈ packageNames units,
      invocation.Current (project.run invocation now).files units package :=
    fun package isPackage => current package isPackage (all package isPackage).1
      (all package isPackage).2
  rw [Ending.exitCode_eq_zero]
  apply Project.runGenerate_force laterSound _ loaded succeeds.packaged everyCurrent later
  exact (same.directories.isDirectory_eq _).trans isDirectory

/-! ## A directory with two packages -/

/-- The command is run in the directory `d`. -/
def inDirectory : Invocation where
  words := ["d"]
  options := ⟨{}, false, ["d"]⟩
  directory := "d"
  understood := by decide +kernel
  single := rfl
  unforced := rfl
  toFiles := rfl

/-- A tree of files in which that directory is empty. -/
def emptyDirectory : Files := ⟨[], [(["d"], .directory 0)]⟩

/-- Two declaration files of a package `p` are saved, and one of the package named like the
directory. Then the command is run. -/
def generatedOnce : Project :=
  Project.run ⟨((emptyDirectory.setFile ["d", "a.decl"] "package p type A int" 1).setFile
    ["d", "b.decl"] "package p type B int" 2).setFile ["d", "c.decl"] "type C int" 3, []⟩
    inDirectory 4

/-- One of the files is saved again. -/
def savedAgain : Project :=
  { generatedOnce with
    files := generatedOnce.files.setFile ["d", "a.decl"] "package p type A bool" 5 }

/-- One of the files is deleted instead. -/
def deletedOne : Project :=
  { generatedOnce with files := generatedOnce.files.remove ["d", "b.decl"] }

/-- What the files say after one is saved again. -/
def savedUnits : List DeclUnit :=
  [⟨"a.decl", "p", [.alias "A" (.named [] "bool") "a.decl"]⟩,
    ⟨"b.decl", "p", [.alias "B" (.named [] "int") "b.decl"]⟩,
    ⟨"c.decl", "d", [.alias "C" (.named [] "int") "c.decl"]⟩]

/-- What they say after one is deleted. -/
def remainingUnits : List DeclUnit :=
  [⟨"a.decl", "p", [.alias "A" (.named [] "int") "a.decl"]⟩,
    ⟨"c.decl", "d", [.alias "C" (.named [] "int") "c.decl"]⟩]

/-- The first run has such a history. -/
theorem history_generatedOnce : History inDirectory emptyDirectory generatedOnce := by
  have sound : emptyDirectory.Sound := by
    refine ⟨by decide, fun entry held inside name isPlace isSource => ?_⟩
    rw [List.mem_singleton.1 held] at isPlace
    have place : [] ++ ["d"] = inside ++ [name] := isPlace
    obtain ⟨_, sameName⟩ := List.append_inj' place rfl
    rw [← List.singleton_inj.1 sameName] at isSource
    exact absurd isSource (by decide)
  have first : History inDirectory emptyDirectory ⟨emptyDirectory, []⟩ := .start sound
  have second := first.save ["d"] "a.decl" "package p type A int" 1 (by decide) (by decide)
    (by decide)
    (by decide)
  have third := second.save ["d"] "b.decl" "package p type B int" 2 (by decide) (by decide)
    (by decide)
    (by decide)
  have fourth := third.save ["d"] "c.decl" "type C int" 3 (by decide) (by decide) (by decide)
    (by decide)
  exact fourth.run 4

/-- There are no modules at the start. -/
theorem lacks_emptyDirectory : ∀ package ∈ ["d", "p"],
    inDirectory.Lacks emptyDirectory package := by
  have missing : ∀ package ∈ ["d", "p"],
      emptyDirectory.find (inDirectory.target package) = .error .missing := by
    decide +kernel
  intro package member node found
  cases (missing package member).symm.trans found

/-- The directory is an instance after one file is saved again: the module of its package is written
anew, that of the other package is left alone, and both are current. -/
theorem current_of_history_savedAgain :
    History inDirectory emptyDirectory savedAgain ∧
      (runGenerate savedAgain.files 6 inDirectory.words).ending.exitCode = 0 ∧
      (∀ package ∈ ["d", "p"],
        inDirectory.Current (savedAgain.run inDirectory 6).files savedUnits package) ∧
      ∀ later, (runGenerate (savedAgain.run inDirectory 6).files later
        ("--force" :: inDirectory.words)).ending.exitCode = 0 := by
  have checked : ¬generatedOnce.files.IsDirectoryAt (["d"] ++ ["a.decl"]) ∧
      (∀ entry ∈ generatedOnce.files.nodes, entry.2.isFile = true → entry.2.changed < 5) ∧
      (runGenerate savedAgain.files 6 inDirectory.words).ending.exitCode = 0 ∧
      (savedAgain.run inDirectory 6).files.loadUnits "d" = .ok savedUnits ∧
      ∀ package ∈ ["d", "p"],
        (savedAgain.run inDirectory 6).KeepsUnits inDirectory savedUnits package := by
    decide +kernel
  obtain ⟨free, older, done, isLoaded, keeps⟩ := checked
  have history : History inDirectory emptyDirectory savedAgain :=
    history_generatedOnce.save ["d"] "a.decl" "package p type A bool" 5 (by decide) (by decide) free
      older
  have packages : packageNames savedUnits = ["d", "p"] := by decide +kernel
  obtain ⟨units, loaded, current, forced⟩ := current_of_history history 6 done
  cases isLoaded.symm.trans loaded
  rw [packages] at current forced
  refine ⟨history, done, fun package member => ?_, fun later => ?_⟩
  · exact current package member (lacks_emptyDirectory package member) (keeps package member)
  · refine (forced (fun package member => ?_) later).1
    exact ⟨lacks_emptyDirectory package member, keeps package member⟩

/-- After one file is deleted instead, the module of its package is left alone, although something
else comes of the package now. So it is not so that all modules are current after every run. -/
theorem not_current_of_history :
    ¬∀ (invocation : Invocation) (start : Files) (project : Project) (now : Time),
      History invocation start project →
      (runGenerate project.files now invocation.words).ending.exitCode = 0 →
      ∀ units, (project.run invocation now).files.loadUnits invocation.directory = .ok units →
      ∀ package ∈ packageNames units, invocation.Lacks start package →
        invocation.Current (project.run invocation now).files units package := by
  intro always
  have checked : ¬generatedOnce.files.IsDirectoryAt ["d", "b.decl"] ∧
      (runGenerate deletedOne.files 5 inDirectory.words).ending.exitCode = 0 ∧
      (deletedOne.run inDirectory 5).files.loadUnits "d" = .ok remainingUnits ∧
      (deletedOne.run inDirectory 5).files.read (inDirectory.target "p") ≠
        (processPackage "p" inDirectory.options.settings.forced
          (unitsOf remainingUnits "p")).result.mapError fun _ => .missing := by
    decide +kernel
  obtain ⟨free, done, loaded, differs⟩ := checked
  have isPackage : "p" ∈ packageNames remainingUnits := by decide +kernel
  have history := history_generatedOnce.delete ["d", "b.decl"] free
  obtain ⟨text, read, result⟩ := always inDirectory emptyDirectory deletedOne 5 history done
    remainingUnits loaded "p" isPackage (lacks_emptyDirectory "p" (by decide))
  rw [read, result] at differs
  exact differs rfl

end DeclCodec
