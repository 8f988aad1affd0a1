import DeclCodec.Proofs.Command.Writing
import DeclCodec.Proofs.Decl.PackageClauses
import DeclCodec.Proofs.Files.Directories

/-!
# Which packages are generated

In a directory that is there, the module of each package belongs to a place inside of
it: the name of a package is a word or the name of the directory, so it brings no
slash into the path. The units of the package are kept there, too. So it can always
be told whether the module is missing or older than one of the units.

A package is stale in that case, or if the command is told to generate everything.
The stale packages of a directory are those that are generated, in ascending order,
each once and from all of its units.
-/

namespace DeclCodec

namespace Files

/-- A file is out of date for another that is there if it is missing or older. -/
theorem isOutOfDate_eq {files : Files} {output source : String} {place : Location} {changed : Node}
    (located : files.locate output = .ok place) (found : files.find source = .ok changed) :
    files.isOutOfDate output source =
      .ok ((files.node? place).all fun made => made.changed < changed.changed) := by
  rw [isOutOfDate, find, located]
  cases kept : files.node? place with
  | none => simp [bind, Except.bind, kept, throw, throwThe, MonadExceptOf.throw]
  | some made => simp [bind, Except.bind, kept, found, pure, Except.pure]

/-- Of files that are there, it is out of date for all if it is for one. -/
theorem exists_needsUpdate {files : Files} {output : String} {sources : List String}
    {place : Location} (located : files.locate output = .ok place)
    (found : ∀ source ∈ sources, ∃ changed, files.find source = .ok changed) :
    ∃ outdated, files.needsUpdate output sources = .ok outdated ∧
      (outdated = true ↔ ∃ source ∈ sources, ∃ changed, files.find source = .ok changed ∧
        ∀ made ∈ files.node? place, made.changed < changed.changed) := by
  induction sources with
  | nil => exact ⟨false, rfl, by simp⟩
  | cons source sources inductionHypothesis =>
    rw [List.forall_mem_cons] at found
    obtain ⟨⟨changed, isFound⟩, others⟩ := found
    obtain ⟨later, isLater, later_iff⟩ := inductionHypothesis others
    rw [needsUpdate, isOutOfDate_eq located isFound, List.exists_mem_cons_iff, isFound, ← later_iff]
    cases outdated : (files.node? place).all fun made => made.changed < changed.changed with
    | true =>
      refine ⟨true, rfl, iff_of_true rfl (.inl ⟨changed, rfl, ?_⟩)⟩
      simpa [Option.all_eq_true] using outdated
    | false =>
      refine ⟨later, isLater, (or_iff_right ?_).symm⟩
      rintro ⟨_, same, younger⟩
      cases same
      rw [(Option.all_eq_true _ _).2 (by simpa using younger)] at outdated
      cases outdated

/-- The units of a directory that is there, at its place. -/
structure Loaded (files : Files) (directory : String) (inside : Location) (units : List DeclUnit) :
    Prop where
  located : files.locate directory = .ok inside
  isDirectory : files.IsDirectoryAt inside
  loaded : files.loadUnits directory = .ok units

variable {files : Files} {directory : String} {inside : Location} {units : List DeclUnit}

/-- Units that are loaded from a directory that is there have its place. -/
theorem exists_loaded (isDirectory : files.isDirectory directory = true)
    (loaded : files.loadUnits directory = .ok units) :
    ∃ inside, files.Loaded directory inside units := by
  obtain ⟨inside, located, atPlace⟩ := isDirectory_iff.1 isDirectory
  exact ⟨inside, located, atPlace, loaded⟩

/-- No package of a unit brings in a slash. -/
theorem Loaded.solid (read : files.Loaded directory inside units) (sound : files.Sound)
    (solid : files.SolidWorkingDirectory) {package : String}
    (isPackage : package ∈ units.map (·.package)) : '/' ∉ package.toList := by
  obtain ⟨unit, member, rfl⟩ := List.mem_map.1 isPackage
  obtain ⟨source, changed, has, parsed⟩ := ((loadUnits_of_ok sound read.loaded).2 unit).1 member
  rcases UnitText.package_of_parse parsed with isName | isDefault
  · exact isName.not_mem (by decide)
  · rw [isDefault, has.2.1]
    exact solid_directoryName solid read.located

/-- A unit is that of a declaration file, which is kept inside of the directory under its name. -/
theorem Loaded.exists_source (read : files.Loaded directory inside units) (sound : files.Sound)
    {unit : DeclUnit} (member : unit ∈ units) :
    ∃ source text changed, files.HasSource directory source changed ∧
      isSourceName unit.name = true ∧
      files.node? (inside ++ [unit.name]) = some (.file text changed) := by
  obtain ⟨source, changed, has, parsed⟩ := ((loadUnits_of_ok sound read.loaded).2 unit).1 member
  obtain ⟨isSource, _, other, text, located, _, kept, _⟩ := id has
  cases (locate_ofText read.located).symm.trans located
  rw [name_of_parse parsed]
  exact ⟨source, text, changed, has, isSource, kept⟩

/-- There it is found. -/
theorem Loaded.find (read : files.Loaded directory inside units) (sound : files.Sound)
    {unit : DeclUnit} (member : unit ∈ units) :
    ∃ source, files.node? (inside ++ [unit.name]) = some source ∧
      files.find (fileIn directory unit.name).text = .ok source := by
  obtain ⟨_, _, _, _, isSource, kept⟩ := read.exists_source sound member
  exact ⟨_, kept, find_fileIn sound (locate_ofText read.located) read.isDirectory isSource kept⟩

end Files

namespace GenerateOptions

/-- The place of the module of a package inside of a directory. -/
def modulePlace (options : GenerateOptions) (inside : Location) (package : String) : Location :=
  inside ++ [package ++ options.settings.suffix ++ ".py"]

/-- Is a package of a directory to be generated? The command is told to generate everything, or the
module is missing, or one of the package's units was changed after it. -/
def Stale (options : GenerateOptions) (files : Files) (inside : Location) (units : List DeclUnit)
    (package : String) : Prop :=
  options.settings.force = true ∨ files.node? (options.modulePlace inside package) = none ∨
    ∃ made, files.node? (options.modulePlace inside package) = some made ∧
      ∃ unit ∈ unitsOf units package, ∃ source,
        files.node? (inside ++ [unit.name]) = some source ∧ made.changed < source.changed

/-- Two packages have one place for their modules only if they are the same, and so are the
directories. -/
theorem modulePlace_inj {options : GenerateOptions} {inside other : Location}
    {package another : String}
    (same : options.modulePlace inside package = options.modulePlace other another) :
    inside = other ∧ package = another := by
  obtain ⟨sameDirectory, sameName⟩ := List.append_inj' same rfl
  refine ⟨sameDirectory, ?_⟩
  have characters := congrArg String.toList (List.singleton_inj.1 sameName)
  exact String.toList_inj.1 (by simpa using characters)

/-- The name of a module is no declaration file's. -/
theorem not_isSourceName_of_modulePlace {options : GenerateOptions} {inside before : Location}
    {package name : String} (isPlace : options.modulePlace inside package = before ++ [name]) :
    isSourceName name = false := by
  obtain ⟨_, sameName⟩ := List.append_inj' isPlace rfl
  rw [← List.singleton_inj.1 sameName]
  exact (Files.isStep_and_not_isSourceName _).2.2

variable {options : GenerateOptions} {files : Files} {directory : String} {inside : Location}
  {units : List DeclUnit} {package : String}

section Loaded

variable (toFiles : options.toOutput = false) (read : files.Loaded directory inside units)
  (sound : files.Sound) (solid : files.SolidWorkingDirectory)
  (solidSuffix : '/' ∉ options.settings.suffix.toList)

include read sound solid solidSuffix

/-- The path of a module leads to its place. -/
theorem locate_target (isPackage : package ∈ units.map (·.package)) :
    files.locate (options.target directory package) = .ok (options.modulePlace inside package) :=
  Files.locate_outputFile (read.solid sound solid isPackage) solidSuffix read.located
    read.isDirectory

include toFiles

/-- It can be told of each package whether it is to be generated: it is if it is stale. -/
theorem exists_wants (isPackage : package ∈ units.map (·.package)) :
    ∃ wanted, options.wants files directory package (unitsOf units package) = .ok wanted ∧
      (wanted = true ↔ options.Stale files inside units package) := by
  rw [wants, toFiles, Bool.or_false]
  cases isForced : options.settings.force with
  | true => exact ⟨true, rfl, iff_of_true rfl (.inl isForced)⟩
  | false =>
    rw [if_neg Bool.false_ne_true]
    have located := locate_target read sound solid solidSuffix isPackage
    have kept {unit : DeclUnit} (member : unit ∈ unitsOf units package) :=
      read.find sound (List.mem_filter.1 member).1
    obtain ⟨outdated, isOutdated, outdated_iff⟩ := Files.exists_needsUpdate located
      (List.forall_mem_map.2 fun unit member => (kept member).imp fun _ both => both.2)
    refine ⟨outdated, isOutdated, outdated_iff.trans ⟨?_, ?_⟩⟩
    · rintro ⟨_, isSource, source, found, younger⟩
      obtain ⟨unit, member, rfl⟩ := List.mem_map.1 isSource
      obtain ⟨other, isKept, otherFound⟩ := kept member
      cases otherFound.symm.trans found
      cases isMade : files.node? (options.modulePlace inside package) with
      | none => exact .inr (.inl isMade)
      | some made =>
        exact .inr (.inr ⟨made, isMade, unit, member, source, isKept, younger made isMade⟩)
    · rintro (forced | missing | ⟨made, isMade, unit, member, source, isKept, younger⟩)
      · rw [isForced] at forced
        cases forced
      · -- A missing module is out of date only for a unit, and the package has one.
        obtain ⟨unit, member⟩ := List.exists_mem_of_ne_nil _ (unitsOf_ne_nil_iff.2 isPackage)
        obtain ⟨source, _, found⟩ := kept member
        refine ⟨_, List.mem_map.2 ⟨unit, member, rfl⟩, source, found, ?_⟩
        rw [missing]
        simp
      · obtain ⟨other, otherKept, found⟩ := kept member
        cases otherKept.symm.trans isKept
        refine ⟨_, List.mem_map.2 ⟨unit, member, rfl⟩, source, found, fun node isNode => ?_⟩
        cases isMade.symm.trans isNode
        exact younger

/-- So it can be told of the packages of the directory, if all units have one. -/
theorem tells_of_loaded (packaged : ∀ unit ∈ units, unit.package ≠ "") :
    options.Tells files directory units := by
  refine ⟨read.loaded, packaged, fun package present => ?_⟩
  obtain ⟨wanted, told, _⟩ := exists_wants toFiles read sound solid solidSuffix
    (unitsOf_ne_nil_iff.1 (DeclCodec.mem_packageNames.1 present))
  exact ⟨wanted, told⟩

/-- The packages that are to be generated are the stale ones. -/
theorem mem_packageNames_staleUnits (packaged : ∀ unit ∈ units, unit.package ≠ "")
    (package : String) : package ∈ packageNames (options.staleUnits files directory) ↔
      package ∈ units.map (·.package) ∧ options.Stale files inside units package := by
  have tells := tells_of_loaded toFiles read sound solid solidSuffix packaged
  rw [tells.mem_packageNames, DeclCodec.mem_packageNames, unitsOf_ne_nil_iff]
  refine and_congr_right fun isPackage => ?_
  obtain ⟨wanted, told, wanted_iff⟩ := exists_wants toFiles read sound solid solidSuffix isPackage
  rw [told, ← wanted_iff, Except.ok.injEq]

end Loaded

end GenerateOptions

/-- Packages are named in ascending order, each once. -/
theorem ascending_packageNames (units : List DeclUnit) :
    Text.Ascending (fun name : String => name) (packageNames units) ∧ (packageNames units).Nodup :=
  ⟨Text.ascending_sortBy _ _, (Text.sortBy_perm _ _).nodup_iff.2 (List.nodup_dedup _)⟩

end DeclCodec
