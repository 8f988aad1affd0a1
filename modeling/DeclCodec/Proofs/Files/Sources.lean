import DeclCodec.Files.Units
import DeclCodec.Proofs.Files.Edits
import DeclCodec.Proofs.Text.Sorted

/-!
# Reading the declarations of a directory

The declaration files of a directory are the files that are kept right inside of it
under the names of declaration files. Each is read from its own place, so the units
of a directory are what its declaration files say, one for each. A change elsewhere,
such as that of a module, does not change them.
-/

namespace DeclCodec.Files

/-- The texts of the declaration files of a directory. -/
def unitTexts (files : Files) (directory : String) : Except FileFault (List UnitText) := do
  let sources ← files.sourceFiles directory
  sources.mapM fun path => files.unitText path (files.directoryName (.ofText directory))

/-- The declarations of a directory are those in the texts of its declaration files. -/
theorem loadUnits_eq (files : Files) (directory : String) :
    files.loadUnits directory = (files.unitTexts directory).mapError .file >>= fun sources =>
      (UnitText.parseAll sources).mapError .declarations := by
  rw [loadUnits, unitTexts]
  cases files.sourceFiles directory <;> rfl

/-- Declarations are read from texts that are there. -/
theorem loadUnits_eq_ok {files : Files} {directory : String} {units : List DeclUnit} :
    files.loadUnits directory = .ok units ↔
      ∃ sources, files.unitTexts directory = .ok sources ∧
        UnitText.parseAll sources = .ok units := by
  rw [loadUnits_eq]
  cases files.unitTexts directory with
  | error fault => simp [Except.mapError, bind, Except.bind]
  | ok sources =>
    cases parsed : UnitText.parseAll sources <;> simp [Except.mapError, bind, Except.bind, parsed]

/-- They are refused for what is wrong with such texts. -/
theorem parseAll_of_loadUnits_error {files : Files} {directory : String} {fault : Fault}
    (refused : files.loadUnits directory = .error (.declarations fault)) :
    ∃ sources, files.unitTexts directory = .ok sources ∧
      UnitText.parseAll sources = .error fault := by
  rw [loadUnits_eq] at refused
  cases read : files.unitTexts directory with
  | error fileFault =>
    rw [read] at refused
    cases refused
  | ok sources =>
    cases parsed : UnitText.parseAll sources <;>
      simp_all [Except.mapError, bind, Except.bind]

/-! ## Declaration files -/

/-- Is a tree in order? Nothing is kept twice at a place, and no name of a declaration file holds a
slash. -/
structure Sound (files : Files) : Prop where
  distinct : (files.nodes.map (·.1)).Nodup
  solid : ∀ entry ∈ files.nodes, ∀ inside name, entry.1 = inside ++ [name] →
    isSourceName name = true → '/' ∉ name.toList

/-- The name of a declaration file is one that leads down. -/
theorem isStep_of_isSourceName {name : String} (isSource : isSourceName name = true) :
    Path.isStep name = true ∧ name ≠ ".." := by
  have other {text : String} (noSource : isSourceName text = false) : name ≠ text := by
    rintro rfl
    rw [noSource] at isSource
    cases isSource
  refine ⟨?_, other (by decide)⟩
  simp [Path.isStep, other (by decide : isSourceName "" = false),
    other (by decide : isSourceName "." = false)]

variable {files later : Files} {directory : String}

/-- What is kept at a place is among all that is kept, unless the place is the root. -/
theorem mem_nodes_of_node? {place : Location} (notRoot : place ≠ []) {node : Node}
    (kept : files.node? place = some node) : (place, node) ∈ files.nodes := by
  rw [node?, if_neg notRoot] at kept
  exact Table.mem_of_lookup kept

/-- A place is inside of a directory under a name if it is the directory's with the name behind. -/
theorem nameIn?_eq_some_iff {inside place : Location} {name : String} :
    nameIn? inside place = some name ↔ place = inside ++ [name] := by
  rcases List.eq_nil_or_concat place with rfl | ⟨before, last, rfl⟩
  · simp [nameIn?]
  · rw [List.concat_eq_append, nameIn?, List.getLast?_concat, List.dropLast_concat]
    constructor
    · intro found
      dsimp only at found
      split at found
      · next same =>
        cases found
        rw [same]
      · cases found
    · intro same
      obtain ⟨rfl, sameName⟩ := List.append_inj' same rfl
      rw [List.singleton_inj.1 sameName]
      exact if_pos rfl

/-- The names of the declaration files kept inside of a directory, in no order. -/
def namesIn (files : Files) (inside : Location) : List String :=
  ((files.nodes.filterMap fun entry =>
    (nameIn? inside entry.1).map fun name => (name, entry.2)).filter fun entry =>
      isSourceName entry.1 && entry.2.isFile).map (·.1)

/-- A declaration file is kept under each of these names. -/
theorem Sound.mem_namesIn (sound : Sound files) {inside : Location} {name : String} :
    name ∈ files.namesIn inside ↔ isSourceName name = true ∧
      ∃ text changed, files.node? (inside ++ [name]) = some (.file text changed) := by
  have kept (node : Node) : files.node? (inside ++ [name]) = some node ↔
      (inside ++ [name], node) ∈ files.nodes := by
    rw [node?, if_neg (by simp)]
    exact ⟨Table.mem_of_lookup, Table.lookup_of_mem sound.distinct⟩
  simp only [kept]
  constructor
  · intro member
    obtain ⟨entry, isEntry, rfl⟩ := List.mem_map.1 member
    obtain ⟨inList, isSource⟩ := List.mem_filter.1 isEntry
    obtain ⟨⟨key, node⟩, held, isName⟩ := List.mem_filterMap.1 inList
    obtain ⟨name, found, rfl⟩ := Option.map_eq_some_iff.1 isName
    have isKey : key = inside ++ [name] := nameIn?_eq_some_iff.1 found
    subst isKey
    obtain ⟨isSourceName, isFile⟩ := Bool.and_eq_true_iff.1 isSource
    cases node with
    | file text changed => exact ⟨isSourceName, text, changed, held⟩
    | directory changed => cases isFile
  · rintro ⟨isSource, text, changed, held⟩
    refine List.mem_map.2 ⟨(name, .file text changed), List.mem_filter.2 ⟨?_, ?_⟩, rfl⟩
    · refine List.mem_filterMap.2 ⟨_, held, ?_⟩
      rw [nameIn?_eq_some_iff.2 rfl]
      rfl
    · simp [isSource, Node.isFile]

/-- They are all different. -/
theorem Sound.nodup_namesIn (sound : Sound files) (inside : Location) :
    (files.namesIn inside).Nodup := by
  have names : ∀ nodes : List (Location × Node), (nodes.filterMap fun entry =>
      (nameIn? inside entry.1).map fun name => (name, entry.2)).map (·.1) =
        (nodes.map (·.1)).filterMap (nameIn? inside) := by
    intro nodes
    rw [List.map_filterMap, List.filterMap_map]
    refine List.filterMap_congr fun entry _ => ?_
    simp [Function.comp_def]
  refine List.Nodup.sublist (List.filter_sublist.map _) ?_
  rw [names]
  refine sound.distinct.filterMap fun place other name isName otherName => ?_
  rw [nameIn?_eq_some_iff.1 isName, nameIn?_eq_some_iff.1 otherName]

/-- The declaration files of a directory are listed if the directory is there. -/
theorem sourceNames_eq_ok_iff {names : List String} :
    files.sourceNames directory = .ok names ↔
      ∃ inside, files.locate (Path.ofText directory).text = .ok inside ∧
        files.IsDirectoryAt inside ∧ names = Text.sort (files.namesIn inside) := by
  unfold sourceNames list
  cases located : files.locate (Path.ofText directory).text with
  | error fault => simp [bind, Except.bind]
  | ok inside =>
    rcases kept : files.node? inside with _ | ⟨text, changed⟩ | changed <;>
      simp [bind, Except.bind, kept, pure, Except.pure, throw, throwThe, MonadExceptOf.throw,
        IsDirectoryAt, namesIn, eq_comm]

/-- The last name of a file in a directory is its own. -/
theorem name_fileIn (directory name : String) : (fileIn directory name).name = name := by
  have names : (fileIn directory name).names = (Path.ofText directory).names ++ [name] := by
    rw [fileIn, Path.join, if_pos rfl]
  rw [Path.name, names, List.getLast?_concat]
  rfl

/-- Is the text that of a declaration file of a directory, last changed at this time? -/
def HasSource (files : Files) (directory : String) (source : UnitText) (changed : Time) : Prop :=
  isSourceName source.name = true ∧
    source.package = files.directoryName (.ofText directory) ∧
    ∃ inside text, files.locate (Path.ofText directory).text = .ok inside ∧
      files.IsDirectoryAt inside ∧
      files.node? (inside ++ [source.name]) = some (.file text changed) ∧
      source.text = String.ofList (Text.unifyLineEnds text.toList)

/-- A declaration file of a directory is found at the place of its name. -/
theorem find_fileIn (sound : Sound files) {inside : Location}
    (located : files.locate (Path.ofText directory).text = .ok inside)
    (isDirectory : files.IsDirectoryAt inside) {name text : String} {changed : Time}
    (isSource : isSourceName name = true)
    (kept : files.node? (inside ++ [name]) = some (.file text changed)) :
    files.find (fileIn directory name).text = .ok (.file text changed) := by
  have held := mem_nodes_of_node? (by simp) kept
  obtain ⟨isStep, notUp⟩ := isStep_of_isSourceName isSource
  have plain : Path.IsPlain name := ⟨sound.solid _ held inside name rfl isSource, isStep⟩
  refine find_eq_ok_iff.2 ⟨inside ++ [name], ?_, kept⟩
  exact (locate_join (Path.plain_ofText directory) plain notUp).2
    ⟨inside, located, isDirectory, rfl⟩

/-- The text of a file is read with the name of the file. -/
theorem unitText_eq_ok_iff {path : Path} {package : String} {source : UnitText} :
    files.unitText path package = .ok source ↔
      ∃ text, files.read path.text = .ok text ∧
        source = ⟨path.name, package, String.ofList (Text.unifyLineEnds text.toList)⟩ := by
  rw [unitText, bind_eq_ok]
  simp only [pure, Except.pure, Except.ok.injEq, eq_comm]

/-- What is read from a declaration file of a directory. -/
theorem unitText_fileIn_iff (sound : Sound files) {inside : Location}
    (located : files.locate (Path.ofText directory).text = .ok inside)
    (isDirectory : files.IsDirectoryAt inside) {name : String}
    (isName : name ∈ files.namesIn inside)
    (source : UnitText) :
    files.unitText (fileIn directory name) (files.directoryName (.ofText directory)) = .ok source ↔
      source.name = name ∧ ∃ changed, files.HasSource directory source changed := by
  obtain ⟨isSource, text, changed, kept⟩ := sound.mem_namesIn.1 isName
  have read : files.read (fileIn directory name).text = .ok text := by
    obtain ⟨place, isPlace, held⟩ :=
      find_eq_ok_iff.1 (find_fileIn sound located isDirectory isSource kept)
    exact read_eq_ok_iff.2 ⟨place, changed, isPlace, held⟩
  rw [unitText_eq_ok_iff, name_fileIn]
  constructor
  · rintro ⟨other, otherRead, rfl⟩
    rw [read] at otherRead
    cases otherRead
    exact ⟨rfl, changed, isSource, rfl, inside, text, located, isDirectory, kept, rfl⟩
  · rintro ⟨rfl, _, _, isPackage, other, otherText, otherLocated, _, otherKept, isText⟩
    rw [located] at otherLocated
    cases otherLocated
    rw [kept] at otherKept
    cases otherKept
    exact ⟨text, read, by rw [← isPackage, ← isText]⟩

/-- The texts of a directory are those of its declaration files, each read once. -/
theorem unitTexts_of_ok (sound : Sound files) {sources : List UnitText}
    (read : files.unitTexts directory = .ok sources) :
    (sources.map (·.name)).Nodup ∧
      ∀ source, source ∈ sources ↔ ∃ changed, files.HasSource directory source changed := by
  obtain ⟨paths, isPaths, run⟩ := bind_eq_ok.1 read
  obtain ⟨names, isNames, same⟩ := bind_eq_ok.1 isPaths
  cases same
  obtain ⟨inside, located, isDirectory, rfl⟩ := sourceNames_eq_ok_iff.1 isNames
  have each {name : String} (isName : name ∈ Text.sort (files.namesIn inside))
      (source : UnitText) :=
    unitText_fileIn_iff sound located isDirectory (Text.mem_sortBy.1 isName) source
  constructor
  · have names : sources.map (·.name) =
        ((Text.sort (files.namesIn inside)).map (fileIn directory)).map Path.name :=
      map_eq_of_mapM_ok (fun path source succeeded => by
        obtain ⟨text, _, rfl⟩ := unitText_eq_ok_iff.1 succeeded
        rfl) run
    have same : ((Text.sort (files.namesIn inside)).map (fileIn directory)).map Path.name =
        Text.sort (files.namesIn inside) := by
      rw [List.map_map]
      exact (List.map_congr_left fun name _ => name_fileIn directory name).trans (List.map_id _)
    rw [names, same]
    exact (Text.sortBy_perm _ _).nodup_iff.2 (sound.nodup_namesIn inside)
  · intro source
    constructor
    · intro member
      obtain ⟨path, isPath, succeeded⟩ := exists_item_of_mapM_ok run member
      obtain ⟨name, isName, rfl⟩ := List.mem_map.1 isPath
      exact ((each isName source).1 succeeded).2
    · rintro ⟨changed, has⟩
      obtain ⟨isSource, _, other, text, otherLocated, _, kept, _⟩ := id has
      rw [located] at otherLocated
      cases otherLocated
      have isName : source.name ∈ Text.sort (files.namesIn inside) :=
        Text.mem_sortBy.2 (sound.mem_namesIn.2 ⟨isSource, text, changed, kept⟩)
      obtain ⟨result, among, succeeded⟩ :=
        exists_of_mapM_ok run (List.mem_map.2 ⟨source.name, isName, rfl⟩)
      rw [(each isName source).2 ⟨rfl, changed, has⟩] at succeeded
      cases succeeded
      exact among

/-- A unit has the name of the file that it is read from. -/
theorem name_of_parse {source : UnitText} {unit : DeclUnit} (parsed : source.parse = .ok unit) :
    unit.name = source.name := by
  rw [UnitText.parse, DeclUnit.parse] at parsed
  split at parsed
  · cases parsed
  · split at parsed
    · cases parsed
    · cases parsed
      rfl

/-- Where the units of a directory are read, every declaration file of it has its unit. -/
theorem exists_of_hasSource (sound : Sound files) {units : List DeclUnit}
    (loaded : files.loadUnits directory = .ok units) {source : UnitText} {changed : Time}
    (has : files.HasSource directory source changed) : ∃ unit ∈ units, source.parse = .ok unit := by
  obtain ⟨sources, read, parsed⟩ := loadUnits_eq_ok.1 loaded
  exact exists_of_mapM_ok parsed (((unitTexts_of_ok sound read).2 source).2 ⟨changed, has⟩)

/-- The units of a directory are those of its declaration files, each once. -/
theorem loadUnits_of_ok (sound : Sound files) {units : List DeclUnit}
    (loaded : files.loadUnits directory = .ok units) :
    (units.map (·.name)).Nodup ∧
      ∀ unit, unit ∈ units ↔ ∃ source changed, files.HasSource directory source changed ∧
        source.parse = .ok unit := by
  obtain ⟨sources, read, parsed⟩ := loadUnits_eq_ok.1 loaded
  obtain ⟨distinct, isSource⟩ := unitTexts_of_ok sound read
  constructor
  · have names : units.map (·.name) = sources.map (·.name) :=
      map_eq_of_mapM_ok (fun source unit succeeded => name_of_parse succeeded) parsed
    rwa [names]
  · intro unit
    constructor
    · intro member
      obtain ⟨source, among, succeeded⟩ := exists_item_of_mapM_ok parsed member
      obtain ⟨changed, has⟩ := (isSource source).1 among
      exact ⟨source, changed, has, succeeded⟩
    · rintro ⟨source, changed, has, succeeded⟩
      obtain ⟨result, among, same⟩ := exists_of_hasSource sound loaded has
      rw [succeeded] at same
      cases same
      exact among

/-! ## Changes elsewhere -/

/-- Have two trees the same directories and the same declaration files? -/
structure SameSources (files later : Files) : Prop where
  directories : SameDirectories files later
  node?_eq : ∀ inside name, isSourceName name = true →
    later.node? (inside ++ [name]) = files.node? (inside ++ [name])

/-- A tree has its own declaration files. -/
theorem SameSources.refl (files : Files) : SameSources files files :=
  ⟨.refl files, fun _ _ _ => rfl⟩

/-- The declaration files may stay the same again. -/
theorem SameSources.trans {last : Files} (same : SameSources files later)
    (further : SameSources later last) : SameSources files last :=
  ⟨same.directories.trans further.directories, fun inside name isSource =>
    (further.node?_eq inside name isSource).trans (same.node?_eq inside name isSource)⟩

/-- The same declaration files are there. -/
theorem SameSources.hasSource_iff (same : SameSources files later) {source : UnitText}
    {changed : Time} :
    later.HasSource directory source changed ↔ files.HasSource directory source changed := by
  unfold HasSource
  rw [same.directories.directoryName]
  refine and_congr_right fun isSource => and_congr_right fun _ => ?_
  simp only [same.directories.locate_iff, same.directories.isDirectoryAt_iff,
    same.node?_eq _ _ isSource]

/-- The same texts are read. -/
theorem SameSources.unitTexts (same : SameSources files later) (sound : Sound files)
    (laterSound : Sound later) {sources : List UnitText}
    (read : files.unitTexts directory = .ok sources) : later.unitTexts directory = .ok sources := by
  obtain ⟨paths, isPaths, run⟩ := bind_eq_ok.1 read
  obtain ⟨names, isNames, equal⟩ := bind_eq_ok.1 isPaths
  cases equal
  obtain ⟨inside, located, isDirectory, rfl⟩ := sourceNames_eq_ok_iff.1 isNames
  have laterLocated := same.directories.locate_iff.2 located
  have laterIsDirectory := (same.directories.isDirectoryAt_iff inside).2 isDirectory
  have isName_iff (name : String) : name ∈ later.namesIn inside ↔ name ∈ files.namesIn inside := by
    rw [sound.mem_namesIn, laterSound.mem_namesIn]
    exact and_congr_right fun isSource => by rw [same.node?_eq inside name isSource]
  have perm : (later.namesIn inside).Perm (files.namesIn inside) := by
    rw [List.perm_ext_iff_of_nodup (laterSound.nodup_namesIn inside) (sound.nodup_namesIn inside)]
    exact isName_iff
  have sorted : Text.sort (later.namesIn inside) = Text.sort (files.namesIn inside) :=
    Text.sortBy_eq_of_perm_names id perm
      (by rw [List.map_id]; exact laterSound.nodup_namesIn inside)
  have laterNames : later.sourceFiles directory =
      .ok ((Text.sort (files.namesIn inside)).map (fileIn directory)) := by
    rw [sourceFiles, sourceNames_eq_ok_iff.2 ⟨inside, laterLocated, laterIsDirectory, rfl⟩, sorted]
    rfl
  rw [Files.unitTexts, laterNames]
  change List.mapM _ _ = _
  rw [← run]
  refine mapM_congr fun path isPath => ?_
  obtain ⟨name, isName, rfl⟩ := List.mem_map.1 isPath
  have isName := Text.mem_sortBy.1 isName
  have before := unitText_fileIn_iff sound located isDirectory isName
  have after := unitText_fileIn_iff laterSound laterLocated laterIsDirectory
    ((isName_iff name).2 isName)
  obtain ⟨source, _, succeeded⟩ := exists_of_mapM_ok run isPath
  have has := (before source).1 succeeded
  rw [succeeded]
  exact (after source).2 ⟨has.1, has.2.imp fun changed => same.hasSource_iff.2⟩

/-- The same declarations are read. -/
theorem SameSources.loadUnits (same : SameSources files later) (sound : Sound files)
    (laterSound : Sound later) {units : List DeclUnit}
    (loaded : files.loadUnits directory = .ok units) : later.loadUnits directory = .ok units := by
  obtain ⟨sources, read, parsed⟩ := loadUnits_eq_ok.1 loaded
  exact loadUnits_eq_ok.2 ⟨sources, same.unitTexts sound laterSound read, parsed⟩

/-- A tree stays in order when a file is written, if its name holds no slash where it is that of a
declaration file. -/
theorem Sound.setFile (sound : Sound files) {place : Location}
    (solid : ∀ inside name, place = inside ++ [name] → isSourceName name = true →
      '/' ∉ name.toList) (text : String) (changed : Time) :
    Sound (files.setFile place text changed) := by
  refine ⟨Table.nodup_keys_put sound.distinct _ _, ?_⟩
  intro entry held
  have isKey : entry.1 ∈ (Table.put place (.file text changed) files.nodes).map (·.1) :=
    List.mem_map.2 ⟨entry, held, rfl⟩
  have cases : entry.1 ∈ files.nodes.map (·.1) ∨ entry.1 = place := by
    rw [Table.keys_put] at isKey
    split at isKey
    · exact .inl isKey
    · rcases List.mem_append.1 isKey with before | last
      · exact .inl before
      · exact .inr (List.mem_singleton.1 last)
  rcases cases with before | same
  · obtain ⟨other, held, isOther⟩ := List.mem_map.1 before
    intro inside name isPlace
    exact sound.solid other held inside name (isOther.trans isPlace)
  · intro inside name isPlace
    exact solid inside name (same.symm.trans isPlace)

/-- A tree stays in order when a file is removed. -/
theorem Sound.remove (sound : Sound files) (place : Location) : Sound (files.remove place) :=
  ⟨sound.distinct.sublist (List.filter_sublist.map _),
    fun entry held => sound.solid entry (List.mem_filter.1 held).1⟩

/-- A file whose name is no declaration file's leaves the declaration files as they are. -/
theorem sameSources_setFile {place : Location} (free : ¬files.IsDirectoryAt place)
    (noSource : ∀ inside name, place = inside ++ [name] → isSourceName name = false) (text : String)
    (changed : Time) : SameSources files (files.setFile place text changed) := by
  refine ⟨sameDirectories_setFile free text changed, fun inside name isSource => ?_⟩
  rw [node?_setFile free, if_neg]
  intro same
  rw [noSource inside name same.symm] at isSource
  cases isSource

/-- A declaration file that is there after one is saved has the time of the saved one, or it was
there before. -/
theorem hasSource_of_setFile {place : Location} (free : ¬files.IsDirectoryAt place) {text : String}
    {time : Time} {source : UnitText} {changed : Time}
    (has : (files.setFile place text time).HasSource directory source changed) :
    changed = time ∨ files.HasSource directory source changed := by
  have same := sameDirectories_setFile free text time
  obtain ⟨isSource, package, inside, read, located, isDirectory, kept, isText⟩ := has
  rw [node?_setFile free] at kept
  split at kept
  · cases kept
    exact .inl rfl
  · rw [same.directoryName] at package
    exact .inr ⟨isSource, package, inside, read, same.locate_iff.1 located,
      (same.isDirectoryAt_iff inside).1 isDirectory, kept, isText⟩

/-- A declaration file that is there after one is removed was there before. -/
theorem hasSource_of_remove {place : Location} (free : ¬files.IsDirectoryAt place)
    {source : UnitText} {changed : Time}
    (has : (files.remove place).HasSource directory source changed) :
    files.HasSource directory source changed := by
  have same := sameDirectories_remove free
  obtain ⟨isSource, package, inside, read, located, isDirectory, kept, isText⟩ := has
  rw [node?_remove free] at kept
  split at kept
  · cases kept
  · rw [same.directoryName] at package
    exact ⟨isSource, package, inside, read, same.locate_iff.1 located,
      (same.isDirectoryAt_iff inside).1 isDirectory, kept, isText⟩

/-! ## Age -/

/-- A module is not out of date for a declaration file if both are there and it is no older. -/
theorem isOutOfDate_eq_false_iff {output source : String} :
    files.isOutOfDate output source = .ok false ↔ ∃ made changed, files.find output = .ok made ∧
      files.find source = .ok changed ∧ changed.changed ≤ made.changed := by
  rw [isOutOfDate]
  cases files.find output with
  | error fault => cases fault <;> simp
  | ok made =>
    dsimp only
    rw [bind_eq_ok]
    simp [pure, Except.pure]

/-- It is not out of date if it is so for none of them. -/
theorem needsUpdate_eq_false_iff {output : String} {sources : List String} :
    files.needsUpdate output sources = .ok false ↔
      ∀ source ∈ sources, files.isOutOfDate output source = .ok false := by
  induction sources with
  | nil => simp [needsUpdate]
  | cons source sources inductionHypothesis =>
    rw [needsUpdate, bind_eq_ok, List.forall_mem_cons, ← inductionHypothesis]
    constructor
    · rintro ⟨outdated, isFirst, later⟩
      cases outdated with
      | true => cases later
      | false => exact ⟨isFirst, later⟩
    · rintro ⟨isFirst, later⟩
      exact ⟨false, isFirst, later⟩

end DeclCodec.Files
