import DeclCodec.Files.Units
import Mathlib.Tactic.Common

/-!
# Where paths lead

Each name of a path leads on from a place, whatever is kept there; all that is
asked of the tree is that there are directories on the way. So where a path leads
depends on the directories of a tree and not on its files, and writing or removing
a file changes no place.

A path in a directory leads to the place with its name inside of the directory. A
module's path ends with a name that is no declaration file's.
-/

namespace DeclCodec

/-! ## Parts of a text -/

namespace Text

/-- A separator in front makes an empty part. -/
theorem splitAt_cons_self (separator : Char) (text : List Char) :
    splitAt separator (separator :: text) = [] :: splitAt separator text := by
  rw [splitAt, if_pos rfl]

/-- Any other character goes to the first part. -/
theorem splitAt_cons_of_ne {separator c : Char} (other : c ≠ separator) (text : List Char) :
    ∃ first rest, splitAt separator text = first :: rest ∧
      splitAt separator (c :: text) = (c :: first) :: rest := by
  rw [splitAt, if_neg other]
  cases found : splitAt separator text with
  | nil => exact absurd found (splitAt_ne_nil separator text)
  | cons first rest => exact ⟨first, rest, rfl, rfl⟩

/-- A text without the separator is one part. -/
theorem splitAt_eq_self {separator : Char} {text : List Char} (solid : separator ∉ text) :
    splitAt separator text = [text] := by
  induction text with
  | nil => rfl
  | cons c text inductionHypothesis =>
    rw [List.mem_cons, not_or] at solid
    obtain ⟨first, rest, split, longer⟩ := splitAt_cons_of_ne (Ne.symm solid.1) text
    rw [inductionHypothesis solid.2] at split
    cases split
    exact longer

/-- The parts of texts with a separator between them are those of the texts. -/
theorem splitAt_append_cons (separator : Char) (text rest : List Char) :
    splitAt separator (text ++ separator :: rest) =
      splitAt separator text ++ splitAt separator rest := by
  induction text with
  | nil => exact splitAt_cons_self separator rest
  | cons c text inductionHypothesis =>
    by_cases same : c = separator
    · rw [same, List.cons_append, splitAt_cons_self, splitAt_cons_self, inductionHypothesis]
      rfl
    · obtain ⟨first, parts, split, longer⟩ := splitAt_cons_of_ne same text
      obtain ⟨head, tail, whole, wholeLonger⟩ :=
        splitAt_cons_of_ne same (text ++ separator :: rest)
      rw [inductionHypothesis, split] at whole
      cases whole
      rw [List.cons_append, wholeLonger, longer]
      rfl

/-- What is put behind a text without bringing in a separator goes to the last part. -/
theorem splitAt_append_of_not_mem {separator : Char} {tail : List Char} (solid : separator ∉ tail)
    (text : List Char) : ∃ before last, splitAt separator text = before ++ [last] ∧
      splitAt separator (text ++ tail) = before ++ [last ++ tail] := by
  induction text with
  | nil => exact ⟨[], [], rfl, splitAt_eq_self solid⟩
  | cons c text inductionHypothesis =>
    obtain ⟨before, last, split, splitLonger⟩ := inductionHypothesis
    by_cases same : c = separator
    · refine ⟨[] :: before, last, ?_, ?_⟩
      · rw [same, splitAt_cons_self, split]
        rfl
      · rw [same, List.cons_append, splitAt_cons_self, splitLonger]
        rfl
    · obtain ⟨first, parts, whole, longer⟩ := splitAt_cons_of_ne same text
      obtain ⟨head, others, wholeTail, longerTail⟩ := splitAt_cons_of_ne same (text ++ tail)
      rw [split] at whole
      rw [splitLonger] at wholeTail
      cases before with
      | nil =>
        cases whole
        cases wholeTail
        exact ⟨[], c :: last, longer, longerTail⟩
      | cons part before =>
        cases whole
        cases wholeTail
        exact ⟨(c :: first) :: before, last, longer, longerTail⟩

end Text

/-! ## Written paths -/

namespace Path

/-- The names along a written path, empty ones included. -/
def parts (text : String) : List String := (Text.splitAt '/' text.toList).map String.ofList

/-- A name that holds no slash and leads somewhere. -/
structure IsPlain (name : String) : Prop where
  solid : '/' ∉ name.toList
  isStep : isStep name = true

/-- A path of plain names. -/
structure Plain (path : Path) : Prop where
  root : path.root = "" ∨ path.root = "/" ∨ path.root = "//"
  names : ∀ name ∈ path.names, IsPlain name

/-- A slash in front makes an empty name. -/
theorem parts_slash (text : String) : parts ("/" ++ text) = "" :: parts text := by
  rw [parts, String.toList_append]
  exact congrArg (·.map String.ofList) (Text.splitAt_cons_self '/' text.toList)

/-- A path that is read is one of plain names. -/
theorem plain_ofText (text : String) : (ofText text).Plain := by
  refine ⟨?_, fun name member => ⟨?_, isStep_of_mem_ofText member⟩⟩
  · unfold ofText rootOf
    split <;> simp
  · obtain ⟨part, isPart, rfl⟩ := List.mem_map.1 (List.mem_filter.1 member).1
    rw [String.toList_ofList]
    exact Text.separator_not_mem_splitAt isPart

/-- So is a path of plain names with another behind it. -/
theorem Plain.join {path next : Path} (plain : path.Plain) (nextPlain : next.Plain) :
    (path.join next).Plain := by
  unfold Path.join
  split
  · refine ⟨plain.root, fun name member => ?_⟩
    rcases List.mem_append.1 member with before | behind
    · exact plain.names name before
    · exact nextPlain.names name behind
  · exact nextPlain

/-- A plain name is not empty. -/
theorem IsPlain.ne_empty {name : String} (plain : IsPlain name) : name ≠ "" := by
  rintro rfl
  cases plain.isStep

/-- A plain name begins with some character that is no slash. -/
theorem IsPlain.exists_cons {name : String} (plain : IsPlain name) :
    ∃ c rest, name.toList = c :: rest ∧ c ≠ '/' := by
  cases characters : name.toList with
  | nil => exact absurd (String.toList_inj.1 characters) plain.ne_empty
  | cons c rest =>
    refine ⟨c, rest, rfl, ?_⟩
    rintro rfl
    exact plain.solid (by rw [characters]; exact List.mem_cons_self)

/-- Plain names that are written with slashes between them are the parts of the text. -/
theorem parts_intercalate {name : String} {names : List String}
    (plain : ∀ other ∈ name :: names, IsPlain other) :
    parts ("/".intercalate (name :: names)) = name :: names := by
  have solid := (plain name List.mem_cons_self).solid
  induction names generalizing name with
  | nil =>
    rw [String.intercalate_singleton, parts, Text.splitAt_eq_self solid, List.map_singleton,
      String.ofList_toList]
  | cons next names inductionHypothesis =>
    have others := inductionHypothesis
      (fun other member => plain other (List.mem_cons_of_mem _ member))
      (plain next (List.mem_cons_of_mem _ List.mem_cons_self)).solid
    have text : ("/".intercalate (name :: next :: names)).toList =
        name.toList ++ '/' :: ("/".intercalate (next :: names)).toList := by
      rw [String.intercalate_cons_cons, String.toList_append, String.toList_append]
      simp
    rw [parts, text, Text.splitAt_append_cons, Text.splitAt_eq_self solid, List.map_append,
      List.map_singleton, String.ofList_toList]
    exact congrArg (name :: ·) others

/-- A row of plain names begins with no slash. -/
theorem rootOf_intercalate {name : String} {names : List String} (plain : IsPlain name) :
    rootOf ("/".intercalate (name :: names)).toList = "" := by
  obtain ⟨c, rest, characters, noSlash⟩ := plain.exists_cons
  have begins : ∃ others, ("/".intercalate (name :: names)).toList = c :: others := by
    cases names with
    | nil => exact ⟨rest, by rw [String.intercalate_singleton, characters]⟩
    | cons next names =>
      rw [String.intercalate_cons_cons, String.toList_append, String.toList_append, characters]
      exact ⟨_, rfl⟩
  obtain ⟨others, begins⟩ := begins
  rw [begins, rootOf.eq_def]
  split <;> simp_all

end Path

/-! ## Following paths -/

/-- The place that a name leads to. -/
def Location.next (place : Location) (name : String) : Location :=
  if !Path.isStep name then place else if name = ".." then place.dropLast else place ++ [name]

/-- The place that names lead to, one after another. -/
def Location.follow (place : Location) (names : List String) : Location := names.foldl next place

/-- Any name that leads down leads to its place inside. -/
theorem Location.next_eq (place : Location) {name : String} (isStep : Path.isStep name = true)
    (notUp : name ≠ "..") : next place name = place ++ [name] := by
  rw [next, isStep, if_neg (by decide), if_neg notUp]

namespace Files

/-- Is a directory kept at a place? -/
def IsDirectoryAt (files : Files) (place : Location) : Prop :=
  ∃ time, files.node? place = some (.directory time)

instance (files : Files) (place : Location) : Decidable (files.IsDirectoryAt place) :=
  match kept : files.node? place with
  | some (.directory time) => isTrue ⟨time, kept⟩
  | some (.file _ _) => isFalse fun ⟨_, other⟩ => by cases kept.symm.trans other
  | none => isFalse fun ⟨_, other⟩ => by cases kept.symm.trans other

/-- Are there directories at all places that names are followed from? -/
def Passable (files : Files) (place : Location) : List String → Prop
  | [] => True
  | name :: rest => files.IsDirectoryAt place ∧ files.Passable (place.next name) rest

variable {files : Files}

/-- The root is a directory. -/
theorem isDirectoryAt_root : files.IsDirectoryAt [] := ⟨0, if_pos rfl⟩

/-- Names can be followed in two parts. -/
theorem passable_append {place : Location} {names others : List String} :
    files.Passable place (names ++ others) ↔
      files.Passable place names ∧ files.Passable (place.follow names) others := by
  induction names generalizing place with
  | nil => simp [Passable, Location.follow]
  | cons name names inductionHypothesis =>
    rw [List.cons_append, Passable, Passable, inductionHypothesis, and_assoc]
    rfl

/-- At the root an empty name leads nowhere. -/
theorem passable_root_cons {names : List String} :
    files.Passable [] ("" :: names) ↔ files.Passable [] names :=
  and_iff_right isDirectoryAt_root

/-- Following names is possible exactly if there are directories on the way. -/
theorem walk_eq_ok_iff {place found : Location} {names : List String} :
    files.walk place names = .ok found ↔
      files.Passable place names ∧ found = place.follow names := by
  induction names generalizing place with
  | nil => simp [walk, Passable, Location.follow, eq_comm]
  | cons name names inductionHypothesis =>
    have onward : files.walk (place.next name) names = .ok found ↔
        files.Passable (place.next name) names ∧ found = place.follow (name :: names) :=
      inductionHypothesis
    rw [walk, Passable, and_assoc, ← onward, Location.next]
    cases kept : files.node? place with
    | none => simp [IsDirectoryAt, kept]
    | some node =>
      cases node with
      | file text time => simp [IsDirectoryAt, kept]
      | directory time =>
        have isDirectory : files.IsDirectoryAt place := ⟨time, kept⟩
        simp only [isDirectory, true_and]
        split
        · rfl
        · split <;> rfl

/-- Where a written path leads: its names are followed from the place where it starts. -/
theorem locate_eq_ok_iff {path : String} {place : Location} :
    files.locate path = .ok place ↔
      path ≠ "" ∧ files.Passable (files.start path) (Path.parts path) ∧
      place = (files.start path).follow (Path.parts path) := by
  rw [locate]
  split
  · next empty => simp [empty]
  · next written =>
    rw [walk_eq_ok_iff]
    exact (and_iff_right written).symm

/-- The place at which a path starts. -/
def origin (files : Files) (path : Path) : Location :=
  if path.root = "" then files.workingDirectory else []

/-- A path with a slash in front starts at the root. -/
theorem start_slash (files : Files) (text : String) : files.start ("/" ++ text) = [] := by
  rw [start, if_neg]
  rw [String.toList_append]
  change ¬Path.rootOf ('/' :: text.toList) = ""
  unfold Path.rootOf
  split <;> simp_all

/-- A path with a slash in front is followed from the root. -/
theorem locate_slash {text : String} {place : Location} :
    files.locate ("/" ++ text) = .ok place ↔
      files.Passable [] (Path.parts text) ∧ place = Location.follow [] (Path.parts text) := by
  have written : "/" ++ text ≠ "" := by
    intro empty
    have characters := congrArg String.toList empty
    rw [String.toList_append] at characters
    cases characters
  rw [locate_eq_ok_iff, start_slash, Path.parts_slash, passable_root_cons]
  exact and_iff_right written

/-- From the root, plain names are followed as they are, and no names lead to the root. -/
theorem follow_root_intercalate (files : Files) {names : List String}
    (plain : ∀ name ∈ names, Path.IsPlain name) :
    (files.Passable [] (Path.parts ("/".intercalate names)) ↔ files.Passable [] names) ∧
      Location.follow [] (Path.parts ("/".intercalate names)) = Location.follow [] names := by
  cases names with
  | nil =>
    have parts : Path.parts ("/".intercalate []) = [""] := by decide
    rw [parts]
    exact ⟨passable_root_cons, rfl⟩
  | cons name names =>
    rw [Path.parts_intercalate plain]
    exact ⟨.rfl, rfl⟩

/-- From the working directory, plain names are followed as they are. -/
theorem locate_intercalate {name : String} {names : List String}
    (plain : ∀ other ∈ name :: names, Path.IsPlain other) {place : Location} :
    files.locate ("/".intercalate (name :: names)) = .ok place ↔
      files.Passable files.workingDirectory (name :: names) ∧
        place = Location.follow files.workingDirectory (name :: names) := by
  have isPlain := plain name List.mem_cons_self
  have written : "/".intercalate (name :: names) ≠ "" := by
    intro empty
    have parts := Path.parts_intercalate plain
    rw [empty] at parts
    exact isPlain.ne_empty (Option.some.inj (congrArg List.head? parts)).symm
  rw [locate_eq_ok_iff, Path.parts_intercalate plain, start,
    if_pos (Path.rootOf_intercalate isPlain)]
  exact and_iff_right written

/-- A path of plain names is followed from the place where it starts. If it has no name, a directory
has to be there. -/
theorem locate_text {path : Path} (plain : path.Plain) {place : Location} :
    files.locate path.text = .ok place ↔
      (path.names = [] → files.IsDirectoryAt (files.origin path)) ∧
        files.Passable (files.origin path) path.names ∧
        place = (files.origin path).follow path.names := by
  obtain ⟨root, names⟩ := path
  have fromRoot (isRoot : root ≠ "") :
    (names = [] → files.IsDirectoryAt (files.origin ⟨root, names⟩)) ∧
      files.Passable (files.origin ⟨root, names⟩) names ∧
        place = (files.origin ⟨root, names⟩).follow names ↔
      files.Passable [] (Path.parts ("/".intercalate names)) ∧
        place = Location.follow [] (Path.parts ("/".intercalate names)) := by
    obtain ⟨passable, same⟩ := follow_root_intercalate files plain.names
    rw [passable, same, origin, if_neg isRoot]
    exact and_iff_right fun _ => isDirectoryAt_root
  rcases plain.root with rfl | rfl | rfl
  · cases names with
    | nil =>
      have parts : Path.parts "." = ["."] := by decide
      have start : files.start "." = files.workingDirectory := if_pos rfl
      have text : Path.text ⟨"", []⟩ = "." := rfl
      rw [text, locate_eq_ok_iff, parts, start]
      simp [origin, Passable, Location.follow, Location.next, Path.isStep]
    | cons name others =>
      have text : Path.text ⟨"", name :: others⟩ = "/".intercalate (name :: others) := by
        simp [Path.text]
      rw [text, locate_intercalate plain.names]
      simp [origin]
  · have text : Path.text ⟨"/", names⟩ = "/" ++ "/".intercalate names := by simp [Path.text]
    rw [text, locate_slash, fromRoot (by decide)]
  · have text : Path.text ⟨"//", names⟩ = "/" ++ ("/" ++ "/".intercalate names) := by
      rw [← String.append_assoc]
      simp [Path.text]
    rw [text, locate_slash, fromRoot (by decide), Path.parts_slash, passable_root_cons]
    rfl

/-! ## Files in a directory -/

/-- A name behind a path leads to the place with the name inside of the directory that the path
leads to. -/
theorem locate_join {path : Path} (plain : path.Plain) {name : String} (isPlain : Path.IsPlain name)
    (notUp : name ≠ "..") {place : Location} :
    files.locate (path.join ⟨"", [name]⟩).text = .ok place ↔
      ∃ inside, files.locate path.text = .ok inside ∧ files.IsDirectoryAt inside ∧
        place = inside ++ [name] := by
  have namePlain : Path.Plain ⟨"", [name]⟩ :=
    ⟨.inl rfl, fun other member => List.mem_singleton.1 member ▸ isPlain⟩
  have wholePlain := plain.join namePlain
  obtain ⟨root, names⟩ := path
  have whole : Path.join ⟨root, names⟩ ⟨"", [name]⟩ = ⟨root, names ++ [name]⟩ := if_pos rfl
  have sameOrigin : files.origin ⟨root, names ++ [name]⟩ = files.origin ⟨root, names⟩ := rfl
  have follow : Location.follow (files.origin ⟨root, names⟩) (names ++ [name]) =
      Location.follow (files.origin ⟨root, names⟩) names ++ [name] := by
    rw [Location.follow, List.foldl_append]
    exact Location.next_eq _ isPlain.isStep notUp
  rw [whole] at wholePlain
  rw [whole, locate_text wholePlain, sameOrigin, follow, passable_append]
  simp only [locate_text plain]
  constructor
  · rintro ⟨_, ⟨passable, inside, _⟩, rfl⟩
    refine ⟨_, ⟨?_, passable, rfl⟩, inside, rfl⟩
    rintro rfl
    exact inside
  · rintro ⟨_, ⟨_, passable, rfl⟩, inside, rfl⟩
    exact ⟨fun none => by simp at none, ⟨passable, inside, trivial⟩, rfl⟩

/-- A name that ends like a module's is that of a file, and of no declaration file. -/
theorem isStep_and_not_isSourceName (stem : String) : Path.isStep (stem ++ ".py") = true ∧
    stem ++ ".py" ≠ ".." ∧ isSourceName (stem ++ ".py") = false := by
  have last : (stem ++ ".py").toList.getLast? = some 'y' := by
    rw [String.toList_append]
    simp
  generalize stem ++ ".py" = name at last
  have other {text : String} (ends : text.toList.getLast? ≠ some 'y') : name ≠ text := by
    rintro rfl
    exact ends last
  refine ⟨?_, other (by decide), ?_⟩
  · simp [Path.isStep, other (by decide : "".toList.getLast? ≠ some 'y'),
      other (by decide : ".".toList.getLast? ≠ some 'y')]
  · have noSuffix : sourceSuffix.toList.isSuffixOf name.toList = false := by
      rw [Bool.eq_false_iff]
      intro isSuffix
      obtain ⟨before, whole⟩ := List.isSuffixOf_iff_suffix.1 isSuffix
      rw [← whole] at last
      simp [sourceSuffix] at last
    rw [isSourceName, noSuffix, Bool.and_false]

/-- The path of a module leads to a place whose name is no declaration file's. -/
theorem exists_of_locate_outputFile {directory package suffix : String} {place : Location}
    (located : files.locate (outputFile directory package suffix).text = .ok place) :
    ∃ inside last, place = inside ++ [last] ∧ isSourceName last = false := by
  obtain ⟨before, stem, _, parts⟩ :=
    Text.splitAt_append_of_not_mem (by decide : '/' ∉ ".py".toList) (package ++ suffix).toList
  obtain ⟨isStep, notUp, noSource⟩ := isStep_and_not_isSourceName (String.ofList stem)
  have names : (Path.ofText (package ++ suffix ++ ".py")).names =
      (before.map String.ofList).filter Path.isStep ++ [String.ofList stem ++ ".py"] := by
    rw [Path.ofText, String.toList_append, parts]
    simp [isStep]
  have plain := (Path.plain_ofText directory).join (Path.plain_ofText (package ++ suffix ++ ".py"))
  have lastName : ∃ earlier, (outputFile directory package suffix).names =
      earlier ++ [String.ofList stem ++ ".py"] := by
    unfold outputFile Path.join
    rw [names]
    split
    · exact ⟨_, (List.append_assoc _ _ _).symm⟩
    · exact ⟨_, names⟩
  obtain ⟨earlier, lastName⟩ := lastName
  obtain ⟨_, _, rfl⟩ := (locate_text plain).1 located
  change ∃ inside last, Location.follow _ (outputFile directory package suffix).names = _ ∧ _
  rw [lastName, Location.follow, List.foldl_append]
  exact ⟨_, _, Location.next_eq _ isStep notUp, noSource⟩

/-- So it is the place of no declaration file. -/
theorem ne_of_locate_outputFile {directory package suffix : String} {place : Location}
    (located : files.locate (outputFile directory package suffix).text = .ok place)
    (inside : Location) {name : String} (isSource : isSourceName name = true) :
    place ≠ inside ++ [name] := by
  obtain ⟨before, last, rfl, noSource⟩ := exists_of_locate_outputFile located
  intro same
  obtain ⟨_, sameName⟩ := List.append_inj' same rfl
  rw [List.singleton_inj.1 sameName, isSource] at noSource
  cases noSource

end Files

end DeclCodec
