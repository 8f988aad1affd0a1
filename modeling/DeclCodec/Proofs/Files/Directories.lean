import DeclCodec.Proofs.Files.Sources

/-!
# Directories and the files in them

A written path to a directory and its reduced form lead to the same place, and the
directory is named like the last name of that place. What is written behind the path
as a single name leads to the place with that name inside of the directory. A name
without a slash, with the end of a module's name behind it, is such a name.
-/

namespace DeclCodec

/-! ## Reduced paths -/

/-- Names that lead nowhere can be left out. -/
theorem Location.follow_filter (place : Location) (names : List String) :
    place.follow (names.filter Path.isStep) = place.follow names := by
  induction names generalizing place with
  | nil => rfl
  | cons name names inductionHypothesis =>
    by_cases isStep : Path.isStep name = true
    · rw [List.filter_cons_of_pos isStep]
      exact inductionHypothesis _
    · have stays : place.next name = place := by
        rw [next, Bool.eq_false_iff.2 isStep]
        rfl
      rw [List.filter_cons_of_neg isStep, inductionHypothesis]
      change place.follow names = (place.next name).follow names
      rw [stays]

/-- A place that is reached has the names of the place from which it is reached, and of the way. -/
theorem Location.mem_follow {place : Location} {names : List String} {name : String}
    (among : name ∈ place.follow names) : name ∈ place ∨ name ∈ names := by
  induction names generalizing place with
  | nil => exact .inl among
  | cons first names inductionHypothesis =>
    rcases inductionHypothesis among with before | later
    · rw [next] at before
      split at before
      · exact .inl before
      · split at before
        · exact .inl (List.dropLast_subset _ before)
        · rcases List.mem_append.1 before with earlier | here
          · exact .inl earlier
          · exact .inr (List.mem_cons.2 (.inl (List.mem_singleton.1 here)))
    · exact .inr (List.mem_cons_of_mem _ later)

namespace Files

variable {files : Files} {directory : String}

/-- Where names can be followed, those that lead somewhere can. -/
theorem Passable.filter {place : Location} {names : List String}
    (passable : files.Passable place names) : files.Passable place (names.filter Path.isStep) := by
  induction names generalizing place with
  | nil => exact passable
  | cons name names inductionHypothesis =>
    obtain ⟨isDirectory, later⟩ := passable
    by_cases isStep : Path.isStep name = true
    · rw [List.filter_cons_of_pos isStep]
      exact ⟨isDirectory, inductionHypothesis later⟩
    · have stays : place.next name = place := by
        rw [Location.next, Bool.eq_false_iff.2 isStep]
        rfl
      rw [stays] at later
      rw [List.filter_cons_of_neg isStep]
      exact inductionHypothesis later

/-- The reduced form of a path leads where the path leads. -/
theorem locate_ofText {place : Location} (located : files.locate directory = .ok place) :
    files.locate (Path.ofText directory).text = .ok place := by
  obtain ⟨_, passable, rfl⟩ := locate_eq_ok_iff.1 located
  have start : files.start directory = files.origin (.ofText directory) := rfl
  rw [start] at passable ⊢
  have names : (Path.ofText directory).names = (Path.parts directory).filter Path.isStep := rfl
  refine (locate_text (Path.plain_ofText directory)).2 ⟨fun _ => ?_, ?_, ?_⟩
  · obtain ⟨name, rest, isParts⟩ : ∃ name rest, Path.parts directory = name :: rest :=
      List.exists_cons_of_ne_nil fun nothing =>
        Text.splitAt_ne_nil _ _ (List.map_eq_nil_iff.1 nothing)
    rw [isParts] at passable
    exact passable.1
  · exact names ▸ passable.filter
  · rw [names, Location.follow_filter]

/-- A written path starts where its text does. -/
theorem start_text {path : Path} (plain : path.Plain) :
    files.start path.text = files.origin path := by
  obtain ⟨root, names⟩ := path
  rcases plain.root with rfl | rfl | rfl
  · cases names with
    | nil => rfl
    | cons name names =>
      have text : Path.text ⟨"", name :: names⟩ = "/".intercalate (name :: names) := by
        simp [Path.text]
      rw [text, start, if_pos (Path.rootOf_intercalate (plain.names name List.mem_cons_self))]
      rfl
  · have text : Path.text ⟨"/", names⟩ = "/" ++ "/".intercalate names := by simp [Path.text]
    rw [text, start_slash]
    rfl
  · have text : Path.text ⟨"//", names⟩ = "/" ++ ("/" ++ "/".intercalate names) := by
      rw [← String.append_assoc]
      simp [Path.text]
    rw [text, start_slash]
    rfl

/-- A directory is named like the last name of its place. -/
theorem directoryName_eq {place : Location} (located : files.locate directory = .ok place) :
    files.directoryName (.ofText directory) = place.getLast?.getD "" := by
  have plain := Path.plain_ofText directory
  obtain ⟨_, _, rfl⟩ := (locate_text plain).1 (locate_ofText located)
  have steps : ∀ (names : List String) (start : Location),
      (∀ name ∈ names, Path.IsPlain name) → names.foldl (fun place name =>
        if name = ".." then place.dropLast else place ++ [name]) start = start.follow names := by
    intro names
    induction names with
    | nil => exact fun _ _ => rfl
    | cons name names inductionHypothesis =>
      intro start allPlain
      rw [List.forall_mem_cons] at allPlain
      have first : Location.next start name =
          if name = ".." then start.dropLast else start ++ [name] := by
        rw [Location.next, allPlain.1.isStep]
        rfl
      rw [List.foldl_cons, ← first]
      exact inductionHypothesis _ allPlain.2
  rw [directoryName, locationOf, start_text plain, steps _ _ plain.names]

/-- Are the names of the working directory names of files? -/
def SolidWorkingDirectory (files : Files) : Prop :=
  ∀ name ∈ files.workingDirectory, '/' ∉ name.toList

instance (files : Files) : Decidable files.SolidWorkingDirectory :=
  inferInstanceAs (Decidable (∀ name ∈ files.workingDirectory, '/' ∉ name.toList))

/-- Then the name of a directory holds no slash. -/
theorem solid_directoryName (solid : files.SolidWorkingDirectory) {place : Location}
    (located : files.locate directory = .ok place) :
    '/' ∉ (files.directoryName (.ofText directory)).toList := by
  have plain := Path.plain_ofText directory
  rw [directoryName_eq located]
  obtain ⟨_, _, rfl⟩ := (locate_text plain).1 (locate_ofText located)
  cases last : ((files.origin (.ofText directory)).follow (Path.ofText directory).names).getLast?
    with
  | none => simp
  | some name =>
    rw [Option.getD_some]
    rcases Location.mem_follow (List.mem_of_getLast? last) with before | onTheWay
    · rw [origin] at before
      split at before
      · exact solid name before
      · cases before
    · exact (plain.names name onTheWay).solid

/-! ## Modules -/

/-- The name of the module of a package, if it holds no slash, leads to its place inside of the
directory. -/
theorem locate_outputFile {package suffix : String} (solidPackage : '/' ∉ package.toList)
    (solidSuffix : '/' ∉ suffix.toList) {inside : Location}
    (located : files.locate directory = .ok inside) (isDirectory : files.IsDirectoryAt inside) :
    files.locate (outputFile directory package suffix).text =
      .ok (inside ++ [package ++ suffix ++ ".py"]) := by
  have solid : '/' ∉ (package ++ suffix ++ ".py").toList := by
    simp [solidPackage, solidSuffix]
  obtain ⟨isStep, notUp, _⟩ := isStep_and_not_isSourceName (package ++ suffix)
  have root : Path.rootOf (package ++ suffix ++ ".py").toList = "" := by
    unfold Path.rootOf
    split <;> simp_all
  have single : Path.ofText (package ++ suffix ++ ".py") = ⟨"", [package ++ suffix ++ ".py"]⟩ := by
    rw [Path.ofText, root, Text.splitAt_eq_self solid, List.map_singleton, String.ofList_toList,
      List.filter_cons_of_pos isStep, List.filter_nil]
  rw [outputFile, single]
  exact (locate_join (Path.plain_ofText directory) ⟨solid, isStep⟩ notUp).2
    ⟨inside, locate_ofText located, isDirectory, rfl⟩

end Files

end DeclCodec
