import DeclCodec.Proofs.Files.Places
import DeclCodec.Proofs.Traversal

/-!
# Changes of files

A file is written to a place or removed from it, and everything else stays as it
is. No such change makes or removes a directory, so every path leads where it did.
-/

namespace DeclCodec

/-- Without the entries under a key, nothing is found under it, and what is found under others is as
before. -/
theorem Table.lookup_filter_ne {κ : Type*} {α : Type*} [BEq κ] [LawfulBEq κ] [DecidableEq κ]
    (key other : κ)
    (table : List (κ × α)) : (table.filter (·.1 ≠ key)).lookup other =
      if other = key then none else table.lookup other := by
  induction table with
  | nil => simp
  | cons entry table inductionHypothesis =>
    obtain ⟨held, value⟩ := entry
    by_cases here : held = key
    · rw [List.filter_cons_of_neg (by simpa using here), inductionHypothesis]
      split
      · rfl
      · next different =>
        rw [List.lookup_cons, beq_eq_false_iff_ne.2 fun same => different (same.trans here)]
    · rw [List.filter_cons_of_pos (by simpa using here), List.lookup_cons, List.lookup_cons,
        inductionHypothesis]
      by_cases found : other = held
      · simp [found, here]
      · rw [beq_eq_false_iff_ne.2 found]

namespace Files

/-- The tree with a file at a place. -/
def setFile (files : Files) (place : Location) (text : String) (changed : Time) : Files :=
  { files with nodes := Table.put place (.file text changed) files.nodes }

/-- The tree without what is kept at a place. -/
def remove (files : Files) (place : Location) : Files :=
  { files with nodes := files.nodes.filter (·.1 ≠ place) }

variable {files later : Files}

/-! ## Directories -/

/-- Have two trees the same directories? -/
structure SameDirectories (files later : Files) : Prop where
  workingDirectory : later.workingDirectory = files.workingDirectory
  isDirectoryAt_iff : ∀ place, later.IsDirectoryAt place ↔ files.IsDirectoryAt place

/-- A tree has its own directories. -/
theorem SameDirectories.refl (files : Files) : SameDirectories files files := ⟨rfl, fun _ => .rfl⟩

/-- The directories may stay the same again. -/
theorem SameDirectories.trans {last : Files} (same : SameDirectories files later)
    (further : SameDirectories later last) : SameDirectories files last :=
  ⟨further.workingDirectory.trans same.workingDirectory,
    fun place => (further.isDirectoryAt_iff place).trans (same.isDirectoryAt_iff place)⟩

/-- The same names can be followed. -/
theorem SameDirectories.passable_iff (same : SameDirectories files later) {place : Location}
    {names : List String} : later.Passable place names ↔ files.Passable place names := by
  induction names generalizing place with
  | nil => exact .rfl
  | cons name names inductionHypothesis =>
    rw [Passable, Passable, same.isDirectoryAt_iff, inductionHypothesis]

/-- Every path leads to the same place. -/
theorem SameDirectories.locate_iff (same : SameDirectories files later) {path : String}
    {place : Location} : later.locate path = .ok place ↔ files.locate path = .ok place := by
  have start : later.start path = files.start path := by
    rw [Files.start, Files.start, same.workingDirectory]
  rw [locate_eq_ok_iff, locate_eq_ok_iff, start, same.passable_iff]

/-- A directory has the same name. -/
theorem SameDirectories.directoryName (same : SameDirectories files later) (directory : Path) :
    later.directoryName directory = files.directoryName directory := by
  rw [Files.directoryName, Files.directoryName, locationOf, locationOf, start, start,
    same.workingDirectory]

/-! ## Files -/

/-- No directory is kept where there is none but at the root. -/
theorem ne_nil_of_not_isDirectoryAt {place : Location} (free : ¬files.IsDirectoryAt place) :
    place ≠ [] := by
  rintro rfl
  exact free isDirectoryAt_root

/-- A file that is written is kept at its place, and what is kept at others stays. -/
theorem node?_setFile {place : Location} (free : ¬files.IsDirectoryAt place) (text : String)
    (changed : Time) (other : Location) : (files.setFile place text changed).node? other =
      if other = place then some (.file text changed) else files.node? other := by
  have nonempty := ne_nil_of_not_isDirectoryAt free
  unfold node? setFile
  by_cases same : other = place
  · rw [same, if_neg nonempty, if_pos rfl, Table.lookup_put_self]
  · rw [if_neg same, Table.lookup_put_of_ne same]

/-- What is kept at other places than one that is emptied stays. -/
theorem node?_remove {place : Location} (free : ¬files.IsDirectoryAt place) (other : Location) :
    (files.remove place).node? other = if other = place then none else files.node? other := by
  have nonempty := ne_nil_of_not_isDirectoryAt free
  unfold node? remove
  dsimp only
  rw [Table.lookup_filter_ne]
  by_cases same : other = place
  · rw [same, if_neg nonempty, if_pos rfl, if_pos rfl]
  · rw [if_neg same, if_neg same]

/-- Writing a file makes and removes no directory. -/
theorem sameDirectories_setFile {place : Location} (free : ¬files.IsDirectoryAt place)
    (text : String)
    (changed : Time) : SameDirectories files (files.setFile place text changed) := by
  refine ⟨rfl, fun other => ?_⟩
  unfold IsDirectoryAt
  rw [node?_setFile free]
  split
  · next same =>
    rw [same]
    exact iff_of_false (by simp) free
  · rfl

/-- Nor does emptying a place where there is none. -/
theorem sameDirectories_remove {place : Location} (free : ¬files.IsDirectoryAt place) :
    SameDirectories files (files.remove place) := by
  refine ⟨rfl, fun other => ?_⟩
  unfold IsDirectoryAt
  rw [node?_remove free]
  split
  · next same =>
    rw [same]
    exact iff_of_false (by simp) free
  · rfl

/-- A text is written to the place that its path leads to, unless a directory is kept there. -/
theorem write_eq_ok_iff {path text : String} {now : Time} :
    files.write path text now = .ok later ↔
      ∃ place, files.locate path = .ok place ∧ ¬files.IsDirectoryAt place ∧
        later = files.setFile place text now := by
  rw [write, bind_eq_ok]
  refine exists_congr fun place => and_congr_right fun _ => ?_
  rcases kept : files.node? place with _ | ⟨old, changed⟩ | changed <;>
    simp [IsDirectoryAt, kept, setFile, pure, Except.pure, throw, throwThe, MonadExceptOf.throw,
      eq_comm]

/-- The text that is read from a file is that of the file at the place that the path leads to. -/
theorem read_eq_ok_iff {path text : String} :
    files.read path = .ok text ↔
      ∃ place changed, files.locate path = .ok place ∧
        files.node? place = some (.file text changed) := by
  unfold read find
  cases located : files.locate path with
  | error fault => simp [bind, Except.bind]
  | ok place =>
    rcases kept : files.node? place with _ | ⟨old, changed⟩ | changed <;>
      simp [bind, Except.bind, kept, pure, Except.pure, throw, throwThe, MonadExceptOf.throw]

/-- What is found is what is kept at the place that the path leads to. -/
theorem find_eq_ok_iff {path : String} {node : Node} :
    files.find path = .ok node ↔
      ∃ place, files.locate path = .ok place ∧ files.node? place = some node := by
  unfold find
  cases located : files.locate path with
  | error fault => simp [bind, Except.bind]
  | ok place =>
    cases kept : files.node? place <;>
      simp [bind, Except.bind, kept, pure, Except.pure, throw, throwThe, MonadExceptOf.throw]

/-- A path leads to a directory if one is kept at its place. -/
theorem isDirectory_iff {path : String} :
    files.isDirectory path = true ↔
      ∃ place, files.locate path = .ok place ∧ files.IsDirectoryAt place := by
  unfold isDirectory IsDirectoryAt
  constructor
  · intro found
    split at found
    · next time isFound =>
      obtain ⟨place, located, kept⟩ := find_eq_ok_iff.1 isFound
      exact ⟨place, located, time, kept⟩
    · cases found
  · rintro ⟨place, located, time, kept⟩
    rw [find_eq_ok_iff.2 ⟨place, located, kept⟩]

/-- Where the directories are the same, the same paths lead to directories. -/
theorem SameDirectories.isDirectory_eq (same : SameDirectories files later) (path : String) :
    later.isDirectory path = files.isDirectory path := by
  rw [Bool.eq_iff_iff, isDirectory_iff, isDirectory_iff]
  simp only [same.locate_iff, same.isDirectoryAt_iff]

end Files

end DeclCodec
