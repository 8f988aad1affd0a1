import DeclCodec.Text.Blank

/-!
# Splitting at a separator

A text, of characters or of code points, is split at a single one, with parts that
may be empty, or at white space, with words that are not.
-/

namespace DeclCodec.Text

universe u
variable {α : Type u} [DecidableEq α]

/-- The parts of a text between the separators; there is always at least one part. -/
def splitAt (separator : α) : List α → List (List α)
  | [] => [[]]
  | c :: rest =>
    if c = separator then [] :: splitAt separator rest
    else
      match splitAt separator rest with
      | [] => [[c]]
      | part :: parts => (c :: part) :: parts

/-- What stands before the first separator. -/
def beforeFirst (separator : α) (text : List α) : List α := text.takeWhile (· ≠ separator)

/-- What stands after the first separator, if there is one. -/
def afterFirst (separator : α) (text : List α) : List α :=
  (text.dropWhile (· ≠ separator)).drop 1

/-- The words of a text after the beginning of a word, which is given backwards. -/
def wordsAfter (word : List Char) : List Char → List (List Char)
  | [] => if word.isEmpty then [] else [word.reverse]
  | c :: rest =>
    if isBlank c then
      if word.isEmpty then wordsAfter [] rest else word.reverse :: wordsAfter [] rest
    else wordsAfter (c :: word) rest

/-- The words of a text between its white space. -/
def words (text : List Char) : List (List Char) := wordsAfter [] text

/-- A text without the white space at its end. -/
def trimEnd (text : List Char) : List Char := (text.reverse.dropWhile isBlank).reverse

/-- A text without the white space around it. -/
def trim (text : List Char) : List Char := trimEnd (text.dropWhile isBlank)

/-- A split never gives nothing. -/
theorem splitAt_ne_nil (separator : α) (text : List α) : splitAt separator text ≠ [] := by
  cases text with
  | nil => simp [splitAt]
  | cons c rest =>
    unfold splitAt
    split
    · simp
    · split <;> simp

/-- No part holds the separator. -/
theorem separator_not_mem_splitAt {separator : α} {text part : List α}
    (isPart : part ∈ splitAt separator text) : separator ∉ part := by
  induction text generalizing part with
  | nil => simp_all [splitAt]
  | cons c rest inductionHypothesis =>
    unfold splitAt at isPart
    split at isPart
    · rcases List.mem_cons.1 isPart with rfl | later
      · simp
      · exact inductionHypothesis later
    · rename_i other
      split at isPart
      · rename_i none
        exact absurd none (splitAt_ne_nil separator rest)
      · rename_i next parts here
        rcases List.mem_cons.1 isPart with rfl | later
        · intro inside
          rcases List.mem_cons.1 inside with same | inside
          · exact other same.symm
          · exact inductionHypothesis (by rw [here]; exact List.mem_cons_self) inside
        · exact inductionHypothesis (by rw [here]; exact List.mem_cons_of_mem _ later)

/-- Words are not empty and hold no white space. -/
theorem word_of_mem_words {text word : List Char} (isPart : word ∈ words text) :
    word ≠ [] ∧ ∀ c ∈ word, isBlank c = false := by
  have all (before : List Char) (solid : ∀ c ∈ before, isBlank c = false)
      (here : word ∈ wordsAfter before text) : word ≠ [] ∧ ∀ c ∈ word, isBlank c = false := by
    clear isPart
    induction text generalizing before with
    | nil =>
      unfold wordsAfter at here
      split at here
      · cases here
      · rw [List.mem_singleton] at here
        simp_all
    | cons c rest inductionHypothesis =>
      unfold wordsAfter at here
      split at here
      · split at here
        · exact inductionHypothesis [] (by simp) here
        · rcases List.mem_cons.1 here with rfl | later
          · simp_all
          · exact inductionHypothesis [] (by simp) later
      · refine inductionHypothesis (c :: before) ?_ here
        intro d inside
        rcases List.mem_cons.1 inside with rfl | inside
        · simp_all
        · exact solid d inside
  exact all [] (by simp) isPart

end DeclCodec.Text
