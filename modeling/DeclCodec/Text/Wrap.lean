import DeclCodec.Text.Cluster
import DeclCodec.Text.Split
import DeclCodec.Text.Styled

/-!
# Lines of a width

A styled text is laid out in lines that take no more than so many cells. It is
broken at its line feeds, then between words where the next word does not fit. A word
that fits on no line is either folded into several or cut off with an ellipsis.
Tabulators go on to the next eighth cell.

The main statements are that the words with their white space are the text
(`flatten_spacedWords`) and that a text that fits is filled up exactly
(`cells_resized`).
-/

namespace DeclCodec.Text

/-- So many blanks. -/
def blanks (count : Nat) : List Char := List.replicate count ' '

/-- Where the text of a line stands. -/
inductive Justification
  /-- At the left. -/
  | ragged
  /-- At the left, with blanks up to the width behind it. -/
  | left
  /-- In the middle; what cannot be halved goes to the right. -/
  | center
deriving DecidableEq, Repr

/-- What happens to a word that fits on no line. -/
inductive Overflow
  | fold
  | ellipsis
deriving DecidableEq, Repr

/-! ## Cutting to a width -/

/-- The clusters that fit into so many cells. Half a wide one is replaced by a blank. -/
def cropClusters : Nat → List Cluster → List Char
  | 0, _ => []
  | _ + 1, [] => []
  | room + 1, cluster :: rest =>
    if cluster.cells ≤ room + 1 then
      cluster.text ++ cropClusters (room + 1 - cluster.cells) rest
    else [' ']

/-- A text cut off or filled up with blanks to a width. -/
def resized (width : Nat) (text : List Char) : List Char :=
  if width = 0 then []
  else if cells text ≤ width then text ++ blanks (width - cells text)
  else cropClusters width (clusters text)

/-- Clusters in lines of a width, behind what is on the first line already. -/
def chopped (width : Nat) (line : List Char) (used : Nat) : List Cluster → List (List Char)
  | [] => if used = 0 then [] else [line]
  | cluster :: rest =>
    if used + cluster.cells ≤ width then
      chopped width (line ++ cluster.text) (used + cluster.cells) rest
    else line :: chopped width cluster.text cluster.cells rest

/-! ## Breaking lines -/

/-- A text cut wherever white space ends. -/
def spacedGroups : List Char → List (List Char)
  | [] => []
  | c :: rest =>
    match spacedGroups rest with
    | [] => [[c]]
    | group :: groups =>
      if isBlank c && !(group.head?.any isBlank) then [c] :: group :: groups
      else (c :: group) :: groups

/-- The words of a text with the white space behind them. White space at the beginning belongs to
the first word; white space alone is no word. -/
def spacedWords (text : List Char) : List (List Char) :=
  match spacedGroups text with
  | [] => []
  | first :: rest =>
    if first.all isBlank then
      match rest with
      | [] => []
      | word :: rest => (first ++ word) :: rest
    else first :: rest

/-- The places of pieces of a text, the first of which begins at some place; the beginning of the
text is no place. -/
def placesOf (start : Nat) : List (List Char) → List Nat
  | [] => []
  | piece :: rest =>
    (if start = 0 then [] else [start]) ++ placesOf (start + piece.length) rest

/-- The places where words that begin at some place are broken, if so many cells are taken
already. -/
def breaks (width : Nat) (overflow : Overflow) (start used : Nat) : List (List Char) → List Nat
  | [] => []
  | word :: rest =>
    let size := cells (trimEnd word)
    let next := start + word.length
    if used + size ≤ width then breaks width overflow next (used + cells word) rest
    else if width < size then
      match overflow with
      | .fold =>
        let pieces := chopped width [] 0 (clusters word)
        placesOf start pieces ++
          breaks width overflow next ((pieces.getLast?.map cells).getD used) rest
      | .ellipsis => placesOf start [word] ++ breaks width overflow next (cells word) rest
    else if used ≠ 0 ∧ start ≠ 0 then start :: breaks width overflow next (cells word) rest
    else breaks width overflow next used rest

namespace Styled

/-- The lines between line feeds, for a text from some place on. -/
def linesFrom (styled : Styled) (start : Nat) : List Nat → List Styled
  | [] => [styled.slice start styled.text.length]
  | place :: places => styled.slice start place :: styled.linesFrom (place + 1) places

/-- The places of a character. -/
def placesOfChar (c : Char) (styled : Styled) : List Nat :=
  (styled.text.zipIdx.filter (·.1 = c)).map (·.2)

/-- The lines between line feeds. -/
def splitLines (styled : Styled) : List Styled :=
  match styled.placesOfChar '\n' with
  | [] => [styled]
  | places => styled.linesFrom 0 places

/-- So many blanks at the end, in the styles of the last character. -/
def extendBy (styled : Styled) (count : Nat) : Styled :=
  ⟨styled.text ++ blanks count, styled.spans.map fun span =>
    if styled.text.length ≤ span.stop then { span with stop := span.stop + count } else span⟩

/-- Parts that end with tabulators, one after another behind so many cells, with blanks for the
tabulators. -/
def withoutTabs (position : Nat) : List Styled → Styled
  | [] => .plain []
  | part :: rest =>
    if part.text.getLast? = some '\t' then
      let blank := { part with text := part.text.dropLast ++ [' '] }
      let reached := position + cells blank.text
      let missing := if reached % 8 = 0 then 0 else 8 - reached % 8
      (blank.extendBy missing).append (withoutTabs (reached + missing) rest)
    else part.append (withoutTabs (position + cells part.text) rest)

/-- A line with blanks in place of its tabulators. -/
def expandTabs (styled : Styled) : Styled :=
  match styled.placesOfChar '\t' with
  | [] => styled
  | places =>
    let parts := styled.divide (places.map (· + 1))
    withoutTabs 0 (parts.filter (·.text ≠ []))

/-- A line without the white space that goes beyond a number of characters. -/
def trimBeyond (width : Nat) (styled : Styled) : Styled :=
  let excess := styled.text.length - width
  styled.dropEnd (min excess (styled.text.length - (trimEnd styled.text).length))

/-- A line cut off at a width. -/
def truncate (width : Nat) (overflow : Overflow) (styled : Styled) : Styled :=
  if cells styled.text ≤ width then styled
  else
    match overflow with
    | .fold => styled.withText (resized width styled.text)
    | .ellipsis => styled.withText (resized (width - 1) styled.text ++ ['…'])

/-- A line in its place. -/
def justify (width : Nat) (justification : Justification) (overflow : Overflow)
    (styled : Styled) : Styled :=
  match justification with
  | .ragged => styled
  | .left =>
    let line := styled.truncate width overflow
    line.withText (line.text ++ blanks (width - cells styled.text))
  | .center =>
    let line := (styled.withText (trimEnd styled.text)).truncate width overflow
    let moved := line.shift (blanks ((width - cells line.text) / 2))
    moved.withText (moved.text ++ blanks (width - cells moved.text))

/-- The lines of a text in a width. -/
def wrap (width : Nat) (justification : Justification) (overflow : Overflow)
    (styled : Styled) : List Styled :=
  styled.splitLines.flatMap fun line =>
    let line := line.expandTabs
    (line.divide (breaks width overflow 0 0 (spacedWords line.text))).map fun part =>
      ((part.trimBeyond width).justify width justification overflow).truncate width overflow

end Styled

/-! ## Laws -/

/-- Blanks take one cell each. -/
theorem cells_blanks (count : Nat) : cells (blanks count) = count := by
  rw [cells_ascii, blanks, List.length_replicate]
  intro c isBlank
  rw [List.eq_of_mem_replicate isBlank]
  decide

/-- A text without joiners that fits is filled up exactly. -/
theorem cells_resized {width : Nat} {text : List Char} (unjoined : joiner ∉ text)
    (fits : cells text ≤ width) (some : width ≠ 0) : cells (resized width text) = width := by
  have selectorless : emojiSelector ∉ blanks (width - cells text) := by
    intro inside
    exact absurd (List.eq_of_mem_replicate inside) (by decide)
  rw [resized, if_neg some, if_pos fits, cells_append unjoined selectorless, cells_blanks]
  omega

/-- The groups are the text. -/
theorem flatten_spacedGroups (text : List Char) : (spacedGroups text).flatten = text := by
  induction text with
  | nil => rfl
  | cons c rest inductionHypothesis =>
    unfold spacedGroups
    split
    · rename_i nothing
      rw [nothing] at inductionHypothesis
      rw [← inductionHypothesis]
      rfl
    · rename_i group groups here
      rw [here] at inductionHypothesis
      rw [← inductionHypothesis]
      split <;> rfl

/-- The words with their white space are the text, unless it is nothing but white space. -/
theorem flatten_spacedWords {text : List Char} (solid : spacedWords text ≠ []) :
    (spacedWords text).flatten = text := by
  have whole := flatten_spacedGroups text
  revert solid
  unfold spacedWords
  intro solid
  split at solid
  · exact absurd rfl solid
  · rename_i first rest here
    rw [here] at whole
    rw [← whole]
    repeat' split
    all_goals simp_all

/-- The places of pieces are in ascending order and not before the start. -/
theorem placesOf_ascending (start : Nat) (pieces : List (List Char)) :
    (placesOf start pieces).Pairwise (· ≤ ·) ∧ ∀ place ∈ placesOf start pieces, start ≤ place := by
  induction pieces generalizing start with
  | nil => exact ⟨.nil, by simp [placesOf]⟩
  | cons piece rest inductionHypothesis =>
    have later := inductionHypothesis (start + piece.length)
    unfold placesOf
    split
    · exact ⟨later.1, fun place isPlace =>
        Nat.le_trans (Nat.le_add_right _ _) (later.2 place isPlace)⟩
    · refine ⟨List.pairwise_cons.2 ⟨?_, later.1⟩, ?_⟩
      · intro place isPlace
        exact Nat.le_trans (Nat.le_add_right _ _) (later.2 place isPlace)
      · intro place isPlace
        rcases List.mem_cons.1 isPlace with rfl | isPlace
        · exact Nat.le_refl _
        · exact Nat.le_trans (Nat.le_add_right _ _) (later.2 place isPlace)

end DeclCodec.Text
