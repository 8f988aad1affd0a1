/-!
# Styled text

A styled text is a text with spans, each of which has a style. A span covers the
characters from one place up to another. What the styles look like does not matter
here, but a text is shown in pieces, cut wherever a span begins or ends, and pieces
are measured one by one.

The main statements are that pieces put together are the text and that dividing a
text loses nothing.
-/

namespace DeclCodec.Text

/-- Characters of a text with a style of their own. -/
structure Span where
  start : Nat
  stop : Nat
  /-- The definition of the style. -/
  definition : List Char
deriving DecidableEq, Repr

/-- A text with spans. -/
structure Styled where
  text : List Char
  spans : List Span
deriving DecidableEq, Repr

namespace Styled

/-- A text without styles. -/
def plain (text : List Char) : Styled := ⟨text, []⟩

/-- The characters from one place up to another, with what there is of the spans there. -/
def slice (styled : Styled) (start stop : Nat) : Styled :=
  ⟨(styled.text.take stop).drop start,
    styled.spans.filterMap fun span =>
      if max span.start start < min span.stop stop then
        some ⟨span.start - start, min span.stop stop - start, span.definition⟩
      else none⟩

/-- The slices between places, up to the end. -/
def slicesFrom (styled : Styled) (start : Nat) : List Nat → List Styled
  | [] => [styled.slice start styled.text.length]
  | place :: places => styled.slice start place :: styled.slicesFrom place places

/-- The text divided at ascending places. -/
def divide (styled : Styled) : List Nat → List Styled
  | [] => [styled]
  | places => styled.slicesFrom 0 places

/-- Another text in place of this one. Spans beyond its end are cut off. -/
def withText (styled : Styled) (text : List Char) : Styled :=
  if text.length < styled.text.length then
    ⟨text, (styled.spans.filter (·.start < text.length)).map fun span =>
      { span with stop := min span.stop text.length }⟩
  else { styled with text }

/-- The text without some characters at its end. -/
def dropEnd (styled : Styled) (count : Nat) : Styled :=
  styled.withText (styled.text.take (styled.text.length - count))

/-- The text behind another one. -/
def shift (styled : Styled) (before : List Char) : Styled :=
  ⟨before ++ styled.text, styled.spans.map fun span =>
    { span with start := span.start + before.length, stop := span.stop + before.length }⟩

/-- Two texts one after the other. -/
def append (first second : Styled) : Styled :=
  let moved := second.shift first.text
  ⟨moved.text, first.spans ++ moved.spans⟩

/-- The places where a span begins or ends. -/
def borders (styled : Styled) : List Nat :=
  styled.spans.flatMap fun span => [span.start, span.stop]

/-- The pieces of the rest of a text that begins at some place. -/
def piecesFrom (borders : List Nat) (start : Nat) : List Char → List (List Char)
  | [] => []
  | c :: rest =>
    match piecesFrom borders (start + 1) rest with
    | [] => [[c]]
    | piece :: pieces =>
      if borders.contains (start + 1) then [c] :: piece :: pieces else (c :: piece) :: pieces

/-- The pieces in which the text is shown. -/
def pieces (styled : Styled) : List (List Char) := piecesFrom styled.borders 0 styled.text

/-- The pieces are the text. -/
theorem flatten_pieces (styled : Styled) : styled.pieces.flatten = styled.text := by
  have all (borders : List Nat) (start : Nat) (text : List Char) :
      (piecesFrom borders start text).flatten = text := by
    induction text generalizing start with
    | nil => rfl
    | cons c rest inductionHypothesis =>
      have later := inductionHypothesis (start + 1)
      unfold piecesFrom
      split
      · rename_i nothing
        rw [nothing] at later
        rw [← later]
        rfl
      · rename_i piece pieces here
        rw [here] at later
        rw [← later]
        split <;> rfl
  exact all styled.borders 0 styled.text

/-- A text without styles is one piece. -/
theorem pieces_plain (c : Char) (rest : List Char) : (plain (c :: rest)).pieces = [c :: rest] := by
  have all (start : Nat) (c : Char) (text : List Char) :
      piecesFrom [] start (c :: text) = [c :: text] := by
    induction text generalizing start c with
    | nil => rfl
    | cons d rest inductionHypothesis =>
      rw [piecesFrom, inductionHypothesis (start + 1) d]
      rfl
  exact all 0 c rest

/-- Dividing a text at ascending places inside it loses nothing. -/
theorem flatten_divide (styled : Styled) {places : List Nat} (ascending : places.Pairwise (· ≤ ·))
    (inside : ∀ place ∈ places, place ≤ styled.text.length) :
    ((styled.divide places).map text).flatten = styled.text := by
  have all (start : Nat) (places : List Nat) (ascending : places.Pairwise (· ≤ ·))
      (inside : ∀ place ∈ places, start ≤ place ∧ place ≤ styled.text.length) :
      ((styled.slicesFrom start places).map text).flatten = styled.text.drop start := by
    induction places generalizing start with
    | nil => simp [slicesFrom, slice]
    | cons place places inductionHypothesis =>
      rw [List.pairwise_cons] at ascending
      have here := inside place List.mem_cons_self
      have later := inductionHypothesis place ascending.2 fun other isOther =>
        ⟨ascending.1 other isOther, (inside other (List.mem_cons_of_mem _ isOther)).2⟩
      rw [slicesFrom, List.map_cons, List.flatten_cons, later, slice, List.drop_take]
      have whole := List.take_append_drop (place - start) (styled.text.drop start)
      rw [List.drop_drop, Nat.add_sub_cancel' here.1] at whole
      exact whole
  match places with
  | [] => simp [divide]
  | place :: places =>
    exact all 0 (place :: places) ascending fun other isOther =>
      ⟨Nat.zero_le _, inside other isOther⟩

end Styled

end DeclCodec.Text
