import DeclCodec.Text.Position
import Mathlib.Tactic.Common

/-!
# Places in a text

With every character a place moves on, to the next column or to the next line. So a
text has one place at most with a given line and column.
-/

namespace DeclCodec.Text.Position

/-- Does a place come before another, by line and column? -/
def Precedes (place other : Position) : Prop :=
  place.line < other.line ∨ place.line = other.line ∧ place.column < other.column

/-- No place comes before one in the same line and column. -/
theorem Precedes.differs {place other : Position} (precedes : place.Precedes other) :
    ¬(place.line = other.line ∧ place.column = other.column) := by
  unfold Precedes at precedes
  omega

/-- A place comes before those behind it. -/
theorem precedes_foldl (place : Position) {more : List Char} (nonempty : more ≠ []) :
    place.Precedes (more.foldl advance place) := by
  induction more generalizing place with
  | nil => exact absurd rfl nonempty
  | cons c more inductionHypothesis =>
    have first : place.Precedes (place.advance c) := by
      unfold advance Precedes
      split
      · exact .inl (Nat.lt_succ_self _)
      · exact .inr ⟨rfl, Nat.lt_succ_self _⟩
    rw [List.foldl_cons]
    cases more with
    | nil => exact first
    | cons d more =>
      have others := inductionHypothesis (place.advance c) (List.cons_ne_nil d more)
      unfold Precedes at *
      omega

/-- Of two beginnings of a text, one of which begins with the other, both are the same if they end
in the same line and column. -/
theorem eq_of_begins {front before : List Char} (begins : front <+: before)
    (same : (after front).line = (after before).line ∧
      (after front).column = (after before).column) :
    front = before := by
  obtain ⟨more, rfl⟩ := begins
  by_contra differs
  have nonempty : more ≠ [] := by
    rintro rfl
    exact differs (List.append_nil front).symm
  have precedes := (after front).precedes_foldl nonempty
  have behind : more.foldl advance (after front) = after (front ++ more) := List.foldl_append.symm
  rw [behind] at precedes
  exact precedes.differs same

/-- A beginning of a text is settled by the line and the column in which it ends. -/
theorem line_column_iff {front before text : List Char} (begins : front <+: text)
    (otherBegins : before <+: text) :
    (after front).line = (after before).line ∧ (after front).column = (after before).column ↔
      front = before := by
  constructor
  · intro same
    rcases List.prefix_or_prefix_of_prefix begins otherBegins with shorter | longer
    · exact eq_of_begins shorter same
    · exact (eq_of_begins longer ⟨same.1.symm, same.2.symm⟩).symm
  · rintro rfl
    exact ⟨rfl, rfl⟩

end DeclCodec.Text.Position
