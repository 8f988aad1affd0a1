/-!
# Ranges of code points

A character property of a standard is kept as a list of inclusive ranges.
-/

namespace DeclCodec.Text

/-- Inclusive ranges of code points. -/
abbrev Ranges := List (Nat × Nat)

/-- Does one of the ranges hold the code point? -/
def Ranges.contains (ranges : Ranges) (code : Nat) : Bool :=
  ranges.any fun range => range.1 ≤ code && code ≤ range.2

/-- Membership names the range. -/
theorem Ranges.contains_iff {ranges : Ranges} {code : Nat} :
    ranges.contains code = true ↔ ∃ range ∈ ranges, range.1 ≤ code ∧ code ≤ range.2 := by
  simp [Ranges.contains, List.any_eq_true]

end DeclCodec.Text
