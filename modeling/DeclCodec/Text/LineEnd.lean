/-!
# Line ends

Files may end their lines with a carriage return, a line feed, or both in that
order. A text in memory ends them with a line feed.
-/

namespace DeclCodec.Text

/-- The text with every line end written as a line feed. -/
def unifyLineEnds : List Char → List Char
  | [] => []
  | '\r' :: '\n' :: rest => '\n' :: unifyLineEnds rest
  | c :: rest => (if c = '\r' then '\n' else c) :: unifyLineEnds rest

/-- A text with unified line ends holds no carriage return. -/
theorem not_mem_unifyLineEnds (text : List Char) : '\r' ∉ unifyLineEnds text := by
  fun_induction unifyLineEnds text with
  | case1 => simp
  | case2 rest inductionHypothesis => simpa using inductionHypothesis
  | case3 c rest _ inductionHypothesis =>
    intro inside
    rcases List.mem_cons.1 inside with same | later
    · split at same
      · cases same
      · rename_i other
        exact other same.symm
    · exact inductionHypothesis later

/-- A text without carriage returns has its line ends unified already. -/
theorem unifyLineEnds_eq {text : List Char} (unified : '\r' ∉ text) :
    unifyLineEnds text = text := by
  fun_induction unifyLineEnds text with
  | case1 => rfl
  | case2 => simp at unified
  | case3 c rest _ inductionHypothesis =>
    rw [List.mem_cons, not_or] at unified
    rw [if_neg (Ne.symm unified.1), inductionHypothesis unified.2]

end DeclCodec.Text
