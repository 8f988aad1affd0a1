import DeclCodec.Text.CodePoint

/-!
# Text up to a closing quote

A quoted text goes up to the first double quote that no backslash escapes. A
backslash takes the next character with it, which may be any but a line feed;
whether a line feed may stand for itself depends on the use.
-/

namespace DeclCodec.Text

/-- What stands before the closing quote and what stands after it, if there is one. -/
def enclosed? (acrossLines : Bool) : Points → Option (Points × Points)
  | [] => none
  | .char '\\' :: [] => none
  | .char '\\' :: point :: rest =>
    if point = .char '\n' then none
    else (enclosed? acrossLines rest).map fun tail => (.char '\\' :: point :: tail.1, tail.2)
  | point :: rest =>
    if point = .char '"' then some ([], rest)
    else if point = .char '\n' ∧ acrossLines = false then none
    else (enclosed? acrossLines rest).map fun tail => (point :: tail.1, tail.2)

/-- The two parts are the text without the closing quote between them. -/
theorem eq_of_enclosed? {acrossLines : Bool} {text : Points} {parts : Points × Points}
    (closed : enclosed? acrossLines text = some parts) :
    text = parts.1 ++ .char '"' :: parts.2 := by
  fun_induction enclosed? acrossLines text generalizing parts with
  | case1 => cases closed
  | case2 => cases closed
  | case3 => cases closed
  | case4 point rest _ inductionHypothesis =>
    obtain ⟨later, found, rfl⟩ := Option.map_eq_some_iff.1 closed
    exact congrArg (.char '\\' :: point :: ·) (inductionHypothesis found)
  | case5 => cases closed; rfl
  | case6 => cases closed
  | case7 point rest _ _ _ _ inductionHypothesis =>
    obtain ⟨later, found, rfl⟩ := Option.map_eq_some_iff.1 closed
    exact congrArg (point :: ·) (inductionHypothesis found)

/-- Closing takes at least the quote. -/
theorem length_enclosed? {acrossLines : Bool} {text : Points} {parts : Points × Points}
    (closed : enclosed? acrossLines text = some parts) : parts.2.length < text.length := by
  rw [eq_of_enclosed? closed, List.length_append, List.length_cons]
  omega

end DeclCodec.Text
