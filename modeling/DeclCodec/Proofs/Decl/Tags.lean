import DeclCodec.Decl.UnitText
import DeclCodec.Proofs.Decl.Effects

/-!
# Quoted tags that cannot be read

A text is refused at its first place where it is no sequence of declarations. Only
a text without such a place is refused for its tags, and then for the first one,
in the order of the text, whose inside is no JSON string. Nothing else keeps a
unit from being read.
-/

namespace DeclCodec

namespace Draft

/-- The tokens that are taken from a place on, up to the end of the text or to where the reader gets
stuck. -/
def taken (draft : Draft) (place : Place) (text : List Char) : List Token :=
  match _found : Lexeme.next place.expected text with
  | .ending => []
  | .unexpected _ => []
  | .token token _ rest =>
    match draft.step place token with
    | some (draft, place) => token :: draft.taken place rest
    | none => []
termination_by text.length
decreasing_by exact Lexeme.length_next _found

variable {draft : Draft} {token : Token} {following : Draft × Place}

/-- A token that is taken is the first, and the others are taken behind it. -/
theorem taken_token {later : Draft} {place reached : Place} {text start rest : List Char}
    (next : Lexeme.next place.expected text = .token token start rest)
    (stepped : draft.step place token = some (later, reached)) :
    draft.taken place text = token :: later.taken reached rest := by
  rw [taken]
  split
  · next ending => rw [next] at ending; cases ending
  · next stuck => rw [next] at stuck; cases stuck
  · next found =>
    rw [next] at found
    cases found
    rw [stepped]

/-- The fault of a quoted tag is kept if there is none before. -/
theorem brokenTag_quotedTag (draft : Draft) (inside : List Char) :
    (draft.quotedTag inside).1.brokenTag =
      draft.brokenTag.or (Token.quotedTag inside).tagFault? := by
  rw [quotedTag, Token.tagFault?]
  cases Json.unescape (Text.points inside) with
  | ok text => exact Option.or_none.symm
  | error fault => rfl

/-- A token keeps the first fault of a tag. -/
theorem brokenTag_step {place : Place} (stepped : draft.step place token = some following) :
    following.1.brokenTag = draft.brokenTag.or token.tagFault? := by
  obtain ⟨later, reached⟩ := following
  cases effect_step stepped with
  | nothing fine => rw [fine, Option.or_none]
  | clause name => exact Option.or_none.symm
  | decl fine decl => rw [fine, Option.or_none]
  | quotedTag inside => exact brokenTag_quotedTag draft inside

/-- A whole run keeps the first fault of a tag. -/
theorem brokenTag_read {finished : Draft} {place ending : Place} {last text rest : List Char}
    (read : draft.read place last text = .ok (finished, ending, rest)) :
    finished.brokenTag =
      draft.brokenTag.or ((draft.taken place text).findSome? Token.tagFault?) := by
  fun_induction Draft.read draft place last text with
  | case1 draft place last text next =>
    cases read
    rw [taken, next]
    exact Option.or_none.symm
  | case2 => cases read
  | case3 draft place last text token start rest next later following stepped
      inductionHypothesis =>
    rw [inductionHypothesis read, brokenTag_step stepped, taken_token next stepped,
      List.findSome?_cons, Option.or_assoc]
    cases token.tagFault? <;> rfl
  | case4 => cases read

/-- Finishing a draft leaves the tags as they are. -/
theorem brokenTag_finish {finished : Draft} {place : Place}
    (finishes : draft.finish place = some finished) : finished.brokenTag = draft.brokenTag := by
  revert finishes
  fun_cases finish draft place <;> rintro ⟨⟩ <;> rfl

end Draft

namespace UnitText

/-- The tokens of a unit's text, up to its end or to its first place that is wrong. -/
def tokens (source : UnitText) : List Token :=
  (Draft.empty source.name).taken .opening source.text.toList

/-- What is wrong with the first quoted tag of a unit's text that is no JSON string. -/
def tagFault? (source : UnitText) : Option Json.Fault := source.tokens.findSome? Token.tagFault?

/-- Either a unit's text is read, and all its quoted tags are JSON strings; or there is a place
where it is wrong, which is reported with the name of the unit; or it is refused for its first
quoted tag that is no JSON string. -/
theorem parse_cases (source : UnitText) :
    ((∃ unit, source.parse = .ok unit) ∧ source.tagFault? = none) ∨
      (∃ position, source.parse = .error (.invalidDeclaration source.name position)) ∨
      ∃ cause, source.parse = .error (.invalidTagLiteral cause) ∧
        source.tagFault? = some cause := by
  rw [parse, DeclUnit.parse, Draft.ofUnit]
  cases run : (Draft.empty source.name).read .opening source.text.toList source.text.toList with
  | error rest => exact .inr (.inl ⟨_, rfl⟩)
  | ok reached =>
    obtain ⟨draft, place, last⟩ := reached
    dsimp only
    cases finishes : draft.finish place with
    | none => exact .inr (.inl ⟨_, rfl⟩)
    | some finished =>
      have broken : finished.brokenTag = source.tagFault? := by
        rw [Draft.brokenTag_finish finishes, Draft.brokenTag_read run]
        rfl
      dsimp only
      cases isBroken : finished.brokenTag with
      | none => exact .inl ⟨⟨_, rfl⟩, broken ▸ isBroken⟩
      | some cause => exact .inr (.inr ⟨cause, rfl, broken ▸ isBroken⟩)

end UnitText

end DeclCodec
