import DeclCodec.Proofs.Decl.Reached

/-!
# What a token does to a draft

Wherever the reader stands, a token changes the draft of a unit in one way at most: the
word of a package clause names the package, the last token of a declaration adds it, and
a quoted tag that is no JSON string is kept in mind. So what every token keeps up about
a draft is seen from these few effects, without a look at the places.
-/

namespace DeclCodec

/-- What is wrong with a token that is taken: a quoted tag may be no JSON string. -/
def Token.tagFault? : Token → Option Json.Fault
  | .quotedTag inside =>
    match Json.unescape (Text.points inside) with
    | .ok _ => none
    | .error fault => some fault
  | _ => none

namespace Draft

/-- What a token makes of a draft. Only a quoted tag may be wrong. -/
inductive Effect (draft : Draft) : Token → Draft → Prop
  | nothing {token : Token} (fine : token.tagFault? = none) : Effect draft token draft
  | clause (name : String) : Effect draft (.word name) { draft with package := some name }
  | decl {token : Token} (fine : token.tagFault? = none) (decl : Decl) :
      Effect draft token (draft.add decl)
  | quotedTag (inside : List Char) :
      Effect draft (.quotedTag inside) (draft.quotedTag inside).1

variable {draft : Draft} {token : Token} {following : Draft × Place}

/-- The beginning of a type leaves the draft as it is. -/
theorem draft_stepType {purpose : Purpose} {frames : List Frame}
    (stepped : draft.stepType purpose frames token = some following) :
    token.tagFault? = none ∧ following.1 = draft := by
  revert stepped
  fun_cases stepType draft purpose frames token <;> rintro ⟨⟩ <;> exact ⟨rfl, rfl⟩

/-- So does what follows a declaration. -/
theorem draft_stepAfterDecl {scope : Scope}
    (stepped : draft.stepAfterDecl scope token = some following) :
    token.tagFault? = none ∧ following.1 = draft := by
  revert stepped
  fun_cases stepAfterDecl draft scope token <;> rintro ⟨⟩ <;> exact ⟨rfl, rfl⟩

/-- A field line begins without an effect, and a closing brace adds the struct. -/
theorem effect_stepField {scope : Scope} {name : String} {before : List Field}
    (stepped : draft.stepField scope name before token = some following) :
    Effect draft token following.1 := by
  revert stepped
  fun_cases stepField draft scope name before token
  case case1 =>
    rintro ⟨⟩
    exact .nothing rfl
  case case2 =>
    rintro ⟨⟩
    exact .decl rfl _
  case case3 => rintro ⟨⟩

/-- Behind a whole type an alias is added, or there may be a tag of the field line. -/
theorem effect_stepAfterType {type : TypeExpr} {purpose : Purpose}
    (stepped : draft.stepAfterType type purpose token = some following) :
    Effect draft token following.1 := by
  revert stepped
  fun_cases stepAfterType draft type purpose token
  case case1 => rintro ⟨⟩
  case case2 =>
    intro stepped
    obtain ⟨fine, same⟩ := draft_stepAfterDecl stepped
    exact same ▸ .decl fine _
  case case3 =>
    rintro ⟨⟩
    exact .nothing rfl
  case case4 inside quoted tag isQuoted =>
    rintro ⟨⟩
    have effect : Effect draft (.quotedTag inside) (draft.quotedTag inside).1 := .quotedTag inside
    rwa [isQuoted] at effect
  case case5 => exact effect_stepField

/-- Behind a name in a type the type goes on without an effect, or it is whole. -/
theorem effect_stepTypeName {purpose : Purpose} {frames : List Frame} {path : List String}
    {name : String} (stepped : draft.stepTypeName purpose frames path name token = some following) :
    Effect draft token following.1 := by
  revert stepped
  fun_cases stepTypeName draft purpose frames path name token
  case case1 =>
    rintro ⟨⟩
    exact .nothing rfl
  case case2 =>
    rintro ⟨⟩
    exact .nothing rfl
  case case3 => rintro ⟨⟩
  case case4 => exact effect_stepAfterType

/-- Every token has one of the effects. -/
theorem effect_step {place : Place} (stepped : draft.step place token = some following) :
    Effect draft token following.1 := by
  have unchanged (onward : token.tagFault? = none ∧ following.1 = draft) :
      Effect draft token following.1 := onward.2 ▸ .nothing onward.1
  revert stepped
  fun_cases step draft place token
  case case3 name =>
    rintro ⟨⟩
    exact .clause name
  case case7 => exact fun stepped => unchanged (draft_stepAfterDecl stepped)
  case case10 => exact fun stepped => unchanged (draft_stepType stepped)
  case case12 => exact effect_stepField
  case case14 => exact fun stepped => unchanged (draft_stepType stepped)
  case case16 => exact fun stepped => unchanged (draft_stepType stepped)
  case case21 => exact effect_stepTypeName
  case case23 => exact fun stepped => unchanged (draft_stepAfterDecl stepped)
  case case24 => rintro ⟨⟩
  -- Everywhere else only the place goes on.
  all_goals
    rintro ⟨⟩
    exact .nothing rfl

end Draft

end DeclCodec
