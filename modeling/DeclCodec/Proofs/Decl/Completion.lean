import DeclCodec.Proofs.Decl.Passage
import DeclCodec.Proofs.Decl.Units

/-!
# Completing what is read

Wherever the reader stands in a unit, something can be written from there on with which
the unit is whole. A type that has begun is ended with a name, which settles the parts
that wait for it up to a map that waits for its key; the key is closed and a name is
written for the value, so that one map less waits. Behind the type its field line or
declaration is whole, and the struct and the group around it are closed.

The quoted tags in front stay as they are, and none is added.
-/

namespace DeclCodec

/-- What a type is read for at a place, if one is. -/
def Place.purpose? : Place → Option Purpose
  | .typeStart purpose _ => some purpose
  | .mapOpen purpose _ => some purpose
  | .bracket purpose _ => some purpose
  | .arrayClose purpose _ _ => some purpose
  | .typeName purpose _ _ _ => some purpose
  | .selector purpose _ _ => some purpose
  | _ => none

/-- Is the place one in a unit, not in a text that is nothing but a type? -/
def Place.InUnit (place : Place) : Prop := place.purpose? ≠ some .lone

namespace Draft

/-! ## Places in units -/

section Purpose

variable {draft : Draft} {token : Token} {following : Draft × Place}

/-- The beginning of a type is read for what the type is read for. -/
theorem purpose_stepType {purpose : Purpose} {frames : List Frame}
    (stepped : draft.stepType purpose frames token = some following) :
    following.2.purpose? = some purpose := by
  revert stepped
  fun_cases stepType draft purpose frames token <;> rintro ⟨⟩ <;> rfl

/-- Behind a declaration no type is read. -/
theorem purpose_stepAfterDecl {scope : Scope}
    (stepped : draft.stepAfterDecl scope token = some following) :
    following.2.purpose? = none := by
  revert stepped
  fun_cases stepAfterDecl draft scope token <;> rintro ⟨⟩ <;> rfl

/-- Nor is one where a field line begins. -/
theorem purpose_stepField {scope : Scope} {name : String} {before : List Field}
    (stepped : draft.stepField scope name before token = some following) :
    following.2.purpose? = none := by
  revert stepped
  fun_cases stepField draft scope name before token <;> rintro ⟨⟩ <;> rfl

/-- Nor is one behind a whole type. -/
theorem purpose_stepAfterType {type : TypeExpr} {purpose : Purpose}
    (stepped : draft.stepAfterType type purpose token = some following) :
    following.2.purpose? = none := by
  revert stepped
  fun_cases stepAfterType draft type purpose token
  case case1 => rintro ⟨⟩
  case case2 => exact purpose_stepAfterDecl
  case case3 =>
    rintro ⟨⟩
    rfl
  case case4 =>
    rintro ⟨⟩
    rfl
  case case5 => exact purpose_stepField

/-- Behind a name the type goes on, or it is whole. -/
theorem purpose_stepTypeName {purpose : Purpose} {frames : List Frame} {package : List String}
    {name : String}
    (stepped : draft.stepTypeName purpose frames package name token = some following) :
    following.2.purpose? = some purpose ∨ following.2.purpose? = none := by
  revert stepped
  fun_cases stepTypeName draft purpose frames package name token
  case case1 =>
    rintro ⟨⟩
    exact .inl rfl
  case case2 =>
    rintro ⟨⟩
    exact .inl rfl
  case case3 => rintro ⟨⟩
  case case4 => exact fun stepped => .inr (purpose_stepAfterType stepped)

/-- From a place in a unit every token leads to one. -/
theorem inUnit_step {place : Place} (inUnit : place.InUnit)
    (stepped : draft.step place token = some following) : following.2.InUnit := by
  -- No type is read, or one that is read for a part of a unit.
  have ofNone {next : Place} (isNone : next.purpose? = none) : next.InUnit := by
    rw [Place.InUnit, isNone]
    exact fun same => by cases same
  have ofSome {next : Place} {purpose : Purpose} (isSome : next.purpose? = some purpose)
      (notLone : purpose ≠ .lone) : next.InUnit := by
    rw [Place.InUnit, isSome]
    exact fun same => notLone (Option.some.inj same)
  revert stepped
  fun_cases step draft place token
  case case7 => exact fun stepped => ofNone (purpose_stepAfterDecl stepped)
  case case9 =>
    rintro ⟨⟩
    exact ofSome rfl Purpose.noConfusion
  case case10 => exact fun stepped => ofSome (purpose_stepType stepped) Purpose.noConfusion
  case case12 => exact fun stepped => ofNone (purpose_stepField stepped)
  case case14 => exact fun stepped => ofSome (purpose_stepType stepped) Purpose.noConfusion
  case case16 =>
    exact fun stepped => ofSome (purpose_stepType stepped) fun lone => inUnit (congrArg some lone)
  case case21 =>
    intro stepped
    rcases purpose_stepTypeName stepped with same | whole
    · exact ofSome same fun lone => inUnit (congrArg some lone)
    · exact ofNone whole
  case case23 => exact fun stepped => ofNone (purpose_stepAfterDecl stepped)
  case case24 => rintro ⟨⟩
  -- Everywhere else no type is read, or the one that was.
  all_goals
    rintro ⟨⟩
    first
    | exact ofNone rfl
    | exact inUnit

/-- What is passed over from a place in a unit leads to one. -/
theorem Passes.inUnit {reading reached : Draft × Place} {text rest : List Char}
    (passes : Passes reading text reached rest) (inUnit : reading.2.InUnit) :
    reached.2.InUnit := by
  induction passes with
  | gap => exact inUnit
  | next _ _ _ taken _ inductionHypothesis =>
    obtain ⟨token, _, stepped⟩ := take_eq_some.1 taken
    exact inductionHypothesis (inUnit_step inUnit stepped)

end Purpose

/-! ## Completions -/

/-- Can something be written from here on with which the unit is whole? -/
def Completable (reading : Draft × Place) : Prop :=
  ∃ (spellings : List Spelling) (finished : Draft × Place) (done : Draft),
    (∀ spelling ∈ spellings, spelling.WellFormed) ∧ spellings.foldlM take reading = some finished ∧
    finished.1.finish finished.2 = some done ∧ done.brokenTag = reading.1.brokenTag

variable {draft : Draft} {reading following : Draft × Place}

/-- Where the unit may end, it is whole. -/
theorem completable_of_finish {done : Draft} (finishes : reading.1.finish reading.2 = some done) :
    Completable reading :=
  ⟨[], reading, done, fun _ member => (by cases member), rfl, finishes, brokenTag_finish finishes⟩

/-- Only a quoted tag can be broken. -/
theorem tagFault?_of_token? {expected : Expectation} {spelling : Spelling} {token : Token}
    (isToken : expected.token? spelling = some token)
    (noTag : ∀ inside, spelling ≠ .quotedTag inside) : token.tagFault? = none := by
  cases spelling with
  | word letters =>
    rw [Expectation.token?] at isToken
    split at isToken
    · cases isToken
      rw [Token.ofWord]
      split <;> rfl
    · obtain ⟨_, _, rfl⟩ := Option.map_eq_some_iff.1 isToken
      rfl
  | quotedTag inside => exact absurd rfl (noTag inside)
  | _ =>
    rw [Expectation.token?] at isToken
    split at isToken <;> cases isToken
    rfl

/-- Where a spelling can be taken, what completes the unit behind it completes it with the spelling
in front. -/
theorem completable_of_take {spelling : Spelling} (taken : take reading spelling = some following)
    (wellFormed : spelling.WellFormed) (noTag : ∀ inside, spelling ≠ .quotedTag inside)
    (completable : Completable following) : Completable reading := by
  obtain ⟨spellings, finished, done, allWellFormed, takenAll, finishes, kept⟩ := completable
  obtain ⟨token, isToken, stepped⟩ := take_eq_some.1 taken
  refine ⟨spelling :: spellings, finished, done, List.forall_mem_cons.2 ⟨wellFormed, allWellFormed⟩,
    (run_cons taken _).trans takenAll, finishes, ?_⟩
  rw [kept, brokenTag_step stepped, tagFault?_of_token? isToken noTag, Option.or_none]

/-- The same for a mark. -/
theorem completable_of_mark {c : Char} (taken : take reading (.mark c) = some following)
    (isMark : c ∈ declarationMarks) (completable : Completable following) : Completable reading :=
  completable_of_take taken isMark (fun _ => Spelling.noConfusion) completable

/-- The same for a name. -/
theorem completable_of_name {name : String} (identifier : IsIdentifier name)
    (taken : take reading (.word name.toList) = some following)
    (completable : Completable following) : Completable reading :=
  completable_of_take taken identifier.1 (fun _ => Spelling.noConfusion) completable

/-- A name that can stand wherever one can. -/
theorem isIdentifier_x : IsIdentifier "x" := by decide

/-- Where nothing but names is expected, the name is taken as a word. -/
theorem take_x {place : Place} (words : place.expected.words = true) :
    take (draft, place) (.word "x".toList) = draft.step place (.word "x") :=
  take_eq (token?_identifier words isIdentifier_x)

/-- Behind a struct its group is closed, if it is in one. -/
theorem completable_structEnd (draft : Draft) (scope : Scope) :
    Completable (draft, .structEnd scope) := by
  cases scope with
  | top => exact completable_of_finish rfl
  | group =>
    have closes : take (draft, .structEnd .group) (.mark ')') = some (draft, .between) := rfl
    exact completable_of_mark closes (by decide) (completable_of_finish rfl)

/-- Where a field line is awaited, its struct is closed. -/
theorem AtField.completable {scope : Scope} {name : String} {before : List Field}
    (atField : AtField draft scope name before reading) : Completable reading :=
  completable_of_mark atField.closes (by decide) (completable_structEnd _ scope)

/-- A type settles into all parts that wait for it, or up to a map that waits for its key. -/
theorem settle_cases (type : TypeExpr) (frames : List Frame) :
    (∃ whole, type.settle frames = (whole, [])) ∨
      ∃ key outer, type.settle frames = (key, .mapKey :: outer) ∧
        frames.count .mapKey = outer.count .mapKey + 1 := by
  induction frames generalizing type with
  | nil => exact .inl ⟨type, rfl⟩
  | cons frame frames inductionHypothesis =>
    cases frame with
    | mapKey => exact .inr ⟨type, frames, rfl, List.count_cons_self⟩
    | _ =>
      rw [List.count_cons_of_ne (by simp), TypeExpr.settle]
      exact inductionHypothesis _

/-- Behind a whole type, what it is read for is completed. -/
theorem completable_wholeType (draft : Draft) {frames : List Frame} {package : List String}
    {name : String} {type : TypeExpr}
    (settled : (TypeExpr.named package name).settle frames = (type, [])) :
    (purpose : Purpose) → purpose ≠ .lone →
      Completable (draft, .typeName purpose frames package name)
  | .lone, notLone => absurd rfl notLone
  | .alias .top declared, _ => completable_of_finish (goesOn_alias draft .top declared settled).2
  | .alias .group declared, _ =>
    completable_of_mark (goesOn_alias draft .group declared settled).2 (by decide)
      (completable_of_finish rfl)
  | .field _ _ _ _, _ => (atField_typeName settled).completable

/-- Where a type begins, a name completes it, once what is behind the name can be completed. -/
theorem completable_of_typeBegins {place : Place} {purpose : Purpose} {frames : List Frame}
    (begins : place.typeBegins? = some (purpose, frames))
    (completable : Completable (draft, .typeName purpose frames [] "x")) :
    Completable (draft, place) :=
  completable_of_name isIdentifier_x (take_name begins fun keyword _ => isIdentifier_x.2 keyword)
    completable

/-- Behind a name in a type, the maps that wait for their keys are written to their ends, and then
what the type is read for is. -/
theorem completable_typeName (draft : Draft) {purpose : Purpose} (notLone : purpose ≠ .lone)
    (frames : List Frame) (package : List String) (name : String) :
    Completable (draft, .typeName purpose frames package name) := by
  rcases settle_cases (.named package name) frames with
    ⟨whole, settled⟩ | ⟨key, outer, settled, counted⟩
  · exact completable_wholeType draft settled purpose notLone
  · -- With the value of the first of them, one map less waits for its key.
    have fewer : (Frame.mapValue key :: outer).count .mapKey < frames.count .mapKey := by
      rw [counted, List.count_cons_of_ne (by simp)]
      exact Nat.lt_succ_self _
    exact completable_of_mark (take_keyClose settled) (by decide)
      (completable_of_typeBegins rfl (completable_typeName draft notLone _ [] "x"))
termination_by frames.count .mapKey

/-- Where a type begins, what it is read for can be completed. -/
theorem completable_typeBegins {place : Place} {purpose : Purpose} {frames : List Frame}
    (begins : place.typeBegins? = some (purpose, frames)) (notLone : purpose ≠ .lone) :
    Completable (draft, place) :=
  completable_of_typeBegins begins (completable_typeName draft notLone frames [] "x")

/-- Wherever the reader stands in a unit, the unit can be completed. -/
theorem completable_of_inUnit (draft : Draft) :
    (place : Place) → place.InUnit → Completable (draft, place)
  | .opening, _ => completable_of_finish rfl
  | .packageName, _ => completable_of_name isIdentifier_x (take_x rfl) (completable_of_finish rfl)
  | .between, _ => completable_of_finish rfl
  | .declStart, _ =>
    completable_of_name isIdentifier_x (take_x rfl)
      (completable_typeBegins rfl Purpose.noConfusion)
  | .groupStart, _ =>
    have closes : take (draft, .groupStart) (.mark ')') = some (draft, .between) := rfl
    completable_of_mark closes (by decide) (completable_of_finish rfl)
  | .declName _ _, _ => completable_typeBegins rfl Purpose.noConfusion
  | .structOpen scope name, _ =>
    have opens : take (draft, .structOpen scope name) (.mark '{') =
        some (draft, .fieldStart scope name []) := rfl
    completable_of_mark opens (by decide) (atField_fieldStart _ _ _ _).completable
  | .fieldStart _ _ _, _ => (atField_fieldStart _ _ _ _).completable
  | .fieldNames _ _ _ _, _ => completable_typeBegins rfl Purpose.noConfusion
  | .nextFieldName _ _ _ _, _ =>
    completable_of_name isIdentifier_x (take_x rfl)
      (completable_typeBegins rfl Purpose.noConfusion)
  | .typeStart _ _, inUnit => completable_typeBegins rfl fun lone => inUnit (congrArg some lone)
  | .mapOpen purpose frames, inUnit =>
    have opens : take (draft, .mapOpen purpose frames) (.mark '[') =
        some (draft, .typeStart purpose (.mapKey :: frames)) := rfl
    completable_of_mark opens (by decide)
      (completable_typeBegins rfl fun lone => inUnit (congrArg some lone))
  | .bracket purpose frames, inUnit =>
    have closes : take (draft, .bracket purpose frames) (.mark ']') =
        some (draft, .typeStart purpose (.slice :: frames)) := rfl
    completable_of_mark closes (by decide)
      (completable_typeBegins rfl fun lone => inUnit (congrArg some lone))
  | .arrayClose purpose frames length, inUnit =>
    have closes : take (draft, .arrayClose purpose frames length) (.mark ']') =
        some (draft, .typeStart purpose (.array length :: frames)) := rfl
    completable_of_mark closes (by decide)
      (completable_typeBegins rfl fun lone => inUnit (congrArg some lone))
  | .typeName _ frames package name, inUnit =>
    completable_typeName draft (fun lone => inUnit (congrArg some lone)) frames package name
  | .selector _ frames package, inUnit =>
    completable_of_name isIdentifier_x (take_x rfl)
      (completable_typeName draft (fun lone => inUnit (congrArg some lone)) frames package "x")
  | .structEnd scope, _ => completable_structEnd draft scope

/-! ## Completing texts -/

/-- Spellings with a space in front of each. -/
def spaced (spellings : List Spelling) : List Char :=
  spellings.flatMap fun spelling => ' ' :: spelling.chars

/-- They are a layout, whatever stands in front. -/
theorem layout_spaced (afterWord : Bool) (spellings : List Spelling) :
    Layout afterWord spellings (spaced spellings) := by
  induction spellings generalizing afterWord with
  | nil => exact .ending .empty
  | cons spelling spellings inductionHypothesis =>
    have space : IsGap [' '] := .blank rfl .empty
    exact .next space (fun _ _ => List.cons_ne_nil _ _) (inductionHypothesis spelling.isWord)

/-- No word goes on in them. -/
theorem head_spaced (spellings : List Spelling) :
    ∀ c ∈ (spaced spellings).head?, Token.isWordPart c = false := by
  cases spellings with
  | nil => exact fun _ isHead => by cases isHead
  | cons spelling spellings =>
    rintro _ ⟨⟩
    decide

/-- From a place in a unit on, there is a text with which the unit is whole and in which no word
goes on. It adds no broken tag. -/
theorem exists_completion (draft : Draft) {place : Place} (inUnit : place.InUnit) :
    ∃ text : List Char, (∀ c ∈ text.head?, Token.isWordPart c = false) ∧
      ∀ last, ∃ finished ending last' done,
        draft.read place last text = .ok (finished, ending, last') ∧
        finished.finish ending = some done ∧ done.brokenTag = draft.brokenTag := by
  obtain ⟨spellings, ⟨finished, ending⟩, done, wellFormed, taken, finishes, kept⟩ :=
    completable_of_inUnit draft place inUnit
  refine ⟨spaced spellings, head_spaced spellings, fun last => ?_⟩
  obtain ⟨last', read⟩ := (layout_spaced false spellings).read_eq wellFormed taken last
  exact ⟨finished, ending, last', done, read, finishes, kept⟩

end Draft

end DeclCodec
