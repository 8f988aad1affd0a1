import DeclCodec.Proofs.Decl.Completion
import DeclCodec.Proofs.Text.Positions

/-!
# The first mistake in a text

A text that is no sequence of declarations, and does not just end too early, is
refused at one place, by its line and column. Up to there it is the beginning of a
unit: it can be gone on with in such a way that nothing is wrong but perhaps the tags
in it. And whatever stands behind the line of that place, the text is refused at the
same place, because the reader sees no further than to the end of the line: only a raw
tag or a block comment goes over more lines, and it has to be closed somewhere.

That a quoted tag is no JSON string is found only where nothing else is wrong. So a
text with such a tag is refused further on, at a place up to which it is the beginning
of no unit at all.
-/

namespace DeclCodec

/-- Does a text begin with a raw tag or a block comment that is never closed? -/
def Unclosed (text : List Char) : Prop :=
  (∃ inside, text = '\x60' :: inside ∧ '\x60' ∉ inside) ∨
    ∃ comment, text = '/' :: '*' :: comment ∧ ¬['*', '/'] <:+: comment

/-- The first line of a text. -/
def firstLine (text : List Char) : List Char := text.takeWhile (· ≠ '\n')

/-- A text that begins with no line feed begins with the same character as its first line. -/
theorem head_firstLine {c : Char} (notEnd : c ≠ '\n') (text : List Char) :
    firstLine (c :: text) = c :: firstLine text :=
  List.takeWhile_cons_of_pos (by simpa using notEnd)

/-! ## The end of a line -/

namespace Token

/-- Where a block comment is closed somewhere, more is passed over than its beginning. -/
theorem length_skipGaps_closed (opening : List Char) {text : List Char}
    (closed : ['*', '/'] <:+: text) :
    (skipGaps (.blockComment opening) text).length ≤ text.length := by
  induction text with
  | nil => exact absurd (List.eq_nil_of_infix_nil closed) (by decide)
  | cons c text inductionHypothesis =>
    rw [skipGaps.eq_def]
    split <;> try contradiction
    · next rest _ same =>
      cases same
      have shorter : (skipGaps .blank rest).length ≤ rest.length := length_skipGaps .blank rest
      simp only [List.length_cons]
      omega
    · next other d rest notClosing isComment same =>
      cases isComment
      cases same
      have inRest : ['*', '/'] <:+: text := by
        refine (List.infix_cons_iff.1 closed).resolve_left ?_
        rintro ⟨others, begins⟩
        obtain ⟨rfl, rfl⟩ := List.cons.inj begins
        exact notClosing _ rfl rfl
      exact (inductionHypothesis inRest).trans (Nat.le_succ _)

/-- Where no gap begins, there is no white space, and no comment unless it is never closed. -/
theorem solid_of_skipGaps {c : Char} {text : List Char}
    (noGap : skipGaps .blank (c :: text) = c :: text) (closed : ¬Unclosed (c :: text)) :
    isGap c = false ∧ (c = '/' → ∀ d ∈ text.head?, d ≠ '/' ∧ d ≠ '*') := by
  -- What is passed over would make the text shorter.
  have noShorter : ¬(skipGaps .blank (c :: text)).length ≤ text.length := by
    rw [noGap, List.length_cons]
    omega
  constructor
  · rw [Bool.eq_false_iff]
    intro white
    rw [show c :: text = [c] ++ text from rfl, skipGaps_append (.blank white .empty)] at noShorter
    exact noShorter (length_skipGaps .blank text)
  · rintro rfl d isHead
    cases text with
    | nil => cases isHead
    | cons e text =>
      cases isHead
      constructor
      · rintro rfl
        rw [skipGaps] at noShorter
        exact noShorter ((length_skipGaps .lineComment text).trans (Nat.le_succ _))
      · rintro rfl
        rw [skipGaps] at noShorter
        refine noShorter ((length_skipGaps_closed _ ?_).trans (Nat.le_succ _))
        by_contra stillOpen
        exact closed (.inr ⟨text, rfl, stillOpen⟩)

/-- No gap begins where there is no white space and no comment. -/
theorem skipGaps_of_solid {c : Char} {text : List Char} (solid : isGap c = false)
    (noComment : c = '/' → ∀ d ∈ text.head?, d ≠ '/' ∧ d ≠ '*') :
    skipGaps .blank (c :: text) = c :: text := by
  rw [skipGaps.eq_def]
  split <;> simp_all

end Token

/-- The rest of a text behind its first line begins with a line feed, if there is one. -/
theorem exists_behind_firstLine (text : List Char) :
    ∃ behind, text = firstLine text ++ behind ∧
      ∀ c ∈ behind.head?, Token.isWordPart c = false := by
  refine ⟨text.dropWhile (· ≠ '\n'), List.takeWhile_append_dropWhile.symm, fun c isHead => ?_⟩
  have isEnd := Token.head_dropWhile text c isHead
  rw [decide_eq_false_iff_not, not_not] at isEnd
  rw [isEnd]
  decide

/-- What begins a text with no line feed is in the first line. -/
theorem prefix_firstLine {front line rest more : List Char} (oneLine : '\n' ∉ front)
    (split : line ++ '\n' :: more = front ++ rest) :
    ∃ behind, line = front ++ behind ∧ rest = behind ++ '\n' :: more := by
  rcases List.append_eq_append_iff.1 split with ⟨inside, isFront, _⟩ | ⟨behind, isLine, isRest⟩
  · cases inside with
    | nil => exact ⟨[], by simpa using isFront.symm, by simp_all⟩
    | cons c inside => simp_all
  · exact ⟨behind, isLine, isRest⟩

namespace Draft

variable {reading reached : Draft × Place} {text rest : List Char}

/-- Whether a raw tag is taken does not depend on what is inside of it. -/
theorem take_rawTag {inside : List Char} (refused : take reading (.rawTag inside) = none)
    (other : List Char) : take reading (.rawTag other) = none := by
  obtain ⟨draft, place⟩ := reading
  cases place with
  | typeName purpose frames package name =>
    have isToken (inside : List Char) :
        (Place.typeName purpose frames package name).expected.token? (.rawTag inside) =
          some (.rawTag (String.ofList inside)) := rfl
    rcases settle_cases (.named package name) frames with
      ⟨whole, settled⟩ | ⟨key, outer, settled, _⟩
    · rw [take_behindType settled (isToken _) (by simp)] at refused ⊢
      rcases purpose with _ | ⟨scope, _⟩ | _
      · rfl
      · cases scope <;> rfl
      · cases refused
    · rw [take_eq (isToken other), step, stepTypeName, settled] <;> simp
  | _ => rfl

/-- Where the reader is stuck, there is a character on the line. -/
theorem Stuck.notEnd {c : Char} {tail : List Char} (stuck : Stuck reading (c :: tail))
    (closed : ¬Unclosed (c :: tail)) : c ≠ '\n' := by
  rintro rfl
  cases (Token.solid_of_skipGaps stuck.noGap closed).1

/-- A text with the same first line begins with the same character. -/
theorem Stuck.head_again (stuck : Stuck reading text) (closed : ¬Unclosed text) (more : List Char) :
    (firstLine text ++ '\n' :: more).head? = text.head? := by
  obtain ⟨c, tail, rfl⟩ := List.exists_cons_of_ne_nil stuck.nonempty
  rw [head_firstLine (stuck.notEnd closed)]
  rfl

/-- Where the reader is stuck, it is stuck in front of every text with the same first line. -/
theorem Stuck.again (stuck : Stuck reading text) (closed : ¬Unclosed text) (more : List Char) :
    Stuck reading (firstLine text ++ '\n' :: more) := by
  obtain ⟨c, tail, rfl⟩ := List.exists_cons_of_ne_nil stuck.nonempty
  obtain ⟨solid, noComment⟩ := Token.solid_of_skipGaps stuck.noGap closed
  have begins := head_firstLine (stuck.notEnd closed) tail
  refine ⟨?_, ?_, fun spelling rest wellFormed ends split => ?_⟩
  · rw [begins]
    exact List.cons_ne_nil _ _
  · rw [begins, List.cons_append]
    refine Token.skipGaps_of_solid solid fun isSlash d isHead => ?_
    -- Behind a slash comes the same character as before, or the end of the line.
    cases tail with
    | nil =>
      cases isHead
      decide
    | cons e tail =>
      by_cases endsLine : e = '\n'
      · subst endsLine
        cases isHead
        decide
      · rw [head_firstLine endsLine] at isHead
        cases isHead
        exact noComment isSlash _ rfl
  · rcases spelling.not_mem_chars wellFormed with oneLine | ⟨inside, rfl⟩
    · -- The spelling is in the first line, so the text began with it before.
      obtain ⟨behind, isLine, rfl⟩ := prefix_firstLine oneLine split
      obtain ⟨others, isText, noWord⟩ := exists_behind_firstLine (c :: tail)
      rw [isLine, List.append_assoc] at isText
      refine stuck.refused spelling (behind ++ others) wellFormed ?_ isText
      cases behind with
      | nil => exact spelling.ends_of_noWord (fun _ => noWord) _
      | cons d behind => exact ends.congr rfl
    · -- A raw tag may go on in the next lines, and before it was closed as well.
      rw [begins] at split
      obtain ⟨rfl, _⟩ := List.cons.inj split
      have isClosed : '\x60' ∈ tail := by
        by_contra stillOpen
        exact closed (.inl ⟨tail, rfl, stillOpen⟩)
      obtain ⟨before, rest, rfl, noBackquote⟩ := List.eq_append_cons_of_mem isClosed
      refine take_rawTag (stuck.refused (.rawTag before) rest noBackquote trivial ?_) inside
      simp [Spelling.chars]

/-! ## Broken tags in front -/

/-- Where a broken tag is kept that was not kept before, the reader passes over a text that ends
with its closing quote. -/
theorem Passes.exists_broken (passes : Passes reading text reached rest)
    (broken : reached.1.brokenTag ≠ reading.1.brokenTag) :
    ∃ middle front behind, text = front ++ behind ∧ front.getLast? = some '"' ∧
      Passes reading text middle behind ∧ Passes middle behind reached rest ∧
      middle.1.brokenTag = reached.1.brokenTag := by
  induction passes with
  | gap => exact absurd rfl broken
  | @next reading following reached gap text rest spelling isGap wellFormed ends taken onward
      inductionHypothesis =>
    by_cases kept : following.1.brokenTag = reached.1.brokenTag
    · obtain ⟨token, isToken, stepped⟩ := take_eq_some.1 taken
      have isTag : ∃ inside, spelling = .quotedTag inside := by
        by_contra noTag
        push Not at noTag
        rw [← kept, brokenTag_step stepped, tagFault?_of_token? isToken noTag] at broken
        exact broken Option.or_none
      obtain ⟨inside, rfl⟩ := isTag
      refine ⟨following, gap ++ ('"' :: inside ++ ['"']), text, by simp [Spelling.chars],
        by rw [← List.append_assoc, List.getLast?_concat], ?_, onward, kept⟩
      exact .next isGap wellFormed ends taken (.gap following .empty text)
    · obtain ⟨middle, front, behind, split, isQuote, first, second, same⟩ :=
        inductionHypothesis (Ne.symm kept)
      refine ⟨middle, gap ++ (spelling.chars ++ front), behind, by rw [split]; simp, ?_,
        .next isGap wellFormed ends taken first, second, same⟩
      rw [List.getLast?_append, List.getLast?_append, isQuote]
      rfl

/-- Where a broken tag is kept that was not kept before, the same tag is kept whatever follows. -/
theorem Passes.broken {before : List Char} (passes : Passes reading (before ++ rest) reached rest)
    (broken : reached.1.brokenTag ≠ reading.1.brokenTag) (other : List Char) :
    ∃ middle behind, Passes reading (before ++ other) middle behind ∧
      middle.1.brokenTag = reached.1.brokenTag := by
  obtain ⟨middle, front, behind, split, isQuote, first, second, same⟩ :=
    passes.exists_broken broken
  obtain ⟨front', frontSplit, exchanged⟩ := first.exchange
  obtain ⟨between, behindSplit, _⟩ := second.exchange
  rw [frontSplit] at split
  rw [List.append_cancel_right split] at frontSplit exchanged
  rw [behindSplit, ← List.append_assoc] at frontSplit
  refine ⟨middle, between ++ other, ?_, same⟩
  rw [List.append_cancel_right frontSplit, List.append_assoc]
  refine exchanged _ (.inr (.inr fun c isLast => ?_))
  rw [isQuote] at isLast
  cases isLast
  decide

end Draft

namespace UnitText

variable {source : UnitText}

/-- Is the text refused as one that is no sequence of declarations? -/
def Misread (source : UnitText) : Prop :=
  ∃ position, source.parse = .error (.invalidDeclaration source.name position)

/-- Does the text end too early, where a declaration is not whole? -/
def EndsEarly (source : UnitText) : Prop :=
  ∃ ending ∈ source.reached.toOption, ending.1.finish ending.2.1 = none

instance : DecidablePred EndsEarly := fun source =>
  inferInstanceAs (Decidable (∃ ending ∈ source.reached.toOption, _))

/-- The first broken tag of a text is that of its beginning, or else that of the rest. -/
theorem tagFault?_of_passes {text rest : List Char} {ending : Draft × Place}
    (passes : Draft.Passes source.opening text ending rest) :
    (source.withChars text).tagFault? =
      ending.1.brokenTag.or ((ending.1.taken ending.2 rest).findSome? Token.tagFault?) := by
  obtain ⟨tokens, taken, broken⟩ := passes.taken_eq
  have unitTokens : (source.withChars text).tokens =
      tokens ++ ending.1.taken ending.2 rest := by
    rw [← taken, UnitText.tokens, withChars, String.toList_ofList]
    rfl
  rw [tagFault?, unitTokens, List.findSome?_append, broken]
  rfl

/-- What is refused, and does not end too early, is passed over up to the place that is reported,
and there the reader is stuck. -/
theorem exists_passes_of_refused {position : Text.Position}
    (refused : source.parse = .error (.invalidDeclaration source.name position))
    (notEarly : ¬source.EndsEarly) :
    ∃ before rest ending, source.text.toList = before ++ rest ∧ position = .after before ∧
      Draft.Passes source.opening (before ++ rest) ending rest ∧ Draft.Stuck ending rest ∧
      ending.1.brokenTag = source.tagFault? := by
  cases read : source.reached with
  | ok ending =>
    obtain ⟨draft, place, last⟩ := ending
    cases finishes : draft.finish place with
    | none => exact absurd ⟨_, by rw [read]; rfl, finishes⟩ notEarly
    | some done =>
      rw [parse_of_finish read finishes] at refused
      split at refused <;> cases refused
  | error rest =>
    obtain ⟨ending, passes, stuck⟩ := Draft.exists_passes_of_error read
    obtain ⟨before, split, _⟩ := passes.exchange
    have sameText : source.withChars source.text.toList = source := by
      rw [withChars, String.ofList_toList]
    have broken := tagFault?_of_passes passes
    rw [sameText, stuck.taken_eq] at broken
    rw [parse_of_error read, split, Text.Position.ofRest_append] at refused
    cases refused
    refine ⟨before, rest, ending, split, rfl, split ▸ passes, stuck, ?_⟩
    rw [broken]
    exact Option.or_none.symm

/-- Behind a broken tag nothing makes a text that is read. -/
theorem not_ok_of_broken {before rest : List Char} {ending : Draft × Place}
    (passes : Draft.Passes source.opening (before ++ rest) ending rest)
    (broken : ending.1.brokenTag ≠ none) (continuation : List Char) (unit : DeclUnit) :
    (source.withChars (before ++ continuation)).parse ≠ .ok unit := by
  obtain ⟨middle, behind, again, same⟩ := passes.broken broken continuation
  intro parsed
  rcases (source.withChars (before ++ continuation)).parse_cases with
    ⟨_, unbroken⟩ | ⟨position, misread⟩ | ⟨cause, refused, _⟩
  · rw [tagFault?_of_passes again, Option.or_eq_none_iff, same] at unbroken
    exact broken unbroken.1
  · rw [parsed] at misread
    cases misread
  · rw [parsed] at refused
    cases refused

/-- What is passed over can be gone on with, so that nothing is wrong but perhaps a tag in it. -/
theorem exists_completed {before rest : List Char} {ending : Draft × Place}
    (passes : Draft.Passes source.opening (before ++ rest) ending rest) :
    ∃ continuation unit, (source.withChars (before ++ continuation)).parse =
      match ending.1.brokenTag with
      | some cause => .error (.invalidTagLiteral cause)
      | none => .ok unit := by
  have inUnit : source.opening.2.InUnit := fun lone => by cases lone
  obtain ⟨completion, noWord, completes⟩ :=
    Draft.exists_completion ending.1 (passes.inUnit inUnit)
  obtain ⟨_, same, exchange⟩ := passes.exchange
  cases List.append_cancel_right same
  obtain ⟨last, read⟩ := reached_of_passes (exchange completion (.inr (.inl noWord)))
  obtain ⟨finished, place, last', done, onward, finishes, kept⟩ := completes last
  have parsed := parse_of_finish (read.trans onward) finishes
  rw [kept] at parsed
  exact ⟨completion, _, parsed⟩

/-- Where the reader is stuck, every text with the same first line from there on is refused. -/
theorem parse_of_stuck {before rest : List Char} {ending : Draft × Place}
    (passes : Draft.Passes source.opening (before ++ rest) ending rest)
    (stuck : Draft.Stuck ending rest) (closed : ¬Unclosed rest) (more : List Char) :
    (source.withChars (before ++ (firstLine rest ++ '\n' :: more))).parse =
      .error (.invalidDeclaration source.name (.after before)) := by
  obtain ⟨_, same, exchange⟩ := passes.exchange
  cases List.append_cancel_right same
  obtain ⟨last, read⟩ := reached_of_passes (exchange _ (.inl (stuck.head_again closed more)))
  have refused := parse_of_error (read.trans ((stuck.again closed more).read_eq last))
  rw [withChars, String.toList_ofList, Text.Position.ofRest_append] at refused
  exact refused

/-- What is said of a refused text, of the place that is reported for it, and of what stands in
front of that place and from it on. -/
structure FirstMistake (source : UnitText) (position : Text.Position) (before rest : List Char) :
    Prop where
  split : source.text.toList = before ++ rest
  /-- There is no other place in the text with the reported line and column. -/
  place : ∀ front, front <+: source.text.toList →
    ((Text.Position.after front).line = position.line ∧
      (Text.Position.after front).column = position.column ↔ front = before)
  /-- The text in front can be gone on with, with nothing wrong but perhaps a tag in it. -/
  begins : ∃ continuation, ¬(source.withChars (before ++ continuation)).Misread
  /-- It is the beginning of a unit if and only if none of its tags is broken. -/
  correct : (∃ continuation unit, (source.withChars (before ++ continuation)).parse = .ok unit) ↔
    source.tagFault? = none
  /-- Every text with the same lines up to the reported one is refused for the same place. -/
  settled : ¬Unclosed rest → ∀ text, before ++ firstLine rest ++ ['\n'] <+: text →
    (source.withChars text).parse = .error (.invalidDeclaration source.name position)

/-- A text that is refused as one that is no sequence of declarations, and does not just end too
early, is refused for its first mistake. -/
theorem first_mistake {position : Text.Position}
    (refused : source.parse = .error (.invalidDeclaration source.name position))
    (notEarly : ¬source.EndsEarly) : ∃ before rest, source.FirstMistake position before rest := by
  obtain ⟨before, rest, ending, split, rfl, passes, stuck, broken⟩ :=
    exists_passes_of_refused refused notEarly
  obtain ⟨continuation, unit, parsed⟩ := exists_completed passes
  rw [broken] at parsed
  refine ⟨before, rest, split, ?_, ⟨continuation, ?_⟩, ?_, ?_⟩
  · intro front begins
    exact Text.Position.line_column_iff begins (split ▸ List.prefix_append before rest)
  · rintro ⟨position, misread⟩
    rw [parsed] at misread
    split at misread <;> cases misread
  · constructor
    · rintro ⟨other, unit, isRead⟩
      by_contra isBroken
      exact not_ok_of_broken passes (broken ▸ isBroken) other unit isRead
    · intro unbroken
      rw [unbroken] at parsed
      exact ⟨continuation, unit, parsed⟩
  · rintro closed text ⟨more, rfl⟩
    rw [List.append_assoc, List.append_assoc]
    exact parse_of_stuck passes stuck closed more

/-- A text with a parenthesis where a key of a map goes on. -/
def mistakenKey : UnitText :=
  ⟨"<string>", "p", "type A []int\ntype T struct \x7b\n M map[string)\n\x7d"⟩

/-- Its mistake is the parenthesis in the third line. -/
theorem first_mistake_mistakenKey :
    mistakenKey.parse = .error (.invalidDeclaration mistakenKey.name ⟨3, 14, 42⟩) ∧
      ¬mistakenKey.EndsEarly ∧ ∃ before rest, mistakenKey.FirstMistake ⟨3, 14, 42⟩ before rest := by
  have refused : mistakenKey.parse =
      .error (.invalidDeclaration mistakenKey.name ⟨3, 14, 42⟩) := by decide +kernel
  have notEarly : ¬mistakenKey.EndsEarly := by decide +kernel
  exact ⟨refused, notEarly, first_mistake refused notEarly⟩

/-- A text with a broken tag, and with a parenthesis behind it. -/
def mistakenTag : UnitText := ⟨"<string>", "p", "type T struct \x7b\n A int \"\\q\" )"⟩

/-- It is refused for the parenthesis, and up to there it is the beginning of no unit. -/
theorem not_correct_mistakenTag :
    mistakenTag.parse = .error (.invalidDeclaration mistakenTag.name ⟨2, 13, 28⟩) ∧
      ¬mistakenTag.EndsEarly ∧
      ∃ before, mistakenTag.text.toList = before ++ [')'] ∧
        Text.Position.after before = ⟨2, 13, 28⟩ ∧
        ∀ continuation unit,
          (mistakenTag.withChars (before ++ continuation)).parse ≠ .ok unit := by
  have refused : mistakenTag.parse =
      .error (.invalidDeclaration mistakenTag.name ⟨2, 13, 28⟩) := by decide +kernel
  have notEarly : ¬mistakenTag.EndsEarly := by decide +kernel
  have isBroken : mistakenTag.tagFault? ≠ none := by decide +kernel
  obtain ⟨before, rest, ending, split, place, passes, _, broken⟩ :=
    exists_passes_of_refused refused notEarly
  have isBefore : before = mistakenTag.text.toList.dropLast :=
    (Text.Position.line_column_iff ⟨rest, split.symm⟩ (List.dropLast_prefix _)).1
      (by rw [← place]; decide +kernel)
  refine ⟨refused, notEarly, before, ?_, place.symm,
    not_ok_of_broken passes (broken ▸ isBroken)⟩
  rw [isBefore]
  decide +kernel

end UnitText

end DeclCodec
