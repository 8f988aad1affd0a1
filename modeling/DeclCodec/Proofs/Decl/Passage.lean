import DeclCodec.Proofs.Decl.Scanned
import DeclCodec.Proofs.Decl.Tags

/-!
# Passing over the beginning of a text

`Passes` says how the reader gets from one place to another over the beginning of a
text: it takes one spelling after another, each with the text that really follows, and
may pass over a gap at last. What follows can be exchanged, as long as no word that ends
the beginning goes on in it. So the reader makes the same of the same beginning.

A text that is refused, and does not just end too early, has a beginning that the reader
passes over and a rest where it is stuck: none of the spellings that the rest may begin
with is taken there.
-/

namespace DeclCodec.Draft

/-- Does the reader get from one place to another over the beginning of a text, up to the rest? -/
inductive Passes : Draft × Place → List Char → Draft × Place → List Char → Prop
  | gap (reading : Draft × Place) {gap : List Char} (isGap : IsGap gap) (rest : List Char) :
      Passes reading (gap ++ rest) reading rest
  | next {reading following reached : Draft × Place} {gap text rest : List Char}
      {spelling : Spelling} (isGap : IsGap gap) (wellFormed : spelling.WellFormed)
      (ends : spelling.Ends reading.2.expected text)
      (taken : take reading spelling = some following)
      (onward : Passes following text reached rest) :
      Passes reading (gap ++ (spelling.chars ++ text)) reached rest

/-- Is the reader stuck in front of a text? No spelling that the text begins with is taken. -/
structure Stuck (reading : Draft × Place) (text : List Char) : Prop where
  nonempty : text ≠ []
  noGap : Token.skipGaps .blank text = text
  refused : ∀ (spelling : Spelling) (rest : List Char), spelling.WellFormed →
    spelling.Ends reading.2.expected rest → text = spelling.chars ++ rest →
      take reading spelling = none

variable {reading following reached : Draft × Place} {text rest : List Char} {spelling : Spelling}

/-- A spelling is taken as a token that can stand here. -/
theorem take_eq_some : take reading spelling = some following ↔
    ∃ token, reading.2.expected.token? spelling = some token ∧
      reading.1.step reading.2 token = some following :=
  Option.bind_eq_some_iff

/-- What is passed over is a gap, or a spelling stands behind a gap and is taken first. -/
theorem Passes.first_cases (passes : Passes reading text reached rest) :
    (reached = reading ∧ ∃ gap, IsGap gap ∧ text = gap ++ rest) ∨
      ∃ gap spelling following behind, IsGap gap ∧ spelling.WellFormed ∧
        spelling.Ends reading.2.expected behind ∧ take reading spelling = some following ∧
        text = gap ++ (spelling.chars ++ behind) ∧ Passes following behind reached rest := by
  cases passes with
  | gap reading isGap rest => exact .inl ⟨rfl, _, isGap, rfl⟩
  | next isGap wellFormed ends taken onward =>
    exact .inr ⟨_, _, _, _, isGap, wellFormed, ends, taken, rfl, onward⟩

/-! ## Reading on -/

/-- Reading ends with a refusal where no expected token stands. -/
theorem read_unexpected {draft : Draft} {place : Place} {text rest : List Char}
    (next : Lexeme.next place.expected text = .unexpected rest) (last : List Char) :
    draft.read place last text = .error rest := by
  rw [read.eq_def]
  split <;> simp_all

/-- Reading ends with a refusal at a token that cannot stand here. -/
theorem read_refused {draft : Draft} {place : Place} {text start rest : List Char} {token : Token}
    (next : Lexeme.next place.expected text = .token token start rest)
    (refused : draft.step place token = none) (last : List Char) :
    draft.read place last text = .error start := by
  rw [read.eq_def]
  split <;> simp_all

/-- Texts in which the same comes next are read alike. -/
theorem read_congr {draft : Draft} {place : Place} {text other : List Char}
    (same : Lexeme.next place.expected text = Lexeme.next place.expected other)
    (last : List Char) : draft.read place last text = draft.read place last other := by
  cases next : Lexeme.next place.expected other with
  | ending => rw [read_ending (same.trans next), read_ending next]
  | unexpected rest => rw [read_unexpected (same.trans next), read_unexpected next]
  | token token start rest =>
    cases stepped : draft.step place token with
    | none => rw [read_refused (same.trans next) stepped, read_refused next stepped]
    | some following =>
      rw [read_token (same.trans next) stepped, read_token next stepped]

/-- What comes next comes next behind a gap as well. -/
theorem next_gap {gap : List Char} (isGap : IsGap gap) (expected : Expectation) (text : List Char) :
    Lexeme.next expected (gap ++ text) = Lexeme.next expected text := by
  rw [Lexeme.next, Lexeme.next, Token.skipGaps_append isGap]

/-- Reading a text is passing over its beginning and reading the rest. -/
theorem Passes.read_eq (passes : Passes reading text reached rest) (last : List Char) :
    ∃ last', reading.1.read reading.2 last text = reached.1.read reached.2 last' rest := by
  induction passes generalizing last with
  | gap reading isGap rest => exact ⟨last, read_congr (next_gap isGap _ rest) last⟩
  | @next reading following reached gap text rest spelling isGap wellFormed ends taken _
      inductionHypothesis =>
    obtain ⟨token, isToken, stepped⟩ := take_eq_some.1 taken
    have lexeme := Lexeme.next_append wellFormed isToken isGap ends
    obtain ⟨last', onward⟩ := inductionHypothesis (spelling.chars ++ text)
    exact ⟨last', (read_token lexeme stepped last).trans onward⟩

/-- Where the reader is stuck, no expected token stands, or one that cannot stand here. -/
theorem Stuck.next_cases (stuck : Stuck reading text) :
    Lexeme.next reading.2.expected text = .unexpected text ∨
      ∃ token rest, Lexeme.next reading.2.expected text = .token token text rest ∧
        reading.1.step reading.2 token = none := by
  obtain ⟨c, tail, rfl⟩ := List.exists_cons_of_ne_nil stuck.nonempty
  rw [Lexeme.next, stuck.noGap]
  dsimp only
  cases scanned : Token.scan? reading.2.expected (c :: tail) with
  | none => exact .inl rfl
  | some found =>
    obtain ⟨token, rest⟩ := found
    obtain ⟨spelling, wellFormed, isToken, ends, split⟩ :=
      Token.exists_spelling reading.2.mem_marks scanned
    have refused := stuck.refused spelling rest wellFormed ends split
    rw [take_eq isToken] at refused
    exact .inr ⟨token, rest, rfl, refused⟩

/-- A text is refused as a whole where its reader is stuck. -/
theorem Stuck.read_eq (stuck : Stuck reading text) (last : List Char) :
    reading.1.read reading.2 last text = .error text := by
  rcases stuck.next_cases with next | ⟨token, rest, next, refused⟩
  · exact read_unexpected next last
  · exact read_refused next refused last

/-- The reader is stuck where every token that it scans is refused. -/
theorem stuck_of_scan? (nonempty : text ≠ []) (noGap : Token.skipGaps .blank text = text)
    (refused : ∀ token rest, Token.scan? reading.2.expected text = some (token, rest) →
      reading.1.step reading.2 token = none) : Stuck reading text where
  nonempty := nonempty
  noGap := noGap
  refused spelling rest wellFormed ends split := by
    cases isToken : reading.2.expected.token? spelling with
    | none => rw [take, isToken]; rfl
    | some token =>
      have scanned := Token.scan?_append wellFormed isToken ends
      rw [← split] at scanned
      rw [take_eq isToken, refused token rest scanned]

/-- A refused text is passed over up to a rest where the reader is stuck. -/
theorem exists_passes_of_error {draft : Draft} {place : Place} {last text rest : List Char}
    (refused : draft.read place last text = .error rest) :
    ∃ reached, Passes (draft, place) text reached rest ∧ Stuck reached rest := by
  fun_induction Draft.read draft place last text with
  | case1 => cases refused
  | case2 draft place last text other next =>
    cases refused
    obtain ⟨gap, isGap, split, noGap, nonempty, nothing⟩ := Lexeme.unexpected_inv next
    rw [split]
    refine ⟨(draft, place), .gap _ isGap rest, stuck_of_scan? nonempty noGap ?_⟩
    intro token after scanned
    rw [nothing] at scanned
    cases scanned
  | case3 draft place last text token start after next later following stepped
      inductionHypothesis =>
    obtain ⟨gap, spelling, isGap, wellFormed, isToken, ends, _, split⟩ := Lexeme.token_inv next
    obtain ⟨reached, onward, stuck⟩ := inductionHypothesis refused
    have taken : take (draft, place) spelling = some (later, following) :=
      take_eq_some.2 ⟨token, isToken, stepped⟩
    rw [split]
    exact ⟨reached, .next isGap wellFormed ends taken onward, stuck⟩
  | case4 draft place last text token start after next stepped =>
    cases refused
    obtain ⟨gap, spelling, isGap, wellFormed, isToken, ends, isStart, split⟩ :=
      Lexeme.token_inv next
    have scannedFirst := Token.scan?_append wellFormed isToken ends
    obtain ⟨first, others, begins, white, noSlash, _⟩ := spelling.exists_chars_eq wellFormed
    rw [split, isStart]
    refine ⟨(draft, place), .gap _ isGap _, stuck_of_scan? ?_ ?_ ?_⟩
    · rw [begins]
      exact List.cons_ne_nil _ _
    · rw [begins, List.cons_append]
      exact Token.skipGaps_solid white noSlash _
    · intro other after' scanned
      rw [scannedFirst] at scanned
      cases scanned
      exact stepped

/-! ## Exchanging the rest -/

/-- Does a text end where it does with another rest behind it, too? It does if the next character is
the same, or if no word goes on across the end. -/
def Joins (before rest other : List Char) : Prop :=
  other.head? = rest.head? ∨ (∀ c ∈ other.head?, Token.isWordPart c = false) ∨
    ∀ c ∈ before.getLast?, Token.isWordPart c = false

/-- A spelling at the end of such a text ends there. -/
theorem Joins.ends {gap other : List Char} {expected : Expectation}
    (joins : Joins (gap ++ spelling.chars) rest other) (wellFormed : spelling.WellFormed)
    (ends : spelling.Ends expected rest) : spelling.Ends expected other := by
  rcases joins with same | noWord | noWord
  · exact ends.congr same
  · exact spelling.ends_of_noWord (fun _ => noWord) expected
  · obtain ⟨c, isLast, _, part, _⟩ := spelling.exists_getLast_chars wellFormed
    refine spelling.ends_of_noWord (fun isWord => ?_) expected
    have noPart := noWord c (by rw [List.getLast?_append, isLast]; rfl)
    rw [part isWord] at noPart
    cases noPart

/-- What the reader passes over is passed over with another rest behind it as well. -/
theorem Passes.exchange (passes : Passes reading text reached rest) :
    ∃ before, text = before ++ rest ∧
      ∀ other, Joins before rest other → Passes reading (before ++ other) reached other := by
  induction passes with
  | gap reading isGap rest => exact ⟨_, rfl, fun other _ => .gap reading isGap other⟩
  | @next reading following reached gap text rest spelling isGap wellFormed ends taken _
      inductionHypothesis =>
    obtain ⟨before, split, onward⟩ := inductionHypothesis
    refine ⟨gap ++ (spelling.chars ++ before), by rw [split]; simp, fun other joins => ?_⟩
    rw [List.append_assoc, List.append_assoc]
    cases before with
    | nil =>
      rw [split] at ends
      rw [List.append_nil] at joins
      have joinsEnd : Joins [] rest other := .inr (.inr fun _ isLast => by cases isLast)
      exact .next isGap wellFormed (joins.ends wellFormed ends) taken (onward other joinsEnd)
    | cons c before =>
      have endsToo : spelling.Ends reading.2.expected (c :: before ++ other) :=
        ends.congr (by rw [split]; rfl)
      have joinsBehind : Joins (c :: before) rest other :=
        joins.imp_right (Or.imp_right fun noWord d isLast => noWord d (by
          rw [List.getLast?_append, List.getLast?_append, isLast]
          rfl))
      exact .next isGap wellFormed endsToo taken (onward other joinsBehind)

/-! ## Tokens -/

/-- No token is taken where none that comes next can stand. -/
theorem taken_eq_nil {draft : Draft} {place : Place} {text : List Char}
    (refused : ∀ token start rest, Lexeme.next place.expected text = .token token start rest →
      draft.step place token = none) : draft.taken place text = [] := by
  rw [taken]
  split
  · rfl
  · rfl
  · next found => rw [refused _ _ _ found]

/-- In texts in which the same comes next the same tokens are taken. -/
theorem taken_congr {draft : Draft} {place : Place} {text other : List Char}
    (same : Lexeme.next place.expected text = Lexeme.next place.expected other) :
    draft.taken place text = draft.taken place other := by
  by_cases refused : ∀ token start rest,
      Lexeme.next place.expected other = .token token start rest →
      draft.step place token = none
  · rw [taken_eq_nil refused, taken_eq_nil (by rwa [same])]
  · push Not at refused
    obtain ⟨token, start, rest, next, stepped⟩ := refused
    obtain ⟨following, stepped⟩ := Option.ne_none_iff_exists'.1 stepped
    rw [taken_token next stepped, taken_token (same.trans next) stepped]

/-- No token is taken where the reader is stuck. -/
theorem Stuck.taken_eq (stuck : Stuck reading text) : reading.1.taken reading.2 text = [] := by
  refine taken_eq_nil fun token start rest next => ?_
  rcases stuck.next_cases with none | ⟨other, _, found, refused⟩
  · rw [none] at next
    cases next
  · rw [found] at next
    cases next
    exact refused

/-- The tokens of a text are those of its beginning and those of the rest, and the first fault of a
tag is kept. -/
theorem Passes.taken_eq (passes : Passes reading text reached rest) :
    ∃ tokens, reading.1.taken reading.2 text = tokens ++ reached.1.taken reached.2 rest ∧
      reached.1.brokenTag = reading.1.brokenTag.or (tokens.findSome? Token.tagFault?) := by
  induction passes with
  | gap reading isGap rest =>
    exact ⟨[], taken_congr (next_gap isGap _ rest), Option.or_none.symm⟩
  | @next reading following reached gap text rest spelling isGap wellFormed ends taken _
      inductionHypothesis =>
    obtain ⟨token, isToken, stepped⟩ := take_eq_some.1 taken
    obtain ⟨tokens, split, broken⟩ := inductionHypothesis
    refine ⟨token :: tokens, ?_, ?_⟩
    · rw [taken_token (Lexeme.next_append wellFormed isToken isGap ends) stepped, split]
      rfl
    · rw [broken, brokenTag_step stepped, List.findSome?_cons, Option.or_assoc]
      cases token.tagFault? <;> rfl

end DeclCodec.Draft

/-! ## Units -/

namespace DeclCodec.UnitText

variable {source : UnitText}

/-- The unit with another text. -/
def withChars (source : UnitText) (text : List Char) : UnitText :=
  { source with text := String.ofList text }

/-- The place where the text of a unit begins to be read. -/
def opening (source : UnitText) : Draft × Place := (.empty source.name, .opening)

/-- What is read of a unit's text, or the text from the place where it is wrong. -/
def reached (source : UnitText) : Except (List Char) (Draft × Place × List Char) :=
  source.opening.1.read source.opening.2 source.text.toList source.text.toList

/-- A text whose reader gets stuck is refused there. -/
theorem parse_of_error {rest : List Char} (stuck : source.reached = .error rest) :
    source.parse = .error (.invalidDeclaration source.name (.ofRest source.text.toList rest)) := by
  rw [parse, DeclUnit.parse, Draft.ofUnit]
  rw [reached, opening] at stuck
  rw [stuck]

/-- A text that is read to its end is refused for a broken tag or not at all. -/
theorem parse_of_finish {draft done : Draft} {place : Place} {last : List Char}
    (read : source.reached = .ok (draft, place, last)) (finishes : draft.finish place = some done) :
    source.parse = match done.brokenTag with
      | some cause => .error (.invalidTagLiteral cause)
      | none => .ok ⟨source.name, done.package.getD source.package, done.decls⟩ := by
  rw [parse, DeclUnit.parse, Draft.ofUnit]
  rw [reached, opening] at read
  rw [read]
  dsimp only
  cases isBroken : done.brokenTag <;> simp only [finishes, isBroken]

/-- A unit is read from a text that is read to its end, without a broken tag. -/
theorem exists_finish_of_parse {unit : DeclUnit} (parsed : source.parse = .ok unit) :
    ∃ draft place last done, source.reached = .ok (draft, place, last) ∧
      draft.finish place = some done ∧ done.brokenTag = none ∧ unit.decls = done.decls := by
  rw [parse] at parsed
  obtain ⟨draft, place, last, done, read, finishes, unbroken, rfl⟩ :=
    DeclUnit.exists_run_of_parse parsed
  exact ⟨draft, place, last, done, read, finishes, unbroken, rfl⟩

/-- A text is read as its rest is from where the reader passes over its beginning. -/
theorem reached_of_passes {text rest : List Char} {ending : Draft × Place}
    (passes : Draft.Passes source.opening text ending rest) :
    ∃ last, (source.withChars text).reached = ending.1.read ending.2 last rest := by
  obtain ⟨last, read⟩ := passes.read_eq text
  refine ⟨last, ?_⟩
  rw [← read, reached, withChars, String.toList_ofList]
  rfl

end DeclCodec.UnitText
