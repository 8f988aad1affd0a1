import DeclCodec.Decl.Reader
import Mathlib.Tactic.Common

/-!
# Laid-out text

A text is laid out from spellings, which are words, numbers, marks and tags as they
are written, with gaps between them. A gap is any mix of white space, line comments
and closed block comments; two words need one that is not empty between them.

What a spelling is taken for depends on where the reader stands, and so does
whether it is taken at all. Where it is taken, the reader passes over the gap in
front of it and takes all of it, whatever comes behind. So reading a laid-out text
is taking its spellings one after another, and the gaps make no difference.
-/

namespace DeclCodec

/-- Something written between two gaps. -/
inductive Spelling
  | word (letters : List Char)
  | number (digits : List Char)
  | mark (char : Char)
  /-- A tag between backquotes. -/
  | rawTag (text : List Char)
  /-- A tag between double quotes, as it stands there. -/
  | quotedTag (inside : List Char)
deriving DecidableEq, Repr

/-- A word: a letter or an underscore, and then letters, digits and underscores. -/
def IsWord (letters : List Char) : Prop :=
  ∃ first rest, letters = first :: rest ∧ Token.isWordStart first = true ∧
    ∀ c ∈ rest, Token.isWordPart c = true

instance : DecidablePred IsWord
  | [] => isFalse fun ⟨_, _, empty, _⟩ => by cases empty
  | first :: rest =>
    -- along the list, where the search for an instance may go through all characters
    haveI : Decidable (∀ c ∈ rest, Token.isWordPart c = true) := List.decidableBAll _ rest
    decidable_of_iff
      (Token.isWordStart first = true ∧ ∀ c ∈ rest, Token.isWordPart c = true)
      ⟨fun ⟨starts, parts⟩ => ⟨first, rest, rfl, starts, parts⟩,
        fun ⟨_, _, same, starts, parts⟩ => by cases same; exact ⟨starts, parts⟩⟩

/-- The marks of declarations. -/
def declarationMarks : List Char :=
  ['*', '[', ']', '(', ')', '\x7b', '\x7d', ',', '.', '=']

namespace Spelling

/-- The characters of a spelling. -/
def chars : Spelling → List Char
  | .word letters => letters
  | .number digits => digits
  | .mark char => [char]
  | .rawTag text => '\x60' :: (text ++ ['\x60'])
  | .quotedTag inside => '"' :: (inside ++ ['"'])

/-- Would another word right behind the spelling be taken for a part of it? -/
def isWord : Spelling → Bool
  | .word _ => true
  | .number _ => true
  | _ => false

/-- Is the spelling of the kind that it is said to be? A tag ends with its closing quote. -/
def WellFormed : Spelling → Prop
  | .word letters => IsWord letters
  | .number digits => digits ≠ [] ∧ ∀ c ∈ digits, c.isDigit = true
  | .mark char => char ∈ declarationMarks
  | .rawTag text => '\x60' ∉ text
  | .quotedTag inside => ∀ rest : Points,
    Text.enclosed? false (Text.points inside ++ .char '"' :: rest) = some (Text.points inside, rest)

end Spelling

/-- White space, line comments and closed block comments, in any order. -/
inductive IsGap : List Char → Prop
  | empty : IsGap []
  | blank {c : Char} {rest : List Char} (white : Token.isGap c = true) (gap : IsGap rest) :
      IsGap (c :: rest)
  | lineComment {comment rest : List Char} (oneLine : '\n' ∉ comment) (gap : IsGap rest) :
      IsGap ('/' :: '/' :: (comment ++ '\n' :: rest))
  | blockComment {comment rest : List Char} (notClosed : ¬['*', '/'] <:+: comment)
      (gap : IsGap rest) :
      IsGap ('/' :: '*' :: (comment ++ '*' :: '/' :: rest))

/-- Spellings laid out in a text, given whether a word stands right before it. The text may end in a
line comment. -/
inductive Layout : Bool → List Spelling → List Char → Prop
  | ending {afterWord : Bool} {gap : List Char} (isGap : IsGap gap) : Layout afterWord [] gap
  | endingInComment {afterWord : Bool} {gap comment : List Char} (isGap : IsGap gap)
      (oneLine : '\n' ∉ comment) : Layout afterWord [] (gap ++ '/' :: '/' :: comment)
  | next {afterWord : Bool} {gap : List Char} {spelling : Spelling} {rest : List Spelling}
      {text : List Char} (isGap : IsGap gap)
      (apart : afterWord = true → spelling.isWord = true → gap ≠ [])
      (laidOut : Layout spelling.isWord rest text) :
      Layout afterWord (spelling :: rest) (gap ++ (spelling.chars ++ text))

/-- A spelling needs no gap in front of it, if it does not stand between two words. -/
theorem Layout.unspaced {afterWord : Bool} {spelling : Spelling} {rest : List Spelling}
    {text : List Char} (apart : ¬(afterWord = true ∧ spelling.isWord = true))
    (laidOut : Layout spelling.isWord rest text) :
    Layout afterWord (spelling :: rest) (spelling.chars ++ text) :=
  .next .empty (fun after isWord => absurd ⟨after, isWord⟩ apart) laidOut

/-! ## Gaps -/

namespace Token

attribute [local simp] skipGaps

/-- A character that is no white space and begins no comment ends a gap. -/
theorem skipGaps_solid {c : Char} (solid : isGap c = false) (noSlash : c ≠ '/') (rest : List Char) :
    skipGaps .blank (c :: rest) = c :: rest := by
  rw [skipGaps.eq_def]
  split <;> simp_all

/-- A line comment goes up to the end of its line. -/
theorem skipGaps_lineComment {comment : List Char} (oneLine : '\n' ∉ comment) (rest : List Char) :
    skipGaps .lineComment (comment ++ '\n' :: rest) = skipGaps .blank rest := by
  induction comment with
  | nil => simp
  | cons c comment inductionHypothesis =>
    rw [List.mem_cons, not_or] at oneLine
    rw [List.cons_append, skipGaps, if_neg (Ne.symm oneLine.1)]
    exact inductionHypothesis oneLine.2

/-- A line comment may go up to the end of the text. -/
theorem skipGaps_lastComment {comment : List Char} (oneLine : '\n' ∉ comment) :
    skipGaps .lineComment comment = [] := by
  induction comment with
  | nil => rfl
  | cons c comment inductionHypothesis =>
    rw [List.mem_cons, not_or] at oneLine
    rw [skipGaps, if_neg (Ne.symm oneLine.1)]
    exact inductionHypothesis oneLine.2

/-- A block comment goes up to where it is closed first. -/
theorem skipGaps_blockComment (opening : List Char) {comment : List Char}
    (notClosed : ¬['*', '/'] <:+: comment) (rest : List Char) :
    skipGaps (.blockComment opening) (comment ++ '*' :: '/' :: rest) = skipGaps .blank rest := by
  induction comment with
  | nil => simp
  | cons c comment inductionHypothesis =>
    have later := inductionHypothesis fun inside =>
      notClosed (inside.trans (List.infix_cons (List.infix_refl _)))
    have stillOpen : ¬(c = '*' ∧ comment.head? = some '/') := by
      rintro ⟨rfl, slash⟩
      cases comment with
      | nil => cases slash
      | cons d comment =>
        cases slash
        exact notClosed ⟨[], comment, rfl⟩
    rw [List.cons_append, skipGaps.eq_def]
    cases comment <;> grind

/-- A gap is passed over, and what follows is gone on with. -/
theorem skipGaps_append {gap : List Char} (isGap : IsGap gap) (rest : List Char) :
    skipGaps .blank (gap ++ rest) = skipGaps .blank rest := by
  induction isGap with
  | empty => rfl
  | @blank c gap white _ inductionHypothesis =>
    have noSlash : c ≠ '/' := by
      rintro rfl
      cases white
    rw [List.cons_append, skipGaps.eq_def]
    split <;> simp_all
  | @lineComment comment gap oneLine _ inductionHypothesis =>
    rw [List.cons_append, List.cons_append, List.append_assoc, List.cons_append, skipGaps,
      skipGaps_lineComment oneLine, inductionHypothesis]
  | @blockComment comment gap notClosed _ inductionHypothesis =>
    rw [List.cons_append, List.cons_append, List.append_assoc, List.cons_append, List.cons_append,
      skipGaps, skipGaps_blockComment _ notClosed, inductionHypothesis]

end Token

/-! ## Spellings -/

/-- What a spelling is taken for where these tokens are expected. -/
def Expectation.token? (expected : Expectation) : Spelling → Option Token
  | .word letters =>
    if expected.words then some (Token.ofWord expected.keywords letters)
    else (expected.keywords.find? fun keyword => keyword.text == letters).map .keyword
  | .number digits =>
    if expected.number then some (.number (Nat.ofDigitChars 10 digits 0)) else none
  | .mark char => if expected.marks.contains char then some (.mark char) else none
  | .rawTag text => if expected.tags then some (.rawTag (String.ofList text)) else none
  | .quotedTag inside => if expected.tags then some (.quotedTag inside) else none

/-- No keyword begins with another one. -/
theorem Keyword.eq_of_prefixes {keyword other : Keyword} {text : List Char}
    (begins : keyword.text <+: text) (otherBegins : other.text <+: text) : keyword = other := by
  have oneOfThem : keyword.text <+: other.text ∨ other.text <+: keyword.text :=
    List.prefix_or_prefix_of_prefix begins otherBegins
  revert oneOfThem
  cases keyword <;> cases other <;> decide

/-- An expected keyword is taken, whatever follows. -/
theorem Token.keywordAt?_append {keywords : List Keyword} {letters : List Char} {keyword : Keyword}
    (found : keywords.find? (fun keyword => keyword.text == letters) = some keyword)
    (rest : List Char) : keywordAt? keywords (letters ++ rest) = some (.keyword keyword, rest) := by
  have isLetters : keyword.text = letters := by simpa using List.find?_some found
  have begins : keyword.text <+: letters ++ rest := ⟨rest, by rw [isLetters]⟩
  have first : keywords.find? (fun candidate => candidate.text.isPrefixOf (letters ++ rest)) =
      some keyword := by
    rw [← found]
    congr 1
    funext candidate
    rw [Bool.eq_iff_iff, List.isPrefixOf_iff_prefix, beq_iff_eq]
    constructor
    · intro candidateBegins
      rw [Keyword.eq_of_prefixes candidateBegins begins, isLetters]
    · intro same
      exact ⟨rest, by rw [same]⟩
  rw [keywordAt?, first, Option.map_some, isLetters, List.drop_left]

/-- A raw tag ends at its closing backquote. -/
theorem Token.rawInside?_append {text : List Char} (noBackquote : '\x60' ∉ text)
    (rest : List Char) : rawInside? (text ++ '\x60' :: rest) = some (text, rest) := by
  induction text with
  | nil => simp [rawInside?]
  | cons c text inductionHypothesis =>
    rw [List.mem_cons, not_or] at noBackquote
    rw [List.cons_append, rawInside?, if_neg (Ne.symm noBackquote.1),
      inductionHypothesis noBackquote.2]
    rfl

/-- Characters of a kind are taken up to the first that is not of it. -/
theorem takeWhile_append_of_head {kind : Char → Bool} {letters rest : List Char}
    (all : ∀ c ∈ letters, kind c = true) (ends : ∀ c ∈ rest.head?, kind c = false) :
    (letters ++ rest).takeWhile kind = letters ∧ (letters ++ rest).dropWhile kind = rest := by
  rw [List.takeWhile_append_of_pos all, List.dropWhile_append_of_pos all]
  cases rest with
  | nil => simp
  | cons c rest => simp [ends c rfl]

/-- A word goes on with digits as well. -/
theorem Token.isWordPart_of_isDigit {c : Char} (digit : c.isDigit = true) :
    isWordPart c = true := by
  simp [isWordPart, Char.isAlphanum, digit]

/-- No word begins with a digit. -/
theorem Token.isWordStart_of_isDigit {c : Char} (digit : c.isDigit = true) :
    isWordStart c = false := by
  have notUnderscore : c ≠ '_' := by
    rintro rfl
    cases digit
  unfold Char.isDigit at digit
  unfold isWordStart Char.isAlpha Char.isUpper Char.isLower
  grind

/-- White space is no part of a word. -/
theorem Token.isGap_of_isWordPart {c : Char} (part : isWordPart c = true) : isGap c = false := by
  rw [Bool.eq_false_iff]
  intro white
  simp only [isGap, Bool.or_eq_true, beq_iff_eq] at white
  rcases white with (((rfl | rfl) | rfl) | rfl) | rfl <;> cases part

/-- A mark begins no other token. -/
theorem Token.plain_of_mem_marks {c : Char} (isMark : c ∈ declarationMarks) :
    isWordStart c = false ∧ c.isDigit = false ∧ c ≠ '\x60' ∧ c ≠ '"' := by
  simp only [declarationMarks, List.mem_cons, List.not_mem_nil, or_false] at isMark
  rcases isMark with rfl | rfl | rfl | rfl | rfl | rfl | rfl | rfl | rfl | rfl <;> decide

/-- A mark ends a gap and a word. -/
theorem Token.solid_of_mem_marks {c : Char} (isMark : c ∈ declarationMarks) :
    isGap c = false ∧ c ≠ '/' ∧ isWordPart c = false := by
  simp only [declarationMarks, List.mem_cons, List.not_mem_nil, or_false] at isMark
  rcases isMark with rfl | rfl | rfl | rfl | rfl | rfl | rfl | rfl | rfl | rfl <;> decide

/-- Is what follows a spelling no part of it? A word that is expected whole ends where no part of a
word follows, and a number where no digit does. Nothing else is ever taken for longer. -/
def Spelling.Ends (expected : Expectation) (rest : List Char) : Spelling → Prop
  | .word _ => expected.words = true → ∀ c ∈ rest.head?, Token.isWordPart c = false
  | .number _ => ∀ c ∈ rest.head?, c.isDigit = false
  | _ => True

/-- What is no part of a word is no part of any spelling. -/
theorem Spelling.ends_of_noWord {spelling : Spelling} {rest : List Char}
    (ends : spelling.isWord = true → ∀ c ∈ rest.head?, Token.isWordPart c = false)
    (expected : Expectation) : spelling.Ends expected rest := by
  cases spelling with
  | word letters => exact fun _ => ends rfl
  | number digits =>
    intro c isHead
    by_contra digit
    rw [Bool.not_eq_false] at digit
    have part := Token.isWordPart_of_isDigit digit
    rw [ends rfl c isHead] at part
    cases part
  | _ => trivial

/-- Where a spelling is expected it is taken to its end, if what follows is no part of it. -/
theorem Token.scan?_append {expected : Expectation} {spelling : Spelling} {token : Token}
    (wellFormed : spelling.WellFormed) (taken : expected.token? spelling = some token)
    {rest : List Char} (ends : spelling.Ends expected rest) :
    scan? expected (spelling.chars ++ rest) = some (token, rest) := by
  cases spelling with
  | word letters =>
    obtain ⟨first, others, rfl, starts, parts⟩ := wellFormed
    simp only [Spelling.chars, List.cons_append, scan?, starts, if_true]
    simp only [Expectation.token?] at taken
    split at taken
    · next words =>
      cases taken
      obtain ⟨taking, dropping⟩ := takeWhile_append_of_head parts (ends words)
      rw [if_pos words, taking, dropping]
    · next noWords =>
      obtain ⟨keyword, found, rfl⟩ := Option.map_eq_some_iff.1 taken
      rw [if_neg noWords, ← List.cons_append]
      exact keywordAt?_append found rest
  | number digits =>
    obtain ⟨nonempty, all⟩ := wellFormed
    cases digits with
    | nil => exact absurd rfl nonempty
    | cons first others =>
      have firstDigit := all first List.mem_cons_self
      obtain ⟨taking, dropping⟩ := takeWhile_append_of_head
        (fun c among => all c (List.mem_cons_of_mem _ among)) ends
      simp only [Expectation.token?] at taken
      split at taken
      · next isExpected =>
        cases taken
        simp [Spelling.chars, scan?, isWordStart_of_isDigit firstDigit, firstDigit, isExpected,
          taking, dropping]
      · cases taken
  | mark char =>
    simp only [Expectation.token?] at taken
    split at taken
    · next isExpected =>
      cases taken
      obtain ⟨noStart, noDigit, noBackquote, noQuote⟩ := plain_of_mem_marks wellFormed
      rw [Spelling.chars, List.singleton_append, scan?, if_neg (Bool.eq_false_iff.1 noStart),
        if_neg (Bool.eq_false_iff.1 noDigit), if_neg noBackquote, if_neg noQuote,
        if_pos isExpected]
    · cases taken
  | rawTag text =>
    simp only [Expectation.token?] at taken
    split at taken
    · next isExpected =>
      cases taken
      simp [Spelling.chars, scan?, isExpected, show isWordStart '\x60' = false by decide,
        show Char.isDigit '\x60' = false by decide, rawInside?_append wellFormed]
    · cases taken
  | quotedTag inside =>
    simp only [Expectation.token?] at taken
    split at taken
    · next isExpected =>
      cases taken
      have closed : quotedInside? (inside ++ '"' :: rest) = some (inside, rest) :=
        quotedInside?_eq_some_iff.2 (by simpa using wellFormed (Text.points rest))
      simp [Spelling.chars, scan?, isExpected, show isWordStart '"' = false by decide,
        show Char.isDigit '"' = false by decide, closed]
    · cases taken

/-- A spelling begins with a character that ends a gap, and with no part of a word unless it is a
word itself. -/
theorem Spelling.exists_chars_eq {spelling : Spelling} (wellFormed : spelling.WellFormed) :
    ∃ first rest, spelling.chars = first :: rest ∧ Token.isGap first = false ∧ first ≠ '/' ∧
      (spelling.isWord = false → Token.isWordPart first = false) := by
  cases spelling with
  | word letters =>
    obtain ⟨first, rest, rfl, starts, _⟩ := wellFormed
    refine ⟨first, rest, rfl, ?_, ?_, fun notWord => by cases notWord⟩
    · exact Token.isGap_of_isWordPart (Token.isWordPart_of_isWordStart starts)
    · rintro rfl
      cases starts
  | number digits =>
    obtain ⟨nonempty, all⟩ := wellFormed
    cases digits with
    | nil => exact absurd rfl nonempty
    | cons first rest =>
      have digit := all first List.mem_cons_self
      refine ⟨first, rest, rfl, ?_, ?_, fun notWord => by cases notWord⟩
      · exact Token.isGap_of_isWordPart (Token.isWordPart_of_isDigit digit)
      · rintro rfl
        cases digit
  | mark char =>
    have solid := Token.solid_of_mem_marks wellFormed
    exact ⟨char, [], rfl, solid.1, solid.2.1, fun _ => solid.2.2⟩
  | rawTag text => exact ⟨_, _, rfl, by decide, by decide, fun _ => by decide⟩
  | quotedTag inside => exact ⟨_, _, rfl, by decide, by decide, fun _ => by decide⟩

/-- What goes on with a gap that is not empty, or with no part of a word behind it, goes on with no
part of a word. -/
theorem IsGap.ends_word {gap rest : List Char} (isGap : IsGap gap)
    (apart : gap ≠ [] ∨ ∀ c ∈ rest.head?, Token.isWordPart c = false) :
    ∀ c ∈ (gap ++ rest).head?, Token.isWordPart c = false := by
  cases isGap with
  | empty => exact apart.resolve_left fun notEmpty => notEmpty rfl
  | @blank c gap white _ =>
    rintro _ ⟨⟩
    rw [Bool.eq_false_iff]
    intro part
    rw [Token.isGap_of_isWordPart part] at white
    cases white
  | lineComment _ _ =>
    rintro _ ⟨⟩
    decide
  | blockComment _ _ =>
    rintro _ ⟨⟩
    decide

/-- Behind a word a laid-out text goes on with no part of a word. -/
theorem Layout.ends_word {spellings : List Spelling} {text : List Char}
    (layout : Layout true spellings text)
    (wellFormed : ∀ spelling ∈ spellings, spelling.WellFormed) :
    ∀ c ∈ text.head?, Token.isWordPart c = false := by
  cases layout with
  | ending isGap =>
    rw [← List.append_nil text]
    exact isGap.ends_word (.inr (by simp))
  | endingInComment isGap _ =>
    refine isGap.ends_word (.inr ?_)
    rintro _ ⟨⟩
    decide
  | @next _ gap spelling rest text isGap apart _ =>
    refine isGap.ends_word ?_
    cases isWord : spelling.isWord with
    | true => exact .inl (apart rfl isWord)
    | false =>
      obtain ⟨first, others, begins, _, _, notPart⟩ :=
        spelling.exists_chars_eq (wellFormed spelling List.mem_cons_self)
      right
      rw [begins]
      rintro _ ⟨⟩
      exact notPart isWord

/-! ## Reading -/

/-- An expected spelling with a gap in front of it is what comes next. -/
theorem Lexeme.next_append {expected : Expectation} {spelling : Spelling} {token : Token}
    (wellFormed : spelling.WellFormed) (taken : expected.token? spelling = some token)
    {gap rest : List Char} (isGap : IsGap gap) (ends : spelling.Ends expected rest) :
    Lexeme.next expected (gap ++ (spelling.chars ++ rest)) =
      .token token (spelling.chars ++ rest) rest := by
  obtain ⟨first, others, begins, notGap, noSlash, _⟩ := spelling.exists_chars_eq wellFormed
  have solid : Token.skipGaps .blank (spelling.chars ++ rest) = spelling.chars ++ rest := by
    rw [begins]
    exact Token.skipGaps_solid notGap noSlash _
  have scanned := Token.scan?_append wellFormed taken ends
  rw [begins, List.cons_append] at scanned
  rw [Lexeme.next, Token.skipGaps_append isGap, solid, begins, List.cons_append]
  dsimp only
  rw [scanned]

/-- Reading ends where nothing follows. -/
theorem Draft.read_ending {draft : Draft} {place : Place} {text : List Char}
    (next : Lexeme.next place.expected text = .ending) (last : List Char) :
    draft.read place last text = .ok (draft, place, last) := by
  rw [read.eq_def]
  split <;> simp_all

/-- Reading goes on behind a token that can stand here. -/
theorem Draft.read_token {draft : Draft} {place : Place} {token : Token}
    {text start rest : List Char}
    {following : Draft × Place} (next : Lexeme.next place.expected text = .token token start rest)
    (stepped : draft.step place token = some following) (last : List Char) :
    draft.read place last text = following.1.read following.2 start rest := by
  rw [read.eq_def]
  split <;> simp_all

/-- Take a spelling, if it is expected and its token can stand here. -/
def Draft.take (reading : Draft × Place) (spelling : Spelling) : Option (Draft × Place) := do
  let token ← reading.2.expected.token? spelling
  reading.1.step reading.2 token

/-- The first spelling is taken, and then the others. -/
theorem Draft.run_cons {reading next : Draft × Place} {spelling : Spelling}
    (first : take reading spelling = some next) (rest : List Spelling) :
    (spelling :: rest).foldlM take reading = rest.foldlM take next := by
  rw [List.foldlM_cons, first, Option.bind_eq_bind, Option.bind_some]

/-- The spellings in front are taken, and then the others. -/
theorem Draft.run_append {reading next : Draft × Place} {front : List Spelling}
    (taken : front.foldlM take reading = some next) (rest : List Spelling) :
    (front ++ rest).foldlM take reading = rest.foldlM take next := by
  rw [List.foldlM_append, taken, Option.bind_eq_bind, Option.bind_some]

/-- A spelling that is expected is taken as its token. -/
theorem Draft.take_eq {draft : Draft} {place : Place} {spelling : Spelling} {token : Token}
    (isToken : place.expected.token? spelling = some token) :
    take (draft, place) spelling = draft.step place token := by
  rw [take, isToken, Option.bind_eq_bind, Option.bind_some]

/-- Nothing but a gap follows where a text goes on with a gap only. -/
theorem Lexeme.next_ending {text : List Char} (nothing : Token.skipGaps .blank text = [])
    (expected : Expectation) : Lexeme.next expected text = .ending := by
  rw [Lexeme.next, nothing]

/-- Reading a laid-out text is taking its spellings. -/
theorem Layout.read_eq {afterWord : Bool} {spellings : List Spelling} {text : List Char}
    (layout : Layout afterWord spellings text)
    (wellFormed : ∀ spelling ∈ spellings, spelling.WellFormed) {reading finished : Draft × Place}
    (taken : spellings.foldlM Draft.take reading = some finished) (last : List Char) :
    ∃ last', reading.1.read reading.2 last text = .ok (finished.1, finished.2, last') := by
  induction layout generalizing reading last with
  | @ending _ gap isGap =>
    cases taken
    have nothing : Token.skipGaps .blank gap = [] := by
      rw [← List.append_nil gap, Token.skipGaps_append isGap]
      rfl
    exact ⟨last, Draft.read_ending (Lexeme.next_ending nothing _) last⟩
  | @endingInComment _ gap comment isGap oneLine =>
    cases taken
    have nothing : Token.skipGaps .blank (gap ++ '/' :: '/' :: comment) = [] := by
      rw [Token.skipGaps_append isGap, Token.skipGaps, Token.skipGaps_lastComment oneLine]
    exact ⟨last, Draft.read_ending (Lexeme.next_ending nothing _) last⟩
  | @next _ gap spelling rest text isGap _ laidOut inductionHypothesis =>
    rw [List.foldlM_cons] at taken
    obtain ⟨following, first, others⟩ := Option.bind_eq_some_iff.1 taken
    obtain ⟨token, isToken, stepped⟩ := Option.bind_eq_some_iff.1 first
    have restWellFormed : ∀ spelling ∈ rest, spelling.WellFormed :=
      fun other member => wellFormed other (List.mem_cons_of_mem _ member)
    have ends : spelling.Ends reading.2.expected text :=
      spelling.ends_of_noWord (fun isWord => (isWord ▸ laidOut).ends_word restWellFormed) _
    have lexeme := Lexeme.next_append (wellFormed spelling List.mem_cons_self) isToken isGap ends
    obtain ⟨last', read⟩ := inductionHypothesis restWellFormed others (spelling.chars ++ text)
    exact ⟨last', (Draft.read_token lexeme stepped last).trans read⟩

end DeclCodec
