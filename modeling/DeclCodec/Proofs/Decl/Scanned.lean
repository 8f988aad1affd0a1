import DeclCodec.Proofs.Decl.Layout
import DeclCodec.Proofs.Json.Literals

/-!
# What is scanned

What the reader passes over in front of a token is a gap, and what it takes for a
token is a spelling that is expected at its place, up to where the spelling ends.
So every text is made of spellings with gaps in front of them as far as it is read,
and which token is taken depends on the spelling and on one character behind it only.
-/

namespace DeclCodec

/-- What a quote closes stands on one line, and the quote closes it whatever follows. -/
theorem Text.enclosed?_quote {text : Points} {parts : Points × Points}
    (closed : enclosed? false text = some parts) :
    .char '\n' ∉ parts.1 ∧
      ∀ rest, enclosed? false (parts.1 ++ .char '"' :: rest) = some (parts.1, rest) := by
  fun_induction enclosed? false text generalizing parts with
  | case1 => cases closed
  | case2 => cases closed
  | case3 => cases closed
  | case4 point rest noLine inductionHypothesis =>
    obtain ⟨later, found, rfl⟩ := Option.map_eq_some_iff.1 closed
    obtain ⟨oneLine, onward⟩ := inductionHypothesis found
    refine ⟨?_, fun rest => ?_⟩
    · simp only [List.mem_cons, not_or]
      exact ⟨by decide, Ne.symm noLine, oneLine⟩
    · rw [List.cons_append, List.cons_append, enclosed?_escape noLine, onward]
      rfl
  | case5 =>
    cases closed
    exact ⟨List.not_mem_nil, fun rest => by simp [enclosed?]⟩
  | case6 => cases closed
  | case7 point rest noEnd noEscape noQuote noLine inductionHypothesis =>
    obtain ⟨later, found, rfl⟩ := Option.map_eq_some_iff.1 closed
    obtain ⟨oneLine, onward⟩ := inductionHypothesis found
    have plainLine : point ≠ .char '\n' := fun same => noLine ⟨same, rfl⟩
    have plainSlash : point ≠ .char '\\' := by
      rintro rfl
      cases rest with
      | nil => exact noEnd rfl rfl
      | cons d rest => exact noEscape d rest rfl rfl
    refine ⟨?_, fun rest => ?_⟩
    · simp only [List.mem_cons, not_or]
      exact ⟨Ne.symm plainLine, oneLine⟩
    · rw [List.cons_append, enclosed?_cons ⟨noQuote, plainLine, plainSlash⟩, onward]
      rfl

/-- A keyword is found by its text. -/
theorem Keyword.find?_text {keywords : List Keyword} {keyword : Keyword}
    (member : keyword ∈ keywords) :
    keywords.find? (fun other => other.text == keyword.text) = some keyword := by
  cases found : keywords.find? (fun other => other.text == keyword.text) with
  | none => exact absurd (beq_self_eq_true _) (List.find?_eq_none.1 found keyword member)
  | some other =>
    have sameText : other.text = keyword.text := by simpa using List.find?_some found
    have begins : other.text <+: keyword.text := sameText ▸ List.prefix_refl _
    rw [Keyword.eq_of_prefixes begins (List.prefix_refl keyword.text)]

namespace Token

/-! ## Gaps -/

/-- What is passed over up to the given rest, from each state between tokens: a block comment that
is not closed is given back from its beginning. -/
def Gap.Passed (text rest : List Char) : Gap → Prop
  | .blank => ∃ gap, IsGap gap ∧ text = gap ++ rest
  | .lineComment => ∃ comment gap, '\n' ∉ comment ∧ IsGap gap ∧
      text = comment ++ '\n' :: (gap ++ rest)
  | .blockComment opening => rest = opening ∨ ∃ comment gap, ¬['*', '/'] <:+: comment ∧
      IsGap gap ∧ text = comment ++ '*' :: '/' :: (gap ++ rest)

/-- What is passed over is a gap, unless it goes up to the end of the text. -/
theorem passed_skipGaps (state : Gap) (text : List Char) :
    skipGaps state text = [] ∨ state.Passed text (skipGaps state text) := by
  fun_induction skipGaps state text with
  | case1 => exact .inl rfl
  | case2 rest inductionHypothesis =>
    refine inductionHypothesis.imp_right ?_
    rintro ⟨comment, gap, oneLine, isGap, split⟩
    exact ⟨_, .lineComment oneLine isGap, by simpa using split⟩
  | case3 rest inductionHypothesis =>
    refine inductionHypothesis.imp_right ?_
    rintro (unclosed | ⟨comment, gap, notClosed, isGap, split⟩)
    · exact ⟨[], .empty, by rw [unclosed]; rfl⟩
    · exact ⟨_, .blockComment notClosed isGap, by simpa using split⟩
  | case4 c rest _ _ white inductionHypothesis =>
    refine inductionHypothesis.imp_right ?_
    rintro ⟨gap, isGap, split⟩
    exact ⟨_, .blank white isGap, by rw [List.cons_append, ← split]⟩
  | case5 c rest => exact .inr ⟨[], .empty, rfl⟩
  | case6 => exact .inl rfl
  | case7 c rest inductionHypothesis =>
    refine inductionHypothesis.imp_right ?_
    split
    · next isEnd =>
      rintro ⟨gap, isGap, split⟩
      exact ⟨[], gap, List.not_mem_nil, isGap, by rw [isEnd, List.nil_append, ← split]⟩
    · next notEnd =>
      rintro ⟨comment, gap, oneLine, isGap, split⟩
      refine ⟨c :: comment, gap, ?_, isGap, by rw [List.cons_append, ← split]⟩
      rw [List.mem_cons, not_or]
      exact ⟨Ne.symm notEnd, oneLine⟩
  | case8 opening => exact .inr (.inl rfl)
  | case9 opening rest inductionHypothesis =>
    refine inductionHypothesis.imp_right ?_
    rintro ⟨gap, isGap, split⟩
    exact .inr ⟨[], gap, by decide, isGap, by rw [List.nil_append, ← split]⟩
  | case10 opening c rest notClosing inductionHypothesis =>
    refine inductionHypothesis.imp_right (Or.imp_right ?_)
    rintro ⟨comment, gap, notClosed, isGap, split⟩
    refine ⟨c :: comment, gap, ?_, isGap, by rw [List.cons_append, ← split]⟩
    rw [List.infix_cons_iff, not_or]
    refine ⟨?_, notClosed⟩
    rintro ⟨others, begins⟩
    obtain ⟨rfl, later⟩ := List.cons.inj begins
    rw [← later] at split
    exact notClosing _ rfl split

/-- What is left behind a gap begins with none. -/
theorem skipGaps_skipGaps (text : List Char) :
    skipGaps .blank (skipGaps .blank text) = skipGaps .blank text := by
  rcases passed_skipGaps .blank text with nothing | ⟨gap, isGap, split⟩
  · rw [nothing]
    rfl
  · conv_rhs => rw [split, skipGaps_append isGap]

/-! ## Spellings -/

/-- What is inside of a raw tag holds no backquote and is closed by one. -/
theorem eq_of_rawInside? {text inside rest : List Char}
    (closed : rawInside? text = some (inside, rest)) :
    '\x60' ∉ inside ∧ text = inside ++ '\x60' :: rest := by
  induction text generalizing inside with
  | nil => cases closed
  | cons c text inductionHypothesis =>
    rw [rawInside?] at closed
    split at closed
    · next isEnd =>
      cases closed
      exact ⟨List.not_mem_nil, by rw [isEnd]; rfl⟩
    · next notEnd =>
      obtain ⟨⟨later, _⟩, found, same⟩ := Option.map_eq_some_iff.1 closed
      cases same
      obtain ⟨noBackquote, split⟩ := inductionHypothesis found
      rw [List.mem_cons, not_or]
      exact ⟨⟨Ne.symm notEnd, noBackquote⟩, by rw [split]; rfl⟩

/-- A run of characters of a kind ends where the next is of another kind. -/
theorem head_dropWhile {kind : Char → Bool} (text : List Char) :
    ∀ c ∈ (text.dropWhile kind).head?, kind c = false := by
  induction text with
  | nil => exact fun _ isHead => by cases isHead
  | cons c text inductionHypothesis =>
    cases isKind : kind c with
    | true => rwa [List.dropWhile_cons_of_pos isKind]
    | false =>
      rw [List.dropWhile_cons_of_neg (Bool.eq_false_iff.1 isKind)]
      rintro _ ⟨⟩
      exact isKind

/-- Where no word is expected, an expected keyword is a spelling of its own, whatever follows. -/
theorem exists_spelling_of_keywordAt? {expected : Expectation} {text rest : List Char}
    {token : Token} (noWords : ¬expected.words = true)
    (scanned : keywordAt? expected.keywords text = some (token, rest)) :
    ∃ spelling : Spelling, spelling.WellFormed ∧ expected.token? spelling = some token ∧
      spelling.Ends expected rest ∧ text = spelling.chars ++ rest := by
  obtain ⟨keyword, found, same⟩ := Option.map_eq_some_iff.1 scanned
  obtain ⟨rfl, rfl⟩ := Prod.mk.inj same
  have begins : keyword.text <+: text :=
    List.isPrefixOf_iff_prefix.1 (by simpa using List.find?_some found)
  have first := Keyword.find?_text (List.mem_of_find?_eq_some found)
  have isWord : IsWord keyword.text := by cases keyword <;> decide
  refine ⟨.word keyword.text, isWord, ?_, fun words => absurd words noWords, ?_⟩
  · rw [Expectation.token?, if_neg noWords, first]
    rfl
  · exact (List.prefix_iff_eq_append.1 begins).symm

/-- What is scanned is a spelling that is expected, up to where it ends, if the expected marks are
marks of declarations. -/
theorem exists_spelling {expected : Expectation} {text rest : List Char} {token : Token}
    (marks : ∀ c ∈ expected.marks, c ∈ declarationMarks)
    (scanned : scan? expected text = some (token, rest)) :
    ∃ spelling : Spelling, spelling.WellFormed ∧ expected.token? spelling = some token ∧
      spelling.Ends expected rest ∧ text = spelling.chars ++ rest := by
  cases text with
  | nil => cases scanned
  | cons c text =>
    rw [scan?] at scanned
    split at scanned
    · next starts =>
      split at scanned
      · next words =>
        obtain ⟨rfl, rfl⟩ := Prod.mk.inj (Option.some.inj scanned)
        refine ⟨.word (c :: text.takeWhile isWordPart), ⟨c, _, rfl, starts, ?_⟩, ?_, ?_, ?_⟩
        · exact List.all_eq_true.1 List.all_takeWhile
        · rw [Expectation.token?, if_pos words]
        · exact fun _ => head_dropWhile text
        · rw [Spelling.chars, List.cons_append, List.takeWhile_append_dropWhile]
      · next noWords => exact exists_spelling_of_keywordAt? noWords scanned
    split at scanned
    · next digit =>
      split at scanned
      · next isExpected =>
        obtain ⟨rfl, rfl⟩ := Prod.mk.inj (Option.some.inj scanned)
        refine ⟨.number (c :: text.takeWhile Char.isDigit), ⟨List.cons_ne_nil _ _, ?_⟩, ?_,
          head_dropWhile text, ?_⟩
        · rw [List.forall_mem_cons]
          exact ⟨digit, List.all_eq_true.1 List.all_takeWhile⟩
        · rw [Expectation.token?, if_pos isExpected]
        · rw [Spelling.chars, List.cons_append, List.takeWhile_append_dropWhile]
      · cases scanned
    split at scanned
    · next isBackquote =>
      split at scanned
      · next isExpected =>
        obtain ⟨⟨inside, after⟩, closed, same⟩ := Option.map_eq_some_iff.1 scanned
        obtain ⟨rfl, rfl⟩ := Prod.mk.inj same
        obtain ⟨noBackquote, split⟩ := eq_of_rawInside? closed
        refine ⟨.rawTag inside, noBackquote, ?_, trivial, ?_⟩
        · rw [Expectation.token?, if_pos isExpected]
        · rw [isBackquote, split, Spelling.chars]
          simp
      · cases scanned
    split at scanned
    · next isQuote =>
      split at scanned
      · next isExpected =>
        obtain ⟨⟨inside, after⟩, closed, same⟩ := Option.map_eq_some_iff.1 scanned
        obtain ⟨rfl, rfl⟩ := Prod.mk.inj same
        have isEnclosed := quotedInside?_eq_some_iff.1 closed
        refine ⟨.quotedTag inside, (Text.enclosed?_quote isEnclosed).2, ?_, trivial, ?_⟩
        · rw [Expectation.token?, if_pos isExpected]
        · have split : text = inside ++ '"' :: after :=
            Text.points_inj.1 (by simpa using Text.eq_of_enclosed? isEnclosed)
          rw [isQuote, split, Spelling.chars]
          simp
      · cases scanned
    split at scanned
    · next isExpected =>
      obtain ⟨rfl, rfl⟩ := Prod.mk.inj (Option.some.inj scanned)
      refine ⟨.mark c, marks c (List.contains_iff_mem.1 isExpected), ?_, trivial, rfl⟩
      rw [Expectation.token?, if_pos isExpected]
    · cases scanned

end Token

/-- The marks that are expected anywhere are marks of declarations. -/
theorem Place.mem_marks (place : Place) : ∀ c ∈ place.expected.marks, c ∈ declarationMarks := by
  cases place <;> simp [expected, declarationMarks]

namespace Spelling

/-- Where a spelling ends depends on the next character only. -/
theorem Ends.congr {spelling : Spelling} {expected : Expectation} {rest other : List Char}
    (ends : spelling.Ends expected rest) (same : other.head? = rest.head?) :
    spelling.Ends expected other := by
  cases spelling with
  | word letters =>
    rw [Ends, same]
    exact ends
  | number digits =>
    rw [Ends, same]
    exact ends
  | _ => trivial

/-- A spelling ends with a character other than a line feed: with a part of a word if it is a word
itself, and with a closing brace only if it is one. -/
theorem exists_getLast_chars {spelling : Spelling} (wellFormed : spelling.WellFormed) :
    ∃ c, spelling.chars.getLast? = some c ∧ c ≠ '\n' ∧
      (spelling.isWord = true → Token.isWordPart c = true) ∧
      (c = '\x7d' → spelling = .mark '\x7d') := by
  -- A part of a word is neither a line feed nor a brace.
  have ofPart {c : Char} (part : Token.isWordPart c = true) : c ≠ '\n' ∧ c ≠ '\x7d' := by
    constructor <;>
    · rintro rfl
      cases part
  cases spelling with
  | word letters =>
    obtain ⟨first, rest, rfl, starts, parts⟩ := wellFormed
    have isLast := List.getLast?_eq_some_getLast (List.cons_ne_nil first rest)
    generalize (first :: rest).getLast _ = c at isLast
    have part : Token.isWordPart c = true := by
      rcases List.mem_cons.1 (List.mem_of_getLast? isLast) with rfl | later
      · exact Token.isWordPart_of_isWordStart starts
      · exact parts c later
    exact ⟨c, isLast, (ofPart part).1, fun _ => part, fun isBrace => absurd isBrace (ofPart part).2⟩
  | number digits =>
    have isLast := List.getLast?_eq_some_getLast wellFormed.1
    generalize digits.getLast _ = c at isLast
    have part := Token.isWordPart_of_isDigit (wellFormed.2 c (List.mem_of_getLast? isLast))
    exact ⟨c, isLast, (ofPart part).1, fun _ => part, fun isBrace => absurd isBrace (ofPart part).2⟩
  | mark char =>
    refine ⟨char, rfl, ?_, fun isWord => (by cases isWord),
      fun isBrace => congrArg _ isBrace⟩
    rintro rfl
    exact absurd (Token.solid_of_mem_marks wellFormed).1 (by decide)
  | rawTag text =>
    refine ⟨'\x60', ?_, by decide, fun isWord => (by cases isWord),
      fun isBrace => (by cases isBrace)⟩
    rw [chars, ← List.cons_append, List.getLast?_concat]
  | quotedTag inside =>
    refine ⟨'"', ?_, by decide, fun isWord => (by cases isWord),
      fun isBrace => (by cases isBrace)⟩
    rw [chars, ← List.cons_append, List.getLast?_concat]

/-- Only a raw tag goes over the end of a line. -/
theorem not_mem_chars {spelling : Spelling} (wellFormed : spelling.WellFormed) :
    '\n' ∉ spelling.chars ∨ ∃ text, spelling = .rawTag text := by
  cases spelling with
  | word letters =>
    obtain ⟨first, rest, rfl, starts, parts⟩ := wellFormed
    left
    intro member
    rcases List.mem_cons.1 member with rfl | later
    · cases starts
    · cases parts _ later
  | number digits => exact .inl fun member => by cases wellFormed.2 _ member
  | mark char =>
    left
    intro member
    rw [chars, List.mem_singleton] at member
    exact absurd (Token.solid_of_mem_marks (member ▸ wellFormed)).1 (by decide)
  | rawTag text => exact .inr ⟨text, rfl⟩
  | quotedTag inside =>
    left
    simpa [chars, Text.points] using (Text.enclosed?_quote (wellFormed [])).1

end Spelling

/-! ## Lexemes -/

/-- A token that comes next is spelled behind a gap. -/
theorem Lexeme.token_inv {place : Place} {text start rest : List Char} {token : Token}
    (next : Lexeme.next place.expected text = .token token start rest) :
    ∃ gap spelling, IsGap gap ∧ spelling.WellFormed ∧
      place.expected.token? spelling = some token ∧ spelling.Ends place.expected rest ∧
      start = spelling.chars ++ rest ∧ text = gap ++ (spelling.chars ++ rest) := by
  rw [Lexeme.next] at next
  split at next
  · cases next
  next c after here =>
  split at next
  · next scanned found =>
    cases next
    obtain ⟨spelling, wellFormed, isToken, ends, isStart⟩ :=
      Token.exists_spelling place.mem_marks found
    rcases Token.passed_skipGaps .blank text with nothing | ⟨gap, isGap, split⟩
    · rw [here] at nothing
      cases nothing
    · rw [here, isStart] at split
      exact ⟨gap, spelling, isGap, wellFormed, isToken, ends, isStart, split⟩
  · cases next

/-- Nothing comes next only where all of the text is passed over. -/
theorem Lexeme.ending_inv {expected : Expectation} {text : List Char}
    (next : Lexeme.next expected text = .ending) : Token.skipGaps .blank text = [] := by
  rw [Lexeme.next] at next
  split at next
  · next nothing => exact nothing
  · split at next <;> cases next

/-- What cannot come next stands behind a gap, and begins with none. -/
theorem Lexeme.unexpected_inv {expected : Expectation} {text rest : List Char}
    (next : Lexeme.next expected text = .unexpected rest) :
    ∃ gap, IsGap gap ∧ text = gap ++ rest ∧ Token.skipGaps .blank rest = rest ∧ rest ≠ [] ∧
      Token.scan? expected rest = none := by
  rw [Lexeme.next] at next
  split at next
  · cases next
  next c after here =>
  split at next
  · cases next
  · next nothing =>
    cases next
    have again := Token.skipGaps_skipGaps text
    rw [here] at again
    rcases Token.passed_skipGaps .blank text with empty | ⟨gap, isGap, split⟩
    · rw [here] at empty
      cases empty
    · rw [here] at split
      exact ⟨gap, isGap, split, again, List.cons_ne_nil _ _, nothing⟩

end DeclCodec
