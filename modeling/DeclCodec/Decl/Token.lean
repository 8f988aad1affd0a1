import DeclCodec.Text.Enclosed

/-!
# Tokens of declaration text

White space and comments separate tokens and mean nothing else. Which tokens are
looked for depends on the place in the text, because a keyword is only a keyword
where one may stand; elsewhere its spelling is a name. An `Expectation` lists
what may come next:

* where names are expected, a whole word is taken, and it is a keyword only if
  its spelling is that of an expected keyword;
* where no name is expected, an expected keyword is taken from the beginning of
  whatever follows.

A tag stands between backquotes, or on one line between double quotes. Tokens are
taken from the beginning of the rest of the text; each takes at least one
character.
-/

namespace DeclCodec

/-- The words with a meaning of their own. -/
inductive Keyword
  | package
  | type
  | struct
  | map
deriving DecidableEq, Repr

/-- The spelling of a keyword. -/
def Keyword.text : Keyword → List Char
  | .package => "package".toList
  | .type => "type".toList
  | .struct => "struct".toList
  | .map => "map".toList

/-- A token. A quoted tag keeps the characters between its quotes as they stand. -/
inductive Token
  | word (text : String)
  | keyword (keyword : Keyword)
  | number (value : Nat)
  | mark (char : Char)
  | rawTag (text : String)
  | quotedTag (inside : List Char)
deriving DecidableEq, Repr

/-- What may come next at a place in the text. -/
structure Expectation where
  words : Bool
  keywords : List Keyword
  marks : List Char
  number : Bool
  tags : Bool

namespace Token

/-- White space between tokens. -/
def isGap (c : Char) : Bool := c == ' ' || c == '\t' || c == '\x0c' || c == '\r' || c == '\n'

/-- A character that a word may begin with. -/
def isWordStart (c : Char) : Bool := c.isAlpha || c == '_'

/-- A character that a word may go on with. -/
def isWordPart (c : Char) : Bool := c.isAlphanum || c == '_'

/-- A word may go on with what it may begin with. -/
theorem isWordPart_of_isWordStart {c : Char} (starts : isWordStart c = true) :
    isWordPart c = true := by
  simp only [isWordStart, isWordPart, Char.isAlphanum, Bool.or_eq_true] at *
  rcases starts with alpha | underscore
  · exact .inl (.inl alpha)
  · exact .inr underscore

/-- Between tokens a text is in white space, in a line comment, or in a block comment. A block
comment remembers the text it begins, which is left alone unless the comment is closed. -/
inductive Gap
  | blank
  | lineComment
  | blockComment (opening : List Char)

/-- The text after its leading white space and closed comments. -/
def skipGaps : Gap → List Char → List Char
  | .blank, [] => []
  | .blank, '/' :: '/' :: rest => skipGaps .lineComment rest
  | .blank, '/' :: '*' :: rest => skipGaps (.blockComment ('/' :: '*' :: rest)) rest
  | .blank, c :: rest => if isGap c then skipGaps .blank rest else c :: rest
  | .lineComment, [] => []
  | .lineComment, c :: rest => skipGaps (if c = '\n' then .blank else .lineComment) rest
  | .blockComment opening, [] => opening
  | .blockComment _, '*' :: '/' :: rest => skipGaps .blank rest
  | .blockComment opening, _ :: rest => skipGaps (.blockComment opening) rest

/-- The inside of a raw tag and the text after it. A raw tag is closed by the next backquote. -/
def rawInside? : List Char → Option (List Char × List Char)
  | [] => none
  | c :: rest =>
    if c = '\x60' then some ([], rest)
    else (rawInside? rest).map fun tail => (c :: tail.1, tail.2)

/-- What stands before the closing double quote of a tag, which is on the same line, and what stands
after it. -/
def quotedInside? (text : List Char) : Option (List Char × List Char) := do
  let parts ← Text.enclosed? false (Text.points text)
  pure (← Text.chars? parts.1, ← Text.chars? parts.2)

/-- The two parts of characters are characters. -/
theorem quotedInside?_eq_some_iff {text : List Char} {parts : List Char × List Char} :
    quotedInside? text = some parts ↔
      Text.enclosed? false (Text.points text) =
          some (Text.points parts.1, Text.points parts.2) := by
  simp only [quotedInside?, Option.bind_eq_bind, Option.bind_eq_some_iff, Option.pure_def,
    Option.some.injEq, Text.chars?_eq_some_iff]
  constructor
  · rintro ⟨⟨inside, after⟩, closed, front, rfl, back, rfl, rfl⟩
    exact closed
  · exact fun closed => ⟨_, closed, parts.1, rfl, parts.2, rfl, rfl⟩

/-- An expected keyword at the beginning of a text. -/
def keywordAt? (keywords : List Keyword) (text : List Char) : Option (Token × List Char) :=
  (keywords.find? fun candidate => candidate.text.isPrefixOf text).map fun found =>
    (.keyword found, text.drop found.text.length)

/-- The token of a whole word. -/
def ofWord (keywords : List Keyword) (word : List Char) : Token :=
  match keywords.find? fun candidate => candidate.text == word with
  | some found => .keyword found
  | none => .word (String.ofList word)

/-- The expected token at the beginning of a text, and the text after it. -/
def scan? (expected : Expectation) : List Char → Option (Token × List Char)
  | [] => none
  | c :: rest =>
    if isWordStart c then
      if expected.words then
        some (ofWord expected.keywords (c :: rest.takeWhile isWordPart), rest.dropWhile isWordPart)
      else keywordAt? expected.keywords (c :: rest)
    else if c.isDigit then
      if expected.number then
        some (.number (Nat.ofDigitChars 10 (c :: rest.takeWhile Char.isDigit) 0),
          rest.dropWhile Char.isDigit)
      else none
    else if c = '\x60' then
      if expected.tags then (rawInside? rest).map fun tag => (.rawTag (String.ofList tag.1), tag.2)
      else none
    else if c = '"' then
      if expected.tags then (quotedInside? rest).map fun tag => (.quotedTag tag.1, tag.2)
      else none
    else if expected.marks.contains c then some (.mark c, rest)
    else none

/-- Closing a raw tag takes at least the backquote. -/
theorem length_rawInside? {text : List Char} {tail : List Char × List Char}
    (closed : rawInside? text = some tail) : tail.2.length < text.length := by
  induction text generalizing tail with
  | nil => cases closed
  | cons c text inductionHypothesis =>
    unfold rawInside? at closed
    split at closed
    · cases closed; simp
    · obtain ⟨later, found, same⟩ := Option.map_eq_some_iff.1 closed
      cases same
      have := inductionHypothesis found
      simp only [List.length_cons]
      omega

/-- Dropping a run of characters does not lengthen a text. -/
theorem length_dropWhile_le (p : Char → Bool) (text : List Char) :
    (text.dropWhile p).length ≤ text.length :=
  (List.dropWhile_sublist p).length_le

/-- A token takes at least one character. -/
theorem length_scan? {expected : Expectation} {text : List Char} {scanned : Token × List Char}
    (found : scan? expected text = some scanned) : scanned.2.length < text.length := by
  cases text with
  | nil => cases found
  | cons c text =>
    have wordRest := length_dropWhile_le isWordPart text
    have digitRest := length_dropWhile_le Char.isDigit text
    simp only [scan?] at found
    simp only [List.length_cons]
    split at found
    · split at found
      · cases found; dsimp only; omega
      · obtain ⟨candidate, _, same⟩ := Option.map_eq_some_iff.1 found
        cases same
        have positive : 0 < candidate.text.length := by cases candidate <;> decide
        simp only [List.length_drop, List.length_cons]
        omega
    · split at found
      · split at found
        · cases found; dsimp only; omega
        · cases found
      · split at found
        · split at found
          · obtain ⟨tag, closed, same⟩ := Option.map_eq_some_iff.1 found
            cases same
            have := length_rawInside? closed
            dsimp only
            omega
          · cases found
        · split at found
          · split at found
            · obtain ⟨tag, closed, same⟩ := Option.map_eq_some_iff.1 found
              cases same
              have := Text.length_enclosed? (quotedInside?_eq_some_iff.1 closed)
              simp only [Text.length_points] at this ⊢
              omega
            · cases found
          · split at found
            · cases found; dsimp only; omega
            · cases found

/-- Skipping gaps does not lengthen a text, a reopened block comment included. -/
theorem length_skipGaps (gap : Gap) (text : List Char) :
    (skipGaps gap text).length ≤
      match gap with
      | .blockComment opening => max opening.length text.length
      | _ => text.length := by
  fun_induction skipGaps gap text <;> grind

end Token

end DeclCodec
