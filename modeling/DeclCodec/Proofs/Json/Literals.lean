import DeclCodec.Proofs.Json.Strings
import DeclCodec.Text.Enclosed
import Mathlib.Data.List.TakeWhile
import Mathlib.Tactic.Common

/-!
# String literals

A text that holds a string and nothing else goes up to the first quote that no
backslash escapes. What the string reader takes between the quotes is therefore
what is found between them without reading it, whatever follows: an escape takes
the character behind its backslash along, and the digits of a Unicode escape are
neither quotes nor backslashes.
-/

namespace DeclCodec

/-- Has the code point no use of its own between quotes? -/
def Text.IsPlain (point : CodePoint) : Prop :=
  point ≠ .char '"' ∧ point ≠ .char '\n' ∧ point ≠ .char '\\'

/-- A code point with no use of its own between quotes is passed over. -/
theorem Text.enclosed?_cons {point : CodePoint} (plain : IsPlain point) (text : Points) :
    enclosed? false (point :: text) =
      (enclosed? false text).map fun tail => (point :: tail.1, tail.2) := by
  obtain ⟨noQuote, noLine, noBackslash⟩ := plain
  rw [enclosed?.eq_def]
  split <;> simp_all

/-- A backslash and the code point that it takes along are passed over. -/
theorem Text.enclosed?_escape {point : CodePoint} (noLine : point ≠ .char '\n') (text : Points) :
    enclosed? false (.char '\\' :: point :: text) =
      (enclosed? false text).map fun tail => (.char '\\' :: point :: tail.1, tail.2) := by
  rw [enclosed?, if_neg noLine]

/-- What is closed on one line is closed where a line feed may stand for itself, too. -/
theorem Text.enclosed?_acrossLines {text : Points} {parts : Points × Points}
    (closed : enclosed? false text = some parts) : enclosed? true text = some parts := by
  fun_induction enclosed? false text generalizing parts with
  | case1 => cases closed
  | case2 => cases closed
  | case3 => cases closed
  | case4 point rest noLine inductionHypothesis =>
    obtain ⟨later, found, rfl⟩ := Option.map_eq_some_iff.1 closed
    rw [enclosed?, if_neg noLine, inductionHypothesis found]
    rfl
  | case5 => exact closed
  | case6 => cases closed
  | case7 point rest noEnd noEscape noQuote noLine inductionHypothesis =>
    obtain ⟨later, found, rfl⟩ := Option.map_eq_some_iff.1 closed
    rw [enclosed?.eq_def]
    split
    · next same => cases same
    · next same =>
      cases same
      exact absurd rfl (noEnd rfl)
    · next same =>
      cases same
      exact absurd rfl (noEscape _ _ rfl)
    · next same =>
      cases same
      rw [if_neg noQuote, if_neg (by simp), inductionHypothesis found]
      rfl

/-- A hexadecimal digit has no use of its own between quotes. -/
theorem Text.isPlain_of_hexValue? {c : Char} (digit : (hexValue? c).isSome = true) :
    IsPlain (.char c) := by
  refine ⟨?_, ?_, ?_⟩ <;>
  · rintro ⟨⟩
    revert digit
    decide

/-- All digits of a number are digits. -/
theorem Text.isSome_hexValue? {digits : List Char} {start number : Nat}
    (spelled : digits.foldlM (fun number digit => (hexValue? digit).map (number * 16 + ·)) start =
      some number) : ∀ digit ∈ digits, (hexValue? digit).isSome = true := by
  induction digits generalizing start with
  | nil => exact fun _ member => by cases member
  | cons digit digits inductionHypothesis =>
    rw [List.foldlM_cons, Option.bind_eq_bind, Option.bind_eq_some_iff] at spelled
    obtain ⟨next, first, others⟩ := spelled
    obtain ⟨value, isValue, _⟩ := Option.map_eq_some_iff.1 first
    exact List.forall_mem_cons.2 ⟨Option.isSome_of_mem isValue, inductionHypothesis others⟩

namespace Json

/-- Does the text begin with what stands between quotes and the closing quote? -/
def Closed (text rest : Points) : Prop :=
  ∃ inside, text = inside ++ .char '"' :: rest ∧
    ∀ after, Text.enclosed? false (inside ++ .char '"' :: after) = some (inside, after)

/-- A code point with no use of its own keeps a text closed. -/
theorem Closed.cons {text rest : Points} (closed : Closed text rest) {point : CodePoint}
    (plain : Text.IsPlain point) : Closed (point :: text) rest := by
  obtain ⟨inside, rfl, found⟩ := closed
  refine ⟨point :: inside, rfl, fun after => ?_⟩
  rw [List.cons_append, Text.enclosed?_cons plain, found]
  rfl

/-- An escape keeps a text closed. -/
theorem Closed.escape {text rest : Points} (closed : Closed text rest) {point : CodePoint}
    (noLine : point ≠ .char '\n') : Closed (.char '\\' :: point :: text) rest := by
  obtain ⟨inside, rfl, found⟩ := closed
  refine ⟨.char '\\' :: point :: inside, rfl, fun after => ?_⟩
  rw [List.cons_append, List.cons_append, Text.enclosed?_escape noLine, found]
  rfl

/-- What is read with a code point in front is read without it. -/
theorem exists_of_prepend {point : CodePoint} {reading : Reading Points} {content rest : Points}
    (read : prepend point reading = .ok (content, rest)) :
    ∃ others, reading = .ok (others, rest) ∧ content = point :: others := by
  cases reading with
  | error stuck => cases read
  | ok pair =>
    cases read
    exact ⟨_, rfl, rfl⟩

/-- A Unicode escape keeps a text closed. -/
theorem Closed.unit {text rest : Points} (closed : Closed text rest) {a b c d : Char} {unit : Nat}
    (number : Text.hexNumber? [a, b, c, d] = some unit) :
    Closed (.char '\\' :: .char 'u' :: .char a :: .char b :: .char c :: .char d :: text) rest := by
  have plain (digit : Char) (member : digit ∈ [a, b, c, d]) :=
    Text.isPlain_of_hexValue? (Text.isSome_hexValue? number digit member)
  exact ((((closed.cons (plain d (by simp))).cons (plain c (by simp))).cons
    (plain b (by simp))).cons (plain a (by simp))).escape (by decide)

/-- What is read as the inside of a string ends with its closing quote. -/
theorem closed_of_stringBody {opening text content rest : Points} {paired : Bool}
    (read : stringBody opening paired text = .ok (content, rest)) : Closed text rest := by
  fun_induction stringBody opening paired text generalizing content rest with
  | case5 _ _ _ _ _ _ number _ inductionHypothesis => exact (inductionHypothesis read).unit number
  | case6 _ _ _ _ _ _ _ number _ _ partner _ inductionHypothesis =>
    rw [partner] at read
    obtain ⟨_, later, _⟩ := exists_of_prepend read
    exact (inductionHypothesis later).unit number
  | case7 _ _ _ _ _ _ _ number _ partner _ inductionHypothesis =>
    rw [partner] at read
    obtain ⟨_, later, _⟩ := exists_of_prepend read
    exact (inductionHypothesis later).unit number
  | case9 _ point _ _ _ char short inductionHypothesis =>
    obtain ⟨_, later, _⟩ := exists_of_prepend read
    have noLine : point ≠ .char '\n' := by
      rintro rfl
      cases short
    exact (inductionHypothesis later).escape noLine
  | case11 =>
    cases read
    exact ⟨[], rfl, fun _ => rfl⟩
  | case13 _ point _ noEnd _ noEscape noQuote noControl inductionHypothesis =>
    obtain ⟨_, later, _⟩ := exists_of_prepend read
    have noLine : point ≠ .char '\n' := by
      rintro rfl
      exact noControl (by decide)
    exact (inductionHypothesis later).cons ⟨noQuote, noLine, ne_backslash noEnd noEscape⟩
  -- All other texts are refused.
  | _ => cases read

/-- A text that is parsed holds what it is parsed to. -/
theorem whole_of_parse {text : Points} {json : Json} (read : parse text = .ok json) :
    whole text = .ok json := by
  unfold parse at read
  split at read
  · cases read
  · rw [parsePoints] at read
    cases wholeRead : whole text with
    | error stuck =>
      rw [wholeRead] at read
      cases read
    | ok other =>
      rw [wholeRead] at read
      cases read
      rfl

/-- What is read as the whole text is read at its beginning, with nothing but blanks behind it. -/
theorem string_of_whole {inside text : Points}
    (read : whole (.char '"' :: inside) = .ok (.str text)) :
    ∃ rest, string inside = .ok (text, rest) ∧ skipGaps rest = [] := by
  have noGap : skipGaps (.char '"' :: inside) = .char '"' :: inside := by
    rw [skipGaps, List.dropWhile_cons_of_neg (by decide)]
  rw [whole, noGap, value] at read
  cases inner : string inside with
  | error stuck =>
    rw [inner] at read
    cases read
  | ok reading =>
    obtain ⟨content, rest⟩ := reading
    rw [inner] at read
    dsimp only at read
    split at read
    · next ends =>
      cases read
      exact ⟨rest, rfl, ends⟩
    · cases read

/-- A text that holds a string and nothing else is the inside of the string between its quotes. -/
theorem unescape_of_parse {inside text : Points}
    (literal : parse (.char '"' :: (inside ++ [.char '"'])) = .ok (.str text)) :
    unescape inside = .ok text ∧
      ∀ after, Text.enclosed? false (inside ++ .char '"' :: after) = some (inside, after) := by
  obtain ⟨rest, read, onlyGaps⟩ := string_of_whole (whole_of_parse literal)
  refine ⟨by rw [unescape, read], ?_⟩
  obtain ⟨before, split, found⟩ := closed_of_stringBody read
  -- Blanks behind the closing quote would be the end of a text that ends with a quote.
  have nothing : rest = [] := by
    rcases List.eq_nil_or_concat rest with empty | ⟨others, last, rfl⟩
    · exact empty
    · rw [List.concat_eq_append, ← List.cons_append, ← List.append_assoc] at split
      obtain ⟨_, isQuote⟩ := List.append_inj' split rfl
      cases isQuote
      have blank := List.dropWhile_eq_nil_iff.1 onlyGaps (.char '"') (by simp)
      cases blank
  subst nothing
  rw [List.append_cancel_right split]
  exact found

end Json

end DeclCodec
