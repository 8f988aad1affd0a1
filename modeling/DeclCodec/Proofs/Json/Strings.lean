import DeclCodec.Json.Reader
import DeclCodec.Json.Text

/-!
# Reading written strings

A text is read back from its string literal, whatever follows the literal, but for the
surrogate pairs in it: these are read as the characters that they write. Each code
point is written so that reading it leaves the rest of the literal: as itself, by a
short escape, by one unit, or by a surrogate pair, whose second half the reader skips
because it was read together with the first. A unit is complete only if something
follows it, which in a literal is at least the closing quote.
-/

namespace DeclCodec.Json

open Text (points joined)

attribute [local simp] stringBody

/-- A written unit is four hexadecimal digits that spell it. -/
theorem exists_hexDigits (unit : Nat) (small : unit < 0x10000) :
    ∃ a b c d, Text.hexDigits 4 unit = [a, b, c, d] ∧ Text.hexNumber? [a, b, c, d] = some unit := by
  have value := Text.hexNumber?_hexDigits 4 unit
  rw [Nat.mod_eq_of_lt small] at value
  exact ⟨_, _, _, _, rfl, value⟩

/-- A written unit is a partner if it is a low surrogate. -/
theorem lowPartner?_unit {unit : Nat} (small : unit < 0x10000) (point : CodePoint) (rest : Points) :
    lowPartner? (points (escapeUnit unit) ++ point :: rest) =
      (some unit).filter Text.isLowSurrogate := by
  obtain ⟨a, b, c, d, digits, value⟩ := exists_hexDigits unit small
  simp [escapeUnit, digits, lowPartner?, value]

/-- A unit in the text is read as its code point, unless it is the first half of a pair. -/
theorem stringBody_unit {unit : Nat} (small : unit < 0x10000) {point : CodePoint} {rest : Points}
    (single : Text.isHighSurrogate unit = true → lowPartner? (point :: rest) = none)
    (opening : Points) :
    stringBody opening false (points (escapeUnit unit) ++ point :: rest) =
      prepend (.ofNat unit) (stringBody opening false (point :: rest)) := by
  obtain ⟨a, b, c, d, digits, value⟩ := exists_hexDigits unit small
  have noPair : (if Text.isHighSurrogate unit then lowPartner? (point :: rest) else none) =
      none := by
    split
    · next isHigh => exact single isHigh
    · rfl
  simp [escapeUnit, digits, value, noPair]

/-- A surrogate pair is read as the character that it stands for. -/
theorem stringBody_pair {high low : Nat} (isHigh : Text.isHighSurrogate high = true)
    (isLow : Text.isLowSurrogate low = true) (opening : Points) (point : CodePoint)
    (rest : Points) :
    stringBody opening false
        (points (escapeUnit high) ++ (points (escapeUnit low) ++ point :: rest)) =
      prepend (.ofNat (Text.joinSurrogates high low))
          (stringBody opening false (point :: rest)) := by
  have highRange := CodePoint.isHighSurrogate_iff.1 isHigh
  have lowRange := CodePoint.isLowSurrogate_iff.1 isLow
  obtain ⟨a, b, c, d, highDigits, highValue⟩ := exists_hexDigits high (by omega)
  obtain ⟨e, f, g, h, lowDigits, lowValue⟩ := exists_hexDigits low (by omega)
  have partner : (some low).filter Text.isLowSurrogate = some low := by
    simp [Option.filter, isLow]
  simp [escapeUnit, highDigits, lowDigits, lowPartner?, highValue, lowValue, isHigh, partner]

/-- No character is half of a surrogate pair. -/
theorem not_surrogate_toNat (c : Char) :
    Text.isHighSurrogate c.toNat = false ∧ Text.isLowSurrogate c.toNat = false := by
  obtain ⟨apart, _⟩ := CodePoint.toNat_char_range c
  constructor
  · rw [Bool.eq_false_iff]
    intro isHigh
    have := CodePoint.isHighSurrogate_iff.1 isHigh
    omega
  · rw [Bool.eq_false_iff]
    intro isLow
    have := CodePoint.isLowSurrogate_iff.1 isLow
    omega

/-- A code point that ends no text after a backslash and begins no escape is no backslash. -/
theorem ne_backslash {point : CodePoint} {rest : Points}
    (noEnd : point = .char '\\' → rest = [] → False)
    (noEscape : ∀ next tail, point = .char '\\' → rest = next :: tail → False) :
    point ≠ .char '\\' := by
  intro backslash
  cases rest with
  | nil => exact noEnd backslash rfl
  | cons next tail => exact noEscape next tail backslash rfl

/-- A code point that neither closes the string nor begins an escape is read as it stands. -/
theorem stringBody_plain {point : CodePoint} (noQuote : point ≠ .char '"')
    (noBackslash : point ≠ .char '\\') (noControl : ¬point.toNat < 0x20) (opening rest : Points)
    {paired : Bool} :
    stringBody opening paired (point :: rest) = prepend point (stringBody opening false rest) := by
  rw [stringBody.eq_def]
  split
  · next same => cases same
  · next same =>
    cases same
    exact absurd rfl noBackslash
  · next same =>
    cases same
    exact absurd rfl noBackslash
  · next same =>
    cases same
    exact absurd rfl noBackslash
  · next same =>
    cases same
    rw [if_neg noQuote, if_neg noControl]

/-- How a character is written: by a short escape, as itself, by its unit or by a surrogate pair. -/
theorem escapeChar_cases (c : Char) :
    (∃ letter, letter ≠ 'u' ∧ shortEscape? letter = some c ∧ escapeChar c = ['\\', letter]) ∨
      (c ≠ '"' ∧ c ≠ '\\' ∧ ¬c.toNat < 0x20 ∧ escapeChar c = [c]) ∨
      (c.toNat < 0x10000 ∧ escapeChar c = escapeUnit c.toNat) ∨
      ∃ high low, Text.isHighSurrogate high = true ∧ Text.isLowSurrogate low = true ∧
        Text.joinSurrogates high low = c.toNat ∧
        escapeChar c = escapeUnit high ++ escapeUnit low := by
  by_cases short : c ∈ ['"', '\\', '\n', '\r', '\t', '\x08', '\x0c']
  · refine .inl ?_
    simp only [List.mem_cons, List.not_mem_nil, or_false] at short
    rcases short with rfl | rfl | rfl | rfl | rfl | rfl | rfl <;>
      exact ⟨_, by decide, by decide, rfl⟩
  simp only [List.mem_cons, List.not_mem_nil, or_false, not_or] at short
  obtain ⟨noQuote, noBackslash, noLine, noReturn, noTab, noBack, noFeed⟩ := short
  simp only [escapeChar, noQuote, noBackslash, noLine, noReturn, noTab, noBack, noFeed, if_false]
  split
  · next printable =>
    exact .inr (.inl ⟨noQuote, noBackslash, Nat.not_lt.2 printable.1, rfl⟩)
  split
  · next small => exact .inr (.inr (.inl ⟨small, rfl⟩))
  · next large =>
    have beyond := Nat.le_of_not_lt large
    obtain ⟨isHigh, isLow⟩ := Text.splitSurrogates_range beyond (CodePoint.toNat_char_range c).2
    exact .inr (.inr (.inr
      ⟨_, _, isHigh, isLow, Text.joinSurrogates_splitSurrogates beyond, rfl⟩))

/-- An escaped character is read as the character: in each case the reader takes exactly what was
written for this one. -/
theorem stringBody_escapeChar (c : Char) (opening : Points) (next : CodePoint) (rest : Points) :
    stringBody opening false (points (escapeChar c) ++ next :: rest) =
      prepend (.char c) (stringBody opening false (next :: rest)) := by
  have itself : CodePoint.ofNat c.toNat = .char c := CodePoint.ofNat_toNat (.char c)
  rcases escapeChar_cases c with ⟨letter, noUnit, isShort, written⟩ |
    ⟨noQuote, noBackslash, noControl, written⟩ | ⟨small, written⟩ |
    ⟨high, low, isHigh, isLow, joins, written⟩
  · simp [written, noUnit, isShort, CodePoint.char?]
  · have plain : ¬(CodePoint.char c).toNat < 0x20 := noControl
    rw [written]
    exact stringBody_plain (by simpa using noQuote) (by simpa using noBackslash) plain opening
      (next :: rest)
  · have noHigh := (not_surrogate_toNat c).1
    rw [written, stringBody_unit small (fun isHigh => absurd isHigh (by simp [noHigh])), itself]
  · rw [written, Text.points_append, List.append_assoc, stringBody_pair isHigh isLow, joins, itself]

/-- An escaped character is no partner of a high surrogate in front of it. -/
theorem lowPartner?_escapeChar (c : Char) (next : CodePoint) (rest : Points) :
    lowPartner? (points (escapeChar c) ++ next :: rest) = none := by
  have noPartner {unit : Nat} (noLow : Text.isLowSurrogate unit = false) :
      (some unit).filter Text.isLowSurrogate = none := by
    simp [Option.filter, noLow]
  rcases escapeChar_cases c with ⟨letter, noUnit, _, written⟩ | ⟨_, noBackslash, _, written⟩ |
    ⟨small, written⟩ | ⟨high, low, isHigh, isLow, _, written⟩
  · simp [written, lowPartner?, noUnit]
  · simp [written, lowPartner?, noBackslash]
  · rw [written, lowPartner?_unit small, noPartner (not_surrogate_toNat c).2]
  · have highRange := CodePoint.isHighSurrogate_iff.1 isHigh
    have noLow : Text.isLowSurrogate high = false := by
      rw [Bool.eq_false_iff]
      intro isLow
      have := CodePoint.isLowSurrogate_iff.1 isLow
      omega
    rw [written, Text.points_append, List.append_assoc, escapeUnit.eq_def low, Text.points_cons,
      List.cons_append, lowPartner?_unit (by omega), noPartner noLow]

/-- A high surrogate is written by its unit. -/
theorem escapePoint_high (half : Fin 0x400) :
    escapePoint (.high half) = escapeUnit (CodePoint.high half).toNat := rfl

/-- A low surrogate is written by its unit. -/
theorem escapePoint_low (half : Fin 0x400) :
    escapePoint (.low half) = escapeUnit (CodePoint.low half).toNat := rfl

/-- What is written of a text begins with what is written of its first code point, behind which
there is something. -/
theorem exists_escape_cons (point : CodePoint) (text rest : Points) :
    ∃ next after, points (escape (point :: text)) ++ .char '"' :: rest =
        points (escapePoint point) ++ next :: after ∧
      points (escape text) ++ .char '"' :: rest = next :: after := by
  obtain ⟨next, after, begins⟩ : ∃ next after,
      points (escape text) ++ .char '"' :: rest = next :: after := by
    cases points (escape text) <;> exact ⟨_, _, rfl⟩
  refine ⟨next, after, ?_, begins⟩
  rw [← begins, escape, List.flatMap_cons, Text.points_append, List.append_assoc]
  rfl

/-- The range of the halves of a surrogate pair. -/
theorem surrogate_range (half : Fin 0x400) :
    Text.isHighSurrogate (CodePoint.high half).toNat = true ∧
      Text.isLowSurrogate (CodePoint.high half).toNat = false ∧
      (CodePoint.high half).toNat < 0x10000 ∧
      Text.isHighSurrogate (CodePoint.low half).toNat = false ∧
      Text.isLowSurrogate (CodePoint.low half).toNat = true ∧
      (CodePoint.low half).toNat < 0x10000 := by
  simp only [Bool.eq_false_iff, Ne, CodePoint.isHighSurrogate_iff, CodePoint.isLowSurrogate_iff,
    CodePoint.toNat]
  omega

/-- What is written of a text that begins with no low surrogate begins with no partner. -/
theorem lowPartner?_escape {text : Points} (noLow : ∀ low rest, text ≠ .low low :: rest)
    (rest : Points) : lowPartner? (points (escape text) ++ .char '"' :: rest) = none := by
  cases text with
  | nil => rfl
  | cons point text =>
    obtain ⟨next, after, split, _⟩ := exists_escape_cons point text rest
    rw [split]
    cases point with
    | char c => exact lowPartner?_escapeChar c next after
    | low half => exact absurd rfl (noLow half text)
    | high half =>
      obtain ⟨_, noPartner, small, _⟩ := surrogate_range half
      rw [escapePoint_high, lowPartner?_unit small]
      simp [Option.filter, noPartner]

/-- The inside of a literal and its closing quote are read as the text with its pairs joined, up to
the quote. -/
theorem stringBody_escape (text opening rest : Points) :
    stringBody opening false (points (escape text) ++ .char '"' :: rest) =
      .ok (joined text, rest) := by
  fun_induction joined text with
  | case1 => simp [escape]
  | case2 high low text inductionHypothesis =>
    obtain ⟨second, between, split, begins⟩ :=
      exists_escape_cons (.high high) (.low low :: text) rest
    obtain ⟨next, after, split', begins'⟩ := exists_escape_cons (.low low) text rest
    obtain ⟨isHigh, _⟩ := surrogate_range high
    obtain ⟨_, _, _, _, isLow, _⟩ := surrogate_range low
    rw [split, ← begins, split', escapePoint_high, escapePoint_low, stringBody_pair isHigh isLow,
      ← begins', inductionHypothesis, CodePoint.ofNat_joinSurrogates]
    rfl
  | case3 point text noPair inductionHypothesis =>
    obtain ⟨next, after, split, begins⟩ := exists_escape_cons point text rest
    have onward : stringBody opening false (points (escapePoint point) ++ next :: after) =
        prepend point (stringBody opening false (next :: after)) := by
      cases point with
      | char c => exact stringBody_escapeChar c opening next after
      | low half =>
        obtain ⟨_, _, _, noHigh, _, small⟩ := surrogate_range half
        rw [escapePoint_low, stringBody_unit small (fun isHigh => absurd isHigh (by simp [noHigh])),
          CodePoint.ofNat_toNat]
      | high half =>
        obtain ⟨_, _, small, _⟩ := surrogate_range half
        have noPartner := lowPartner?_escape (fun low more => noPair half low more rfl) rest
        rw [escapePoint_high, stringBody_unit small (fun _ => begins ▸ noPartner),
          CodePoint.ofNat_toNat]
    rw [split, onward, ← begins, inductionHypothesis]
    rfl

/-- A literal is read as its text with the pairs joined, whatever follows. -/
theorem string_quote (text rest : Points) :
    string (points (escape text) ++ .char '"' :: rest) = .ok (joined text, rest) :=
  stringBody_escape _ _ _

end DeclCodec.Json
