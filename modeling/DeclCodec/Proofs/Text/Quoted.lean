import DeclCodec.Proofs.Json.Printable
import DeclCodec.Text.Literal
import DeclCodec.Text.Quoted

/-!
# Quoted literals are read as their texts

A literal between single quotes or between double quotes is read here by the rules of
the emitted language. A backslash begins an escape: of a quote or of itself, of a
control character by a letter, of a code point in octal digits or in two, four or eight
hexadecimal ones, or of a line feed that is left out. Before any other character it
stands for itself. No end of a line may stand in a literal as it is. Escapes of
character names are not read, nor are literals of three quotes.

What is written for a text is one literal, whatever code points the text has, and the
literal is read as the text: it has an escape for each surrogate, and a pair of such
escapes is not joined. All of its characters are printable, so no line ends in it.
-/

namespace DeclCodec.Text

/-! ## Ends of lines -/

/-- The code points at which a text falls into lines. -/
def lineBreaks : List Nat := [0xA, 0xB, 0xC, 0xD, 0x1C, 0x1D, 0x1E, 0x85, 0x2028, 0x2029]

/-- Does a text fall into lines at the character? -/
def breaksLine (c : Char) : Bool := lineBreaks.contains c.toNat

/-- It does not at a printable one. -/
theorem breaksLine_of_isPrintable {c : Char} (printable : isPrintable c = true) :
    breaksLine c = false := by
  have unprintable : ∀ code ∈ lineBreaks, (if code < 0x80 then 0x20 ≤ code && code < 0x7F
      else !unprintableRanges.contains code) = false := by decide +kernel
  rw [breaksLine, ← Bool.not_eq_true, List.contains_iff_mem]
  intro among
  rw [isPrintable, unprintable c.toNat among] at printable
  cases printable

/-- What is in the printable range of ASCII is printable. -/
theorem Printable.isPrintable {text : List Char} (printable : DeclCodec.Printable text) :
    ∀ c ∈ text, isPrintable c = true := by
  intro c among
  obtain ⟨low, high⟩ := printable c among
  rw [isPrintable_ascii (by omega), decide_eq_true low, decide_eq_true high]
  rfl

namespace Quoted

/-! ## Reading -/

/-- The characters that a letter or a mark behind a backslash stands for. -/
def shortEscapes : List (Char × Char) :=
  [('\\', '\\'), ('\'', '\''), ('"', '"'), ('a', '\x07'), ('b', '\x08'), ('f', '\x0C'), ('n', '\n'),
    ('r', '\r'), ('t', '\t'), ('v', '\x0B')]

/-- A code point in so many hexadecimal digits, and what follows them. -/
def codePoint? (width : Nat) (text : List Char) : Option (Points × List Char) :=
  if text.length < width then none
  else
    match hexNumber? (text.take width) with
    | some code => if code < 0x110000 then some ([.ofNat code], text.drop width) else none
    | none => none

/-- The octal digits of an escape; there are at most three. -/
def octalDigits (text : List Char) : List Char := (text.take 3).takeWhile Literal.isOctal

/-- What an escape stands for without its backslash, and what follows it. -/
def escape? : List Char → Option (Points × List Char)
  | [] => none
  | c :: rest =>
    if c = '\n' then some ([], rest)
    else if c = '\r' ∨ c = 'N' then none
    else if c = 'x' then codePoint? 2 rest
    else if c = 'u' then codePoint? 4 rest
    else if c = 'U' then codePoint? 8 rest
    else if Literal.isOctal c then
      some ([.char (Char.ofNat (Nat.ofDigitChars 8 (octalDigits (c :: rest)) 0))],
        (c :: rest).drop (octalDigits (c :: rest)).length)
    else
      match shortEscapes.lookup c with
      | some value => some ([.char value], rest)
      | none => some (points ['\\', c], rest)

/-- What follows the digits of a code point is no longer than the text. -/
theorem length_codePoint? {width : Nat} {text : List Char} {parts : Points × List Char}
    (found : codePoint? width text = some parts) : parts.2.length ≤ text.length := by
  unfold codePoint? at found
  split at found
  · cases found
  split at found
  · split at found
    · cases found
      exact (List.drop_sublist width text).length_le
    · cases found
  · cases found

/-- An escape shortens the text. -/
theorem length_escape? {text : List Char} {parts : Points × List Char}
    (found : escape? text = some parts) : parts.2.length < text.length := by
  cases text with
  | nil => cases found
  | cons c rest =>
    rw [List.length_cons, Nat.lt_succ_iff]
    rw [escape?] at found
    split at found
    · cases found
      exact Nat.le_refl _
    split at found
    · cases found
    split at found
    · exact length_codePoint? found
    split at found
    · exact length_codePoint? found
    split at found
    · exact length_codePoint? found
    split at found
    · next octal =>
      cases found
      have first : octalDigits (c :: rest) = c :: (rest.take 2).takeWhile Literal.isOctal := by
        rw [octalDigits, List.take_succ_cons, List.takeWhile_cons_of_pos octal]
      rw [first, List.length_cons, List.drop_succ_cons]
      exact (List.drop_sublist _ rest).length_le
    · split at found
      · cases found
        exact Nat.le_refl _
      · cases found
        exact Nat.le_refl _

/-- The text that is written up to a closing quote, and what follows the quote. -/
def inside? (mark : Char) (text : List Char) : Option (Points × List Char) :=
  match text with
  | [] => none
  | c :: rest =>
    if c = mark then some ([], rest)
    else if c = '\\' then
      match _found : escape? rest with
      | some (value, after) => (inside? mark after).map fun later => (value ++ later.1, later.2)
      | none => none
    else if c = '\n' ∨ c = '\r' then none
    else (inside? mark rest).map fun later => (.char c :: later.1, later.2)
termination_by text.length
decreasing_by
  · have shorter : after.length < _ := length_escape? _found
    simp only [List.length_cons]
    omega
  · simp

/-- The text of a literal that comes first, and what follows the literal. -/
def read? : List Char → Option (Points × List Char)
  | [] => none
  | mark :: rest =>
    if mark ≠ '\'' ∧ mark ≠ '"' then none
    else if rest.take 2 = [mark, mark] then none
    else inside? mark rest

/-! ## Reading what is written -/

/-- The delimiter of a literal is a quote. -/
theorem isMark_delimiter (text : Points) : delimiter text = '\'' ∨ delimiter text = '"' := by
  unfold delimiter
  split
  · exact .inr rfl
  · exact .inl rfl

/-- Enough digits of a code point's number are read as the code point. -/
theorem codePoint?_hexDigits {width : Nat} {point : CodePoint}
    (wide : point.toNat < Nat.pow 16 width) (rest : List Char) :
    codePoint? width (hexDigits width point.toNat ++ rest) = some ([point], rest) := by
  have whole := length_hexDigits width point.toNat
  have digits : (hexDigits width point.toNat ++ rest).take width = hexDigits width point.toNat :=
    List.take_left' whole
  have behind : (hexDigits width point.toNat ++ rest).drop width = rest := List.drop_left' whole
  have long : ¬(hexDigits width point.toNat ++ rest).length < width := by
    rw [List.length_append, whole]
    omega
  rw [codePoint?, if_neg long, digits, behind, hexNumber?_hexDigits, Nat.mod_eq_of_lt wide]
  dsimp only
  rw [if_pos point.toNat_lt, CodePoint.ofNat_toNat]

/-- A text that stands for a code point behind a backslash, whatever follows it. -/
structure Escapes (escaped : List Char) (point : CodePoint) : Prop where
  found : ∀ rest, escape? (escaped ++ rest) = some ([point], rest)
  printable : ∀ other ∈ escaped, isPrintable other = true

/-- A letter that is printable may stand for a character by itself. -/
theorem Escapes.of_letter {letter c : Char}
    (found : ∀ rest, escape? (letter :: rest) = some ([.char c], rest))
    (printable : isPrintable letter = true) : Escapes [letter] (.char c) :=
  ⟨found, List.forall_mem_singleton.2 printable⟩

/-- A letter in front of enough digits of a code point's number stands for the code point. -/
theorem Escapes.of_digits {letter : Char} {point : CodePoint} {width : Nat}
    (announces : ∀ text, escape? (letter :: text) = codePoint? width text)
    (printable : 0x20 ≤ letter.toNat ∧ letter.toNat < 0x7F)
    (wide : point.toNat < Nat.pow 16 width) :
    Escapes (letter :: hexDigits width point.toNat) point where
  found rest := by rw [List.cons_append, announces, codePoint?_hexDigits wide]
  printable := Printable.isPrintable (.cons printable (printable_hexDigits width point.toNat))

/-- A code point that is not printed is escaped by its number. -/
theorem exists_codeEscape (point : CodePoint) :
    ∃ escaped, codeEscape point.toNat = '\\' :: escaped ∧ Escapes escaped point := by
  unfold codeEscape
  split
  · next short => exact ⟨_, rfl, .of_digits (fun _ => rfl) (by decide) short⟩
  split
  · next medium => exact ⟨_, rfl, .of_digits (fun _ => rfl) (by decide) medium⟩
  · have long : point.toNat < Nat.pow 16 8 := Nat.lt_trans point.toNat_lt (by decide)
    exact ⟨_, rfl, .of_digits (fun _ => rfl) (by decide) long⟩

/-- A character without a meaning inside of a literal. -/
structure Plain (mark c : Char) : Prop where
  noMark : c ≠ mark
  noBackslash : c ≠ '\\'
  noEnd : ¬(c = '\n' ∨ c = '\r')
  printable : isPrintable c = true

section Inside

variable {mark : Char} (isMark : mark = '\'' ∨ mark = '"')

include isMark

/-- A quote is no backslash. -/
theorem noBackslash_of_isMark : '\\' ≠ mark := by
  rcases isMark with rfl | rfl <;> decide

/-- A character inside of a literal is written as it is, or escaped by a backslash. -/
theorem encodeChar_cases (c : Char) : (encodeChar mark c = [c] ∧ Plain mark c) ∨
    ∃ escaped, encodeChar mark c = '\\' :: escaped ∧ Escapes escaped (.char c) := by
  unfold encodeChar
  split
  · next special =>
    have itself : Escapes [c] (.char c) := by
      rcases special with rfl | rfl
      · rcases isMark with rfl | rfl
        · exact .of_letter (fun _ => rfl) (by decide)
        · exact .of_letter (fun _ => rfl) (by decide)
      · exact .of_letter (fun _ => rfl) (by decide)
    exact .inr ⟨_, rfl, itself⟩
  next notSpecial =>
  split
  · next isTab => exact .inr ⟨_, rfl, isTab ▸ .of_letter (fun _ => rfl) (by decide)⟩
  split
  · next isLine => exact .inr ⟨_, rfl, isLine ▸ .of_letter (fun _ => rfl) (by decide)⟩
  split
  · next isReturn => exact .inr ⟨_, rfl, isReturn ▸ .of_letter (fun _ => rfl) (by decide)⟩
  next noLine noReturn =>
  split
  · next printable =>
    rw [not_or] at notSpecial
    exact .inl ⟨rfl, notSpecial.1, notSpecial.2, not_or.2 ⟨noLine, noReturn⟩, printable⟩
  · exact .inr (exists_codeEscape (.char c))

/-- So is a code point; a surrogate is always escaped. -/
theorem encodePoint_cases (point : CodePoint) :
    (∃ c, point = .char c ∧ encodePoint mark point = [c] ∧ Plain mark c) ∨
      ∃ escaped, encodePoint mark point = '\\' :: escaped ∧ Escapes escaped point := by
  cases point with
  | char c => exact (encodeChar_cases isMark c).imp_left fun isPlain => ⟨c, rfl, isPlain⟩
  | high half => exact .inr (exists_codeEscape (.high half))
  | low half => exact .inr (exists_codeEscape (.low half))

/-- A code point that is written is read as the code point. -/
theorem inside?_encodePoint (point : CodePoint) (rest : List Char) :
    inside? mark (encodePoint mark point ++ rest) =
      (inside? mark rest).map fun later => (point :: later.1, later.2) := by
  rcases encodePoint_cases isMark point with ⟨c, rfl, isPlain, plain⟩ | ⟨escaped, isEscape, escapes⟩
  · rw [isPlain, List.singleton_append, inside?, if_neg plain.noMark, if_neg plain.noBackslash,
      if_neg plain.noEnd]
  · rw [isEscape, List.cons_append, inside?, if_neg (noBackslash_of_isMark isMark), if_pos rfl]
    split
    · next same =>
      rw [escapes.found rest] at same
      cases same
      rfl
    · next nothing =>
      rw [escapes.found rest] at nothing
      cases nothing

/-- The code points of a text and the closing quote are read as the text, up to the quote. -/
theorem inside?_encode (text : Points) (rest : List Char) :
    inside? mark (text.flatMap (encodePoint mark) ++ mark :: rest) = some (text, rest) := by
  induction text with
  | nil => rw [List.flatMap_nil, List.nil_append, inside?, if_pos rfl]
  | cons point text inductionHypothesis =>
    rw [List.flatMap_cons, List.append_assoc, inside?_encodePoint isMark, inductionHypothesis]
    rfl

/-- No code point is written with the quote in front. -/
theorem exists_encodePoint (point : CodePoint) :
    ∃ first others, encodePoint mark point = first :: others ∧ first ≠ mark := by
  rcases encodePoint_cases isMark point with ⟨c, _, isPlain, plain⟩ | ⟨escaped, isEscape, _⟩
  · exact ⟨_, _, isPlain, plain.noMark⟩
  · exact ⟨_, _, isEscape, noBackslash_of_isMark isMark⟩

/-- Whatever a code point is, it is written in printable characters. -/
theorem isPrintable_encodePoint (point : CodePoint) :
    ∀ other ∈ encodePoint mark point, isPrintable other = true := by
  rcases encodePoint_cases isMark point with ⟨c, _, isPlain, plain⟩ | ⟨escaped, isEscape, escapes⟩
  · rw [isPlain, List.forall_mem_singleton]
    exact plain.printable
  · rw [isEscape, List.forall_mem_cons]
    exact ⟨by decide, escapes.printable⟩

end Inside

/-- The literal of a text is read as the text, if no further quote follows: after an empty literal
it would begin a literal of three quotes. -/
theorem read?_encode (text : Points) {rest : List Char}
    (apart : rest.head? ≠ some (delimiter text)) :
    read? (encode text ++ rest) = some (text, rest) := by
  have isMark := isMark_delimiter text
  have whole : encode text ++ rest = delimiter text ::
      (text.flatMap (encodePoint (delimiter text)) ++ delimiter text :: rest) := by
    simp [encode]
  rw [whole]
  generalize delimiter text = mark at isMark apart
  have short : (text.flatMap (encodePoint mark) ++ mark :: rest).take 2 ≠ [mark, mark] := by
    cases text with
    | nil =>
      cases rest with
      | nil => simp
      | cons next rest => simpa using apart
    | cons point text =>
      obtain ⟨first, others, isFirst, noQuote⟩ := exists_encodePoint isMark point
      rw [List.flatMap_cons, isFirst]
      simp [noQuote]
  rw [read?, if_neg fun noMark => isMark.elim noMark.1 noMark.2, if_neg short,
    inside?_encode isMark]

example : read? "'\\x41\\102\\u0043\\q' +".toList = some (points "ABC\\q".toList, " +".toList) := by
  decide +kernel

/-- Every character of a literal is printable, so that no line ends in it. -/
theorem breaksLine_encode (text : Points) :
    ∀ c ∈ encode text, isPrintable c = true ∧ breaksLine c = false := by
  have isMark := isMark_delimiter text
  unfold encode
  generalize delimiter text = mark at isMark
  have markPrintable : isPrintable mark = true := by rcases isMark with rfl | rfl <;> decide
  suffices each : ∀ c ∈ mark :: (text.flatMap (encodePoint mark) ++ [mark]),
      isPrintable c = true from
    fun c among => ⟨each c among, breaksLine_of_isPrintable (each c among)⟩
  intro c among
  rcases List.mem_cons.1 among with rfl | among
  · exact markPrintable
  rcases List.mem_append.1 among with inside | last
  · obtain ⟨source, _, inside⟩ := List.mem_flatMap.1 inside
    exact isPrintable_encodePoint isMark source c inside
  · rwa [List.mem_singleton.1 last]

end Quoted

end DeclCodec.Text
