import DeclCodec.Proofs.Json.Numbers
import DeclCodec.Proofs.Json.RoundTrip
import DeclCodec.Proofs.Traversal
import DeclCodec.Text.Base64

/-!
# Strict JSON

The grammar of JSON values, blanks included: three words, numbers, strings, and
arrays and objects of values. It has no word for a number that is not finite.

Whatever is written of a value without such numbers derives from the grammar: the
literals of texts, base64 text among them, the digits of integers, the layouts of
finite numbers, and lists and objects whose parts derive from it.
-/

namespace DeclCodec.Json

/-! ## The grammar -/

/-- Does the character stand for itself inside of a string? -/
def IsPlain (c : Char) : Prop := 0x20 ≤ c.toNat ∧ c ≠ '"' ∧ c ≠ '\\'

instance : DecidablePred IsPlain := fun _ => inferInstanceAs (Decidable (_ ∧ _))

/-- The inside of a string. -/
inductive StringChars : List Char → Prop
  | nil : StringChars []
  | plain {c : Char} {rest : List Char} (itself : IsPlain c) :
      StringChars rest → StringChars (c :: rest)
  /-- An escape of one letter. -/
  | short {c : Char} {rest : List Char}
      (letter : c ∈ ['"', '\\', '/', 'b', 'f', 'n', 'r', 't']) :
      StringChars rest → StringChars ('\\' :: c :: rest)
  /-- An escape by four hexadecimal digits. -/
  | unit {digits rest : List Char} (four : digits.length = 4)
      (hexadecimal : ∀ c ∈ digits, c.isDigit = true ∨ 'a' ≤ c ∧ c ≤ 'f' ∨ 'A' ≤ c ∧ c ≤ 'F') :
      StringChars rest → StringChars ('\\' :: 'u' :: (digits ++ rest))

/-- Is the text a string? -/
def IsString (text : List Char) : Prop :=
  ∃ inside, StringChars inside ∧ text = '"' :: (inside ++ ['"'])

/-- At least one digit. -/
def Digits (text : List Char) : Prop := text ≠ [] ∧ ∀ c ∈ text, c.isDigit = true

/-- The fraction of a number, or nothing. -/
inductive FractionPart : List Char → Prop
  | nothing : FractionPart []
  | point {digits : List Char} (digitsAfter : Digits digits) : FractionPart ('.' :: digits)

/-- The exponent of a number, or nothing. -/
inductive ExponentPart : List Char → Prop
  | nothing : ExponentPart []
  | mark {letter : Char} {sign digits : List Char} (isMark : letter = 'e' ∨ letter = 'E')
      (isSign : sign ∈ [[], ['+'], ['-']]) (digitsAfter : Digits digits) :
      ExponentPart (letter :: (sign ++ digits))

/-- Is the text a number without a sign? -/
def IsUnsigned (text : List Char) : Prop :=
  ∃ whole fraction exponent, LeadingDigits whole ∧ FractionPart fraction ∧ ExponentPart exponent ∧
    text = whole ++ (fraction ++ exponent)

/-- Is the text a number? -/
def IsNumber (text : List Char) : Prop :=
  IsUnsigned text ∨ ∃ unsigned, IsUnsigned unsigned ∧ text = '-' :: unsigned

/-- A part of an array or object, with what stands around it. -/
structure Spaced where
  before : List Char
  part : List Char
  after : List Char

/-- The part and what stands around it. -/
def Spaced.text (spaced : Spaced) : List Char := spaced.before ++ (spaced.part ++ spaced.after)

/-- Are there blanks only around the part? -/
def Spaced.Blank (spaced : Spaced) : Prop :=
  (∀ c ∈ spaced.before, isGap (.char c) = true) ∧ ∀ c ∈ spaced.after, isGap (.char c) = true

/-- Is the text a JSON value? -/
inductive Strict : List Char → Prop
  | word {text : List Char} (isWord : text ∈ ["null".toList, "true".toList, "false".toList]) :
      Strict text
  | number {text : List Char} (isNumber : IsNumber text) : Strict text
  | string {text : List Char} (isString : IsString text) : Strict text
  | emptyArray {gaps : List Char} (blank : ∀ c ∈ gaps, isGap (.char c) = true) :
      Strict ('[' :: (gaps ++ [']']))
  | array (items : List Spaced) (blank : ∀ item ∈ items, item.Blank)
      (strict : ∀ item ∈ items, Strict item.part) : Strict (bracketed (items.map Spaced.text))
  | emptyObject {gaps : List Char} (blank : ∀ c ∈ gaps, isGap (.char c) = true) :
      Strict ('\x7b' :: (gaps ++ ['\x7d']))
  | object (members : List (Spaced × Spaced))
      (blank : ∀ member ∈ members, member.1.Blank ∧ member.2.Blank)
      (names : ∀ member ∈ members, IsString member.1.part)
      (strict : ∀ member ∈ members, Strict member.2.part) :
      Strict (braced (members.map fun member => member.1.text ++ ':' :: member.2.text))

/-- A number without a sign begins with a digit. -/
theorem begins_of_isUnsigned {text : List Char} (isUnsigned : IsUnsigned text) :
    ∃ c rest, text = c :: rest ∧ c.isDigit = true := by
  obtain ⟨whole, fraction, exponent, ⟨nonempty, all, _⟩, _, _, rfl⟩ := isUnsigned
  obtain ⟨c, digits, rfl⟩ := List.exists_cons_of_ne_nil nonempty
  exact ⟨c, _, rfl, all c List.mem_cons_self⟩

/-- What a value begins with: a letter of a word or an opening character, or a digit, perhaps behind
a minus sign. -/
theorem begins_of_strict {text : List Char} (strict : Strict text) :
    ∃ c rest, text = c :: rest ∧ (c ∈ ['n', 't', 'f', '"', '[', '\x7b'] ∨ c.isDigit = true ∨
      c = '-' ∧ ∃ d tail, rest = d :: tail ∧ d.isDigit = true) := by
  cases strict with
  | word isWord =>
    simp only [List.mem_cons, List.not_mem_nil, or_false] at isWord
    rcases isWord with rfl | rfl | rfl <;> exact ⟨_, _, rfl, .inl (by decide)⟩
  | number isNumber =>
    rcases isNumber with isUnsigned | ⟨unsigned, isUnsigned, rfl⟩
    · obtain ⟨c, rest, rfl, digit⟩ := begins_of_isUnsigned isUnsigned
      exact ⟨c, rest, rfl, .inr (.inl digit)⟩
    · exact ⟨'-', unsigned, rfl, .inr (.inr ⟨rfl, begins_of_isUnsigned isUnsigned⟩)⟩
  | string isString =>
    obtain ⟨inside, _, rfl⟩ := isString
    exact ⟨_, _, rfl, .inl (by decide)⟩
  | _ => exact ⟨_, _, rfl, .inl (by decide)⟩

/-- The words for the numbers that are not finite are no JSON values. -/
theorem not_strict_of_mem {text : List Char}
    (word : text ∈ ["NaN".toList, "Infinity".toList, "-Infinity".toList]) : ¬Strict text := by
  have letters : text = ['N', 'a', 'N'] ∨ text = ['I', 'n', 'f', 'i', 'n', 'i', 't', 'y'] ∨
      text = ['-', 'I', 'n', 'f', 'i', 'n', 'i', 't', 'y'] := by
    simpa using word
  intro strict
  obtain ⟨c, rest, rfl, opening | number⟩ := begins_of_strict strict
  · rcases letters with same | same | same <;> cases same <;> exact absurd opening (by decide)
  · rcases letters with same | same | same <;> cases same <;> simp at number

/-! ## Strings -/

/-- Characters that stand for themselves are the inside of a string. -/
theorem stringChars_of_plain {text : List Char} (plain : ∀ c ∈ text, IsPlain c) :
    StringChars text := by
  induction text with
  | nil => exact .nil
  | cons c rest inductionHypothesis =>
    obtain ⟨first, later⟩ := List.forall_mem_cons.1 plain
    exact .plain first (inductionHypothesis later)

/-- Written hexadecimal digits are digits. -/
theorem hexadecimal_hexDigits (width number : Nat) :
    ∀ c ∈ Text.hexDigits width number,
      c.isDigit = true ∨ 'a' ≤ c ∧ c ≤ 'f' ∨ 'A' ≤ c ∧ c ≤ 'F' := by
  induction width generalizing number with
  | zero => exact fun c member => absurd member List.not_mem_nil
  | succ width inductionHypothesis =>
    have all : ∀ digit : Fin 16, (Text.hexDigit digit.val).isDigit = true ∨
        'a' ≤ Text.hexDigit digit.val ∧ Text.hexDigit digit.val ≤ 'f' ∨
        'A' ≤ Text.hexDigit digit.val ∧ Text.hexDigit digit.val ≤ 'F' := by decide
    rw [Text.hexDigits, List.forall_mem_append, List.forall_mem_singleton]
    exact ⟨inductionHypothesis _, all ⟨number % 16, Nat.mod_lt number (by decide)⟩⟩

/-- The escape of a unit may stand inside of a string. -/
theorem StringChars.escapeUnit {rest : List Char} (later : StringChars rest) (unit : Nat) :
    StringChars (escapeUnit unit ++ rest) :=
  .unit (Text.length_hexDigits 4 unit) (hexadecimal_hexDigits 4 unit) later

/-- A written character may stand inside of a string. -/
theorem StringChars.escapeChar {rest : List Char} (later : StringChars rest) (c : Char) :
    StringChars (escapeChar c ++ rest) := by
  by_cases quote : c = '"'
  · subst quote
    exact .short (by decide) later
  by_cases backslash : c = '\\'
  · subst backslash
    exact .short (by decide) later
  unfold Json.escapeChar
  rw [if_neg quote, if_neg backslash]
  split
  · exact .short (by decide) later
  split
  · exact .short (by decide) later
  split
  · exact .short (by decide) later
  split
  · exact .short (by decide) later
  split
  · exact .short (by decide) later
  split
  · next printable => exact .plain ⟨printable.1, quote, backslash⟩ later
  split
  · exact later.escapeUnit _
  · rw [List.append_assoc]
    exact (later.escapeUnit _).escapeUnit _

/-- The literal of a text is a string. -/
theorem isString_quote (text : Points) : IsString (quote text) := by
  refine ⟨escape text, ?_, rfl⟩
  unfold escape
  induction text with
  | nil => exact .nil
  | cons point rest inductionHypothesis =>
    cases point with
    | char c => exact inductionHypothesis.escapeChar c
    | high | low => exact inductionHypothesis.escapeUnit _

/-- A character of base64 stands for itself. -/
theorem isPlain_base64Char (value : Nat) : IsPlain (Text.base64Char value) := by
  have all : ∀ small : Fin 62, IsPlain (Text.base64Char small.val) := by decide
  by_cases small : value < 62
  · exact all ⟨value, small⟩
  · have large : Text.base64Char value = if value = 62 then '+' else '/' := by
      rw [Text.base64Char, if_neg (by omega), if_neg (by omega), if_neg small]
    rw [large]
    split <;> decide

/-- Base64 text in quotes is a string. -/
theorem isString_base64 (bytes : List UInt8) : IsString ('"' :: (Text.base64 bytes ++ ['"'])) := by
  refine ⟨Text.base64 bytes, stringChars_of_plain ?_, rfl⟩
  have filler : IsPlain '=' := by decide
  fun_induction Text.base64 bytes with
  | case1 => exact fun c member => absurd member List.not_mem_nil
  | case2 | case3 => simp [isPlain_base64Char, filler]
  | case4 a b c rest value inductionHypothesis =>
    simp only [List.forall_mem_cons, isPlain_base64Char, true_and]
    exact inductionHypothesis

/-! ## Numbers -/

/-- The text of an integer is a number. -/
theorem isNumber_intText (value : Int) : IsNumber (intText value) := by
  have isUnsigned : IsUnsigned (Nat.toDigits 10 value.natAbs) :=
    ⟨_, [], [], leadingDigits_toDigits value.natAbs, .nothing, .nothing, by simp⟩
  unfold intText
  split
  · exact .inr ⟨_, isUnsigned, rfl⟩
  · exact .inl isUnsigned

variable {format : FloatFormat} {digits : List Char}

/-- Digits laid out with a point are a number. -/
theorem isUnsigned_positional (marked : format.wholeMark = ['.', '0'])
    (leading : LeadingDigits digits) {point : Int} (zeroPoint : digits = ['0'] → point = 1) :
    IsUnsigned (format.positional digits point) := by
  have lengthPositive : 0 < digits.length := List.length_pos_iff.mpr leading.1
  unfold FloatFormat.positional
  split
  · have zeroWhole : LeadingDigits ['0'] := by simp [LeadingDigits]
    have fraction : Digits (List.replicate (-point).toNat '0' ++ digits) := by
      refine ⟨by simp [leading.1], ?_⟩
      rw [List.forall_mem_append]
      exact ⟨fun c => isDigit_of_mem_replicate, leading.2.1⟩
    exact ⟨_, _, [], zeroWhole, .point fraction, .nothing, by simp⟩
  split
  · have wholeLeading := leadingDigits_append_replicate leading
      (point.toNat - digits.length) fun alone => by simp [alone, zeroPoint alone]
    have fraction : Digits ['0'] := by simp [Digits]
    rw [marked]
    exact ⟨_, _, [], wholeLeading, .point fraction, .nothing, by simp⟩
  · next inside =>
    have fraction : Digits (digits.drop point.toNat) := by
      refine ⟨?_, fun c member => leading.2.1 c (List.mem_of_mem_drop member)⟩
      rw [Ne, List.drop_eq_nil_iff]
      omega
    have whole := leadingDigits_take leading (by omega : 0 < point.toNat)
    exact ⟨_, _, [], whole, .point fraction, .nothing, by simp⟩

/-- Digits with an exponent are a number. -/
theorem isUnsigned_scientific (leading : LeadingDigits digits) (exponent : Int) :
    IsUnsigned (format.scientific digits exponent) := by
  have fraction : FractionPart (if digits.length ≤ 1 then [] else '.' :: digits.drop 1) := by
    split
    · exact .nothing
    · next several =>
      refine .point ⟨?_, fun c member => leading.2.1 c (List.mem_of_mem_drop member)⟩
      rw [Ne, List.drop_eq_nil_iff]
      exact several
  have exponentDigits : Digits
      (List.replicate (format.exponentWidth - (Nat.toDigits 10 exponent.natAbs).length) '0' ++
        Nat.toDigits 10 exponent.natAbs) :=
    ⟨by simp [Nat.toDigits_ne_nil], isDigit_padded _ _⟩
  have sign : [if exponent < 0 then '-' else '+'] ∈ [[], ['+'], ['-']] := by
    split <;> simp
  exact ⟨_, _, _, leadingDigits_take leading Nat.one_pos, fraction,
    .mark (.inl rfl) sign exponentDigits,
    by simp [FloatFormat.scientific, FloatFormat.exponentText]⟩

/-- The text of a finite number is a number. -/
theorem isNumber_write (marked : format.wholeMark = ['.', '0']) {number : Binary64}
    (finite : number.isFinite = true) : IsNumber (format.write number) := by
  cases number with
  | nan | infinity => cases finite
  | finite negative rank =>
    have magnitude : IsUnsigned (format.magnitude rank.val) := by
      have leading :=
        FloatFormat.leadingDigits_significantDigits (Binary64.shortest rank.val).coefficient
      unfold FloatFormat.magnitude
      dsimp only
      split
      · exact isUnsigned_positional marked leading (point_of_zero rank.isLt)
      · exact isUnsigned_scientific leading _
    cases negative with
    | false => exact .inl magnitude
    | true => exact .inr ⟨_, magnitude, rfl⟩

/-! ## Values -/

/-- A part without blanks around it. -/
def Spaced.bare (part : List Char) : Spaced := ⟨[], part, []⟩

/-- There is nothing around it. -/
theorem Spaced.blank_bare (part : List Char) : (Spaced.bare part).Blank := by
  simp [Spaced.Blank, Spaced.bare]

/-- So it is written as it stands. -/
theorem Spaced.text_bare (part : List Char) : (Spaced.bare part).text = part := by
  simp [Spaced.text, Spaced.bare]

/-- A list of values is a value. -/
theorem strict_bracketed {texts : List (List Char)} (strict : ∀ text ∈ texts, Strict text) :
    Strict (bracketed texts) := by
  have array := Strict.array (texts.map .bare)
    (List.forall_mem_map.2 fun text _ => Spaced.blank_bare text) (List.forall_mem_map.2 strict)
  rw [List.map_map] at array
  convert array using 2
  exact (List.map_id' texts).symm.trans
    (List.map_congr_left fun text _ => (Spaced.text_bare text).symm)

/-- Is the text a name with a value behind it? -/
def IsMember (text : List Char) : Prop :=
  ∃ name value, IsString name ∧ Strict value ∧ text = name ++ ':' :: value

/-- A list of members is a value. -/
theorem strict_braced {texts : List (List Char)} (members : ∀ text ∈ texts, IsMember text) :
    Strict (braced texts) := by
  have split : ∀ text ∈ texts, ∃ parts : List Char × List Char,
      IsString parts.1 ∧ Strict parts.2 ∧ text = parts.1 ++ ':' :: parts.2 := by
    intro text member
    obtain ⟨name, value, isName, isValue, same⟩ := members text member
    exact ⟨(name, value), isName, isValue, same⟩
  obtain ⟨rows, rfl, all⟩ := exists_rows split
  let spaced (row : List Char × List Char × List Char) : Spaced × Spaced :=
    (.bare row.2.1, .bare row.2.2)
  have object := Strict.object (rows.map spaced)
    (List.forall_mem_map.2 fun row _ => ⟨Spaced.blank_bare row.2.1, Spaced.blank_bare row.2.2⟩)
    (List.forall_mem_map.2 fun row member => (all row member).1)
    (List.forall_mem_map.2 fun row member => (all row member).2.1)
  rw [List.map_map] at object
  convert object using 2
  refine List.map_congr_left fun row member => ?_
  rw [(all row member).2.2, Function.comp_apply, Spaced.text_bare, Spaced.text_bare]

/-- JSON values whose numbers are finite. -/
inductive Finite : Json → Prop
  | null : Finite .null
  | bool (value : Bool) : Finite (.bool value)
  | int (value : Int) : Finite (.int value)
  | float {number : Binary64} (finite : number.isFinite = true) : Finite (.float number)
  | str (text : Points) : Finite (.str text)
  | list {items : List Json} : (∀ item ∈ items, Finite item) → Finite (.list items)
  | object {members : List (Points × Json)} :
      (∀ member ∈ members, Finite member.2) → Finite (.object members)

/-- The text of a value with finite numbers is strict. -/
theorem strict_compact {json : Json} (finite : json.Finite) : Strict json.compact := by
  induction finite with
  | null => exact .word (by decide)
  | bool value => cases value <;> exact .word (by decide)
  | int value => exact .number (isNumber_intText value)
  | float finite => exact .number (isNumber_write rfl finite)
  | str text => exact .string (isString_quote text)
  | list _ inductionHypothesis =>
    rw [compact, compactItems_eq]
    exact strict_bracketed (List.forall_mem_map.2 inductionHypothesis)
  | object _ inductionHypothesis =>
    rw [compact, compactMembers_eq]
    exact strict_braced (List.forall_mem_map.2 fun member held =>
      ⟨_, _, isString_quote member.1, inductionHypothesis member held, rfl⟩)

end DeclCodec.Json
