import DeclCodec.Text.Hex

/-!
# Code points

A string of the emitted language is a list of code points. A code point is a
character or a surrogate. UTF-16 writes a character beyond the first plane as a high
surrogate and a low one; in a string a surrogate may stand for itself, and a high one
with a low one right behind it are still two code points and not the character.

Whatever writes a string unit by unit loses that difference. What is left of a string
then is `joined`: each high surrogate with a low one right behind it has become the
character that the two write.
-/

namespace DeclCodec

/-- A code point. A surrogate is given by its place among the high ones or the low ones. -/
inductive CodePoint
  | char (c : Char)
  | high (half : Fin 0x400)
  | low (half : Fin 0x400)
deriving DecidableEq, Repr

/-- A string of the emitted language. -/
abbrev Points := List CodePoint

namespace Text

/-- Is the unit the first of a surrogate pair? -/
def isHighSurrogate (unit : Nat) : Bool := 0xD800 ≤ unit && unit < 0xDC00

/-- Is the unit the second of a surrogate pair? -/
def isLowSurrogate (unit : Nat) : Bool := 0xDC00 ≤ unit && unit < 0xE000

/-- The code point of a surrogate pair. -/
def joinSurrogates (high low : Nat) : Nat := 0x10000 + (high - 0xD800) * 0x400 + (low - 0xDC00)

/-- The surrogate pair of a code point beyond the first plane. -/
def splitSurrogates (code : Nat) : Nat × Nat :=
  (0xD800 + (code - 0x10000) / 0x400, 0xDC00 + (code - 0x10000) % 0x400)

/-- A code point beyond the first plane is the join of its surrogates. -/
theorem joinSurrogates_splitSurrogates {code : Nat} (beyond : 0x10000 ≤ code) :
    joinSurrogates (splitSurrogates code).1 (splitSurrogates code).2 = code := by
  unfold joinSurrogates splitSurrogates
  omega

/-- The surrogates of a code point are a high and a low one. -/
theorem splitSurrogates_range {code : Nat} (beyond : 0x10000 ≤ code) (valid : code < 0x110000) :
    isHighSurrogate (splitSurrogates code).1 = true ∧
      isLowSurrogate (splitSurrogates code).2 = true := by
  unfold isHighSurrogate isLowSurrogate splitSurrogates
  rw [Bool.and_eq_true, Bool.and_eq_true]
  refine ⟨⟨decide_eq_true ?_, decide_eq_true ?_⟩, decide_eq_true ?_, decide_eq_true ?_⟩ <;> omega

end Text

namespace CodePoint

/-- The number of a code point. -/
def toNat : CodePoint → Nat
  | .char c => c.toNat
  | .high half => 0xD800 + half.val
  | .low half => 0xDC00 + half.val

/-- The code point of a number that is not too large. -/
def ofNat (code : Nat) : CodePoint :=
  if Text.isHighSurrogate code then .high (Fin.ofNat 0x400 (code - 0xD800))
  else if Text.isLowSurrogate code then .low (Fin.ofNat 0x400 (code - 0xDC00))
  else .char (Char.ofNat code)

/-- Which numbers are those of high surrogates. -/
theorem isHighSurrogate_iff {unit : Nat} :
    Text.isHighSurrogate unit = true ↔ 0xD800 ≤ unit ∧ unit < 0xDC00 := by
  rw [Text.isHighSurrogate, Bool.and_eq_true, decide_eq_true_iff, decide_eq_true_iff]

/-- Which numbers are those of low surrogates. -/
theorem isLowSurrogate_iff {unit : Nat} :
    Text.isLowSurrogate unit = true ↔ 0xDC00 ≤ unit ∧ unit < 0xE000 := by
  rw [Text.isLowSurrogate, Bool.and_eq_true, decide_eq_true_iff, decide_eq_true_iff]

/-- The number of a high surrogate is read as it. -/
theorem ofNat_high {code : Nat} {half : Fin 0x400} (same : code = 0xD800 + half.val) :
    ofNat code = .high half := by
  have isHigh : Text.isHighSurrogate code = true := isHighSurrogate_iff.2 (by omega)
  have whichHalf : code - 0xD800 = half.val := by omega
  rw [ofNat, if_pos isHigh, whichHalf, Fin.ofNat_val_eq_self]

/-- The number of a low surrogate is read as it. -/
theorem ofNat_low {code : Nat} {half : Fin 0x400} (same : code = 0xDC00 + half.val) :
    ofNat code = .low half := by
  have noHigh : ¬Text.isHighSurrogate code = true := fun isHigh => by
    have := isHighSurrogate_iff.1 isHigh
    omega
  have isLow : Text.isLowSurrogate code = true := isLowSurrogate_iff.2 (by omega)
  have whichHalf : code - 0xDC00 = half.val := by omega
  rw [ofNat, if_neg noHigh, if_pos isLow, whichHalf, Fin.ofNat_val_eq_self]

/-- The number of no surrogate is read as a character. -/
theorem ofNat_char {code : Nat} (noSurrogate : code < 0xD800 ∨ 0xE000 ≤ code) :
    ofNat code = .char (Char.ofNat code) := by
  have noHigh : ¬Text.isHighSurrogate code = true := fun isHigh => by
    have := isHighSurrogate_iff.1 isHigh
    omega
  have noLow : ¬Text.isLowSurrogate code = true := fun isLow => by
    have := isLowSurrogate_iff.1 isLow
    omega
  rw [ofNat, if_neg noHigh, if_neg noLow]

/-- No character has the number of a surrogate, and none a number that is too large. -/
theorem toNat_char_range (c : Char) :
    (c.toNat < 0xD800 ∨ 0xE000 ≤ c.toNat) ∧ c.toNat < 0x110000 := by
  have valid := c.valid
  simp only [UInt32.isValidChar, Nat.isValidChar] at valid
  change (c.val.toNat < 0xD800 ∨ 0xE000 ≤ c.val.toNat) ∧ c.val.toNat < 0x110000
  omega

/-- A code point is the code point of its number. -/
theorem ofNat_toNat (point : CodePoint) : ofNat point.toNat = point := by
  cases point with
  | char c =>
    exact (ofNat_char (toNat_char_range c).1).trans
      (congrArg CodePoint.char c.ofNat_toNat)
  | high half => exact ofNat_high rfl
  | low half => exact ofNat_low rfl

/-- No code point has a number that is too large. -/
theorem toNat_lt (point : CodePoint) : point.toNat < 0x110000 := by
  cases point with
  | char c => exact (toNat_char_range c).2
  | high half =>
    rw [toNat]
    omega
  | low half =>
    rw [toNat]
    omega

/-- Code points of one number are one. -/
theorem toNat_inj {left right : CodePoint} : left.toNat = right.toNat ↔ left = right :=
  ⟨fun same => by rw [← ofNat_toNat left, same, ofNat_toNat], congrArg toNat⟩

/-- The character that is written by a high and a low surrogate. -/
def pair (high low : Fin 0x400) : Char := Char.ofNat (0x10000 + high.val * 0x400 + low.val)

/-- Its number. -/
theorem toNat_pair (high low : Fin 0x400) :
    (pair high low).toNat = 0x10000 + high.val * 0x400 + low.val := by
  have valid : (0x10000 + high.val * 0x400 + low.val).isValidChar := .inr (by omega)
  rw [pair, Char.ofNat, dif_pos valid]
  rfl

/-- It lies beyond the first plane. -/
theorem le_toNat_pair (high low : Fin 0x400) : 0x10000 ≤ (pair high low).toNat := by
  rw [toNat_pair]
  omega

/-- It has the number of the pair. -/
theorem ofNat_joinSurrogates (high low : Fin 0x400) :
    ofNat (Text.joinSurrogates (toNat (.high high)) (toNat (.low low))) =
        .char (pair high low) := by
  have code : Text.joinSurrogates (toNat (.high high)) (toNat (.low low)) =
      0x10000 + high.val * 0x400 + low.val := by
    change 0x10000 + (0xD800 + high.val - 0xD800) * 0x400 + (0xDC00 + low.val - 0xDC00) = _
    omega
  rw [code, ofNat_char (by omega), pair]

/-- The character of a code point that is no surrogate. -/
def char? : CodePoint → Option Char
  | .char c => some c
  | _ => none

/-- A character in the place of a code point: itself, or the one that stands for what is none. -/
def glyph (point : CodePoint) : Char := point.char?.getD '\uFFFD'

/-- A code point as it is printed: a surrogate by an escape. -/
def shown : CodePoint → List Char
  | .char c => [c]
  | surrogate => '\\' :: 'u' :: Text.hexDigits 4 surrogate.toNat

end CodePoint

namespace Text

/-- Characters as code points. -/
def points (text : List Char) : Points := text.map .char

instance : Coe String Points := ⟨fun text => points text.toList⟩

/-- The characters of a text that has no surrogates. -/
def chars? (text : Points) : Option (List Char) := text.mapM CodePoint.char?

/-- A text as it is printed. -/
def shown (text : Points) : String := String.ofList (text.flatMap CodePoint.shown)

/-- A text with its surrogate pairs joined, from left to right. -/
def joined : Points → Points
  | [] => []
  | .high high :: .low low :: rest => .char (CodePoint.pair high low) :: joined rest
  | point :: rest => point :: joined rest

@[simp]
theorem points_nil : points [] = [] := rfl

@[simp]
theorem points_cons (c : Char) (text : List Char) : points (c :: text) = .char c :: points text :=
  rfl

@[simp]
theorem points_append (text more : List Char) :
    points (text ++ more) = points text ++ points more :=
  List.map_append

/-- The characters of a text of characters. -/
@[simp]
theorem chars?_points (text : List Char) : chars? (points text) = some text := by
  induction text with
  | nil => rfl
  | cons c text inductionHypothesis =>
    rw [chars?] at inductionHypothesis ⊢
    rw [points_cons, List.mapM_cons, inductionHypothesis]
    rfl

/-- Texts of the same code points have the same characters. -/
theorem points_inj {left right : List Char} : points left = points right ↔ left = right := by
  refine ⟨fun same => ?_, congrArg points⟩
  have back := congrArg chars? same
  rwa [chars?_points, chars?_points, Option.some.injEq] at back

/-- Strings of the same code points are one string. -/
theorem points_toList_inj {left right : String} :
    points left.toList = points right.toList ↔ left = right :=
  points_inj.trans String.toList_inj

/-- A text is as long as its characters. -/
@[simp]
theorem length_points (text : List Char) : (points text).length = text.length := List.length_map _

/-- Which texts have characters only. -/
theorem chars?_eq_some_iff {text : Points} {chars : List Char} :
    chars? text = some chars ↔ text = points chars := by
  refine ⟨fun read => ?_, fun same => same ▸ chars?_points chars⟩
  induction text generalizing chars with
  | nil =>
    cases read
    rfl
  | cons point text inductionHypothesis =>
    simp only [chars?, List.mapM_cons, Option.bind_eq_bind, Option.bind_eq_some_iff,
      Option.pure_def, Option.some.injEq] at read
    obtain ⟨c, isChar, others, later, rfl⟩ := read
    cases point with
    | char own =>
      cases isChar
      rw [points_cons, inductionHypothesis later]
    | high | low => cases isChar

/-- A character is no half of a pair. -/
@[simp]
theorem joined_char (c : Char) (text : Points) :
    joined (.char c :: text) = .char c :: joined text := by
  rw [joined]
  exact fun _ _ _ same => by cases same

/-- A low surrogate comes too late for a pair. -/
@[simp]
theorem joined_low (low : Fin 0x400) (text : Points) :
    joined (.low low :: text) = .low low :: joined text := by
  rw [joined]
  exact fun _ _ _ same => by cases same

/-- Characters stay what they are, whatever follows. -/
theorem joined_points_append (text : List Char) (more : Points) :
    joined (points text ++ more) = points text ++ joined more := by
  induction text with
  | nil => rfl
  | cons c text inductionHypothesis =>
    rw [points_cons, List.cons_append, joined_char, inductionHypothesis, List.cons_append]

/-- Characters have no pairs to be joined. -/
@[simp]
theorem joined_points (text : List Char) : joined (points text) = points text := by
  have alone := joined_points_append text []
  rwa [List.append_nil, joined, List.append_nil] at alone

/-- Joined once, a text has no pairs to be joined. -/
@[simp]
theorem joined_joined (text : Points) : joined (joined text) = joined text := by
  fun_induction joined text with
  | case1 => rfl
  | case2 high low rest inductionHypothesis => rw [joined_char, inductionHypothesis]
  | case3 point rest noPair inductionHypothesis =>
    cases point with
    | char c => rw [joined_char, inductionHypothesis]
    | low half => rw [joined_low, inductionHypothesis]
    | high half =>
      rw [joined, inductionHypothesis]
      intro high low more same begins
      cases same
      -- What begins with a low surrogate when joined began with it before.
      cases rest with
      | nil => cases begins
      | cons next rest =>
        cases next with
        | char c => cases begins
        | low other => exact noPair _ _ _ rfl rfl
        | high other =>
          cases rest with
          | nil => cases begins
          | cons last rest => cases last <;> cases begins

/-- The two surrogates of the character U+1F600, each for itself. -/
def halves : Points := [.ofNat 0xD83D, .ofNat 0xDE00]

/-- Joined, they are the character. -/
theorem joined_halves : joined halves = points "😀".toList := by decide +kernel

/-- Has a text no pairs to be joined? -/
def IsJoined (text : Points) : Prop := joined text = text

instance : DecidablePred IsJoined := fun _ => inferInstanceAs (Decidable (_ = _))

/-- A text of characters has none. -/
theorem isJoined_points (text : List Char) : IsJoined (points text) := joined_points text

/-- Joining makes no text longer. -/
theorem length_joined_le (text : Points) : (joined text).length ≤ text.length := by
  fun_induction joined text with
  | case1 => exact Nat.le_refl _
  | case2 high low rest inductionHypothesis =>
    simp only [List.length_cons]
    omega
  | case3 point rest noPair inductionHypothesis =>
    simp only [List.length_cons]
    omega

/-- A text has no pairs to be joined exactly if no high surrogate has a low one right behind it. -/
theorem isJoined_iff {text : Points} :
    IsJoined text ↔ ∀ before high low after, text ≠ before ++ .high high :: .low low :: after := by
  fun_induction joined text with
  | case1 => simp [IsJoined, joined]
  | case2 high low rest _ =>
    refine ⟨fun same => ?_, fun none => absurd rfl (none [] high low rest)⟩
    have shorter := length_joined_le rest
    have lengths := congrArg List.length same
    simp only [joined, List.length_cons] at lengths
    omega
  | case3 point rest noPair inductionHypothesis =>
    rw [IsJoined, joined, List.cons.injEq, and_iff_right rfl]
    · refine inductionHypothesis.trans ⟨fun none before high low after split => ?_,
        fun none before high low after split =>
          none (point :: before) high low after (by rw [split]; rfl)⟩
      cases before with
      | nil =>
        cases split
        exact noPair high low after rfl rfl
      | cons first before => exact none before high low after (List.cons.inj split).2
    · exact noPair

/-- A text that has only characters of the first plane when joined had no others before. -/
theorem eq_points_of_joined {text : Points} {chars : List Char}
    (small : ∀ c ∈ chars, c.toNat < 0x10000) (same : joined text = points chars) :
    text = points chars := by
  fun_induction joined text generalizing chars with
  | case1 => exact same
  | case2 high low rest _ =>
    cases chars with
    | nil => cases same
    | cons c chars =>
      cases (List.cons.inj same).1
      exact absurd (small _ List.mem_cons_self) (Nat.not_lt.2 (CodePoint.le_toNat_pair high low))
  | case3 point rest _ inductionHypothesis =>
    cases chars with
    | nil => cases same
    | cons c chars =>
      obtain ⟨rfl, later⟩ := List.cons.inj same
      rw [inductionHypothesis (fun other among => small other (List.mem_cons_of_mem _ among)) later,
        points_cons]

end Text

end DeclCodec
