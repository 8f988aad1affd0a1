import DeclCodec.Json.Text
import DeclCodec.Proofs.Number.Digits
import Mathlib.Tactic.Common

/-!
# Written text is printable

Whatever is written of a value is printable ASCII: code points beyond it are escaped
by hexadecimal digits.
-/

namespace DeclCodec

/-- All characters are in the printable ASCII range. -/
def Printable (text : List Char) : Prop := ∀ c ∈ text, 0x20 ≤ c.toNat ∧ c.toNat < 0x7F

instance (text : List Char) : Decidable (Printable text) :=
  List.decidableBAll _ text

namespace Printable

/-- Texts in a row are printable if each of them is. -/
theorem append {text rest : List Char} (printable : Printable text) (others : Printable rest) :
    Printable (text ++ rest) := by
  intro c member
  rcases List.mem_append.1 member with first | later
  · exact printable c first
  · exact others c later

/-- One more printable character may stand in front. -/
theorem cons {c : Char} {rest : List Char} (first : 0x20 ≤ c.toNat ∧ c.toNat < 0x7F)
    (others : Printable rest) : Printable (c :: rest) := by
  intro other member
  rcases List.mem_cons.1 member with rfl | later
  · exact first
  · exact others other later

/-- Texts with a separator between them are printable if all of them are. -/
theorem intercalate {separator : List Char} (printable : Printable separator)
    {texts : List (List Char)} (all : ∀ text ∈ texts, Printable text) :
    Printable (separator.intercalate texts) := by
  induction texts with
  | nil => exact fun c member => absurd member List.not_mem_nil
  | cons text rest inductionHypothesis =>
    have first := all text List.mem_cons_self
    have later := inductionHypothesis fun other member => all other (List.mem_cons_of_mem _ member)
    cases rest with
    | nil => simpa [List.intercalate] using first
    | cons next rest =>
      have split : separator.intercalate (text :: next :: rest) =
          text ++ (separator ++ separator.intercalate (next :: rest)) := by
        rw [List.intercalate_cons_cons, List.append_assoc]
      exact split ▸ first.append (printable.append later)

/-- Digits are printable. -/
theorem of_isDigit {text : List Char} (digits : ∀ c ∈ text, c.isDigit = true) :
    Printable text := by
  intro c member
  have isDigit := digits c member
  simp only [Char.isDigit, Bool.and_eq_true, decide_eq_true_eq, UInt32.le_iff_toNat_le] at isDigit
  have low : 48 ≤ c.toNat := isDigit.1
  have high : c.toNat ≤ 57 := isDigit.2
  omega

end Printable

/-- Hexadecimal digits are printable. -/
theorem printable_hexDigits (width number : Nat) : Printable (Text.hexDigits width number) := by
  induction width generalizing number with
  | zero => exact fun c member => absurd member List.not_mem_nil
  | succ width inductionHypothesis =>
    have all : ∀ digit : Fin 16, 0x20 ≤ (Text.hexDigit digit.val).toNat ∧
        (Text.hexDigit digit.val).toNat < 0x7F := by decide
    refine (inductionHypothesis (number / 16)).append ?_
    intro c member
    rw [List.mem_singleton] at member
    exact member ▸ all ⟨number % 16, Nat.mod_lt number (by decide)⟩

namespace FloatFormat

variable {format : FloatFormat}

/-- An exponent is printable. -/
theorem printable_exponentText (exponent : Int) : Printable (format.exponentText exponent) := by
  unfold exponentText
  dsimp only
  refine .cons ?_ (.append ?_ ?_)
  · split <;> decide
  · exact .of_isDigit fun c member => List.eq_of_mem_replicate member ▸ rfl
  · exact .of_isDigit (leadingDigits_toDigits _).2.1

/-- The text of a magnitude is printable if what marks a whole number is. -/
theorem printable_magnitude (marked : Printable format.wholeMark) (rank : Nat) :
    Printable (format.magnitude rank) := by
  unfold magnitude
  generalize Binary64.shortest rank = decimal
  have digits : Printable (significantDigits decimal.coefficient) :=
    .of_isDigit (leadingDigits_significantDigits _).2.1
  have zeros (count : Nat) : Printable (List.replicate count '0') :=
    .of_isDigit fun c member => List.eq_of_mem_replicate member ▸ rfl
  have taken (count : Nat) : Printable ((significantDigits decimal.coefficient).take count) :=
    fun c member => digits c (List.mem_of_mem_take member)
  have dropped (count : Nat) : Printable ((significantDigits decimal.coefficient).drop count) :=
    fun c member => digits c (List.mem_of_mem_drop member)
  dsimp only
  split
  · unfold positional
    split
    · exact .cons (by decide) (.cons (by decide) ((zeros _).append digits))
    · split
      · exact (digits.append (zeros _)).append marked
      · exact (taken _).append (.cons (by decide) (dropped _))
  · unfold scientific
    refine ((taken _).append ?_).append (.cons (by decide) (printable_exponentText _))
    split
    · exact fun c member => absurd member List.not_mem_nil
    · exact .cons (by decide) (dropped _)

/-- The text of a number is printable. -/
theorem printable_write (number : Binary64) : Printable (Json.floatFormat.write number) := by
  have sign (negative : Bool) : Printable (if negative then ['-'] else []) := by
    cases negative <;> decide
  have marked : Printable Json.floatFormat.wholeMark := by decide
  cases number with
  | nan mark => exact (by decide : Printable Json.floatFormat.nanText)
  | infinity negative => exact (sign negative).append (by decide)
  | finite negative rank => exact (sign negative).append (printable_magnitude marked rank.val)

end FloatFormat

namespace Json

/-- A unit is written by printable characters. -/
theorem printable_escapeUnit (unit : Nat) : Printable (escapeUnit unit) :=
  .cons (by decide) (.cons (by decide) (printable_hexDigits 4 unit))

/-- A character inside a string literal is written by printable ones. -/
theorem printable_escapeChar (c : Char) : Printable (escapeChar c) := by
  unfold escapeChar
  repeat' split
  · decide
  · decide
  · decide
  · decide
  · decide
  · decide
  · decide
  · next range =>
    intro other member
    rw [List.mem_singleton] at member
    exact member ▸ range
  · exact printable_escapeUnit _
  · exact (printable_escapeUnit _).append (printable_escapeUnit _)

/-- A string literal is printable. -/
theorem printable_quote (text : Points) : Printable (quote text) := by
  refine .cons (by decide) (.append ?_ (by decide))
  intro c member
  obtain ⟨point, _, inside⟩ := List.mem_flatMap.1 member
  cases point with
  | char source => exact printable_escapeChar source c inside
  | high | low => exact printable_escapeUnit _ c inside

/-- The text of an integer is printable. -/
theorem printable_intText (value : Int) : Printable (intText value) := by
  have digits : Printable (Nat.toDigits 10 value.natAbs) :=
    .of_isDigit (leadingDigits_toDigits _).2.1
  unfold intText
  split
  · exact .cons (by decide) digits
  · exact digits

mutual

/-- The text of a value is printable. -/
theorem printable_compact : (json : Json) → Printable json.compact
  | .null => by decide
  | .bool true => by decide
  | .bool false => by decide
  | .int value => printable_intText value
  | .float value => FloatFormat.printable_write value
  | .str text => printable_quote text
  | .list items => by
    rw [compact, bracketed]
    exact .cons (by decide)
      ((Printable.intercalate (by decide) (printable_compactItems items)).append (by decide))
  | .object members => by
    rw [compact, braced]
    exact .cons (by decide)
      ((Printable.intercalate (by decide) (printable_compactMembers members)).append (by decide))

/-- The texts of items are printable. -/
theorem printable_compactItems : (items : List Json) → ∀ text ∈ compactItems items, Printable text
  | [], _, member => absurd member List.not_mem_nil
  | item :: rest, text, member => by
    rcases List.mem_cons.1 member with rfl | later
    · exact printable_compact item
    · exact printable_compactItems rest text later

/-- The texts of members are printable. -/
theorem printable_compactMembers :
    (members : List (Points × Json)) → ∀ text ∈ compactMembers members, Printable text
  | [], _, member => absurd member List.not_mem_nil
  | (name, value) :: rest, text, member => by
    rcases List.mem_cons.1 member with rfl | later
    · exact (printable_quote name).append (.cons (by decide) (printable_compact value))
    · exact printable_compactMembers rest text later

end

end Json

end DeclCodec
