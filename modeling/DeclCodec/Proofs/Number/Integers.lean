import DeclCodec.Json.Text
import DeclCodec.Number.IntText
import Mathlib.Tactic.Common

/-!
# Integers as map keys

A map key that is an integer is written as the integer's decimal digits, and the
reader of such keys takes those digits back to the integer, though it takes other
spellings as well. So no two integers share a written form.
-/

namespace DeclCodec.IntText

/-- A digit of ASCII has the value that it has in the digits of a number. -/
theorem digitValue?_of_isDigit {c : Char} (digit : c.isDigit = true) :
    Text.digitValue? c = some (c.toNat - '0'.toNat) := by
  simp only [Char.isDigit, Bool.and_eq_true, decide_eq_true_eq] at digit
  obtain ⟨low, high⟩ := digit
  have ascii : c.toNat < 0x80 := by
    have bound : c.val.toNat ≤ 57 := high
    have code : c.toNat = c.val.toNat := rfl
    omega
  have inside : '0' ≤ c ∧ c ≤ '9' := ⟨low, high⟩
  simp [Text.digitValue?, ascii, inside]

/-- Digits of ASCII behind a digit spell the number that they are the digits of. -/
theorem digits?_of_isDigit {digits : List Char} (all : ∀ c ∈ digits, c.isDigit = true)
    (value : Nat) : digits? true value digits = some (Nat.ofDigitChars 10 digits value) := by
  induction digits generalizing value with
  | nil => simp [digits?]
  | cons c digits inductionHypothesis =>
    have first : c.isDigit = true := all c List.mem_cons_self
    have others : ∀ d ∈ digits, d.isDigit = true := fun d member =>
      all d (List.mem_cons_of_mem c member)
    have notUnderscore : c ≠ '_' := by
      rintro rfl
      exact absurd first (by decide)
    rw [digits?, if_neg notUnderscore, digitValue?_of_isDigit first]
    dsimp only
    rw [inductionHypothesis others, Nat.ofDigitChars_cons, Nat.mul_comm]

/-- The digits of a number spell the number. -/
theorem digits?_toDigits (number : Nat) :
    digits? false 0 (Nat.toDigits 10 number) = some number := by
  have all : ∀ c ∈ Nat.toDigits 10 number, c.isDigit = true := fun c member =>
    Nat.isDigit_of_mem_toDigits (by decide) (by decide) member
  have nonempty : Nat.toDigits 10 number ≠ [] := Nat.toDigits_ne_nil
  have spelled := Nat.ofDigitChars_ten_toDigits (n := number)
  revert spelled all nonempty
  generalize Nat.toDigits 10 number = digits
  intro all nonempty spelled
  cases digits with
  | nil => exact absurd rfl nonempty
  | cons c digits =>
    -- The first digit is what tells an integer from no integer; behind it all digits are alike.
    have read := digits?_of_isDigit all 0
    rw [digits?] at read ⊢
    have first : c.isDigit = true := all c List.mem_cons_self
    have notUnderscore : c ≠ '_' := by
      rintro rfl
      exact absurd first (by decide)
    rw [if_neg notUnderscore] at read ⊢
    rw [read, spelled]

/-- No blank stands around digits and a sign. -/
theorem unpadded_eq {text : List Char} (solid : ∀ c ∈ text, isPadding c = false) :
    unpadded text = text := by
  have noneBefore : ∀ {chars : List Char}, (∀ c ∈ chars, isPadding c = false) →
      chars.dropWhile isPadding = chars := by
    intro chars all
    cases chars with
    | nil => rfl
    | cons c chars => simp [all c List.mem_cons_self]
  have reversed : ∀ c ∈ text.reverse, isPadding c = false := fun c member =>
    solid c (List.mem_reverse.1 member)
  rw [unpadded, noneBefore solid, noneBefore reversed, List.reverse_reverse]

/-- A digit is no blank. -/
theorem isPadding_of_isDigit {c : Char} (digit : c.isDigit = true) : isPadding c = false := by
  simp only [Char.isDigit, Bool.and_eq_true, decide_eq_true_eq] at digit
  obtain ⟨low, high⟩ := digit
  have least : 48 ≤ c.val.toNat := low
  have most : c.val.toNat ≤ 57 := high
  have code : c.toNat = c.val.toNat := rfl
  have notBlank : c ≠ ' ' := by
    rintro rfl
    exact absurd least (by decide)
  have ascii : c.toNat < 0x80 := by omega
  simp only [isPadding, ascii, if_true, Bool.or_eq_false_iff, beq_eq_false_iff_ne]
  refine ⟨notBlank, ?_⟩
  simp
  omega

/-- The written form of an integer is read as the integer. -/
theorem parse?_intText (value : Int) : parse? (Json.intText value) = some value := by
  have digits : ∀ c ∈ Nat.toDigits 10 value.natAbs, isPadding c = false := fun c member =>
    isPadding_of_isDigit (Nat.isDigit_of_mem_toDigits (by decide) (by decide) member)
  unfold parse? Json.intText
  split
  · next negative =>
    have solid : ∀ c ∈ '-' :: Nat.toDigits 10 value.natAbs, isPadding c = false := by
      intro c member
      rcases List.mem_cons.1 member with rfl | member
      · decide
      · exact digits c member
    have magnitude : -(value.natAbs : Int) = value := by omega
    rw [unpadded_eq solid, signed?, digits?_toDigits]
    exact congrArg some magnitude
  · next nonnegative =>
    rw [unpadded_eq digits]
    have unsigned : signed? (Nat.toDigits 10 value.natAbs) = some (value.natAbs : Int) := by
      unfold signed?
      split
      · next first =>
        have digit : '-'.isDigit = true :=
          Nat.isDigit_of_mem_toDigits (by decide) (by decide) (first ▸ List.mem_cons_self)
        exact absurd digit (by decide)
      · next first =>
        have digit : '+'.isDigit = true :=
          Nat.isDigit_of_mem_toDigits (by decide) (by decide) (first ▸ List.mem_cons_self)
        exact absurd digit (by decide)
      · simp [digits?_toDigits]
    rw [unsigned, Option.some.injEq]
    omega

/-- Different integers have different written forms. -/
theorem intText_injective {value other : Int} (same : Json.intText value = Json.intText other) :
    value = other := by
  have read := parse?_intText value
  rw [same, parse?_intText other] at read
  exact (Option.some.inj read).symm

end DeclCodec.IntText
