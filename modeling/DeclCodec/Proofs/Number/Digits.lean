import DeclCodec.Number.FloatText
import Mathlib.Data.List.Basic
import Mathlib.Data.List.TakeWhile
import Mathlib.Tactic.Common

/-!
# Digits in front of a point

The digits of a number begin with a zero only if the number is zero, and a run of
digits of that kind is what a reader takes as the whole part of a number. The
significant digits are the digits without the zeros at their end.
-/

namespace DeclCodec

/-- Digits that may stand in front of a point: at least one, and a zero at their front is all
there is. -/
def LeadingDigits (digits : List Char) : Prop :=
  digits ≠ [] ∧ (∀ c ∈ digits, c.isDigit = true) ∧ (digits.head? = some '0' → digits = ['0'])

/-- Only the digits of zero begin with a zero. Both the last digit and the digits before it come
from smaller numbers, and only the digits before it can be at the front. -/
theorem head?_toDigits_ne_zero (number : Nat) (nonzero : number ≠ 0) :
    (Nat.toDigits 10 number).head? ≠ some '0' := by
  induction number using Nat.strong_induction_on with
  | _ number inductionHypothesis =>
    by_cases small : number < 10
    · rw [Nat.toDigits_of_lt_base small]
      have all : ∀ digit : Fin 10, digit.val ≠ 0 → some digit.val.digitChar ≠ some '0' := by decide
      exact all ⟨number, small⟩ nonzero
    · rw [Nat.toDigits_of_base_le (by decide) (by omega), List.head?_append_of_ne_nil _
        Nat.toDigits_ne_nil]
      exact inductionHypothesis (number / 10) (by omega) (by omega)

/-- The digits of every number may stand in front of a point. -/
theorem leadingDigits_toDigits (number : Nat) : LeadingDigits (Nat.toDigits 10 number) := by
  refine ⟨Nat.toDigits_ne_nil, ?_, ?_⟩
  · intro c member
    exact Nat.isDigit_of_mem_toDigits (by decide) (by decide) member
  · intro zeroFirst
    by_cases zero : number = 0
    · rw [zero, Nat.toDigits_zero]
    · exact absurd zeroFirst (head?_toDigits_ne_zero number zero)

/-- A list is what is left of it without the items of one kind at its end, and those items. -/
theorem eq_append_replicate {α : Type} [BEq α] [LawfulBEq α] (item : α) (items : List α) :
    ∃ count, items =
      (items.reverse.dropWhile (· == item)).reverse ++ List.replicate count item := by
  refine ⟨(items.reverse.takeWhile (· == item)).length, ?_⟩
  have dropped : items.reverse.takeWhile (· == item) =
      List.replicate (items.reverse.takeWhile (· == item)).length item := by
    rw [List.eq_replicate_iff]
    refine ⟨rfl, ?_⟩
    intro other member
    have passes := List.mem_takeWhile_imp member
    exact eq_of_beq passes
  calc items
      = items.reverse.reverse := items.reverse_reverse.symm
    _ = (items.reverse.takeWhile (· == item) ++ items.reverse.dropWhile (· == item)).reverse := by
        rw [List.takeWhile_append_dropWhile]
    _ = (items.reverse.dropWhile (· == item)).reverse ++
          (items.reverse.takeWhile (· == item)).reverse := List.reverse_append
    _ = _ := by
        conv_lhs => rw [dropped, List.reverse_replicate]

namespace FloatFormat

/-- The digits of a number are its significant digits and zeros. -/
theorem toDigits_eq_significant (number : Nat) :
    ∃ zeros, Nat.toDigits 10 number = significantDigits number ++ List.replicate zeros '0' := by
  unfold significantDigits
  split
  · next zero =>
    exact ⟨0, by simp [zero, Nat.toDigits_zero]⟩
  · exact eq_append_replicate '0' _

/-- The significant digits may stand in front of a point. There is one, since digits that are all
zeros are the digits of zero; so they begin as the digits do. -/
theorem leadingDigits_significantDigits (number : Nat) :
    LeadingDigits (significantDigits number) := by
  by_cases zero : number = 0
  · simp [zero, significantDigits, LeadingDigits]
  obtain ⟨zeros, split⟩ := toDigits_eq_significant number
  have nonzero := head?_toDigits_ne_zero number zero
  have nonempty : significantDigits number ≠ [] := by
    intro empty
    rw [empty, List.nil_append] at split
    cases zeros with
    | zero => exact Nat.toDigits_ne_nil split
    | succ zeros => exact nonzero (by rw [split]; rfl)
  refine ⟨nonempty, ?_, ?_⟩
  · intro c member
    have inDigits : c ∈ Nat.toDigits 10 number := by
      rw [split]
      exact List.mem_append_left _ member
    exact Nat.isDigit_of_mem_toDigits (by decide) (by decide) inDigits
  · intro zeroFirst
    rw [split, List.head?_append_of_ne_nil _ nonempty] at nonzero
    exact absurd zeroFirst nonzero

end FloatFormat

end DeclCodec
