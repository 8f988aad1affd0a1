/-!
# Hexadecimal digits

Numbers are written in a fixed number of lower-case digits, the most significant
first, and read in either case. The main statement is that what is written is
read as what the digits can hold of the number.
-/

namespace DeclCodec.Text

/-- A lower-case hexadecimal digit. -/
def hexDigit (value : Nat) : Char :=
  if value < 10 then Char.ofNat (48 + value) else Char.ofNat (87 + value)

/-- A number in a fixed number of digits. -/
def hexDigits : Nat → Nat → List Char
  | 0, _ => []
  | width + 1, number => hexDigits width (number / 16) ++ [hexDigit (number % 16)]

/-- The value of a digit. -/
def hexValue? (c : Char) : Option Nat :=
  if '0' ≤ c ∧ c ≤ '9' then some (c.toNat - 48)
  else if 'a' ≤ c ∧ c ≤ 'f' then some (c.toNat - 87)
  else if 'A' ≤ c ∧ c ≤ 'F' then some (c.toNat - 55)
  else none

/-- The number that digits spell. -/
def hexNumber? (digits : List Char) : Option Nat :=
  digits.foldlM (fun number digit => (hexValue? digit).map (number * 16 + ·)) 0

/-- A written digit has the value it was written for. -/
theorem hexValue?_hexDigit {value : Nat} (small : value < 16) :
    hexValue? (hexDigit value) = some value := by
  have all : ∀ digit : Fin 16, hexValue? (hexDigit digit.val) = some digit.val := by decide
  exact all ⟨value, small⟩

/-- There are as many digits as asked for. -/
theorem length_hexDigits (width number : Nat) : (hexDigits width number).length = width := by
  induction width generalizing number with
  | zero => rfl
  | succ width inductionHypothesis => simp [hexDigits, inductionHypothesis]

/-- Written digits are read as the rest of the number by a power of sixteen. -/
theorem hexNumber?_hexDigits (width number : Nat) :
    hexNumber? (hexDigits width number) = some (number % Nat.pow 16 width) := by
  induction width generalizing number with
  | zero => exact congrArg some (Nat.mod_one number).symm
  | succ width inductionHypothesis =>
    have higher := inductionHypothesis (number / 16)
    have lowest := hexValue?_hexDigit (Nat.mod_lt number (by decide : 0 < 16))
    unfold hexNumber? at higher ⊢
    rw [hexDigits, List.foldlM_append, higher]
    simp only [List.foldlM_cons, List.foldlM_nil, lowest, Option.map_some, Option.bind_eq_bind,
      Option.bind_some, Option.pure_def]
    have whole : Nat.pow 16 (width + 1) = 16 * Nat.pow 16 width := Nat.mul_comm _ _
    rw [whole, Nat.mod_mul, Nat.mul_comm, Nat.add_comm]

end DeclCodec.Text
