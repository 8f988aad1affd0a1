import DeclCodec.Number.Binary64
import Mathlib.Algebra.Group.Nat.Defs
import Mathlib.Tactic.Common

/-!
# Integers in the range of the finite numbers

An integer has a nearest finite number exactly if its magnitude is below
`2 ^ 1024 - 2 ^ 970`, which lies in the middle between the largest finite number and
the next power of two. The middle itself goes to the even neighbour, which is the
power.

The number of bits of an integer says in which block of ranks it lies. In the last
block everything depends on the significand: it must not be rounded up to the next
block.
-/

namespace DeclCodec.Binary64

/-- Rounding adds at most one. -/
theorem divHalfEven_bounds (numerator denominator : Nat) :
    numerator / denominator ≤ divHalfEven numerator denominator ∧
      divHalfEven numerator denominator ≤ numerator / denominator + 1 := by
  unfold divHalfEven
  dsimp only
  split
  · omega
  · split <;> omega

/-- A quotient is rounded to less than an even number if it is more than a half below it. -/
theorem divHalfEven_lt_iff {numerator denominator bound : Nat} (positive : 0 < denominator)
    (even : bound % 2 = 0) :
    divHalfEven numerator denominator < bound ↔
      2 * numerator + denominator < 2 * (bound * denominator) := by
  have parts := Nat.div_add_mod numerator denominator
  have less := Nat.mod_lt numerator positive
  obtain ⟨low, high⟩ := divHalfEven_bounds numerator denominator
  generalize isQuotient : numerator / denominator = quotient at *
  generalize isRest : numerator % denominator = rest at *
  rw [Nat.mul_comm bound]
  rcases Nat.lt_trichotomy (quotient + 1) bound with below | rfl | above
  · have products : denominator * (quotient + 2) ≤ denominator * bound :=
      Nat.mul_le_mul_left denominator below
    rw [Nat.mul_add] at products
    omega
  · -- Only here the half decides, and it goes up, since the quotient is odd.
    rw [Nat.mul_add]
    unfold divHalfEven
    rw [isQuotient, isRest]
    dsimp only
    split
    · omega
    · split <;> omega
  · have products : denominator * bound ≤ denominator * quotient :=
      Nat.mul_le_mul_left denominator (Nat.le_of_lt_succ above)
    omega

/-- A power of two adds its exponent to the number of bits. -/
theorem log2_mul_two_pow {number : Nat} (positive : 0 < number) (shift : Nat) :
    Nat.log2 (number * 2 ^ shift) = Nat.log2 number + shift := by
  have nonzero := Nat.mul_pos positive (Nat.two_pow_pos shift)
  obtain ⟨low, high⟩ := (Nat.log2_eq_iff (Nat.ne_of_gt positive)).1 (rfl : Nat.log2 number = _)
  rw [Nat.log2_eq_iff (Nat.ne_of_gt nonzero)]
  constructor
  · rw [Nat.pow_add]
    exact Nat.mul_le_mul_right _ low
  · rw [Nat.add_right_comm, Nat.pow_add]
    exact Nat.mul_lt_mul_of_pos_right high (Nat.two_pow_pos shift)

section Significand

variable {number scale width : Nat}

/-- The distance of neighbours around an integer of so many bits, in units of so small a power. -/
def spacing (scale width : Nat) : Nat := 2 ^ (width + scale - 52)

/-- There is a distance between neighbours. -/
theorem spacing_pos : 0 < spacing scale width := Nat.two_pow_pos _

/-- A block of ranks doubles the integers of so many bits. -/
theorem blockSize_mul_spacing (wide : 52 ≤ scale) :
    blockSize * spacing scale width = 2 ^ (width + scale) := by
  rw [show blockSize = 2 ^ 52 from rfl, spacing, ← Nat.pow_add]
  congr 1
  omega

/-- A whole number of units has the rank that its number of bits and its significand give. -/
theorem nearestRank_whole (positive : 0 < number) :
    nearestRank (number * Nat.pow 2 scale) 1 = (Nat.log2 number + scale - 52) * blockSize +
      divHalfEven (number * 2 ^ scale) (spacing scale (Nat.log2 number)) := by
  have power : Nat.pow 2 scale = 2 ^ scale := rfl
  rw [nearestRank, Nat.div_one, power, log2_mul_two_pow positive, Nat.one_mul]
  rfl

/-- A significand fills one block, and may be rounded up to the next. -/
theorem significand_bounds (wide : 52 ≤ scale) (least : 2 ^ width ≤ number)
    (most : number < 2 ^ (width + 1)) :
    blockSize ≤ divHalfEven (number * 2 ^ scale) (spacing scale width) ∧
      divHalfEven (number * 2 ^ scale) (spacing scale width) < 2 * blockSize + 2 := by
  have block : blockSize * spacing scale width = 2 ^ (width + scale) := blockSize_mul_spacing wide
  have step : 0 < spacing scale width := spacing_pos
  have scaledLeast : 2 ^ (width + scale) ≤ number * 2 ^ scale := by
    rw [Nat.pow_add]
    exact Nat.mul_le_mul_right _ least
  have scaledMost : number * 2 ^ scale < 2 * 2 ^ (width + scale) := by
    rw [← Nat.pow_succ', Nat.succ_eq_add_one, Nat.add_right_comm, Nat.pow_add]
    exact Nat.mul_lt_mul_of_pos_right most (Nat.two_pow_pos scale)
  constructor
  · rw [← Nat.not_lt, divHalfEven_lt_iff step (by decide)]
    omega
  · rw [divHalfEven_lt_iff step (by decide), Nat.add_mul, Nat.mul_assoc]
    omega

/-- A significand stays in its block if the integer is more than half a distance below the next
power of two. -/
theorem significand_lt_iff (wide : 52 ≤ scale) {half : Nat} (apart : half + 53 = width) :
    divHalfEven (number * 2 ^ scale) (spacing scale width) < 2 * blockSize ↔
      number + 2 ^ half < 2 ^ (width + 1) := by
  have doubled : 2 * (number * 2 ^ scale) = number * 2 ^ (scale + 1) := by
    rw [Nat.pow_succ', Nat.mul_left_comm]
  have step : spacing scale width = 2 ^ half * 2 ^ (scale + 1) := by
    rw [spacing, ← Nat.pow_add]
    congr 1
    omega
  have whole : 2 * (2 * blockSize * spacing scale width) = 2 ^ (width + 1) * 2 ^ (scale + 1) := by
    rw [Nat.mul_assoc 2, blockSize_mul_spacing wide, ← Nat.pow_add, ← Nat.pow_succ',
      ← Nat.pow_succ']
    congr 1
    omega
  rw [divHalfEven_lt_iff spacing_pos (by decide), whole, doubled, step, ← Nat.add_mul]
  exact Nat.mul_lt_mul_right (Nat.two_pow_pos _)

end Significand

/-- A whole number of units has a rank in the blocks up to one exactly if it is more than half a
distance below the power of two where the next block begins. The exponents have names of their own
here, lest the powers be computed. -/
theorem nearestRank_lt_iff (number : Nat) {unit bound scale half width : Nat}
    (isUnit : unit = Nat.pow 2 scale) (isBound : bound = Nat.pow 2 width - Nat.pow 2 half)
    (wide : 52 ≤ scale) (apart : half + 54 = width) :
    nearestRank (number * unit) 1 < (scale + width - 51) * blockSize ↔ number < bound := by
  subst isUnit isBound
  obtain ⟨top, rfl⟩ : ∃ top, width = top + 1 := ⟨half + 53, by omega⟩
  change _ ↔ number < 2 ^ (top + 1) - 2 ^ half
  have room : 2 ^ half < 2 ^ top := Nat.pow_lt_pow_right (by decide) (by omega)
  have double : 2 ^ (top + 1) = 2 * 2 ^ top := Nat.pow_succ'
  have halfPositive : 0 < 2 ^ half := Nat.two_pow_pos _
  rw [Nat.lt_sub_iff_add_lt]
  rcases Nat.eq_zero_or_pos number with zero | positive
  · subst zero
    have nothing : nearestRank (0 * Nat.pow 2 scale) 1 = 0 := by
      rw [Nat.zero_mul]
      rfl
    rw [nothing]
    have blocks : 0 < (scale + (top + 1) - 51) * blockSize := Nat.mul_pos (by omega) (by decide)
    omega
  rw [nearestRank_whole positive]
  obtain ⟨least, most⟩ := (Nat.log2_eq_iff (Nat.ne_of_gt positive)).1 (rfl : Nat.log2 number = _)
  generalize Nat.log2 number = bits at least most ⊢
  obtain ⟨low, high⟩ := significand_bounds wide least most
  rcases Nat.lt_trichotomy bits top with below | rfl | above
  · have small : 2 ^ (bits + 1) ≤ 2 ^ top := Nat.pow_le_pow_right (by decide) below
    unfold blockSize at *
    omega
  · have last : divHalfEven (number * 2 ^ scale) (spacing scale bits) < 2 * blockSize ↔
        number + 2 ^ half < 2 ^ (bits + 1) := significand_lt_iff wide (by omega)
    rw [← last]
    unfold blockSize at *
    omega
  · have large : 2 ^ (top + 1) ≤ 2 ^ bits := Nat.pow_le_pow_right (by decide) above
    unfold blockSize at *
    omega

/-- The least magnitude that rounds beyond the finite numbers: `2 ^ 1024 - 2 ^ 970`. -/
def overflow : Nat := Nat.pow 2 1024 - Nat.pow 2 970

/-- An integer has a nearest finite number exactly if its magnitude is below the bound. -/
theorem ofInt?_isSome_iff (number : Int) :
    (ofInt? number).isSome = true ↔ number.natAbs < overflow := by
  obtain ⟨scale, isScale⟩ : ∃ scale, 1074 = scale := ⟨1074, rfl⟩
  obtain ⟨half, isHalf⟩ : ∃ half, 970 = half := ⟨970, rfl⟩
  obtain ⟨width, isWidth⟩ : ∃ width, 1024 = width := ⟨1024, rfl⟩
  have isUnit : unitsPerOne = Nat.pow 2 scale := by
    unfold unitsPerOne
    rw [isScale]
  have isOverflow : overflow = Nat.pow 2 width - Nat.pow 2 half := by
    unfold overflow
    rw [isWidth, isHalf]
  have count : finiteCount = (scale + width - 51) * blockSize := by
    rw [← isScale, ← isWidth]
    rfl
  rw [← nearestRank_lt_iff number.natAbs isUnit isOverflow (by omega) (by omega), ← count, ofInt?]
  split
  · next bounded => simp [bounded]
  · next unbounded => simp [unbounded]

end DeclCodec.Binary64
