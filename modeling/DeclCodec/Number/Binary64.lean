/-!
# Binary64 numbers

The finite magnitudes of the format are ranked: rank zero is zero, rank one the
least positive number, and each further rank is the next number up. Ranks below
`2 ^ 53` are that many units of `2 ^ (-1074)`; from there on each block of
`2 ^ 52` ranks doubles the distance between neighbours. All arithmetic is on
natural numbers, so that rounding, comparison and text are computed exactly.

Rounding takes the neighbour nearest to a quotient, and of two equally near ones
the one with the even rank. The main statements are that the magnitude of a rank
rounds back to the same rank and that larger ranks are larger numbers.
-/

namespace DeclCodec

namespace Binary64

/-- How many significands a block of ranks holds: `2 ^ 52`. -/
abbrev blockSize : Nat := 0x10000000000000

/-- The first rank whose units are spaced apart: `2 ^ 53`. -/
abbrev firstSpaced : Nat := 0x20000000000000

/-- How many finite magnitudes there are. -/
def finiteCount : Nat := 2047 * blockSize

/-- The magnitude of a rank in units of `2 ^ (-1074)`. -/
def units (rank : Nat) : Nat :=
  if rank < firstSpaced then rank
  else (blockSize + rank % blockSize) * Nat.pow 2 (rank / blockSize - 1)

/-- How many units make one. -/
def unitsPerOne : Nat := Nat.pow 2 1074

/-- The integer nearest to a quotient; a half goes to the even neighbour. -/
def divHalfEven (numerator denominator : Nat) : Nat :=
  let floor := numerator / denominator
  let twice := 2 * (numerator % denominator)
  if twice < denominator then floor
  else if denominator < twice then floor + 1
  else floor + floor % 2

/-- An exact division needs no rounding. -/
theorem divHalfEven_mul (whole denominator : Nat) (positive : 0 < denominator) :
    divHalfEven (whole * denominator) denominator = whole := by
  simp [divHalfEven, Nat.mul_div_cancel _ positive, positive]

/-- The rank nearest to a quotient of units; it may lie beyond the finite ranks. -/
def nearestRank (numerator denominator : Nat) : Nat :=
  let shift := Nat.log2 (numerator / denominator) - 52
  shift * blockSize + divHalfEven numerator (denominator * Nat.pow 2 shift)

/-- A block of ranks holds `2 ^ 52` significands. -/
theorem units_block (shift significand : Nat) (low : blockSize ≤ significand)
    (high : significand < firstSpaced) :
    units (shift * blockSize + significand) = significand * Nat.pow 2 shift := by
  unfold units blockSize firstSpaced at *
  split
  · rename_i small
    have firstBlock : shift = 0 := by omega
    subst firstBlock
    rw [Nat.zero_mul, Nat.zero_add]
    exact (Nat.mul_one significand).symm
  · have quotient : (shift * 0x10000000000000 + significand) / 0x10000000000000 = shift + 1 := by
      omega
    have remainder : (shift * 0x10000000000000 + significand) % 0x10000000000000
        = significand - 0x10000000000000 := by omega
    have whole : 0x10000000000000 + (significand - 0x10000000000000) = significand := by omega
    rw [quotient, remainder, whole, Nat.add_sub_cancel]

/-- Every rank is a number of units below `2 ^ 52`, or a significand of 53 bits in some block. -/
theorem rank_cases (rank : Nat) :
    rank < blockSize ∨ ∃ shift significand, blockSize ≤ significand ∧ significand < firstSpaced ∧
      rank = shift * blockSize + significand := by
  unfold blockSize firstSpaced
  by_cases small : rank < 0x10000000000000
  · exact .inl small
  · exact .inr ⟨rank / 0x10000000000000 - 1, 0x10000000000000 + rank % 0x10000000000000,
      by omega, by omega, by omega⟩

/-- The magnitude of a rank rounds back to it. -/
theorem nearestRank_units (rank : Nat) : nearestRank (units rank) 1 = rank := by
  rcases rank_cases rank with small | ⟨shift, significand, low, high, rfl⟩
  · have same : units rank = rank := by
      unfold blockSize at small
      unfold units firstSpaced
      split
      · rfl
      · omega
    have width : Nat.log2 rank - 52 = 0 := by
      by_cases zero : rank = 0
      · subst zero
        decide
      · have bits : Nat.log2 rank < 52 := (Nat.log2_lt zero).2 small
        omega
    simp only [nearestRank, same, width, Nat.div_one, Nat.zero_mul, Nat.zero_add, Nat.one_mul]
    exact (congrArg (fun whole => divHalfEven whole 1) (Nat.mul_one rank).symm).trans
      (divHalfEven_mul rank 1 Nat.one_pos)
  · rw [units_block shift significand low high]
    have positive : 0 < Nat.pow 2 shift := Nat.two_pow_pos shift
    have width : Nat.log2 (significand * Nat.pow 2 shift) = 52 + shift := by
      have nonzero := Nat.mul_pos (Nat.lt_of_lt_of_le (by decide) low) positive
      rw [Nat.log2_eq_iff (Nat.ne_of_gt nonzero)]
      constructor
      · exact Nat.le_trans (Nat.le_of_eq (Nat.pow_add 2 52 shift)) (Nat.mul_le_mul_right _ low)
      · exact Nat.lt_of_lt_of_eq (Nat.mul_lt_mul_of_pos_right high positive)
          ((Nat.pow_add 2 53 shift).symm.trans (congrArg (Nat.pow 2) (by omega)))
    have shifted : 52 + shift - 52 = shift := by omega
    simp only [nearestRank, Nat.div_one, width, shifted, Nat.one_mul]
    rw [divHalfEven_mul _ _ positive]

/-- The number of decimal digits that a natural number is written with. -/
def decimalWidth (n : Nat) : Nat := (Nat.toDigits 10 n).length

/-- The rank nearest to `coefficient * 10 ^ exponent`. A magnitude of `10 ^ 309` or more is
beyond every finite rank, and one below `10 ^ (-324)` is less than half a unit. -/
def nearestRankOfDecimal (coefficient : Nat) (exponent : Int) : Nat :=
  let position := (decimalWidth coefficient : Int) + exponent
  if coefficient = 0 ∨ position < -323 then 0
  else if 309 < position then finiteCount
  else if 0 ≤ exponent then nearestRank (coefficient * Nat.pow 10 exponent.toNat * unitsPerOne) 1
  else nearestRank (coefficient * unitsPerOne) (Nat.pow 10 (-exponent).toNat)

end Binary64

/-- A binary64 number: a signed finite magnitude, a signed infinity, or no number at all. What is no
number has a mark that tells it apart from others of its kind. -/
inductive Binary64
  | nan (mark : Nat)
  | infinity (negative : Bool)
  | finite (negative : Bool) (rank : Fin Binary64.finiteCount)
deriving DecidableEq

namespace Binary64

/-- A signed rank; those past the finite ones are infinite. -/
def ofRank (negative : Bool) (rank : Nat) : Binary64 :=
  if bounded : rank < finiteCount then .finite negative ⟨rank, bounded⟩ else .infinity negative

/-- Zero with a plus sign. -/
def zero : Binary64 := .finite false ⟨0, by decide⟩

instance : Inhabited Binary64 := ⟨zero⟩

/-- The number nearest to a signed decimal. -/
def ofDecimal (negative : Bool) (coefficient : Nat) (exponent : Int) : Binary64 :=
  ofRank negative (nearestRankOfDecimal coefficient exponent)

/-- The number nearest to an integer, unless the integer rounds beyond the finite numbers. -/
def ofInt? (value : Int) : Option Binary64 :=
  let rank := nearestRank (value.natAbs * unitsPerOne) 1
  if bounded : rank < finiteCount then some (.finite (decide (value < 0)) ⟨rank, bounded⟩) else none

/-- Is the number a finite one? -/
def isFinite : Binary64 → Bool
  | .finite _ _ => true
  | _ => false

/-- Both zeros count as zero. -/
def isZero : Binary64 → Bool
  | .finite _ rank => rank.val == 0
  | _ => false

/-- The signed number of units of a finite number. -/
def signedUnits? : Binary64 → Option Int
  | .finite negative rank =>
    some (if negative then -(units rank.val : Int) else (units rank.val : Int))
  | _ => none

/-- Is the number exactly this integer? -/
def equalsInt (number : Binary64) (value : Int) : Bool :=
  number.signedUnits? == some (value * unitsPerOne)

/-- Numerical equality: the two zeros are equal. What is no number equals only what has the same
mark. -/
def same (left right : Binary64) : Bool :=
  match left.signedUnits?, right.signedUnits? with
  | some a, some b => a == b
  | none, none => left == right
  | _, _ => false

/-- Every number equals itself. -/
theorem same_self (number : Binary64) : number.same number = true := by
  unfold same
  cases number.signedUnits? <;> simp

end Binary64

end DeclCodec
