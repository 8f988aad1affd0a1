import DeclCodec.Number.Shortest
import Mathlib.Tactic.Ring
import Mathlib.Tactic.NormNum

/-!
# Decimals that read back

Rounding depends on the quotient alone: a common factor of numerator and
denominator changes nothing, and so a decimal can be written with more or fewer
zeros at its end. The exact expansion of a finite magnitude rounds to its rank,
which is why the search for the shortest decimal always ends with a decimal that
reads back.

All of it is about ranks. The text of a number and its sign are a separate
matter.
-/

namespace DeclCodec.Binary64

/-- A common factor does not change the nearest integer. -/
theorem divHalfEven_scale (numerator denominator scale : Nat) (positive : 0 < scale) :
    divHalfEven (numerator * scale) (denominator * scale) = divHalfEven numerator denominator := by
  have twice : 2 * (numerator % denominator * scale) = 2 * (numerator % denominator) * scale := by
    ring
  simp only [divHalfEven, Nat.mul_div_mul_right _ _ positive, Nat.mul_mod_mul_right, twice,
    Nat.mul_lt_mul_right positive]

/-- A common factor does not change the nearest rank. -/
theorem nearestRank_scale (numerator denominator scale : Nat) (positive : 0 < scale) :
    nearestRank (numerator * scale) (denominator * scale) = nearestRank numerator denominator := by
  have factor (power : Nat) : denominator * scale * power = denominator * power * scale := by ring
  simp only [nearestRank, Nat.mul_div_mul_right _ _ positive, factor,
    divHalfEven_scale _ _ _ positive]

/-- A number is written with at most so many digits exactly below that power of ten. -/
theorem decimalWidth_le_iff {number width : Nat} (positive : 0 < width) :
    decimalWidth number ≤ width ↔ number < 10 ^ width :=
  Nat.length_toDigits_le_iff (by decide) positive

/-- Every number has a digit. -/
theorem decimalWidth_pos (number : Nat) : 0 < decimalWidth number := Nat.length_toDigits_pos

/-- Each factor of ten is one more digit. -/
theorem decimalWidth_mul_pow {number : Nat} (nonzero : number ≠ 0) (zeros : Nat) :
    decimalWidth (number * 10 ^ zeros) = decimalWidth number + zeros := by
  have positive := decimalWidth_pos number
  have power : 0 < 10 ^ zeros := Nat.pow_pos (by decide)
  apply Nat.le_antisymm
  · have below : number < 10 ^ decimalWidth number := (decimalWidth_le_iff positive).mp le_rfl
    rw [decimalWidth_le_iff (by omega), Nat.pow_add]
    exact Nat.mul_lt_mul_of_pos_right below power
  · -- One digit fewer would make the number too small for its own width.
    by_contra fewer
    have positiveProduct := decimalWidth_pos (number * 10 ^ zeros)
    by_cases single : decimalWidth number = 1
    · have bound : decimalWidth (number * 10 ^ zeros) ≤ zeros := by omega
      rw [decimalWidth_le_iff (by omega)] at bound
      have large : 10 ^ zeros ≤ number * 10 ^ zeros :=
        Nat.le_mul_of_pos_left _ (Nat.pos_of_ne_zero nonzero)
      omega
    · have bound : decimalWidth (number * 10 ^ zeros) ≤ decimalWidth number - 1 + zeros := by omega
      rw [decimalWidth_le_iff (by omega), Nat.pow_add] at bound
      have smaller : number < 10 ^ (decimalWidth number - 1) := Nat.lt_of_mul_lt_mul_right bound
      have narrow : decimalWidth number ≤ decimalWidth number - 1 :=
        (decimalWidth_le_iff (by omega)).mpr smaller
      omega

/-- Zeros at the end of a coefficient can be moved into the exponent. The position of the first
digit stays, so that both sides take the same branch; where they round a quotient, the quotients
differ by a power of ten in numerator and denominator. -/
theorem nearestRankOfDecimal_mul_pow (coefficient zeros : Nat) (exponent : Int) :
    nearestRankOfDecimal (coefficient * 10 ^ zeros) exponent =
      nearestRankOfDecimal coefficient (exponent + zeros) := by
  by_cases zero : coefficient = 0
  · simp [nearestRankOfDecimal, zero]
  have power : 0 < 10 ^ zeros := Nat.pow_pos (by decide)
  have nonzero : coefficient * 10 ^ zeros ≠ 0 := Nat.mul_ne_zero zero (Nat.ne_of_gt power)
  have position : ((decimalWidth (coefficient * 10 ^ zeros) : Nat) : Int) + exponent =
      (decimalWidth coefficient : Int) + (exponent + zeros) := by
    rw [decimalWidth_mul_pow zero]
    omega
  simp only [nearestRankOfDecimal, position, zero, nonzero, false_or]
  split
  · rfl
  split
  · rfl
  generalize unitsPerOne = unit
  by_cases whole : 0 ≤ exponent
  · rw [if_pos whole, if_pos (by omega)]
    have exponents : (exponent + zeros).toNat = zeros + exponent.toNat := by omega
    congr 1
    simp only [Nat.pow_eq, exponents, Nat.pow_add]
    ring
  · rw [if_neg whole]
    by_cases wholeAfter : 0 ≤ exponent + zeros
    · rw [if_pos wholeAfter]
      have exponents : zeros = (exponent + zeros).toNat + (-exponent).toNat := by omega
      have scale : 0 < 10 ^ (-exponent).toNat := Nat.pow_pos (by decide)
      rw [← nearestRank_scale (coefficient * Nat.pow 10 (exponent + zeros).toNat * unit) 1 _
        scale]
      congr 1
      · conv_lhs => rw [exponents]
        simp only [Nat.pow_eq, Nat.pow_add]
        ring
      · simp
    · rw [if_neg wholeAfter]
      have exponents : (-exponent).toNat = (-(exponent + zeros)).toNat + zeros := by omega
      rw [← nearestRank_scale (coefficient * unit) _ _ power]
      congr 1
      · ring
      · simp only [Nat.pow_eq, exponents, Nat.pow_add]

/-- A finite magnitude is less than `2 ^ 2098` units. -/
theorem units_lt {rank : Nat} (finite : rank < finiteCount) : units rank < 2 ^ 2098 := by
  rcases rank_cases rank with small | ⟨shift, significand, low, high, rfl⟩
  · have same : units rank = rank := if_pos (Nat.lt_trans small (by decide))
    rw [same]
    exact Nat.lt_trans small (by decide +kernel)
  · rw [units_block shift significand low high]
    have shiftBound : shift ≤ 2045 := by
      unfold finiteCount blockSize at *
      omega
    calc significand * Nat.pow 2 shift
        < firstSpaced * 2 ^ shift :=
          Nat.mul_lt_mul_of_pos_right high (Nat.pow_pos (by decide))
      _ ≤ firstSpaced * 2 ^ 2045 :=
          Nat.mul_le_mul_left _ (Nat.pow_le_pow_right (by decide) shiftBound)
      _ ≤ 2 ^ 2098 := by decide +kernel

/-- Every rank above zero has a unit. -/
theorem units_pos {rank : Nat} (nonzero : rank ≠ 0) : 0 < units rank := by
  unfold units
  split
  · omega
  · exact Nat.mul_pos (by unfold blockSize; omega) (Nat.two_pow_pos _)

/-- Moving the point by so many places leaves the quotient a whole number of units. -/
theorem nearestRank_expansion (rank places : Nat) :
    nearestRank (units rank * Nat.pow 5 places * Nat.pow 2 places) (Nat.pow 10 places) = rank := by
  have numerator : units rank * Nat.pow 5 places * Nat.pow 2 places =
      units rank * Nat.pow 10 places := by
    rw [Nat.mul_assoc]
    exact congrArg (units rank * ·) (Nat.mul_pow 5 2 places).symm
  calc nearestRank (units rank * Nat.pow 5 places * Nat.pow 2 places) (Nat.pow 10 places)
      = nearestRank (units rank * Nat.pow 10 places) (1 * Nat.pow 10 places) := by
        rw [numerator, Nat.one_mul]
    _ = nearestRank (units rank) 1 :=
        nearestRank_scale _ _ _ (Nat.pow_pos (by decide : 0 < 10))
    _ = rank := nearestRank_units rank

/-- A decimal is rounded as a quotient if its first digit lies in the range of the finite numbers,
at most 309 places before the point and at most 324 behind it. -/
theorem nearestRankOfDecimal_inRange {coefficient places : Nat} (many : 324 < places)
    (low : 10 ^ (places - 324) ≤ coefficient) (high : coefficient < 10 ^ (places + 309)) :
    nearestRankOfDecimal coefficient (-(places : Int)) =
      nearestRank (coefficient * unitsPerOne) (Nat.pow 10 places) := by
  have wide : places - 324 < decimalWidth coefficient := by
    by_contra narrow
    exact Nat.not_lt.mpr low ((decimalWidth_le_iff (by omega)).mp (Nat.le_of_not_lt narrow))
  have narrow : decimalWidth coefficient ≤ places + 309 :=
    (decimalWidth_le_iff (by omega)).mpr high
  have nonzero : coefficient ≠ 0 :=
    Nat.ne_of_gt (Nat.lt_of_lt_of_le (Nat.pow_pos (by decide)) low)
  have exponent : (- -(places : Int)).toNat = places := by omega
  unfold nearestRankOfDecimal
  rw [if_neg (by omega), if_neg (by omega), if_neg (by omega), exponent]

/-- The exact expansion of a finite magnitude rounds to its rank. It has between 751 and 1383
digits before the point is moved, so that neither bound of the range applies. -/
theorem readsBack_exactDecimal {rank : Nat} (finite : rank < finiteCount) (nonzero : rank ≠ 0) :
    (exactDecimal rank).readsBack rank = true := by
  obtain ⟨places, isPlaces⟩ : ∃ places, places = 1074 := ⟨1074, rfl⟩
  have powers : 0 < Nat.pow 5 places := Nat.pow_pos (by decide : 0 < 5)
  have low : 10 ^ (places - 324) ≤ units rank * Nat.pow 5 places :=
    Nat.le_trans (by subst isPlaces; decide +kernel)
      (Nat.le_mul_of_pos_left _ (units_pos nonzero))
  have high : units rank * Nat.pow 5 places < 10 ^ (places + 309) :=
    Nat.lt_of_lt_of_le (Nat.mul_lt_mul_of_pos_right (units_lt finite) powers)
      (by subst isPlaces; decide +kernel)
  have unit : unitsPerOne = Nat.pow 2 places := by
    unfold unitsPerOne
    congr 1
    exact isPlaces.symm
  have rounded : nearestRankOfDecimal (units rank * Nat.pow 5 places) (-(places : Int)) = rank := by
    rw [nearestRankOfDecimal_inRange (by omega) low high, unit, nearestRank_expansion]
  rw [Decimal.readsBack, beq_iff_eq, exactDecimal, ← isPlaces]
  have exponent : (-1074 : Int) = -(places : Int) := by omega
  rw [exponent]
  exact rounded

/-- The shortest decimal of a finite magnitude reads back. Every decimal that the search offers
does, and so does the exact one that closes it. -/
theorem readsBack_shortest {rank : Nat} (finite : rank < finiteCount) :
    (shortest rank).readsBack rank = true := by
  unfold shortest
  split
  · next zero =>
    subst zero
    simp [Decimal.readsBack, nearestRankOfDecimal]
  · next nonzero =>
    cases found : (List.range 17).findSome? fun (fewer : Nat) =>
        onGrid? rank (position rank - (fewer + 1)) with
    | none => exact readsBack_exactDecimal finite nonzero
    | some decimal =>
      obtain ⟨_, _, offered⟩ := List.exists_of_findSome?_eq_some found
      exact readsBack_of_onGrid? offered

end DeclCodec.Binary64
