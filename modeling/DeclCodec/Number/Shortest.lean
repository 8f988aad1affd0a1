import DeclCodec.Number.Binary64

/-!
# The shortest decimal that reads back

A finite binary64 magnitude is written with the fewest decimal digits that round
to it again. For one digit, two digits and so on, the two neighbours of the
magnitude on the decimal grid of that width are tried; the first width with a
neighbour that reads back wins. Of two such neighbours the nearer is taken, and
at equal distance the even one.

Every magnitude has an exact decimal expansion, which closes the search; it is
never reached, since seventeen digits always suffice.
-/

namespace DeclCodec.Binary64

/-- The decimal `coefficient * 10 ^ exponent`. -/
structure Decimal where
  coefficient : Nat
  exponent : Int
deriving DecidableEq

/-- Does the decimal round to this rank? -/
def Decimal.readsBack (decimal : Decimal) (rank : Nat) : Bool :=
  nearestRankOfDecimal decimal.coefficient decimal.exponent == rank

/-- The power of ten just above a magnitude: the number of digits before its point. -/
def position (rank : Nat) : Int :=
  (decimalWidth (units rank * Nat.pow 10 400 / unitsPerOne) : Int) - 400

/-- The neighbour of a magnitude on the grid of multiples of `10 ^ exponent`, if one reads back. -/
def onGrid? (rank : Nat) (exponent : Int) : Option Decimal :=
  let numerator := units rank * Nat.pow 10 (-exponent).toNat
  let denominator := unitsPerOne * Nat.pow 10 exponent.toNat
  let floor := numerator / denominator
  let twice := 2 * (numerator % denominator)
  let lower : Decimal := ⟨floor, exponent⟩
  let upper : Decimal := ⟨floor + 1, exponent⟩
  let upperIsNearer := denominator < twice || (denominator == twice && floor % 2 == 1)
  match lower.readsBack rank, upper.readsBack rank with
  | true, true => some (if upperIsNearer then upper else lower)
  | true, false => some lower
  | false, true => some upper
  | false, false => none

/-- A grid neighbour is only offered when it reads back. -/
theorem readsBack_of_onGrid? {rank : Nat} {exponent : Int} {decimal : Decimal}
    (offered : onGrid? rank exponent = some decimal) : decimal.readsBack rank = true := by
  unfold onGrid? at offered
  dsimp only at offered
  split at offered
  · rename_i lowerReads upperReads
    split at offered
    · cases offered; exact upperReads
    · cases offered; exact lowerReads
  · rename_i lowerReads _
    cases offered; exact lowerReads
  · rename_i _ upperReads
    cases offered; exact upperReads
  · cases offered

/-- The whole decimal expansion of a magnitude. -/
def exactDecimal (rank : Nat) : Decimal := ⟨units rank * Nat.pow 5 1074, -1074⟩

/-- The shortest decimal of a magnitude. -/
def shortest (rank : Nat) : Decimal :=
  if rank = 0 then ⟨0, 0⟩
  else
    ((List.range 17).findSome? fun (fewer : Nat) => onGrid? rank (position rank - (fewer + 1))).getD
      (exactDecimal rank)

end DeclCodec.Binary64
