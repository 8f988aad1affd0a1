import DeclCodec.Number.Shortest

/-!
# The written form of a number

A number is laid out from the digits of its shortest decimal and the position of
the point. The layout's choices (which exponents are written positionally, how
wide an exponent is, the spelling of the values that are no finite number) are
one record, and `FloatFormat.wire` is the record used on the wire and in
messages.
-/

namespace DeclCodec

/-- The choices made when a number is laid out. -/
structure FloatFormat where
  /-- The least decimal exponent written positionally. -/
  leastPositional : Int
  /-- The least decimal exponent above those written positionally. -/
  firstScientific : Int
  /-- The least number of exponent digits. -/
  exponentWidth : Nat
  /-- What follows a whole number written positionally. -/
  wholeMark : List Char
  infinityText : List Char
  nanText : List Char

namespace FloatFormat

/-- Exponents from -4 to 15 are positional, a whole number keeps `.0`, and an exponent has a sign
and at least two digits. -/
def wire : FloatFormat where
  leastPositional := -4
  firstScientific := 16
  exponentWidth := 2
  wholeMark := ['.', '0']
  infinityText := ['i', 'n', 'f']
  nanText := ['n', 'a', 'n']

/-- Digits with the point at `point`, which may lie outside them. -/
def positional (format : FloatFormat) (digits : List Char) (point : Int) : List Char :=
  if point ≤ 0 then
    '0' :: '.' :: (List.replicate (-point).toNat '0' ++ digits)
  else if digits.length ≤ point.toNat then
    digits ++ List.replicate (point.toNat - digits.length) '0' ++ format.wholeMark
  else
    digits.take point.toNat ++ '.' :: digits.drop point.toNat

/-- A signed exponent, padded with zeros. -/
def exponentText (format : FloatFormat) (exponent : Int) : List Char :=
  let digits := Nat.toDigits 10 exponent.natAbs
  (if exponent < 0 then '-' else '+') ::
    (List.replicate (format.exponentWidth - digits.length) '0' ++ digits)

/-- One digit before the point, the others after it, then the exponent. -/
def scientific (format : FloatFormat) (digits : List Char) (exponent : Int) : List Char :=
  let fraction := if digits.length ≤ 1 then [] else '.' :: digits.drop 1
  digits.take 1 ++ fraction ++ 'e' :: exponentText format exponent

/-- The digits of a number without the zeros at their end; zero keeps one. -/
def significantDigits (coefficient : Nat) : List Char :=
  if coefficient = 0 then ['0']
  else ((Nat.toDigits 10 coefficient).reverse.dropWhile (· == '0')).reverse

/-- The text of a magnitude. -/
def magnitude (format : FloatFormat) (rank : Nat) : List Char :=
  let decimal := Binary64.shortest rank
  let digits := significantDigits decimal.coefficient
  let point := (Binary64.decimalWidth decimal.coefficient : Int) + decimal.exponent
  if format.leastPositional ≤ point - 1 ∧ point - 1 < format.firstScientific then
    format.positional digits point
  else format.scientific digits (point - 1)

/-- The text of a number. -/
def write (format : FloatFormat) : Binary64 → List Char
  | .nan _ => format.nanText
  | .infinity negative => (if negative then ['-'] else []) ++ format.infinityText
  | .finite negative rank => (if negative then ['-'] else []) ++ format.magnitude rank.val

end FloatFormat

end DeclCodec
