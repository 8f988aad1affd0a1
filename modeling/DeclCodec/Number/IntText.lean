import DeclCodec.Text.Blank
import DeclCodec.Text.DecimalDigit

/-!
# Spellings of integers

An integer may be spelled with white space around it, a sign, leading zeros, the
decimal digits of any script, and single underscores between digits. The ASCII
information separators do not count as white space here.
-/

namespace DeclCodec.IntText

/-- White space around an integer. -/
def isPadding (c : Char) : Bool :=
  if c.toNat < 0x80 then c == ' ' || (0x9 ≤ c.toNat && c.toNat ≤ 0xD) else Text.isBlank c

/-- The value of digits, single underscores between them allowed. `afterDigit` tells whether a
digit stands right before. -/
def digits? (afterDigit : Bool) (value : Nat) : List Char → Option Nat
  | [] => if afterDigit then some value else none
  | c :: rest =>
    if c = '_' then if afterDigit then digits? false value rest else none
    else
      match Text.digitValue? c with
      | some digit => digits? true (value * 10 + digit) rest
      | none => none

/-- The value of a signed integer. -/
def signed? : List Char → Option Int
  | '-' :: rest => (digits? false 0 rest).map fun value => -(value : Int)
  | '+' :: rest => (digits? false 0 rest).map fun value => (value : Int)
  | text => (digits? false 0 text).map fun value => (value : Int)

/-- A text without the white space around it. -/
def unpadded (text : List Char) : List Char :=
  ((text.dropWhile isPadding).reverse.dropWhile isPadding).reverse

/-- The integer that a text spells. -/
def parse? (text : List Char) : Option Int := signed? (unpadded text)

end DeclCodec.IntText
