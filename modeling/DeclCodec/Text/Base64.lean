/-!
# Base64

Three bytes are written as four characters of the standard alphabet; a last
group of one or two bytes is filled up with `=`.
-/

namespace DeclCodec.Text

/-- The character of a six-bit value. -/
def base64Char (value : Nat) : Char :=
  if value < 26 then Char.ofNat (65 + value)
  else if value < 52 then Char.ofNat (97 + (value - 26))
  else if value < 62 then Char.ofNat (48 + (value - 52))
  else if value = 62 then '+'
  else '/'

/-- The base64 text of bytes. -/
def base64 : List UInt8 → List Char
  | [] => []
  | [a] =>
    let value := a.toNat * 65536
    [base64Char (value / 262144), base64Char (value / 4096 % 64), '=', '=']
  | [a, b] =>
    let value := a.toNat * 65536 + b.toNat * 256
    [base64Char (value / 262144), base64Char (value / 4096 % 64), base64Char (value / 64 % 64), '=']
  | a :: b :: c :: rest =>
    let value := a.toNat * 65536 + b.toNat * 256 + c.toNat
    base64Char (value / 262144) :: base64Char (value / 4096 % 64) ::
      base64Char (value / 64 % 64) :: base64Char (value % 64) :: base64 rest

/-- Every three bytes begun take four characters. -/
theorem length_base64 (bytes : List UInt8) :
    (base64 bytes).length = (bytes.length + 2) / 3 * 4 := by
  fun_induction base64 bytes with
  | case1 => rfl
  | case2 a => simp
  | case3 a b => simp
  | case4 a b c rest value inductionHypothesis =>
    simp only [List.length_cons, inductionHypothesis]
    omega

end DeclCodec.Text
