/-!
# Decimal digits

Every script's decimal digits (general category Nd in Unicode 14) stand in ten
consecutive code points in ascending order of value, so the table lists only the
zeros.
-/

namespace DeclCodec.Text

/-- The zeros of the scripts beyond ASCII. -/
def digitZeros : List Nat :=
  [
    0x660, 0x6F0, 0x7C0, 0x966, 0x9E6, 0xA66, 0xAE6, 0xB66, 0xBE6, 0xC66, 0xCE6, 0xD66, 0xDE6,
    0xE50, 0xED0, 0xF20, 0x1040, 0x1090, 0x17E0, 0x1810, 0x1946, 0x19D0, 0x1A80, 0x1A90, 0x1B50,
    0x1BB0, 0x1C40, 0x1C50, 0xA620, 0xA8D0, 0xA900, 0xA9D0, 0xA9F0, 0xAA50, 0xABF0, 0xFF10,
    0x104A0, 0x10D30, 0x11066, 0x110F0, 0x11136, 0x111D0, 0x112F0, 0x11450, 0x114D0, 0x11650,
    0x116C0, 0x11730, 0x118E0, 0x11950, 0x11C50, 0x11D50, 0x11DA0, 0x16A60, 0x16AC0, 0x16B50,
    0x1D7CE, 0x1D7D8, 0x1D7E2, 0x1D7EC, 0x1D7F6, 0x1E140, 0x1E2F0, 0x1E950, 0x1FBF0]

/-- The value of a decimal digit of any script. -/
def digitValue? (c : Char) : Option Nat :=
  if c.toNat < 0x80 then
    if '0' ≤ c && c ≤ '9' then some (c.toNat - '0'.toNat) else none
  else
    (digitZeros.find? fun start => start ≤ c.toNat && c.toNat < start + 10).map (c.toNat - ·)

/-- A digit's value is below ten. -/
theorem digitValue?_lt {c : Char} {value : Nat} (found : digitValue? c = some value) :
    value < 10 := by
  unfold digitValue? at found
  split at found
  · split at found
    · rename_i inside
      simp only [Bool.and_eq_true, decide_eq_true_eq, Char.le_def, UInt32.le_iff_toNat_le] at inside
      simp only [Option.some.injEq] at found
      have low : '0'.val.toNat = 48 := rfl
      have high : '9'.val.toNat = 57 := rfl
      have code0 : '0'.toNat = 48 := rfl
      have code : c.toNat = c.val.toNat := rfl
      omega
    · cases found
  · obtain ⟨start, located, rfl⟩ := Option.map_eq_some_iff.1 found
    have inside := List.find?_some located
    simp only [Bool.and_eq_true, decide_eq_true_eq] at inside
    omega

end DeclCodec.Text
