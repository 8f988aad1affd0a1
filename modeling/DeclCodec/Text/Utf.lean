import DeclCodec.Text.CodePoint

/-!
# Unicode decoding of bytes

Bytes that hold a text are decoded by the encoding their first bytes announce: a
byte order mark of UTF-32, UTF-16 or UTF-8, or else the position of the zero
bytes among the first four, which an ASCII first character leaves in the wider
encodings. A mark is not part of the text.

Bytes that are no text of the announced encoding have no decoding. A surrogate is
taken as it stands in every encoding, though UTF-8 and UTF-32 have no use for it, and
only UTF-16 joins the two of a pair.
-/

namespace DeclCodec.Text

/-- The order of the bytes of a wide code unit. -/
inductive ByteOrder
  | bigEndian
  | littleEndian
deriving DecidableEq

/-- The ways a text is laid out in bytes. -/
inductive Encoding
  | utf8
  | utf16 (order : ByteOrder)
  | utf32 (order : ByteOrder)
deriving DecidableEq

/-- The encoding of the byte order mark, with the bytes after it. -/
def markedEncoding? : List UInt8 → Option (Encoding × List UInt8)
  | 0 :: 0 :: 0xFE :: 0xFF :: rest => some (.utf32 .bigEndian, rest)
  | 0xFF :: 0xFE :: 0 :: 0 :: rest => some (.utf32 .littleEndian, rest)
  | 0xFE :: 0xFF :: rest => some (.utf16 .bigEndian, rest)
  | 0xFF :: 0xFE :: rest => some (.utf16 .littleEndian, rest)
  | 0xEF :: 0xBB :: 0xBF :: rest => some (.utf8, rest)
  | _ => none

/-- The encoding that the zeros among the first bytes announce. -/
def encodingByZeros : List UInt8 → Encoding
  | a :: b :: c :: d :: _ =>
    if a == 0 then (if b == 0 then .utf32 .bigEndian else .utf16 .bigEndian)
    else if b == 0 then (if c == 0 && d == 0 then .utf32 .littleEndian else .utf16 .littleEndian)
    else .utf8
  | a :: b :: [] =>
    if a == 0 then .utf16 .bigEndian
    else if b == 0 then .utf16 .littleEndian
    else .utf8
  | _ => .utf8

/-- The announced encoding, with the bytes after the byte order mark. -/
def announcedEncoding (bytes : List UInt8) : Encoding × List UInt8 :=
  (markedEncoding? bytes).getD (encodingByZeros bytes, bytes)

/-- The value of a code unit's bytes, most significant first. -/
def bigEndianValue (bytes : List UInt8) : Nat :=
  bytes.foldl (fun value byte => value * 256 + byte.toNat) 0

/-- The value of a code unit. -/
def ByteOrder.value : ByteOrder → List UInt8 → Nat
  | .bigEndian, bytes => bigEndianValue bytes
  | .littleEndian, bytes => bigEndianValue bytes.reverse

/-- Decode units of four bytes. -/
def decodeUtf32 (order : ByteOrder) : List UInt8 → Option Points
  | [] => some []
  | a :: b :: c :: d :: rest =>
    let code := order.value [a, b, c, d]
    if code < 0x110000 then (decodeUtf32 order rest).map (CodePoint.ofNat code :: ·) else none
  | _ => none

/-- The code points of 16-bit units, surrogate pairs joined. -/
def decodeUnits16 : List Nat → Points
  | [] => []
  | high :: low :: rest =>
    if isHighSurrogate high && isLowSurrogate low then
      CodePoint.ofNat (joinSurrogates high low) :: decodeUnits16 rest
    else CodePoint.ofNat high :: decodeUnits16 (low :: rest)
  | [unit] => [CodePoint.ofNat unit]

/-- The 16-bit units of an even number of bytes. -/
def units16 (order : ByteOrder) : List UInt8 → Option (List Nat)
  | [] => some []
  | a :: b :: rest => (units16 order rest).map (order.value [a, b] :: ·)
  | [_] => none

/-- A code point whose bytes are not complete: how many are missing, what those before say, and the
least code point that may be written in so many. -/
structure Unfinished where
  missing : Nat
  code : Nat
  least : Nat

/-- What the first byte of a code point says about it. -/
def leadByte? (byte : UInt8) : Option Unfinished :=
  if byte < 0x80 then some ⟨0, byte.toNat, 0⟩
  else if byte < 0xC0 then none
  else if byte < 0xE0 then some ⟨1, byte.toNat - 0xC0, 0x80⟩
  else if byte < 0xF0 then some ⟨2, byte.toNat - 0xE0, 0x800⟩
  else if byte < 0xF8 then some ⟨3, byte.toNat - 0xF0, 0x10000⟩
  else none

/-- What one more byte says about a code point. -/
def Unfinished.next? (unfinished : Unfinished) (byte : UInt8) : Option Unfinished :=
  if 0x80 ≤ byte ∧ byte < 0xC0 then
    some { unfinished with
      missing := unfinished.missing - 1
      code := unfinished.code * 64 + (byte.toNat - 0x80) }
  else none

/-- Is the code point one that may be written so? -/
def Unfinished.isValid (unfinished : Unfinished) : Bool :=
  unfinished.least ≤ unfinished.code && unfinished.code < 0x110000

/-- Decode code points of one to four bytes, given the one that is not complete, if there is one. -/
def decodeUtf8 (pending : Option Unfinished) : List UInt8 → Option Points
  | [] => if pending.isNone then some [] else none
  | byte :: rest =>
    match (match pending with
      | none => leadByte? byte
      | some unfinished => unfinished.next? byte) with
    | none => none
    | some unfinished =>
      if 0 < unfinished.missing then decodeUtf8 (some unfinished) rest
      else if unfinished.isValid then
        (decodeUtf8 none rest).map (CodePoint.ofNat unfinished.code :: ·)
      else none

/-- The text that bytes hold. -/
def decodeBytes (bytes : List UInt8) : Option Points :=
  match announcedEncoding bytes with
  | (.utf8, rest) => decodeUtf8 none rest
  | (.utf16 order, rest) => (units16 order rest).map decodeUnits16
  | (.utf32 order, rest) => decodeUtf32 order rest

/-- The UTF-8 bytes of a text. -/
def encodeUtf8 (text : String) : List UInt8 := text.toUTF8.toList

end DeclCodec.Text
