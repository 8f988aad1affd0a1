import DeclCodec.Text.CodePoint
import DeclCodec.Text.Printable

/-!
# Quoted literals

A text is written as a string literal of the emitted language. Single quotes
delimit it, unless it holds a single quote and no double quote. The delimiter and
the backslash are escaped by a backslash; tab, line feed and carriage return have
short escapes; every other unprintable character is written by its code point in
two, four or eight hexadecimal digits, and so is a surrogate.
-/

namespace DeclCodec.Text.Quoted

/-- The delimiter chosen for a text. -/
def delimiter (text : Points) : Char :=
  if text.contains (.char '\'') && !text.contains (.char '"') then '"' else '\''

/-- The escape of an unprintable code point. -/
def codeEscape (code : Nat) : List Char :=
  if code < 0x100 then '\\' :: 'x' :: hexDigits 2 code
  else if code < 0x10000 then '\\' :: 'u' :: hexDigits 4 code
  else '\\' :: 'U' :: hexDigits 8 code

/-- One character inside a literal. -/
def encodeChar (mark c : Char) : List Char :=
  if c = mark ∨ c = '\\' then ['\\', c]
  else if c = '\t' then ['\\', 't']
  else if c = '\n' then ['\\', 'n']
  else if c = '\r' then ['\\', 'r']
  else if isPrintable c then [c]
  else codeEscape c.toNat

/-- One code point inside a literal. -/
def encodePoint (mark : Char) : CodePoint → List Char
  | .char c => encodeChar mark c
  | surrogate => codeEscape surrogate.toNat

/-- The literal of a text. -/
def encode (text : Points) : List Char :=
  delimiter text :: (text.flatMap (encodePoint (delimiter text)) ++ [delimiter text])

/-- The literal of a string. -/
def literal (text : Points) : String := String.ofList (encode text)

/-- One byte inside a literal of bytes. -/
def encodeByte (mark : Char) (byte : UInt8) : List Char :=
  let c := Char.ofNat byte.toNat
  if c = mark ∨ c = '\\' then ['\\', c]
  else if c = '\t' then ['\\', 't']
  else if c = '\n' then ['\\', 'n']
  else if c = '\r' then ['\\', 'r']
  else if 0x20 ≤ byte.toNat ∧ byte.toNat < 0x7F then [c]
  else '\\' :: 'x' :: hexDigits 2 byte.toNat

/-- The literal of bytes, marked by a `b` in front. -/
def encodeBytes (bytes : List UInt8) : List Char :=
  let mark := delimiter (bytes.map fun byte => .char (Char.ofNat byte.toNat))
  'b' :: mark :: (bytes.flatMap (encodeByte mark) ++ [mark])

end DeclCodec.Text.Quoted
