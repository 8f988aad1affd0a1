import DeclCodec.Text.Position

/-!
# What can be wrong with a JSON text

A fault has a cause and a position in the text.
-/

namespace DeclCodec.Json

/-- Why a text is no JSON value. -/
inductive Cause
  | expectingValue
  | expectingPropertyName
  | expectingColon
  | expectingComma
  | extraData
  | unterminatedString
  | invalidControlCharacter
  | invalidEscape
  | invalidUnicodeEscape
  | byteOrderMark
deriving DecidableEq, Repr

/-- The words for a cause. -/
def Cause.message : Cause → String
  | .expectingValue => "Expecting value"
  | .expectingPropertyName => "Expecting property name enclosed in double quotes"
  | .expectingColon => "Expecting ':' delimiter"
  | .expectingComma => "Expecting ',' delimiter"
  | .extraData => "Extra data"
  | .unterminatedString => "Unterminated string starting at"
  | .invalidControlCharacter => "Invalid control character at"
  | .invalidEscape => "Invalid \\escape"
  | .invalidUnicodeEscape => "Invalid \\uXXXX escape"
  | .byteOrderMark => "Unexpected UTF-8 BOM (decode using utf-8-sig)"

/-- A cause at a position. -/
structure Fault where
  cause : Cause
  position : Text.Position
deriving DecidableEq, Repr

/-- The cause, then line, column and offset. -/
def Fault.message (fault : Fault) : String :=
  fault.cause.message ++ ": line " ++ toString fault.position.line ++ " column " ++
    toString fault.position.column ++ " (char " ++ toString fault.position.offset ++ ")"

end DeclCodec.Json
