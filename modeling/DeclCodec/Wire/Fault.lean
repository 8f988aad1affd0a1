import DeclCodec.Json.Fault
import DeclCodec.Number.FloatText
import DeclCodec.Wire.Shape

/-!
# What can go wrong on the wire
-/

namespace DeclCodec

/-- Why a value is not written or not read. The last ones come out of misuse, an attribute that a
value does not have, an operation that its type does not have, a name that nothing bears, or from
elsewhere. -/
inductive WireFault
  /-- A value without a form on the wire. -/
  | unsupportedType (typeName : String)
  /-- A map key that is neither a text nor an integer. -/
  | unsupportedKey (typeName : String)
  /-- A number that is not finite. -/
  | unsupportedNumber (number : Binary64)
  | expectedObject (typeName : String)
  | expectedArray (typeName : String)
  | cannotDecode (typeName className : String)
  | invalidIntegerKey (key : String)
  | unsupportedKeyShape (shape : Shape)
  /-- A text that is no JSON value. -/
  | malformed (cause : Json.Fault)
  /-- Bytes that are no text. -/
  | undecodable
  /-- An integer beyond the finite numbers. -/
  | tooLarge
  | infiniteInteger
  | noAttribute (name : String)
  | wrongType
  | unknownName (name : String)
  /-- A struct that holds itself without end. -/
  | endless
  /-- A class or field whose name belongs to the language. -/
  | specialName (name : String)
  /-- An error that the code of another module raises. -/
  | raised (error : String)
deriving DecidableEq

/-- The words of a fault. -/
def WireFault.message : WireFault → String
  | .unsupportedType typeName => "Unsupported type: " ++ typeName
  | .unsupportedKey typeName => "Unsupported map key type: " ++ typeName
  | .unsupportedNumber number =>
    "Unsupported value: " ++ String.ofList (FloatFormat.wire.write number)
  | .expectedObject typeName => "Expected a JSON object, got " ++ typeName
  | .expectedArray typeName => "Expected a JSON array, got " ++ typeName
  | .cannotDecode typeName className => "Cannot decode " ++ typeName ++ " into " ++ className
  | .invalidIntegerKey key => "Invalid integer map key: " ++ key
  | .unsupportedKeyShape shape => "Unsupported map key shape: " ++ shape.text
  | .malformed cause => cause.message
  | .undecodable => "the bytes are no text"
  | .tooLarge => "int too large to convert to float"
  | .infiniteInteger => "cannot convert float infinity to integer"
  | .noAttribute name => "no attribute " ++ name
  | .wrongType => "the type does not support this"
  | .unknownName name => "nothing is named " ++ name
  | .endless => "a struct holds itself without end"
  | .specialName name => "the name belongs to the language: " ++ name
  | .raised error => error

end DeclCodec
