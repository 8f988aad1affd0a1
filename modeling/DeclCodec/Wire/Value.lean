import DeclCodec.Json.Basic
import DeclCodec.Table
import DeclCodec.Text.Utf

/-!
# Values of emitted types

A value is what a field of an emitted class can hold: the values that JSON has,
and besides them bytes, tuples, maps with keys of any kind, raw JSON text,
records of a declared struct, and wrappers that hold a type by identifier or by
value. Objects that write themselves, and objects without any form on the wire,
are values too, since an attribute can be set to anything.

Values are compared as the emitted language compares them: numbers by what they
are worth, truth values counting as zero and one; the byte strings, raw text
among them, by their bytes; maps without regard to order. An object with an
identity of its own equals no other.
-/

namespace DeclCodec

/-- A value. -/
inductive Value
  | null
  | bool (value : Bool)
  | int (value : Int)
  | float (value : Binary64)
  | str (text : Points)
  | bytes (content : List UInt8)
  | byteArray (content : List UInt8)
  /-- Raw JSON text. -/
  | raw (text : String)
  | list (items : List Value)
  | tuple (items : List Value)
  | map (entries : List (Value × Value))
  /-- An object that writes itself as this text. -/
  | selfWriting (text : String)
  /-- An object without a form on the wire. -/
  | formless
  /-- A struct with its fields in order of declaration. -/
  | record (type : String) (fields : List (String × Value))
  /-- A reference held by identifier or by value. -/
  | wrapper (type : String) (id value : Value)

instance : Inhabited Value := ⟨.null⟩

namespace Value

/-- The name of the type of a value in messages. -/
def typeName : Value → String
  | .null => "NoneType"
  | .bool _ => "bool"
  | .int _ => "int"
  | .float _ => "float"
  | .str _ => "str"
  | .bytes _ => "bytes"
  | .byteArray _ => "bytearray"
  | .raw _ => "RawMessage"
  | .list _ => "list"
  | .tuple _ => "tuple"
  | .map _ => "dict"
  | .selfWriting _ => "Marshaler"
  | .formless => "Opaque"
  | .record type _ => type
  | .wrapper type _ _ => type

/-- The integer that a truth value counts as. -/
def boolInt (value : Bool) : Int := if value then 1 else 0

/-- The integer that a value is worth, if it is one. -/
def integer? : Value → Option Int
  | .bool value => some (boolInt value)
  | .int value => some value
  | _ => none

/-- The bytes of a byte string. -/
def bytes? : Value → Option (List UInt8)
  | .bytes content => some content
  | .byteArray content => some content
  | .raw text => some (Text.encodeUtf8 text)
  | _ => none

mutual

/-- Equality of values. -/
def same : Value → Value → Bool
  | .null, .null => true
  | .bool value, .float number => number.equalsInt (boolInt value)
  | .bool value, other => other.integer? == some (boolInt value)
  | .int value, .float number => number.equalsInt value
  | .int value, other => other.integer? == some value
  | .float number, .float other => number.same other
  | .float number, other => (other.integer?.map number.equalsInt).getD false
  | .str text, .str other => text == other
  | .bytes content, other => other.bytes? == some content
  | .byteArray content, other => other.bytes? == some content
  | .raw text, other => other.bytes? == some (Text.encodeUtf8 text)
  | .list items, .list others => sameItems items others
  | .tuple items, .tuple others => sameItems items others
  | .map entries, .map others => entries.length == others.length && holdsAll others entries
  | .record type fields, .record otherType others => type == otherType && sameFields fields others
  | .wrapper type id value, .wrapper otherType otherId otherValue =>
    type == otherType && same id otherId && same value otherValue
  | _, _ => false

/-- Equality item by item. -/
def sameItems : List Value → List Value → Bool
  | [], others => others.isEmpty
  | item :: rest, other :: others => same item other && sameItems rest others
  | _ :: _, [] => false

/-- Are all the entries held by the others, in any order? -/
def holdsAll (others : List (Value × Value)) : List (Value × Value) → Bool
  | [] => true
  | (key, value) :: rest =>
    others.any (fun other => same key other.1 && same value other.2) && holdsAll others rest

/-- Equality field by field. -/
def sameFields : List (String × Value) → List (String × Value) → Bool
  | [], others => others.isEmpty
  | (name, value) :: rest, (otherName, other) :: others =>
    name == otherName && same value other && sameFields rest others
  | _ :: _, [] => false

end

instance : BEq Value := ⟨same⟩

/-- The value of a field or of a side of a wrapper. -/
def attribute? (name : String) : Value → Option Value
  | .record _ fields => fields.lookup name
  | .wrapper _ id value =>
    if name = "Id" then some id else if name = "Value" then some value else none
  | _ => none

/-- Is the value the empty one of its kind? Structs and wrappers never are. -/
def isEmpty : Value → Bool
  | .null => true
  | .bool value => !value
  | .int value => value == 0
  | .float number => number.isZero
  | .str text => text.isEmpty
  | .bytes content => content.isEmpty
  | .byteArray content => content.isEmpty
  | .raw text => text == ""
  | .list items => items.isEmpty
  | .tuple items => items.isEmpty
  | .map entries => entries.isEmpty
  | .selfWriting _ => false
  | .formless => false
  | .record _ _ => false
  | .wrapper _ _ _ => false

end Value

mutual

/-- The value that a JSON value is read as. -/
def Json.toValue : Json → Value
  | .null => .null
  | .bool value => .bool value
  | .int value => .int value
  | .float value => .float value
  | .str text => .str text
  | .list items => .list (Json.toValues items)
  | .object members => .map (Json.toEntries members)

/-- The values of the items. -/
def Json.toValues : List Json → List Value
  | [] => []
  | item :: rest => item.toValue :: Json.toValues rest

/-- The entries of the members. -/
def Json.toEntries : List (Points × Json) → List (Value × Value)
  | [] => []
  | (name, value) :: rest => (.str name, value.toValue) :: Json.toEntries rest

end

end DeclCodec
