import DeclCodec.Json.Text
import DeclCodec.Text.Base64
import DeclCodec.Text.Order
import DeclCodec.Wire.Codecs

/-!
# Writing values to the wire

A value is written as JSON text without blanks. Bytes are written in base64, a
tuple as a list, and the entries of a map in ascending order of their keys. Raw
text is written as it stands, or as `null` if it is empty.

A record is written by its codec. Each entry of the codec selects the field
itself or one side of the wrapper in it, or nothing; the selected values are
written under their keys in the order of the codec. Of several faults the one met
first is reported, an entry's selection being made before its value is written
and both before the next entry.
-/

namespace DeclCodec

/-- What is written of a value: all of it, or one of its attributes. -/
inductive Aspect
  | whole
  | side (name : String)
deriving DecidableEq, Repr

/-- Written text. -/
abbrev Written := Except WireFault (List Char)

/-- A value that is ready to be written in either aspect. -/
structure Writer where
  value : Value
  write : Aspect → Written

namespace Value

/-- Does the wrapper hold a value? -/
def hasValue : Value → Except WireFault Bool
  | .wrapper _ _ value =>
    match value with
    | .null => .ok false
    | _ => .ok true
  | value => if (value.attribute? "has_value").isSome then .error .wrongType
    else .error (.noAttribute "has_value")

/-- The text of a map key. -/
def mapKey : Value → Except WireFault Points
  | .str text => .ok text
  | .int value => .ok (Text.points (Json.intText value))
  | key => .error (.unsupportedKey key.typeName)

end Value

/-- The aspect of a field that an entry selects, if it selects one. -/
def Part.select : Part → Value → Except WireFault (Option Aspect)
  | .always, _ => .ok (some .whole)
  | .unlessEmpty, value => .ok (if value.isEmpty then none else some .whole)
  | .wrapperId, .null => .ok none
  | .wrapperId, value =>
    match value.attribute? "Id" with
    | some id => .ok (if id.isEmpty then none else some (.side "Id"))
    | none => .error (.noAttribute "Id")
  | .wrapperValue, .null => .ok none
  | .wrapperValue, value =>
    match value.hasValue with
    | .ok held => .ok (if held then some (.side "Value") else none)
    | .error fault => .error fault

/-- The entry that a codec writes for a field, if any. -/
def Write.text? (entry : Write) (fields : List (String × Writer)) :
    Except WireFault (Option (List Char)) :=
  match fields.lookup entry.field with
  | none => .error (.noAttribute entry.field)
  | some writer => do
    match ← entry.part.select writer.value with
    | none => pure none
    | some aspect => do
      let text ← writer.write aspect
      pure (some (Json.quote entry.key ++ ':' :: text))

/-- The text of a record with these fields. -/
def Codecs.writeRecord (codecs : Codecs) (type : String) (fields : List (String × Writer)) :
    Written :=
  match codecs.find? type with
  | none => .error (.unsupportedType type)
  | some codec => do
    let entries ← codec.writes.filterMapM fun entry => entry.text? fields
    pure (Json.braced entries)

/-- A map entry with the text of its key. -/
def keyedEntry (key : Value) (writer : Writer) : Except WireFault (Points × Writer) := do
  pure (← key.mapKey, writer)

/-- The text of a map entry under its key. -/
def writeEntry (key : Points) (writer : Writer) : Written := do
  pure (Json.quote key ++ ':' :: (← writer.write .whole))

/-- The text of a map. All keys are looked at before a value is written. -/
def writeMap (entries : List (Value × Writer)) : Written := do
  let keyed ← entries.mapM fun entry => keyedEntry entry.1 entry.2
  let texts ← (Text.sortBy (·.1) keyed).mapM fun entry => writeEntry entry.1 entry.2
  pure (Json.braced texts)

namespace Value

mutual

/-- Write an aspect of a value. -/
def write (codecs : Codecs) (value : Value) (aspect : Aspect) : Written :=
  match value, aspect with
  | .null, .whole => .ok "null".toList
  | .bool true, .whole => .ok "true".toList
  | .bool false, .whole => .ok "false".toList
  | .int value, .whole => .ok (Json.intText value)
  | .float number, .whole =>
    if number.isFinite then .ok (FloatFormat.wire.write number)
    else .error (.unsupportedNumber number)
  | .str text, .whole => .ok (Json.quote text)
  | .bytes content, .whole => .ok ('"' :: (Text.base64 content ++ ['"']))
  | .byteArray content, .whole => .ok ('"' :: (Text.base64 content ++ ['"']))
  | .raw text, .whole => .ok (if text = "" then "null".toList else text.toList)
  | .list items, .whole => do pure (Json.bracketed (← writeItems codecs items))
  | .tuple items, .whole => do pure (Json.bracketed (← writeItems codecs items))
  | .map entries, .whole => writeMap (entryWriters codecs entries)
  | .selfWriting text, .whole => .ok text.toList
  | .formless, .whole => .error (.unsupportedType "Opaque")
  | .record type fields, .whole => codecs.writeRecord type (fieldWriters codecs fields)
  | .record _ fields, .side name =>
    match (fieldWriters codecs fields).lookup name with
    | some writer => writer.write .whole
    | none => .error (.noAttribute name)
  | .wrapper type _ _, .whole => .error (.unsupportedType type)
  | .wrapper _ id value, .side name =>
    if name = "Id" then write codecs id .whole
    else if name = "Value" then write codecs value .whole
    else .error (.noAttribute name)
  | _, .side name => .error (.noAttribute name)

/-- Write the items of a list one after another. -/
def writeItems (codecs : Codecs) (items : List Value) : Except WireFault (List (List Char)) :=
  match items with
  | [] => .ok []
  | item :: rest => do
    let text ← write codecs item .whole
    let texts ← writeItems codecs rest
    pure (text :: texts)

/-- The values of map entries, ready to be written. -/
def entryWriters (codecs : Codecs) (entries : List (Value × Value)) : List (Value × Writer) :=
  match entries with
  | [] => []
  | (key, value) :: rest => (key, ⟨value, write codecs value⟩) :: entryWriters codecs rest

/-- The values of fields, ready to be written. -/
def fieldWriters (codecs : Codecs) (fields : List (String × Value)) : List (String × Writer) :=
  match fields with
  | [] => []
  | (name, value) :: rest => (name, ⟨value, write codecs value⟩) :: fieldWriters codecs rest

end

/-- The text of a value. -/
def encode (codecs : Codecs) (value : Value) : Written := write codecs value .whole

end Value

end DeclCodec
