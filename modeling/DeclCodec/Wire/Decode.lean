import DeclCodec.Json.Reader
import DeclCodec.Json.Text
import DeclCodec.Number.IntText
import DeclCodec.Wire.Codecs

/-!
# Reading values from the wire

A value is read by a shape. Nothing is read where the shape is a pointer and
nothing is there; elsewhere nothing is read as the value that a new instance of
the class would be. Otherwise each class takes the values of its own kind: truth
values are no integers, integers are numbers as long as they are not too large,
and raw text takes any value and keeps its JSON text. A class of another module
reads a value in its own way if it has one, and else like the class it derives from.

A struct is read from a map by its codec. A new instance is made and its entries
are assigned one after another, in the codec's order: an entry is taken from the
wire name if something is there, and a reference otherwise from the name of its
identifier. Before an entry is read the classes in its shape have to be there. If
an entry cannot be read the ones before it stay assigned.
-/

namespace DeclCodec

/-- A value that is ready to be read by any shape. -/
structure Reader where
  value : Value
  read : Shape → Except WireFault Value

/-- What a class of another module makes of nothing. -/
def ForeignClass.ofNothing (cls : ForeignClass) : Except WireFault Value :=
  match cls.lineage with
  | .object => .ok .null
  | .raw => cls.call (some (.bytes (Text.encodeUtf8 "null")))
  | _ => cls.call none

namespace Codecs

/-- The value of a default, given how new structs are made. -/
def ofDefault (make : String → Except WireFault Value) : Default → Except WireFault Value
  | .null => .ok .null
  | .no => .ok (.bool false)
  | .zero => .ok (.int 0)
  | .zeroFloat => .ok (.float .zero)
  | .emptyText => .ok (.str [])
  | .emptyList => .ok (.list [])
  | .emptyMap => .ok (.map [])
  | .fresh name => make name

/-- A field with its default. -/
def freshField (make : String → Except WireFault Value) (name : String) (default : Default) :
    Except WireFault (String × Value) := do
  pure (name, ← ofDefault make default)

/-- A new struct whose fields hold their defaults, structs being nested at most so deep. -/
def makeWithin (codecs : Codecs) : Nat → String → Except WireFault Value
  | 0, _ => .error .endless
  | depth + 1, type =>
    match codecs.find? type with
    | none => .error (.unknownName type)
    | some codec => do
      let fields ← codec.fields.mapM fun field =>
        freshField (codecs.makeWithin depth) field.1 field.2
      pure (.record type fields)

/-- A new struct. Where none holds itself, none is nested deeper than there are structs. -/
def make (codecs : Codecs) (type : String) : Except WireFault Value :=
  codecs.makeWithin codecs.structs.length type

/-- The identifier that a new wrapper holds. -/
def idDefault (codecs : Codecs) (wrapper : String) : Except WireFault Value :=
  match codecs.wrappers.lookup wrapper with
  | some default => ofDefault codecs.make default
  | none => .error (.unknownName wrapper)

/-- What a class makes of nothing. A class of raw text makes it of the text `null`. -/
def ofNothing (codecs : Codecs) : Class → Except WireFault Value
  | .bool => .ok (.bool false)
  | .int => .ok (.int 0)
  | .float => .ok (.float .zero)
  | .str => .ok (.str [])
  | .object => .ok .null
  | .raw => .ok (.raw "null")
  | .bytes => .ok (.bytes [])
  | .list => .ok (.list [])
  | .dict => .ok (.map [])
  | .declared name => codecs.make name
  | .foreign path => do (← codecs.foreign path).ofNothing

/-- Check that a struct is there and can be made from a map. -/
def checkMakes (codecs : Codecs) (type : String) : Except WireFault Unit :=
  match codecs.find? type with
  | none => .error (.unknownName type)
  | some codec => if codec.fromMaps then .ok () else .error .wrongType

/-- Check that a class is there. -/
def checkClass (codecs : Codecs) : Class → Except WireFault Unit
  | .declared name => if (codecs.find? name).isSome then .ok () else .error (.unknownName name)
  | .foreign path => (codecs.foreign path).map fun _ => ()
  | _ => .ok ()

/-- Check that every class in a shape is there. -/
def checkShape (codecs : Codecs) : Shape → Except WireFault Unit
  | .named cls => codecs.checkClass cls
  | .pointer elem => codecs.checkShape elem
  | .slice elem => codecs.checkShape elem
  | .map key value => do
    codecs.checkShape key
    codecs.checkShape value

end Codecs

namespace Value

/-- The member name that a map key has in JSON text. -/
def jsonName : Value → Except WireFault Points
  | .str text => .ok text
  | .int value => .ok (Text.points (Json.intText value))
  | .bool true => .ok "true"
  | .bool false => .ok "false"
  | .null => .ok "null"
  | .float number => .ok (Text.points (Json.floatFormat.write number))
  | _ => .error .wrongType

mutual

/-- The JSON value of a value. -/
def toJson : Value → Except WireFault Json
  | .null => .ok .null
  | .bool value => .ok (.bool value)
  | .int value => .ok (.int value)
  | .float number => .ok (.float number)
  | .str text => .ok (.str text)
  | .list items => do pure (.list (← toJsonItems items))
  | .tuple items => do pure (.list (← toJsonItems items))
  | .map entries => do pure (.object (← toJsonMembers entries))
  | _ => .error .wrongType

/-- The JSON values of the items. -/
def toJsonItems : List Value → Except WireFault (List Json)
  | [] => .ok []
  | item :: rest => do
    let json ← toJson item
    let jsons ← toJsonItems rest
    pure (json :: jsons)

/-- The JSON members of the entries. -/
def toJsonMembers : List (Value × Value) → Except WireFault (List (Points × Json))
  | [] => .ok []
  | (key, value) :: rest => do
    let name ← jsonName key
    let json ← toJson value
    let members ← toJsonMembers rest
    pure ((name, json) :: members)

end

mutual

/-- A value as it is displayed inside others. -/
def display : Value → List Char
  | .null => "None".toList
  | .bool true => "True".toList
  | .bool false => "False".toList
  | .int value => Json.intText value
  | .float number => FloatFormat.wire.write number
  | .str text => Text.Quoted.encode text
  | .bytes content => Text.Quoted.encodeBytes content
  | .raw text => Text.Quoted.encodeBytes (Text.encodeUtf8 text)
  | .tuple items =>
    match displayItems items with
    | [item] => '(' :: (item ++ [',', ')'])
    | items => '(' :: ([',', ' '].intercalate items ++ [')'])
  | value => '<' :: (value.typeName.toList ++ ['>'])

/-- The displayed items. -/
def displayItems : List Value → List (List Char)
  | [] => []
  | item :: rest => display item :: displayItems rest

end

/-- The text that a map key is read as. -/
def textKey : Value → Points
  | .str text => text
  | key => Text.points key.display

/-- A finite number without its fraction. -/
def truncate (number : Binary64) : Except WireFault Int :=
  match number with
  | .nan mark => .error (.invalidIntegerKey (String.ofList (FloatFormat.wire.write (.nan mark))))
  | .infinity _ => .error .infiniteInteger
  | .finite negative rank =>
    let whole := Binary64.units rank.val / Binary64.unitsPerOne
    .ok (if negative then -(whole : Int) else whole)

/-- The integer that a map key is read as. -/
def integerKey (key : Value) : Except WireFault Int :=
  let spelled (text : List Char) : Except WireFault Int :=
    match IntText.parse? text with
    | some value => .ok value
    | none => .error (.invalidIntegerKey (String.ofList key.display))
  match key with
  | .bool value => .ok (boolInt value)
  | .int value => .ok value
  | .float number => truncate number
  | .str text =>
    match Text.chars? text with
    | some chars => spelled chars
    | none => .error (.invalidIntegerKey (String.ofList key.display))
  | .bytes content =>
    if content.all (· < 0x80) then spelled (content.map fun byte => Char.ofNat byte.toNat)
    else .error (.invalidIntegerKey (String.ofList key.display))
  | .raw text =>
    if text.toList.all (·.toNat < 0x80) then spelled text.toList
    else .error (.invalidIntegerKey (String.ofList key.display))
  | _ => .error .wrongType

/-- Read a map key by a shape, of which outer pointers do not count. -/
def readKey (key : Value) (shape : Shape) : Except WireFault Value :=
  match shape.bare with
  | .named .str => .ok (.str key.textKey)
  | .named .int => do pure (.int (← key.integerKey))
  | bare => .error (.unsupportedKeyShape bare)

end Value

/-- Read a value that is there as an instance of a class of another module. -/
def ForeignClass.accept (cls : ForeignClass) (value : Value) : Except WireFault Value :=
  match cls.lineage, cls.fromWire? with
  | .noClass, _ => .error .wrongType
  | .object, _ => .ok value
  | .raw, _ => do
    cls.call (some (.bytes (Text.encodeUtf8 (String.ofList (Json.compact (← value.toJson))))))
  | _, some read => read value
  | .other isInstance, none =>
    if isInstance value then .ok value else .error (.cannotDecode value.typeName cls.name)
  | lineage, none =>
    match lineage, value with
    | .bool, .bool value => .ok (.bool value)
    | .int, .int value => cls.call (some (.int value))
    | .float, .int value => cls.call (some (.int value))
    | .float, .float number => cls.call (some (.float number))
    | .str, .str text => cls.call (some (.str text))
    | _, value => .error (.cannotDecode value.typeName cls.name)

namespace Value

/-- Read a value that is there, but is no map, as an instance of a class; a map is read so only if
the class is no struct. -/
def accept (codecs : Codecs) : Class → Value → Except WireFault Value
  | .object, value => .ok value
  | .raw, value => do pure (.raw (String.ofList (Json.compact (← value.toJson))))
  | .declared type, value => do
    codecs.checkMakes type
    let _ ← codecs.make type
    throw (.expectedObject value.typeName)
  | .foreign path, value => do (← codecs.foreign path).accept value
  | .bool, .bool value => .ok (.bool value)
  | .int, .int value => .ok (.int value)
  | .float, .float number => .ok (.float number)
  | .float, .int value =>
    match Binary64.ofInt? value with
    | some number => .ok (.float number)
    | none => .error .tooLarge
  | .str, .str text => .ok (.str text)
  | .bytes, .bytes content => .ok (.bytes content)
  | .bytes, .raw text => .ok (.raw text)
  | .list, .list items => .ok (.list items)
  | .dict, .map entries => .ok (.map entries)
  | cls, value => .error (.cannotDecode value.typeName cls.name)

end Value

/-- What is received under a name, unless nothing is there. -/
def received? (entries : List (Value × Reader)) (name : Points) : Option Reader :=
  match entries.lookup (.str name) with
  | some reader =>
    match reader.value with
    | .null => none
    | _ => some reader
  | none => none

/-- What an entry of a codec assigns to its field, if anything is received for it. -/
def Read.incoming (codecs : Codecs) (entries : List (Value × Reader)) (entry : Read) :
    Except WireFault (Option Value) :=
  match entry.reference, received? entries entry.wireName with
  | none, none => .ok none
  | none, some reader => do
    codecs.checkShape entry.shape
    pure (some (← reader.read entry.shape))
  | some reference, some reader => do
    codecs.checkShape entry.shape
    let value ← reader.read entry.shape
    let id ← codecs.idDefault reference.wrapper
    pure (some (.wrapper reference.wrapper id value))
  | some reference, none =>
    match received? entries reference.idName with
    | none => .ok none
    | some reader => do
      codecs.checkShape reference.idShape
      let id ← reader.read reference.idShape
      pure (some (.wrapper reference.wrapper id .null))

/-- Assign the entries of a codec in order, up to the first that cannot be read. -/
def Codecs.assign (codecs : Codecs) (entries : List (Value × Reader))
    (fields : List (String × Value)) : List Read → List (String × Value) × Option WireFault
  | [] => (fields, none)
  | entry :: rest =>
    match entry.incoming codecs entries with
    | .error fault => (fields, some fault)
    | .ok none => codecs.assign entries fields rest
    | .ok (some value) => codecs.assign entries (Table.put entry.field value fields) rest

/-- Assign the entries to a record; the fault says that the assignment is not complete. -/
def Codecs.assignRecord (codecs : Codecs) (entries : List (Value × Reader)) :
    Value → Value × Option WireFault
  | .record type fields =>
    match codecs.find? type with
    | some codec =>
      let assigned := codecs.assign entries fields codec.reads
      (.record type assigned.1, assigned.2)
    | none => (.record type fields, some (.unknownName type))
  | value => (value, some (.noAttribute "_assign"))

/-- Make a struct of the entries of a map. -/
def Codecs.fromEntries (codecs : Codecs) (type : String) (entries : List (Value × Reader)) :
    Except WireFault Value := do
  codecs.checkMakes type
  let fresh ← codecs.make type
  match codecs.assignRecord entries fresh with
  | (value, none) => pure value
  | (_, some fault) => throw fault

/-- Read a map entry, its key before its value. Of keys that are read as one the first decides the
place and the last the value. -/
def readEntry (key value : Shape) (before : List (Value × Value)) (entry : Value × Reader) :
    Except WireFault (List (Value × Value)) := do
  let name ← entry.1.readKey key
  let item ← entry.2.read value
  pure (Table.put name item before)

namespace Value

mutual

/-- Read a value by a shape. -/
def decode (codecs : Codecs) (value : Value) (shape : Shape) : Except WireFault Value :=
  match value with
  | .null =>
    match shape with
    | .pointer _ => .ok .null
    | .slice _ => .ok (.list [])
    | .map _ _ => .ok (.map [])
    | .named cls => codecs.ofNothing cls
  | .list items =>
    match shape.bare with
    | .slice elem => do pure (.list (← decodeItems codecs items elem))
    | .map _ _ => .error (.expectedObject "list")
    | .named cls => accept codecs cls (.list items)
    | .pointer _ => .ok .null
  | .map entries =>
    match shape.bare with
    | .slice _ => .error (.expectedArray "dict")
    | .map key elem => do
      let read ← (readers codecs entries).foldlM (readEntry key elem) []
      pure (.map read)
    | .named (.declared type) => codecs.fromEntries type (readers codecs entries)
    | .named cls => accept codecs cls (.map entries)
    | .pointer _ => .ok .null
  | value =>
    match shape.bare with
    | .slice _ => .error (.expectedArray value.typeName)
    | .map _ _ => .error (.expectedObject value.typeName)
    | .named cls => accept codecs cls value
    | .pointer _ => .ok .null

/-- Read items one after another. -/
def decodeItems (codecs : Codecs) (items : List Value) (shape : Shape) :
    Except WireFault (List Value) :=
  match items with
  | [] => .ok []
  | item :: rest => do
    let value ← decode codecs item shape
    let values ← decodeItems codecs rest shape
    pure (value :: values)

/-- The values of map entries, ready to be read. -/
def readers (codecs : Codecs) (entries : List (Value × Value)) : List (Value × Reader) :=
  match entries with
  | [] => []
  | (key, value) :: rest => (key, ⟨value, decode codecs value⟩) :: readers codecs rest

end

/-- The entries of a value that is a map. -/
def expectObject : Value → Except WireFault (List (Value × Value))
  | .map entries => .ok entries
  | value => .error (.expectedObject value.typeName)

end Value

/-- Where a JSON text comes from: code points, or bytes that hold them. -/
inductive Source
  | text (content : Points)
  | bytes (content : List UInt8)

/-- The value that a source holds. -/
def Source.load : Source → Except WireFault Value
  | .text content =>
    match Json.parse content with
    | .ok json => .ok json.toValue
    | .error fault => .error (.malformed fault)
  | .bytes content =>
    match Text.decodeBytes content with
    | none => .error .undecodable
    | some points =>
      match Json.parsePoints points with
      | .ok json => .ok json.toValue
      | .error fault => .error (.malformed fault)

/-- The map that a source holds. -/
def Source.loadObject (source : Source) : Except WireFault (List (Value × Value)) := do
  (← source.load).expectObject

end DeclCodec
