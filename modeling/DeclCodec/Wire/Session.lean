import DeclCodec.Wire.Decode
import DeclCodec.Wire.Encode

/-!
# Sessions

A session works with the classes of a loaded module. It keeps values in named
variables; an action makes the value of a variable, changes it or asks for
something about it. An action that fails leaves its variable as it was, except
that reading a map into a struct keeps the fields that were read before the one
that failed.
-/

namespace DeclCodec

namespace Codecs

/-- A field of a new struct, given the values of some fields. Only the others get their defaults. -/
def constructField (codecs : Codecs) (given : List (String × Value)) (name : String)
    (default : Default) : Except WireFault (String × Value) :=
  match given.lookup name with
  | some value => .ok (name, value)
  | none => freshField codecs.make name default

/-- A new wrapper; the identifier is its default and the value absent unless given. -/
def constructWrapper (codecs : Codecs) (type : String) (id? value? : Option Value) :
    Except WireFault Value := do
  let id ← match id? with
    | some id => pure id
    | none => codecs.idDefault type
  pure (.wrapper type id (value?.getD .null))

/-- A new instance of a class, given the values of some of its fields. -/
def construct (codecs : Codecs) (type : String) (given : List (String × Value)) :
    Except WireFault Value := do
  let allows (names : List String) : Except WireFault Unit :=
    if given.all fun entry => names.contains entry.1 then .ok () else .error .wrongType
  match codecs.find? type with
  | some codec =>
    allows (codec.fields.map (·.1))
    let fields ← codec.fields.mapM fun field => codecs.constructField given field.1 field.2
    pure (.record type fields)
  | none =>
    if (codecs.wrappers.lookup type).isNone then throw (.unknownName type)
    allows ["Id", "Value"]
    codecs.constructWrapper type (given.lookup "Id") (given.lookup "Value")

/-- Make a struct of a value, which has to be a map. -/
def fromWire (codecs : Codecs) (type : String) (value : Value) : Except WireFault Value := do
  match value with
  | .map entries => codecs.fromEntries type (Value.readers codecs entries)
  | other => Value.accept codecs (.declared type) other

end Codecs

namespace Value

/-- Write a field of a struct or a side of a wrapper. Another name changes nothing that shows. -/
def setAttribute (name : String) (value : Value) : Value → Value
  | .record type fields =>
    .record type (if (fields.lookup name).isSome then Table.put name value fields else fields)
  | .wrapper type id held =>
    if name = "Id" then .wrapper type value held
    else if name = "Value" then .wrapper type id value
    else .wrapper type id held
  | other => other

/-- The value of a field or of a side of a wrapper, which must be there. -/
def held (name : String) (value : Value) : Except WireFault Value :=
  match value.attribute? name with
  | some part => .ok part
  | none => .error (.noAttribute name)

end Value

/-- What is done with a variable. -/
inductive Action
  | construct (type : String) (given : List (String × Value))
  | fromWire (type : String) (value : Value)
  | assign (field : String) (value : Value)
  | unmarshal (source : Source)
  | marshal
  | isEmpty (field : String)
  | encode (field : String)
  | hasValue (field : String)
  | equals (other : String)

/-- What an action answers, if it answers anything. -/
inductive Answer
  | none
  | text (content : String)
  | truth (value : Bool)
deriving DecidableEq, Repr

/-- The variables of a session with their values. -/
abbrev Variables := List (String × Value)

/-- The value of a variable. -/
def Variables.read (bound : Variables) (name : String) : Except WireFault Value :=
  match bound.lookup name with
  | some value => .ok value
  | none => .error (.unknownName name)

/-- Read a source into the value of a variable. The fault, if there is one, says that the value is
not read completely. -/
def Codecs.unmarshal (codecs : Codecs) (source : Source) (value : Value) :
    Value × Option WireFault :=
  match value with
  | .record type fields =>
    match source.loadObject with
    | .error fault => (.record type fields, some fault)
    | .ok entries => codecs.assignRecord (Value.readers codecs entries) (.record type fields)
  | other => (other, some (.noAttribute "unmarshal"))

/-- The text of a struct. -/
def Codecs.marshal (codecs : Codecs) (value : Value) : Except WireFault String :=
  match value with
  | .record _ _ => do pure (String.ofList (← value.encode codecs))
  | _ => .error (.noAttribute "marshal")

/-- The answer of an action that changes nothing. -/
def Codecs.answer (codecs : Codecs) (bound : Variables) (name : String) :
    Action → Except WireFault Answer
  | .marshal => do
    let value ← bound.read name
    pure (.text (← codecs.marshal value))
  | .isEmpty field => do
    let value ← bound.read name
    let part ← value.held field
    pure (.truth part.isEmpty)
  | .encode field => do
    let value ← bound.read name
    let part ← value.held field
    pure (.text (String.ofList (← part.encode codecs)))
  | .hasValue field => do
    let value ← bound.read name
    let part ← value.held field
    pure (.truth (← part.hasValue))
  | .equals other => do
    let value ← bound.read name
    let otherValue ← bound.read other
    pure (.truth (name == other || value == otherValue))
  | _ => .ok .none

/-- Do an action with a variable. -/
def Codecs.act (codecs : Codecs) (bound : Variables) (name : String) (action : Action) :
    Variables × Except WireFault Answer :=
  let bind (made : Except WireFault Value) : Variables × Except WireFault Answer :=
    match made with
    | .ok value => (Table.put name value bound, .ok .none)
    | .error fault => (bound, .error fault)
  match action with
  | .construct type given => bind (codecs.construct type given)
  | .fromWire type value => bind (codecs.fromWire type value)
  | .assign field value => bind ((Value.setAttribute field value) <$> bound.read name)
  | .unmarshal source =>
    match bound.read name with
    | .error fault => (bound, .error fault)
    | .ok value =>
      match codecs.unmarshal source value with
      | (value, none) => (Table.put name value bound, .ok .none)
      | (value, some fault) => (Table.put name value bound, .error fault)
  | asking => (bound, codecs.answer bound name asking)

end DeclCodec
