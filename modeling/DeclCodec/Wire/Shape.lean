import DeclCodec.Text.Quoted

/-!
# Shapes and codecs

A shape says how a value is to be read from the wire: as an instance of a class,
optionally, as a list of one shape, or as a map from keys of one shape to values
of another.

A codec is what an emitted class knows about its struct: the default of every
field, the entries it writes and the entries it reads, and whether the class can
be made from a map at all.
-/

namespace DeclCodec

/-- The classes at the core of shapes. -/
inductive Class
  | bool
  | int
  | float
  | str
  | object
  | raw
  | bytes
  | list
  | dict
  /-- A declared struct. -/
  | declared (name : String)
  /-- A class of another module. -/
  | foreign (path : String)
deriving DecidableEq, Repr

/-- How a value is read from the wire. -/
inductive Shape
  | named (cls : Class)
  | pointer (elem : Shape)
  | slice (elem : Shape)
  | map (key value : Shape)
deriving DecidableEq, Repr

/-- A shape without its outer pointers. -/
def Shape.bare : Shape → Shape
  | .pointer elem => elem.bare
  | shape => shape

/-- What a field holds before anything is assigned to it. -/
inductive Default
  | null
  | no
  | zero
  | zeroFloat
  | emptyText
  | emptyList
  | emptyMap
  /-- A new instance of a struct. -/
  | fresh (name : String)
deriving DecidableEq, Repr

/-- When a field is written, and which part of it. -/
inductive Part
  /-- The field itself. -/
  | always
  /-- The field itself, unless it is empty. -/
  | unlessEmpty
  /-- The identifier of a wrapper that has one. -/
  | wrapperId
  /-- The value of a wrapper that has one. -/
  | wrapperValue
deriving DecidableEq, Repr

/-- An entry that a codec writes. -/
structure Write where
  field : String
  key : Points
  part : Part
deriving DecidableEq, Repr

/-- How a reference is read: its wrapper, the name of its identifier and the identifier's shape. -/
structure ReferenceRead where
  wrapper : String
  idName : Points
  idShape : Shape
deriving DecidableEq, Repr

/-- An entry that a codec reads. -/
structure Read where
  field : String
  wireName : Points
  shape : Shape
  reference : Option ReferenceRead
deriving DecidableEq, Repr

/-- What an emitted class knows about its struct. -/
structure Codec where
  type : String
  fields : List (String × Default)
  writes : List Write
  reads : List Read
  fromMaps : Bool
deriving DecidableEq, Repr

/-- The name of a class in messages. -/
def Class.name : Class → String
  | .bool => "bool"
  | .int => "int"
  | .float => "float"
  | .str => "str"
  | .object => "object"
  | .raw => "RawMessage"
  | .bytes => "bytes"
  | .list => "list"
  | .dict => "dict"
  | .declared name => name
  | .foreign path => path

/-- The name of a class with its module, as far as it has one. -/
def Class.path : Class → String
  | .raw => "refgen.wire.serialization.RawMessage"
  | cls => cls.name

/-- A shape in messages. -/
def Shape.text : Shape → String
  | .named cls => "Named(type=<class " ++ Text.Quoted.literal cls.path ++ ">)"
  | .pointer elem => "Pointer(elem=" ++ elem.text ++ ")"
  | .slice elem => "Slice(elem=" ++ elem.text ++ ")"
  | .map key value => "Map(key=" ++ key.text ++ ", value=" ++ value.text ++ ")"

end DeclCodec
