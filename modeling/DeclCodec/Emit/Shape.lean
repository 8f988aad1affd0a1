import DeclCodec.Emit.Annotation
import DeclCodec.Wire.Shape

/-!
# Shapes of types

The shape of a type has its layers, with every alias replaced by the shape of
what it stands for. A map key has to be an integer or a text. The layers that a
key's written form puts around an alias do not count: only what the alias stands
for is looked at.
-/

namespace DeclCodec

/-- The text of a class in an emitted module. -/
def Class.text : Class → String
  | .raw => "_wire.RawMessage"
  | .foreign path => path
  | cls => cls.name

/-- The expression that builds a shape in an emitted module. -/
def Shape.source : Shape → String
  | .named cls => "_wire.Named(" ++ cls.text ++ ")"
  | .pointer elem => "_wire.Pointer(" ++ elem.source ++ ")"
  | .slice elem => "_wire.Slice(" ++ elem.source ++ ")"
  | .map key value => "_wire.Map(" ++ key.source ++ ", " ++ value.source ++ ")"

/-- The class of a builtin kind. -/
def Class.ofPrimitive : Primitive → Class
  | .any => .object
  | .bool => .bool
  | .int => .int
  | .float => .float
  | .text => .str

namespace Package

/-- The class of a name that is no alias. -/
def classOf (package : Package) (path name : String) : Except Fault Class :=
  if path ≠ "" then
    .ok (if isRawMessage path name then .raw else .foreign (Descriptor.qualify path name))
  else
    match Primitive.ofName? name with
    | some primitive => .ok (.ofPrimitive primitive)
    | none =>
      if (package.types.lookup name).isNone then .error (.unknownType name)
      else .ok (.declared name)

/-- The shape of a map key that is no alias. -/
def plainKeyShape (key : Descriptor) : Except Fault Shape :=
  match key with
  | .named "" name =>
    match Primitive.ofName? name with
    | some .int => .ok (.named .int)
    | some .text => .ok (.named .str)
    | _ => .error (.unsupportedKey key.written)
  | _ => .error (.unsupportedKey key.written)

/-- The shape of a map key, aliases followed within a number of steps. -/
def keyShapeWithin (package : Package) : Nat → Descriptor → Except Fault Shape
  | 0, key =>
    match package.aliasTarget? key.package key.typeName with
    | some target => .error (.endlessAlias target.typeName)
    | none => plainKeyShape key
  | steps + 1, key =>
    match package.aliasTarget? key.package key.typeName with
    | some target => package.keyShapeWithin steps target
    | none => plainKeyShape key

/-- The shape of a map key. -/
def keyShape (package : Package) (key : Descriptor) : Except Fault Shape :=
  package.keyShapeWithin package.aliases.length key

/-- The shape of a type, given what becomes of an alias. -/
def shapeWith (package : Package) (onAlias : Descriptor → Except Fault Shape) :
    Descriptor → Except Fault Shape
  | .named path name =>
    match package.aliasTarget? path name with
    | some target => onAlias target
    | none => do pure (.named (← package.classOf path name))
  | .pointer elem => do pure (.pointer (← package.shapeWith onAlias elem))
  | .slice elem => do pure (.slice (← package.shapeWith onAlias elem))
  | .map key value => do
    let value ← package.shapeWith onAlias value
    let key ← package.keyShape key
    pure (.map key value)

/-- The shape of a type, aliases replaced within a number of steps. -/
def shapeWithin (package : Package) : Nat → Descriptor → Except Fault Shape
  | 0, type => package.shapeWith (fun target => .error (.endlessAlias target.typeName)) type
  | steps + 1, type => package.shapeWith (package.shapeWithin steps) type

/-- The shape of a type. -/
def shape (package : Package) (type : Descriptor) : Except Fault Shape :=
  package.shapeWithin package.aliases.length type

end Package

end DeclCodec
