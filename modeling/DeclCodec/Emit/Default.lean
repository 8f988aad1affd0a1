import DeclCodec.Emit.Annotation
import DeclCodec.Wire.Shape

/-!
# Defaults

The default of a field is the value that stands for nothing: an empty list or
map, a false, zero or empty builtin value, a new struct, and otherwise nothing at
all. An alias has the default of what it stands for.
-/

namespace DeclCodec

/-- The text of a default. -/
def Default.text : Default → String
  | .null => "None"
  | .no => "False"
  | .zero => "0"
  | .zeroFloat => "0.0"
  | .emptyText => "\"\""
  | .emptyList => "field(default_factory=list)"
  | .emptyMap => "field(default_factory=dict)"
  | .fresh name => "field(default_factory=lambda: " ++ name ++ "())"

/-- The default of a builtin kind. -/
def Default.ofPrimitive : Primitive → Default
  | .any => .null
  | .bool => .no
  | .int => .zero
  | .float => .zeroFloat
  | .text => .emptyText

namespace Package

/-- The default of a type, aliases followed within a number of steps. -/
def defaultWithin (package : Package) : Nat → Descriptor → Default
  | _, .slice _ => .emptyList
  | _, .map _ _ => .emptyMap
  | _, .pointer _ => .null
  | steps, .named path name =>
    if path ≠ "" then .null
    else
      match Primitive.ofName? name with
      | some primitive => .ofPrimitive primitive
      | none =>
        match steps, package.aliasTarget? path name with
        | steps + 1, some target => package.defaultWithin steps target
        | _, _ => .fresh name

/-- The default of a type. -/
def defaultOf (package : Package) (type : Descriptor) : Default :=
  package.defaultWithin package.aliases.length type

/-- The annotation of a field: its value may be absent if its default is. -/
def fieldAnnotation (package : Package) (type : Descriptor) : Except Fault Annotation := do
  let annotation ← package.annotation type
  if package.defaultOf type = .null ∧ annotation ≠ .any then pure annotation.orNone
  else pure annotation

end Package

end DeclCodec
