import DeclCodec.Package.Basic

/-!
# Annotations

An annotation names a type in an emitted module. A declared alias is named as it
is, or, where an alias itself is being defined, replaced by what it stands for.
A builtin name always means the builtin type, even if a declaration bears it.

Each replacement of an alias takes one of the steps left. In a collected package
no alias mentions itself, so that as many steps as there are aliases are enough.
-/

namespace DeclCodec

/-- The name of a type in an emitted module. -/
inductive Annotation
  | any
  | bool
  | int
  | float
  | str
  | rawMessage
  | declared (name : String)
  /-- A type of another module. -/
  | foreign (path : String)
  /-- A type whose value may be absent. -/
  | optional (type : Annotation)
  | list (item : Annotation)
  | dict (key value : Annotation)
deriving DecidableEq, Repr

namespace Annotation

/-- The text of an annotation. -/
def text : Annotation → String
  | .any => "Any"
  | .bool => "bool"
  | .int => "int"
  | .float => "float"
  | .str => "str"
  | .rawMessage => "_wire.RawMessage"
  | .declared name => name
  | .foreign path => path
  | .optional type => type.text ++ " | None"
  | .list item => "list[" ++ item.text ++ "]"
  | .dict key value => "dict[" ++ key.text ++ ", " ++ value.text ++ "]"

/-- May the value be absent? -/
def isOptional : Annotation → Bool
  | .optional _ => true
  | _ => false

/-- The type whose value may be absent; that twice is that once. -/
def orNone (type : Annotation) : Annotation := if type.isOptional then type else .optional type

/-- After `orNone` the value may be absent. -/
theorem isOptional_orNone (type : Annotation) : type.orNone.isOptional = true := by
  unfold orNone
  split
  · assumption
  · rfl

/-- The annotation of a builtin kind. -/
def ofPrimitive : Primitive → Annotation
  | .any => .any
  | .bool => .bool
  | .int => .int
  | .float => .float
  | .text => .str

end Annotation

namespace Package

/-- The annotation of a name at the core of a type. `onAlias` is what becomes of an alias, if
aliases are replaced. -/
def annotateName (package : Package) (onAlias : Option (Descriptor → Except Fault Annotation))
    (path name : String) : Except Fault Annotation :=
  if path ≠ "" then
    .ok (if isRawMessage path name then .rawMessage else .foreign (Descriptor.qualify path name))
  else
    match Primitive.ofName? name with
    | some primitive => .ok (.ofPrimitive primitive)
    | none =>
      if (package.types.lookup name).isNone then .error (.unknownType name)
      else
        match onAlias, package.aliasTarget? path name with
        | some replace, some target => replace target
        | _, _ => .ok (.declared name)

/-- The annotation of a type. -/
def annotateWith (package : Package) (onAlias : Option (Descriptor → Except Fault Annotation)) :
    Descriptor → Except Fault Annotation
  | .named path name => package.annotateName onAlias path name
  | .pointer elem => do pure (← package.annotateWith onAlias elem).orNone
  | .slice elem => do pure (.list (← package.annotateWith onAlias elem))
  | .map key value => do
    let value ← package.annotateWith onAlias value
    let key ← package.annotateWith onAlias key
    pure (.dict key value)

/-- The annotation of a type, aliases named as they are. -/
def annotation (package : Package) (type : Descriptor) : Except Fault Annotation :=
  package.annotateWith none type

/-- The annotation of a type, aliases replaced within a number of steps. -/
def expandWithin (package : Package) : Nat → Descriptor → Except Fault Annotation
  | 0, type => package.annotateWith (some fun target => .error (.endlessAlias target.typeName)) type
  | steps + 1, type => package.annotateWith (some (package.expandWithin steps)) type

/-- The annotation of a type, aliases replaced. -/
def expandedAnnotation (package : Package) (type : Descriptor) : Except Fault Annotation :=
  package.expandWithin package.aliases.length type

end Package

end DeclCodec
