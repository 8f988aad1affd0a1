import DeclCodec.Policy
import DeclCodec.Settings
import DeclCodec.Table

/-!
# Packages

A package is what the units of one package declare together: its types in the
order of the units' names, what each alias stands for, the members of each
struct with their policies, and the types that wrappers are needed for. All
tables keep the order in which they were filled.

Types of other packages are not declared here. They are imported, except the raw
JSON text, which the runtime of the emitted modules provides.
-/

namespace DeclCodec

/-- The builtin kinds of values. -/
inductive Primitive
  | any
  | bool
  | int
  | float
  | text
deriving DecidableEq, Repr

/-- The builtin type names. -/
def builtinTypes : List (String × Primitive) :=
  [("any", .any), ("bool", .bool), ("byte", .int), ("float32", .float), ("float64", .float),
    ("int", .int), ("int8", .int), ("int16", .int), ("int32", .int), ("int64", .int),
    ("rune", .int), ("string", .text), ("uint", .int), ("uint8", .int), ("uint16", .int),
    ("uint32", .int), ("uint64", .int), ("uintptr", .int)]

/-- The kind of values a builtin type name stands for. -/
def Primitive.ofName? (name : String) : Option Primitive := builtinTypes.lookup name

/-- Is the name a builtin type name? -/
def isBuiltin (name : String) : Bool := (Primitive.ofName? name).isSome

/-- The package and name of raw JSON text. -/
def isRawMessage (package name : String) : Bool := package == "json" && name == "RawMessage"

/-- One field name of a struct. An unexported one has no policy and never goes on the wire. -/
structure Member where
  name : String
  type : Descriptor
  policy : Option Policy
deriving DecidableEq, Repr

/-- Does the member go on the wire? -/
def Member.isWired (member : Member) : Bool :=
  match member.policy with
  | some policy => policy.isWired
  | none => false

/-- Is the member a reference on the wire? -/
def Member.isReference (member : Member) : Bool :=
  match member.policy with
  | some policy => policy.isReference
  | none => false

/-- What the units of a package declare. `referenced` holds, under its base name, each type that
a wrapper is needed for, and `imported` the packages of other types, in the order in which they were
met. -/
structure Package where
  name : String
  settings : Settings
  units : List String
  types : List (String × Decl)
  aliases : List (String × Descriptor)
  structs : List (String × List Member)
  referenced : List (String × Descriptor)
  imported : List String
deriving DecidableEq

namespace Package

/-- A package of which nothing is known. -/
def empty (name : String) (settings : Settings) : Package :=
  ⟨name, settings, [], [], [], [], [], []⟩

/-- The name of the wrapper of a type. -/
def wrapperName (package : Package) (type : Descriptor) : String :=
  type.base ++ package.settings.refSuffix

/-- What a name at the core of a type stands for, if it is an alias of this package. -/
def aliasTarget? (package : Package) (path name : String) : Option Descriptor :=
  if path = "" then
    match package.types.lookup name with
    | some (.alias _ _ _) => package.aliases.lookup name
    | _ => none
  else none

end Package

namespace Descriptor

/-- The packages of other types that a type mentions, keys included. -/
def foreignPackages : Descriptor → List String
  | .named package name => if package = "" || isRawMessage package name then [] else [package]
  | .pointer elem => elem.foreignPackages
  | .slice elem => elem.foreignPackages
  | .map key value => key.foreignPackages ++ value.foreignPackages

/-- The unqualified names that a type mentions, keys before the core. -/
def localNames : Descriptor → List String
  | .named package name => if package = "" then [name] else []
  | .pointer elem => elem.localNames
  | .slice elem => elem.localNames
  | .map key value => key.localNames ++ value.localNames

end Descriptor

end DeclCodec
