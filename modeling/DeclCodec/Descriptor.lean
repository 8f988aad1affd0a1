import DeclCodec.Decl.Reader
import DeclCodec.Text.LetterCase

/-!
# Type descriptors

A descriptor is a type expression without fixed-length arrays. From it a type
gets two names: its written form, which is the type expression again, and its
base name, an identifier that spells out the slice and map layers (`[]*Msg` is
`ArrayOfPtrToMsg`). Pointers outside every slice and map are left out of the
base name, so that a type and a pointer to it share one.

The layers of a descriptor are those of its value side, outside in; the keys of
maps are descriptors of their own. A descriptor is determined by its layers and
the name at its core.
-/

namespace DeclCodec

/-- A type without fixed-length arrays. The package path is written with points. -/
inductive Descriptor
  | named (package name : String)
  | pointer (elem : Descriptor)
  | slice (elem : Descriptor)
  | map (key value : Descriptor)
deriving DecidableEq, Repr

/-- One layer around the core of a type. -/
inductive Layer
  | pointer
  | slice
  | map (key : Descriptor)
deriving DecidableEq, Repr

/-- Describe a type expression; a fixed-length array is refused. The outermost array is named, and
of a key and a value the key's. -/
def TypeExpr.describe : TypeExpr → Except Fault Descriptor
  | .named package name => .ok (.named (".".intercalate package) name)
  | .pointer elem => do pure (.pointer (← elem.describe))
  | .slice elem => do pure (.slice (← elem.describe))
  | .array length _ => .error (.fixedArray length)
  | .map key value => do
    let key ← key.describe
    let value ← value.describe
    pure (.map key value)

namespace Descriptor

/-- Read and describe a type expression. -/
def parse (text : String) : Except Fault Descriptor := do (← TypeExpr.parse text).describe

/-- The layers, outside in. -/
def layers : Descriptor → List Layer
  | .named _ _ => []
  | .pointer elem => .pointer :: elem.layers
  | .slice elem => .slice :: elem.layers
  | .map key value => .map key :: value.layers

/-- The package path of the type at the core. -/
def package : Descriptor → String
  | .named package _ => package
  | .pointer elem => elem.package
  | .slice elem => elem.package
  | .map _ value => value.package

/-- The name of the type at the core. -/
def typeName : Descriptor → String
  | .named _ name => name
  | .pointer elem => elem.typeName
  | .slice elem => elem.typeName
  | .map _ value => value.typeName

/-- The type with these layers around a core. -/
def ofLayers (layers : List Layer) (package name : String) : Descriptor :=
  match layers with
  | [] => .named package name
  | .pointer :: rest => .pointer (ofLayers rest package name)
  | .slice :: rest => .slice (ofLayers rest package name)
  | .map key :: rest => .map key (ofLayers rest package name)

/-- A descriptor is its layers around its core. -/
theorem ofLayers_layers (type : Descriptor) :
    ofLayers type.layers type.package type.typeName = type := by
  induction type with
  | named => rfl
  | pointer elem inductionHypothesis =>
    simp [layers, package, typeName, ofLayers, inductionHypothesis]
  | slice elem inductionHypothesis =>
    simp [layers, package, typeName, ofLayers, inductionHypothesis]
  | map key value _ inductionHypothesis =>
    simp [layers, package, typeName, ofLayers, inductionHypothesis]

/-- A name with its package path in front. -/
def qualify (package name : String) : String :=
  if package = "" then name else package ++ "." ++ name

/-- The name at the core with its package path. -/
def qualified (type : Descriptor) : String := qualify type.package type.typeName

/-- The type expression that the descriptor describes. -/
def written : Descriptor → String
  | .named package name => qualify package name
  | .pointer elem => "*" ++ elem.written
  | .slice elem => "[]" ++ elem.written
  | .map key value => "map[" ++ key.written ++ "]" ++ value.written

/-- Upper-case the first letter of a name. -/
def capitalize (name : String) : String := String.ofList (Text.capitalize name.toList)

/-- The base name, of a whole type or of a part inside a slice or map. -/
def baseName (inside : Bool) : Descriptor → String
  | .named _ name => if inside then capitalize name else name
  | .pointer elem => (if inside then "PtrTo" else "") ++ baseName inside elem
  | .slice elem => "ArrayOf" ++ baseName true elem
  | .map key value => "MapOf" ++ capitalize (baseName false key) ++ "To" ++ baseName true value

/-- The base name of a type. -/
def base (type : Descriptor) : String := baseName false type

/-- A pointer does not change the base name. -/
theorem base_pointer (elem : Descriptor) : base (.pointer elem) = base elem := by
  simp [base, baseName]

/-- The number of pointer layers. -/
def indirects : Descriptor → Nat
  | .named _ _ => 0
  | .pointer elem => elem.indirects + 1
  | .slice elem => elem.indirects
  | .map _ value => value.indirects

/-- The number of slice layers. -/
def dims : Descriptor → Nat
  | .named _ _ => 0
  | .pointer elem => elem.dims
  | .slice elem => elem.dims + 1
  | .map _ value => value.dims

/-- The key of the outermost map layer. -/
def key? : Descriptor → Option Descriptor
  | .named _ _ => none
  | .pointer elem => elem.key?
  | .slice elem => elem.key?
  | .map key _ => some key

/-- Can a value of the type be absent? It can unless the type is a bare name. -/
def nullable : Descriptor → Bool
  | .named _ _ => false
  | _ => true

/-- A type can be absent exactly when it has a layer. -/
theorem nullable_iff (type : Descriptor) :
    type.nullable = true ↔ 0 < type.indirects ∨ 0 < type.dims ∨ type.key?.isSome = true := by
  induction type with
  | named => simp [nullable, indirects, dims, key?]
  | pointer elem => simp [nullable, indirects]
  | slice elem => simp [nullable, dims]
  | map key value => simp [nullable, key?]

/-- Is the name visible outside of its package? -/
def isExportedName (name : String) : Bool := Text.isCapitalized name.toList

/-- Is the type at the core visible outside of its package? -/
def exported (type : Descriptor) : Bool := isExportedName type.typeName

/-- A pointer to the type, any number of times. -/
def indirect (type : Descriptor) : Nat → Descriptor
  | 0 => type
  | times + 1 => .pointer (type.indirect times)

end Descriptor

end DeclCodec
