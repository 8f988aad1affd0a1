import DeclCodec.Text.CodePoint

/-!
# Type expressions and declarations

A type expression names a type, perhaps qualified by a package path, and builds
on it with pointers, slices, arrays of a fixed length, and maps. Arrays can be
written but not described further; they exist here so that they can be refused
with their length.

A unit is one file of declarations: structs with their field lines, and aliases.
-/

namespace DeclCodec

/-- The written form of a type. A plain name has an empty package path. -/
inductive TypeExpr
  | named (package : List String) (name : String)
  | pointer (elem : TypeExpr)
  | slice (elem : TypeExpr)
  | array (length : Nat) (elem : TypeExpr)
  | map (key value : TypeExpr)
deriving DecidableEq, Repr

/-- One line of a struct: names that share a type and a tag. The text of a tag may hold surrogates,
which a quoted tag writes as escapes. -/
structure Field where
  names : List String
  type : TypeExpr
  tag : Option Points
deriving DecidableEq, Repr

/-- A declared type, with the unit that declares it. -/
inductive Decl
  | struct (name : String) (fields : List Field) (unit : String)
  | alias (name : String) (type : TypeExpr) (unit : String)
deriving DecidableEq, Repr

/-- The declared name. -/
def Decl.name : Decl → String
  | .struct name _ _ => name
  | .alias name _ _ => name

/-- The declaring unit. -/
def Decl.unit : Decl → String
  | .struct _ _ unit => unit
  | .alias _ _ unit => unit

/-- One file of declarations. -/
structure DeclUnit where
  name : String
  package : String
  decls : List Decl
deriving DecidableEq, Repr

end DeclCodec
