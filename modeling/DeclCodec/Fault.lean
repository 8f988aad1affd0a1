import DeclCodec.Json.Fault
import DeclCodec.Text.Quoted

/-!
# What can be wrong with declarations

A fault is the cause for which declarations are refused. A fault found while a
declaration is resolved is reported with the unit and the name of that
declaration in front, except that a broken tag text is reported as it is.

Most faults are faults of the declarations themselves, and `Fault.isGeneration`
tells them apart from the two that come out of the JSON reader when a tag's text
cannot be read.
-/

namespace DeclCodec

/-- What a name is declared for. -/
inductive NameUse
  | type
  | field
deriving DecidableEq, Repr

/-- The word for a use. -/
def NameUse.text : NameUse → String
  | .type => "Type"
  | .field => "Field"

/-- Why declarations are refused. -/
inductive Fault
  /-- A unit's text is no sequence of declarations from this position on. -/
  | invalidDeclaration (unit : String) (position : Text.Position)
  /-- The inside of a quoted tag is no JSON string. -/
  | invalidTagLiteral (cause : Json.Fault)
  /-- A text is no type expression. -/
  | invalidTypeExpr (text : String)
  /-- An array of a fixed length. -/
  | fixedArray (length : Nat)
  /-- A name that the emitted module needs itself. -/
  | reservedName (use : NameUse) (name : String)
  /-- A field named like a method of its class. -/
  | methodName (name : String)
  | duplicateField (name : String)
  /-- Types that contain one another without end. -/
  | recursiveType (names : List String)
  /-- A map key that is neither an integer nor a text. -/
  | unsupportedKey (written : String)
  /-- A reference to a type that is not exported. -/
  | unexportedReference (field written : String)
  /-- One tag that would name several fields. -/
  | ambiguousTag (names : List String)
  | unknownType (name : String)
  /-- A reference tag without a name for the identifier. -/
  | missingIdentifierName (field : String)
  /-- A reference tag with several variants. -/
  | severalVariants (field : String) (tag : Points)
  | unknownVariant (field : String) (variant : Points)
  /-- The value in a tag is no JSON string. -/
  | invalidTagValue (cause : Json.Fault)
  | redeclared (unit name previousUnit : String)
  /-- One wrapper name for two types. -/
  | sharedWrapper (base first second : String)
  /-- A wrapper named like a declared type. -/
  | wrapperCollision (name : String)
  | missingPackage (unit : String)
  /-- An alias that never comes to an end; cyclic aliases are refused before. -/
  | endlessAlias (name : String)
  /-- A fault met while a declaration was resolved. -/
  | inDeclaration (unit name : String) (fault : Fault)
deriving DecidableEq

namespace Fault

/-- The words of a fault, as they are printed. -/
def message : Fault → String
  | .invalidDeclaration unit position =>
    unit ++ ":" ++ toString position.line ++ ":" ++ toString position.column ++
      ": invalid declaration"
  | .invalidTagLiteral cause =>
    "Error trying to process rule \"quoted_tag\":\n\n" ++ cause.message
  | .invalidTypeExpr text => "invalid type expression: " ++ Text.Quoted.literal text
  | .fixedArray length =>
    "only dynamic slices are supported, not [" ++ toString length ++ "]"
  | .reservedName use name => use.text ++ " name " ++ name ++ " is reserved"
  | .methodName name => "Field name " ++ name ++ " collides with a generated method"
  | .duplicateField name => "Duplicate field " ++ name
  | .recursiveType names => "Invalid recursive type: " ++ " -> ".intercalate names
  | .unsupportedKey written => "Unsupported map key type: " ++ written
  | .unexportedReference field written =>
    "Type of reference field " ++ field ++ " must be exported: " ++ written
  | .ambiguousTag names =>
    "Field list " ++ ", ".intercalate names ++ " has " ++ toString names.length ++
      " identifiers for one tag"
  | .unknownType name => "No type found for: " ++ name
  | .missingIdentifierName field =>
    "Reference tag of field " ++ field ++ " has no identifier name"
  | .severalVariants field tag =>
    "Reference tag of field " ++ field ++ " has more than one variant: " ++ Text.shown tag
  | .unknownVariant field variant =>
    "Invalid marshaling option for field " ++ field ++ ": " ++ Text.shown variant
  | .invalidTagValue cause => cause.message
  | .redeclared unit name previousUnit =>
    unit ++ ": " ++ name ++ " redeclared, previous declaration in " ++ previousUnit
  | .sharedWrapper base first second =>
    "Wrapper for " ++ base ++ " is needed for both " ++ first ++ " and " ++ second
  | .wrapperCollision name => "Wrapper " ++ name ++ " collides with a declared type"
  | .missingPackage unit => unit ++ ": missing package clause"
  | .endlessAlias name => "Endless alias: " ++ name
  | .inDeclaration unit name fault => unit ++ ": " ++ name ++ ": " ++ fault.message

/-- Is the fault one of the declarations, rather than one of the JSON reader? -/
def isGeneration : Fault → Bool
  | .invalidTagLiteral _ => false
  | .invalidTagValue _ => false
  | .endlessAlias _ => false
  | .inDeclaration _ _ fault => fault.isGeneration
  | _ => true

/-- Name the declaration in which a fault was met, if the fault is one of the declarations. -/
def within (unit name : String) (fault : Fault) : Fault :=
  if fault.isGeneration then .inDeclaration unit name fault else fault

/-- Naming the declaration does not change the kind of fault. -/
theorem isGeneration_within (unit name : String) (fault : Fault) :
    (fault.within unit name).isGeneration = fault.isGeneration := by
  unfold within
  split <;> simp_all [isGeneration]

end Fault

end DeclCodec
