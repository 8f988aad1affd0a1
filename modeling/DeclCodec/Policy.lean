import DeclCodec.Decl.TypeExpr
import DeclCodec.Descriptor
import DeclCodec.Tag

/-!
# Field policies

Two values of a field's tag decide how the field goes on the wire. The wire
value gives the name on the wire, by default the field's own, and the flag
`omitempty`. The reference value makes the field a reference: it gives the name
under which the identifier is written and says whether the identifier or the
value is. A name or flag `-` in either keeps the field off the wire.
-/

namespace DeclCodec

/-- Which side of a reference is written. -/
inductive Variant
  | id
  | value
deriving DecidableEq, Repr

/-- The word for a variant. -/
def Variant.text : Variant → String
  | .id => "id"
  | .value => "value"

/-- The variant of a word. -/
def Variant.ofText? (text : Points) : Option Variant :=
  if text = "id" then some .id else if text = "value" then some .value else none

/-- How a field goes on the wire. An omitted field does not, but keeps its name. -/
inductive Policy
  | omitted (name : Points)
  | plain (wireName : Points) (omitEmpty : Bool)
  | reference (wireName idName : Points) (variant : Variant) (omitEmpty : Bool)
deriving DecidableEq, Repr

namespace Policy

/-- The name on the wire. -/
def wireName : Policy → Points
  | .omitted name => name
  | .plain name _ => name
  | .reference name _ _ _ => name

/-- Does the field go on the wire? -/
def isWired : Policy → Bool
  | .omitted _ => false
  | _ => true

/-- Is the field a reference? -/
def isReference : Policy → Bool
  | .reference _ _ _ _ => true
  | _ => false

/-- Does a tag value keep its field off the wire? -/
def omits (value : Points) : Bool :=
  Tag.name value == Text.points ['-'] || (Tag.flags value).contains (Text.points ['-'])

/-- The policy of a field from its two tag values. -/
def resolve (wireValue refValue : Points) (name : String) : Except Fault Policy :=
  if omits wireValue || omits refValue then .ok (.omitted name)
  else
    let wireName : Points := if Tag.name wireValue = [] then name else Tag.name wireValue
    let omitEmpty := (Tag.flags wireValue).contains "omitempty"
    if refValue = [] then .ok (.plain wireName omitEmpty)
    else if Tag.name refValue = [] then .error (.missingIdentifierName name)
    else
      match Tag.flags refValue with
      | [] => .ok (.reference wireName (Tag.name refValue) .id omitEmpty)
      | [flag] =>
        match Variant.ofText? flag with
        | some variant => .ok (.reference wireName (Tag.name refValue) variant omitEmpty)
        | none => .error (.unknownVariant name flag)
      | _ => .error (.severalVariants name refValue)

/-- The policies of the exported names of a field line. A tag that names a field, or makes it a
reference, cannot be shared by several names unless it keeps them all off the wire. -/
def resolveField (names : List String) (tag : Option Points) (wireKey refKey : Points) :
    Except Fault (List (String × Policy)) := do
  let wireValue ← Tag.lookup tag wireKey
  let refValue ← Tag.lookup tag refKey
  if (Tag.name wireValue != [] || refValue != []) && 1 < names.length &&
      !(omits wireValue || omits refValue) then
    throw (.ambiguousTag names)
  (names.filter Descriptor.isExportedName).mapM fun name => do
    pure (name, ← resolve wireValue refValue name)

end Policy

end DeclCodec
