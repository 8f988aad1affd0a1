import DeclCodec.Number.Binary64
import DeclCodec.Text.CodePoint

/-!
# JSON values

A number without fraction and exponent is an integer of any size; every other
number is a binary64. Strings and the names of members are lists of code points, in
which surrogates may stand alone. Members of an object keep their order.
-/

namespace DeclCodec

/-- A JSON value. -/
inductive Json
  | null
  | bool (value : Bool)
  | int (value : Int)
  | float (value : Binary64)
  | str (text : Points)
  | list (items : List Json)
  | object (members : List (Points × Json))

instance : Inhabited Json := ⟨.null⟩

end DeclCodec
