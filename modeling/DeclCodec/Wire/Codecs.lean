import DeclCodec.Wire.Fault
import DeclCodec.Wire.Value

/-!
# The classes of a loaded module

Everything that an emitted module does when it runs is determined by the codecs of
its structs, by the defaults of the identifiers in its wrappers, and by the classes of
other modules that its shapes name.

What a class of another module does is up to that module. The reader asks whether it is
there at all, which of the builtin classes it derives from, and whether it has a way of
its own to read a value; and it calls the class. Its instances are values like others.
-/

namespace DeclCodec

/-- What a class of another module derives from: the first of these that the reader asks for. -/
inductive Lineage
  /-- It is no class. -/
  | noClass
  /-- It is the class of all values. -/
  | object
  | raw
  | bool
  | int
  | float
  | str
  /-- It derives from none of them; some values are its instances. -/
  | other (isInstance : Value → Bool)

/-- A class of another module. -/
structure ForeignClass where
  name : String
  lineage : Lineage
  /-- What the class makes of a value, or of nothing. -/
  call : Option Value → Except WireFault Value
  /-- The way of its own to read a value, if it has one. -/
  fromWire? : Option (Value → Except WireFault Value)

/-- The classes of other modules by their paths, or why a path leads to none. -/
abbrev Foreign := String → Except WireFault ForeignClass

/-- The codecs of a module, the identifier defaults of its wrappers, and the classes of other
modules. -/
structure Codecs where
  structs : List Codec
  wrappers : List (String × Default)
  foreign : Foreign

namespace Codecs

/-- No codec at all, and no other module. -/
def empty : Codecs := ⟨[], [], fun path => .error (.unknownName path)⟩

/-- The codec of a struct. -/
def find? (codecs : Codecs) (type : String) : Option Codec :=
  codecs.structs.find? (·.type == type)

end Codecs

end DeclCodec
