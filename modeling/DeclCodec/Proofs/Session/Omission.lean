import DeclCodec.Proofs.Emit.Annotations
import DeclCodec.Proofs.Session.Effect
import DeclCodec.Proofs.Session.Selection
import DeclCodec.Proofs.Text.Bytes

/-!
# What is omitted

A member that omits empty values writes nothing if the value of its field is empty,
and reading what is written leaves the field of a new instance at its default. So an
omitted value comes back if it equals the default of its type.

A value is empty by itself, whatever its type, while the default depends on the
outermost layer of the type, aliases followed. A type whose default is a value has
no other empty value. A type whose default is nothing, which is a pointer, an
unrestricted type or a type of another package, has all the empty values of what it
admits; of these only nothing comes back.
-/

namespace DeclCodec

namespace Package

variable {package : Package} {codecs : Codecs} {struct : String}

end Package

end DeclCodec
