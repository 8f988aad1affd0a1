/-!
# Generation settings
-/

namespace DeclCodec

/-- The settings of a generation run. -/
structure Settings where
  /-- The declared type of the identifiers in wrappers. -/
  idType : String := "string"
  /-- What follows the package in the name of an output file. -/
  suffix : String := "_ref"
  /-- Generate outputs that are up to date as well. -/
  force : Bool := false
  /-- Report the steps of a run at the level of information. -/
  trace : Bool := false
  /-- Modules that every emitted module imports. -/
  imports : List String := []
  /-- The tag key of wire values. -/
  wireTag : String := "json"
  /-- The tag key of reference values. -/
  refTag : String := "ref"
  /-- What follows the base name in the name of a wrapper. -/
  refSuffix : String := "Ref"
  /-- The module that emitted modules import for encoding and decoding. -/
  runtimeImport : String := "refgen.wire"
deriving DecidableEq, Repr

end DeclCodec
