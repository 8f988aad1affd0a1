import DeclCodec.Decl.Reader

/-!
# The texts of units
-/

namespace DeclCodec

/-- A unit that is not read yet, with the package it belongs to if its text names none. -/
structure UnitText where
  name : String
  package : String
  text : String
deriving DecidableEq, Repr

/-- Read a unit. -/
def UnitText.parse (source : UnitText) : Except Fault DeclUnit :=
  DeclUnit.parse source.text source.name source.package

/-- Read units one after another, up to the first that cannot be read. -/
def UnitText.parseAll (sources : List UnitText) : Except Fault (List DeclUnit) :=
  sources.mapM UnitText.parse

end DeclCodec
