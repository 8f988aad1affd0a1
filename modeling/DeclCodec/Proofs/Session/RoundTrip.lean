import DeclCodec.Proofs.Session.Fitting

/-!
# The round trip of instances

An instance of a struct is written, and what is written is read into a new instance.
Where every name is what it is declared as and different things are received under
different names, this leaves the new instance equal to the normal form of the old
one, unless something in it becomes another when surrogate pairs are joined. A text of
the two halves of a pair shows that this matters, and a struct with the name of the
decorator of class methods that the names do.
-/

namespace DeclCodec.Package

variable {package : Package} {codecs : Codecs}

/-- An instance with the text. -/
def letter (text : Points) : Value := .record "Letter" [("A", .str text)]

/-- Declarations of a struct with the name of the decorator of class methods, and of two others. -/
def hiderUnits : List DeclUnit :=
  [⟨"hider", "p", [
    .struct "classmethod" [⟨["A"], .named [] "int", none⟩] "hider",
    .struct "N" [⟨["B"], .named [] "int", none⟩] "hider",
    .struct "T" [⟨["F"], .slice (.named [] "N"), none⟩] "hider"]⟩]

/-- The package of the declarations. -/
def hiderPackage : Package where
  name := "p"
  settings := {}
  units := ["hider"]
  types := (hiderUnits.flatMap (·.decls)).map fun decl => (decl.name, decl)
  aliases := []
  structs := [("classmethod", [⟨"A", .named "" "int", some (.plain "A" false)⟩]),
    ("N", [⟨"B", .named "" "int", some (.plain "B" false)⟩]),
    ("T", [⟨"F", .slice (.named "" "N"), some (.plain "F" false)⟩])]
  referenced := []
  imported := []

/-- What its classes know once they are loaded: the ones after the first cannot be made from
maps. -/
def hiderCodecs : Codecs where
  structs := [
    ⟨"classmethod", [("A", .zero)], [⟨"A", "A", .always⟩], [⟨"A", "A", .named .int, none⟩], true⟩,
    ⟨"N", [("B", .zero)], [⟨"B", "B", .always⟩], [⟨"B", "B", .named .int, none⟩], false⟩,
    ⟨"T", [("F", .emptyList)], [⟨"F", "F", .always⟩],
      [⟨"F", "F", .slice (.named (.declared "N")), none⟩], false⟩]
  wrappers := []
  foreign := .builtins

/-- An instance with a list of one struct. -/
def hiderValue : Value := .record "T" [("F", .list [.record "N" [("B", .int 1)]])]

/-- The instance fits its struct. -/
theorem fits_hider : Fits hiderPackage (.named "" "T") hiderValue := by
  have ownItem : scopedName "N" "B" = "B" := scopedName_of_isExportedName (by decide) _
  have ownList : scopedName "T" "F" = "F" := scopedName_of_isExportedName (by decide) _
  have item := @Fits.record hiderPackage "N" _ rfl
    [(⟨"B", .named "" "int", some (.plain "B" false)⟩, .int 1)] rfl
    (by simpa using fun _ _ _ => Fits.int rfl 1)
    (by simp [Member.isReference, Policy.isReference])
    (by simp [Member.isReference, Policy.isReference])
  have list : Fits hiderPackage (.slice (.named "" "N")) (.list [.record "N" [("B", .int 1)]]) := by
    refine .slice fun held member => ?_
    rw [List.mem_singleton.1 member]
    simpa [ownItem] using item
  have fits := @Fits.record hiderPackage "T" _ rfl
    [(⟨"F", .slice (.named "" "N"), some (.plain "F" false)⟩,
      .list [.record "N" [("B", .int 1)]])] rfl
    (by simpa using fun _ _ _ => list)
    (by simp [Member.isReference, Policy.isReference])
    (by simp [Member.isReference, Policy.isReference])
  simpa [hiderValue, ownList] using fits

/-- A struct with the name of the decorator hides it from the others. The package is portable, its
names on the wire are distinct, and the instance is written; but what is written cannot be read into
a new instance. -/
theorem not_unmarshal_marshal_hider :
    collect "p" {} hiderUnits = .ok hiderPackage ∧ hiderPackage.Loads hiderCodecs ∧
      Portable hiderPackage ∧ Distinct hiderPackage "T" ∧
      Fits hiderPackage (.named "" "T") hiderValue ∧
      hiderCodecs.marshal hiderValue = .ok "\x7b\"F\":[\x7b\"B\":1\x7d]\x7d" ∧
      hiderCodecs.construct "T" [] = .ok (.record "T" [("F", .list [])]) ∧
      (hiderCodecs.unmarshal (.text "\x7b\"F\":[\x7b\"B\":1\x7d]\x7d")
        (.record "T" [("F", .list [])])).2 = some .wrongType := by
  have loads : hiderPackage.Loads hiderCodecs := loads_of_toOption (by decide +kernel)
  have portable : Portable hiderPackage := {
    notBuiltin := by decide
    aliasesLocal := by decide
    membersLocal := by decide
    identifiers := ⟨"string", eq_ok_of_toOption (by decide +kernel), .inr rfl⟩ }
  refine ⟨eq_ok_of_toOption (by decide +kernel), loads, portable, Distinct.of_forall (by decide),
    fits_hider, rfl, rfl, ?_⟩
  decide +kernel

end DeclCodec.Package
