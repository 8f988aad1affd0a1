import DeclCodec.Proofs.Emit.Annotations
import DeclCodec.Proofs.Session.Records

/-!
# Defaults that come back

The default of a type and the shape of a type belong together: the default is
nothing, or a value that travels by the shape, empty or new. What a new instance of a
struct sends are the defaults of its members, new instances among them; so by
induction on the ranks of structs a new instance travels, and it is in normal form.

Where no alias is named like a builtin type, default, annotation and shape of a type
describe the same type in this sense.
-/

namespace DeclCodec.Package

variable {package : Package} {codecs : Codecs} {struct : String} {members : List Member}

/-- A new instance of a struct sends a new instance of another one. -/
def SendsNew (package : Package) (struct other : String) : Prop :=
  ∃ members, package.structs.lookup struct = some members ∧
    ∃ member ∈ members, member.isWired = true ∧ member.isReference = false ∧
      package.defaultOf member.type = .fresh other

/-- What is sent new is held. -/
theorem SendsNew.holds {other : String} (sends : SendsNew package struct other) :
    Holds package struct other := by
  obtain ⟨members, declared, member, among, _, noReference, isFresh⟩ := sends
  exact ⟨members, declared, member, among, noReference, isFresh⟩

/-- What a source holds is not read by a shape, if it holds something, but reading it gives
nothing. -/
theorem exists_refused {source : Source} {shape : Shape}
    (isHeld : source.load.toOption.isSome = true)
    (refused : (source.load.toOption.bind fun held =>
      (held.decode codecs shape).toOption).isNone = true) :
    ∃ held, source.load = .ok held ∧ ∀ back, held.decode codecs shape ≠ .ok back := by
  obtain ⟨held, isLoad⟩ := exists_ok_of_isSome isHeld
  refine ⟨held, isLoad, fun back decoded => ?_⟩
  rw [isLoad] at refused
  change (held.decode codecs shape).toOption.isNone = true at refused
  rw [decoded] at refused
  cases refused

/-- A declaration of a struct with two fields of different names on the wire, which are one name
when the surrogate pair in the second is joined. -/
def pairUnits : List DeclUnit :=
  [⟨"pair", "p", [.struct "T" [⟨["B"], .named [] "string", some "json:\"😀\""⟩,
    ⟨["A"], .named [] "int", some (Text.points "json:\"".toList ++
      .ofNat 0xD83D :: Text.points "\\ude00\"".toList)⟩] "pair"]⟩]

/-- The package of the declaration. -/
def pairPackage : Package where
  name := "p"
  settings := {}
  units := ["pair"]
  types := (pairUnits.flatMap (·.decls)).map fun decl => (decl.name, decl)
  aliases := []
  structs := [("T", [⟨"B", .named "" "string", some (.plain "😀" false)⟩,
    ⟨"A", .named "" "int", some (.plain Text.halves false)⟩])]
  referenced := []
  imported := []

/-- What its class knows once it is loaded. -/
def pairCodecs : Codecs where
  structs := [⟨"T", [("B", .emptyText), ("A", .zero)],
    [⟨"B", "😀", .always⟩, ⟨"A", Text.halves, .always⟩],
    [⟨"B", "😀", .named .str, none⟩, ⟨"A", Text.halves, .named .int, none⟩], true⟩]
  wrappers := []
  foreign := .builtins

/-- The two names are written alike, and the number that was written last is read for the text. -/
theorem not_default_annotation_shape_pair :
    collect "p" {} pairUnits = .ok pairPackage ∧ pairPackage.Loads pairCodecs ∧
      pairPackage.shape (.named "" "T") = .ok (.named (.declared "T")) ∧
      pairPackage.defaultOf (.named "" "T") = .fresh "T" ∧
      pairCodecs.make "T" = .ok (.record "T" [("B", .str ""), ("A", .int 0)]) ∧
      (Value.record "T" [("B", .str ""), ("A", .int 0)]).encode pairCodecs =
        .ok "\x7b\"\\ud83d\\ude00\":\"\",\"\\ud83d\\ude00\":0\x7d".toList ∧
      ∃ held, (Source.text "\x7b\"\\ud83d\\ude00\":\"\",\"\\ud83d\\ude00\":0\x7d").load = .ok held ∧
        ∀ back, held.decode pairCodecs (.named (.declared "T")) ≠ .ok back := by
  exact ⟨eq_ok_of_toOption (by decide +kernel), loads_of_toOption (by decide +kernel),
    eq_ok_of_toOption (by decide +kernel), by decide +kernel, rfl,
    eq_ok_of_toOption (by decide +kernel),
    exists_refused (by decide +kernel) (by decide +kernel)⟩

/-- A declaration of an alias that is named like a builtin type. -/
def renamedUnits : List DeclUnit :=
  [⟨"renamed", "p", [.alias "string" (.named [] "int") "renamed",
    .struct "T" [⟨["A"], .named [] "string", none⟩] "renamed"]⟩]

/-- The package of the declaration. -/
def renamedPackage : Package where
  name := "p"
  settings := {}
  units := ["renamed"]
  types := (renamedUnits.flatMap (·.decls)).map fun decl => (decl.name, decl)
  aliases := [("string", .named "" "int")]
  structs := [("T", [⟨"A", .named "" "string", some (.plain "A" false)⟩])]
  referenced := []
  imported := []

/-- The shape of the alias follows it, but neither the default nor the annotation does; so the
default is not read back by the shape. -/
theorem not_default_annotation_shape_renamed :
    collect "p" {} renamedUnits = .ok renamedPackage ∧
      (Descriptor.named "" "string").Known renamedPackage.types ∧
      renamedPackage.defaultOf (.named "" "string") = .emptyText ∧
      renamedPackage.expandedAnnotation (.named "" "string") = .ok .str ∧
      renamedPackage.shape (.named "" "string") = .ok (.named .int) ∧
      ∀ codecs : Codecs, Codecs.ofDefault codecs.make .emptyText = .ok (.str []) ∧
        (Value.str []).encode codecs = .ok "\"\"".toList ∧
        (Source.text "\"\"").load = .ok (.str []) ∧
        (Value.str []).decode codecs (.named .int) = .error (.cannotDecode "str" "int") := by
  refine ⟨eq_ok_of_toOption (by decide +kernel), by decide, by decide +kernel,
    eq_ok_of_toOption (by decide +kernel), eq_ok_of_toOption (by decide +kernel), fun codecs => ?_⟩
  exact ⟨rfl, rfl, Source.load_compact (.str []) (.inl rfl), rfl⟩

end DeclCodec.Package
