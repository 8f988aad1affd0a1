import DeclCodec.Decl.UnitText
import DeclCodec.Proofs.Decl.Effects

/-!
# Package clauses

A draft takes its package from the word in a package clause, and no other token says
anything about it. So the package of a unit that is read is a name, or it is the one
that was given for units without a clause.
-/

namespace DeclCodec

namespace Draft

variable {draft : Draft} {token : Token} {following : Draft × Place}

/-- A quoted tag says nothing about it, whether it can be read or not. -/
theorem package_quotedTag (draft : Draft) (inside : List Char) :
    (draft.quotedTag inside).1.package = draft.package := by
  unfold quotedTag
  split <;> rfl

/-- A token leaves the package as it is, or it is the word of a package clause. -/
theorem package_step {place : Place} (fits : token.Fits place.expected)
    (stepped : draft.step place token = some following) :
    following.1.package = draft.package ∨
      ∃ name, following.1.package = some name ∧ IsName name := by
  obtain ⟨later, reached⟩ := following
  cases effect_step stepped with
  | nothing fine => exact .inl rfl
  | clause name => exact .inr ⟨name, rfl, fits.1⟩
  | decl fine decl => exact .inl rfl
  | quotedTag inside => exact .inl (package_quotedTag draft inside)

/-- A token keeps to packages that are names. -/
theorem packageNamed_step {place : Place} (named : ∀ name ∈ draft.package, IsName name)
    (fits : token.Fits place.expected) (stepped : draft.step place token = some following) :
    ∀ name ∈ following.1.package, IsName name := by
  rcases package_step fits stepped with same | ⟨name, isPackage, isName⟩
  · rw [same]
    exact named
  · rw [isPackage]
    rintro other ⟨⟩
    exact isName

/-- Finishing a draft leaves its package as it is. -/
theorem package_finish {finished : Draft} {place : Place}
    (finishes : draft.finish place = some finished) : finished.package = draft.package := by
  revert finishes
  fun_cases finish draft place <;> rintro ⟨⟩ <;> rfl

end Draft

/-- The package of a unit that is read is a name, or the one given for the unit. -/
theorem UnitText.package_of_parse {source : UnitText} {unit : DeclUnit}
    (parsed : source.parse = .ok unit) : IsName unit.package ∨ unit.package = source.package := by
  rw [parse] at parsed
  obtain ⟨draft, place, last, done, read, finishes, _, rfl⟩ := DeclUnit.exists_run_of_parse parsed
  have start : ∀ name ∈ (Draft.empty source.name).package, IsName name := by rintro name ⟨⟩
  have named := Draft.read_induction
    (fun {draft} _ _ _ (named : ∀ name ∈ draft.package, IsName name) =>
      Draft.packageNamed_step named) start read
  dsimp only
  rw [Draft.package_finish finishes]
  cases isPackage : draft.package with
  | none => exact .inr rfl
  | some name => exact .inl (named name isPackage)

end DeclCodec
