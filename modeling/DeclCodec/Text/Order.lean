import DeclCodec.Text.CodePoint

/-!
# Order by code point

Texts are ordered lexicographically by code point. `sortBy` is a stable
insertion sort: entries with equal keys keep their order.
-/

namespace DeclCodec.Text

/-- Lexicographic order: the first difference decides, and a text comes before its extensions. -/
def notAfter : Points → Points → Bool
  | [], _ => true
  | _ :: _, [] => false
  | a :: left, b :: right => a.toNat < b.toNat || (a == b && notAfter left right)

universe u
variable {α : Type u}

/-- Put an item in front of the first item whose key is not smaller. -/
def insertBy (key : α → Points) (item : α) : List α → List α
  | [] => [item]
  | other :: rest =>
    if notAfter (key item) (key other) then item :: other :: rest
    else other :: insertBy key item rest

/-- The items in ascending order of their keys. -/
def sortBy (key : α → Points) : List α → List α
  | [] => []
  | item :: rest => insertBy key item (sortBy key rest)

/-- Texts in ascending order. -/
abbrev sort (texts : List String) : List String := sortBy (fun text => text) texts

/-- Insertion adds the item and nothing else. -/
theorem insertBy_perm (key : α → Points) (item : α) (items : List α) :
    (insertBy key item items).Perm (item :: items) := by
  induction items with
  | nil => exact .refl _
  | cons other rest inductionHypothesis =>
    unfold insertBy
    split
    · exact .refl _
    · exact (inductionHypothesis.cons other).trans (.swap item other rest)

/-- Sorting rearranges. -/
theorem sortBy_perm (key : α → Points) (items : List α) : (sortBy key items).Perm items := by
  induction items with
  | nil => exact .refl _
  | cons item rest inductionHypothesis =>
    exact (insertBy_perm key item _).trans (inductionHypothesis.cons item)

end DeclCodec.Text
