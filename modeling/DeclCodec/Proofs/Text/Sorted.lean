import DeclCodec.Proofs.Traversal
import Mathlib.Data.List.Nodup

/-!
# Sorted by key

The order of texts is total, and two texts that come no later than each other are
the same. Sorting puts items in the order of their keys; so where no two items
have one key, there is only one sorted list of them, in whatever order they were.
-/

namespace DeclCodec.Text

/-- Of two texts the first code points decide, and what follows them if these are the same. -/
theorem notAfter_cons {a b : CodePoint} {left right : Points} :
    notAfter (a :: left) (b :: right) = true ↔
      a.toNat < b.toNat ∨ a = b ∧ notAfter left right = true := by
  simp [notAfter]

/-- Of two texts one comes no later than the other. -/
theorem notAfter_total (left right : Points) :
    notAfter left right = true ∨ notAfter right left = true := by
  induction left generalizing right with
  | nil => exact .inl rfl
  | cons a left inductionHypothesis =>
    cases right with
    | nil => exact .inr rfl
    | cons b right =>
      rw [notAfter_cons, notAfter_cons]
      rcases Nat.lt_trichotomy a.toNat b.toNat with less | same | more
      · exact .inl (.inl less)
      · have samePoint := CodePoint.toNat_inj.1 same
        rcases inductionHypothesis right with forward | backward
        · exact .inl (.inr ⟨samePoint, forward⟩)
        · exact .inr (.inr ⟨samePoint.symm, backward⟩)
      · exact .inr (.inl more)

/-- Texts of which neither comes later are the same. -/
theorem eq_of_notAfter {left right : Points} (forward : notAfter left right = true)
    (backward : notAfter right left = true) : left = right := by
  induction left generalizing right with
  | nil =>
    cases right with
    | nil => rfl
    | cons b right => cases backward
  | cons a left inductionHypothesis =>
    cases right with
    | nil => cases forward
    | cons b right =>
      rw [notAfter_cons] at forward backward
      rcases forward with less | ⟨rfl, forward⟩
      · rcases backward with more | ⟨rfl, _⟩
        · omega
        · omega
      · rcases backward with more | ⟨_, backward⟩
        · omega
        · rw [inductionHypothesis forward backward]

/-- What comes no later than an earlier text comes no later. -/
theorem notAfter_trans {left middle right : Points}
    (first : notAfter left middle = true) (second : notAfter middle right = true) :
    notAfter left right = true := by
  induction left generalizing middle right with
  | nil => rfl
  | cons a left inductionHypothesis =>
    cases middle with
    | nil => cases first
    | cons b middle =>
      cases right with
      | nil => cases second
      | cons c right =>
        rw [notAfter_cons] at first second ⊢
        rcases first with less | ⟨rfl, first⟩
        · rcases second with lessToo | ⟨rfl, _⟩
          · exact .inl (Nat.lt_trans less lessToo)
          · exact .inl less
        · rcases second with less | ⟨rfl, second⟩
          · exact .inl less
          · exact .inr ⟨rfl, inductionHypothesis first second⟩

universe u
variable {α : Type u}

/-- Are the items in ascending order of their keys? -/
def Ascending (key : α → Points) (items : List α) : Prop :=
  items.Pairwise fun first second => notAfter (key first) (key second) = true

/-- An item that is put in its place leaves the items in order. -/
theorem Ascending.insertBy {key : α → Points} {items : List α} (ascending : Ascending key items)
    (item : α) : Ascending key (insertBy key item items) := by
  induction items with
  | nil => exact List.pairwise_singleton _ _
  | cons other rest inductionHypothesis =>
    obtain ⟨first, later⟩ := List.pairwise_cons.1 ascending
    unfold Text.insertBy
    split
    · next inFront =>
      refine List.pairwise_cons.2 ⟨?_, ascending⟩
      intro next member
      rcases List.mem_cons.1 member with rfl | among
      · exact inFront
      · exact notAfter_trans inFront (first next among)
    · next behind =>
      refine List.pairwise_cons.2 ⟨?_, inductionHypothesis later⟩
      intro next member
      rcases List.mem_cons.1 ((insertBy_perm key item rest).mem_iff.1 member) with rfl | among
      · exact (notAfter_total _ _).resolve_left behind
      · exact first next among

/-- Sorted items are in order. -/
theorem ascending_sortBy (key : α → Points) (items : List α) :
    Ascending key (sortBy key items) := by
  induction items with
  | nil => exact List.Pairwise.nil
  | cons item rest inductionHypothesis => exact inductionHypothesis.insertBy item

/-- Items of different keys are sorted the same in whatever order they are given. -/
theorem sortBy_eq_of_perm {key : α → Points} {items others : List α} (perm : items.Perm others)
    (distinct : (items.map key).Nodup) : sortBy key items = sortBy key others := by
  have rearranged : (sortBy key items).Perm (sortBy key others) :=
    (sortBy_perm key items).trans (perm.trans (sortBy_perm key others).symm)
  refine rearranged.eq_of_pairwise ?_ (ascending_sortBy key items) (ascending_sortBy key others)
  intro first second isFirst isSecond forward backward
  have sameKey : key first = key second := eq_of_notAfter forward backward
  exact List.inj_on_of_nodup_map distinct (mem_sortBy.1 isFirst)
    (perm.mem_iff.2 (mem_sortBy.1 isSecond)) sameKey

/-- So are items of different names. -/
theorem sortBy_eq_of_perm_names (name : α → String) {items others : List α}
    (perm : items.Perm others) (distinct : (items.map name).Nodup) :
    sortBy (fun item => name item) items = sortBy (fun item => name item) others := by
  refine sortBy_eq_of_perm perm ?_
  have byName : items.map (fun item => points (name item).toList) =
      (items.map name).map fun text => points text.toList := by
    rw [List.map_map]
    rfl
  rw [byName]
  exact List.Nodup.map (fun _ _ => points_toList_inj.1) distinct

end DeclCodec.Text
