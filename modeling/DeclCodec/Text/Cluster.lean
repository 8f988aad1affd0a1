import DeclCodec.Text.Cells

/-!
# Clusters

A cluster is a character that takes cells together with all that is drawn into it:
marks, selectors, joiners and what they join. A text is cut between clusters only.
The main statement is that clusters put together are the text.
-/

namespace DeclCodec.Text

/-- Characters that are not cut apart, and the cells that they take. -/
structure Cluster where
  text : List Char
  cells : Nat
deriving DecidableEq, Repr

namespace Cluster

/-- Draw more text into the latest of some clusters, or begin a cluster without cells. -/
def extend (more : List Char) (added : Nat) : List Cluster → List Cluster
  | [] => [⟨more, 0⟩]
  | cluster :: before => ⟨cluster.text ++ more, cluster.cells + added⟩ :: before

/-- The clusters of a text behind other clusters, which are given backwards. `last` is the last
character that takes cells, unless it has been made wide. -/
def after (before : List Cluster) (last : Option Char) : List Char → List Cluster
  | [] => before.reverse
  | [c] =>
    if charCells c = 0 then
      (extend [c] (if c = emojiSelector ∧ last.any isSelectable then 1 else 0) before).reverse
    else (⟨[c], charCells c⟩ :: before).reverse
  | c :: next :: rest =>
    if c = joiner ∧ before ≠ [] then after (extend [c, next] 0 before) last rest
    else if c = emojiSelector ∧ before ≠ [] ∧ last.any isSelectable then
      after (extend [c] 1 before) none (next :: rest)
    else if charCells c = 0 then after (extend [c] 0 before) last (next :: rest)
    else after (⟨[c], charCells c⟩ :: before) (some c) (next :: rest)

/-- The text of clusters that are given backwards. -/
def textOf (clusters : List Cluster) : List Char := (clusters.reverse.map text).flatten

/-- What is drawn in stands at the end. -/
theorem textOf_extend (more : List Char) (added : Nat) (before : List Cluster) :
    textOf (extend more added before) = textOf before ++ more := by
  cases before <;> simp [textOf, extend]

/-- A new cluster stands at the end. -/
theorem textOf_cons (cluster : Cluster) (before : List Cluster) :
    textOf (cluster :: before) = textOf before ++ cluster.text := by
  simp [textOf]

/-- Clusters that follow clusters hold the whole text. -/
theorem flatten_after (before : List Cluster) (last : Option Char) (rest : List Char) :
    ((after before last rest).map text).flatten = textOf before ++ rest := by
  fun_induction after before last rest with
  | case1 => simp [textOf]
  | case2 before last c => exact textOf_extend _ _ before
  | case3 before last c => exact textOf_cons _ before
  | case4 before last c next rest _ inductionHypothesis =>
    rw [inductionHypothesis, textOf_extend, List.append_assoc]
    rfl
  | case5 before last c next rest _ _ inductionHypothesis =>
    rw [inductionHypothesis, textOf_extend, List.append_assoc]
    rfl
  | case6 before last c next rest _ _ _ inductionHypothesis =>
    rw [inductionHypothesis, textOf_extend, List.append_assoc]
    rfl
  | case7 before last c next rest _ _ _ inductionHypothesis =>
    rw [inductionHypothesis, textOf_cons, List.append_assoc]
    rfl

end Cluster

/-- The clusters of a text. -/
def clusters (text : List Char) : List Cluster := Cluster.after [] none text

/-- The clusters are the text. -/
theorem flatten_clusters (text : List Char) : ((clusters text).map Cluster.text).flatten = text :=
  Cluster.flatten_after [] none text

end DeclCodec.Text
