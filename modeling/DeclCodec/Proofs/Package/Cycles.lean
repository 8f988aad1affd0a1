import DeclCodec.Proofs.Package.Acyclic
import DeclCodec.Proofs.Traversal
import Mathlib.Data.List.Chain

/-!
# Graphs with a cycle

The path of a search is a walk through the graph: each of its nodes leads to the
next, and the last to the node that is visited. So when a node is met again that
is on the path, the part of the path from there on leads back to where it starts,
and the search reports a cycle of the graph.
-/

namespace DeclCodec.Graph

variable {graph : Graph}

/-- Does each node of a list lead to the next? -/
def IsWalk (graph : Graph) (nodes : List String) : Prop :=
  nodes.IsChain fun node next => next ∈ graph.successors node

/-- A cycle of a graph: a walk that ends where it starts and meets no other node twice. -/
structure IsCycle (graph : Graph) (cycle : List String) : Prop where
  isWalk : graph.IsWalk cycle
  comesBack : ∃ first rest, cycle = first :: rest ++ [first] ∧ (first :: rest).Nodup

/-- Behind the nodes that are not the given one comes the given one, if it is there. -/
theorem exists_dropWhile_eq {node : String} {path : List String} (member : node ∈ path) :
    ∃ before rest, path = before ++ node :: rest ∧ path.dropWhile (· ≠ node) = node :: rest := by
  induction path with
  | nil => cases member
  | cons first others inductionHypothesis =>
    by_cases isFirst : first = node
    · exact ⟨[], others, by rw [isFirst]; rfl, by simp [isFirst]⟩
    · have later : node ∈ others := (List.mem_cons.1 member).resolve_left (Ne.symm isFirst)
      obtain ⟨before, rest, split, dropped⟩ := inductionHypothesis later
      refine ⟨first :: before, rest, by rw [split]; rfl, ?_⟩
      rw [List.dropWhile_cons_of_pos (by simpa using isFirst), dropped]

/-- Visiting a node at the end of a walk reports cycles only. -/
theorem isCycle_of_visit {depth : Nat} {left path cycle : List String} {node : String}
    (walk : graph.IsWalk (path ++ [node])) (once : path.Nodup)
    (met : graph.visit depth left path node = .error cycle) : graph.IsCycle cycle := by
  induction depth generalizing left path node with
  | zero => cases met
  | succ depth inductionHypothesis =>
    rw [visit] at met
    split at met
    · next onPath =>
      cases met
      obtain ⟨before, rest, split, dropped⟩ := exists_dropWhile_eq onPath
      rw [dropped]
      rw [split] at walk once
      constructor
      · rw [List.append_assoc] at walk
        exact List.IsChain.right_of_append walk
      · exact ⟨node, rest, rfl, (List.nodup_append.1 once).2.1⟩
    next notOnPath =>
    split at met
    · cases met
    cases run : (graph.successors node).foldlM
        (fun left next => graph.visit depth left (path ++ [node]) next) left with
    | ok below =>
      rw [run] at met
      cases met
    | error found =>
      rw [run] at met
      cases met
      obtain ⟨state, next, successor, blame⟩ := exists_of_foldlM_error run
      refine inductionHypothesis ?_ ?_ blame
      · rw [IsWalk, List.append_assoc, List.singleton_append, List.isChain_append_cons_cons]
        exact ⟨walk, successor, List.isChain_singleton _⟩
      · rw [List.nodup_append]
        refine ⟨once, by simp, ?_⟩
        rintro other member last single rfl
        exact notOnPath (List.mem_singleton.1 single ▸ member)

/-- What the search reports is a cycle. -/
theorem isCycle_of_findCycle? {cycle : List String} (found : graph.findCycle? = some cycle) :
    graph.IsCycle cycle := by
  unfold findCycle? at found
  dsimp only at found
  split at found
  · next reported search =>
    cases found
    obtain ⟨state, node, _, blame⟩ := exists_of_foldlM_error search
    have walk : graph.IsWalk ([] ++ [node]) := List.isChain_singleton _
    exact isCycle_of_visit walk List.nodup_nil blame
  · cases found

/-- There is a node in a cycle. -/
theorem IsCycle.exists_mem {cycle : List String} (isCycle : graph.IsCycle cycle) :
    ∃ node, node ∈ cycle := by
  obtain ⟨first, rest, rfl, _⟩ := isCycle.comesBack
  exact ⟨first, List.mem_cons_self⟩

end DeclCodec.Graph
