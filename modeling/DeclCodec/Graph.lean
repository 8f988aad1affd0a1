/-!
# Cycles in finite graphs

A graph lists its nodes in order, each with its successors. The search visits the
nodes in that order and the successors of a node in theirs, going down before
going on. It carries the path from the node where it went down, and reports the
first node met again on it, as the part of the path from that node on with the
node itself at the end. A node that was left without a cycle is not entered
again.

A path holds no node twice, so it is never longer than the list of nodes; that
bounds the depth of the search.
-/

namespace DeclCodec

/-- Nodes with their successors. -/
abbrev Graph := List (String × List String)

namespace Graph

/-- The successors of a node. -/
def successors (graph : Graph) (node : String) : List String := (graph.lookup node).getD []

/-- Visit a node at the end of a path. Given and returned are the nodes already left without a
cycle; a cycle stops the search. -/
def visit (graph : Graph) : Nat → List String → List String → String →
    Except (List String) (List String)
  | 0, left, _, _ => .ok left
  | depth + 1, left, path, node =>
    if node ∈ path then .error (path.dropWhile (· ≠ node) ++ [node])
    else if node ∈ left then .ok left
    else do
      let left ← (graph.successors node).foldlM
        (fun left next => visit graph depth left (path ++ [node]) next) left
      pure (node :: left)

/-- The first cycle the search meets. -/
def findCycle? (graph : Graph) : Option (List String) :=
  let search := (graph.map (·.1)).foldlM
    (fun left node => visit graph (graph.length + 1) left [] node) []
  match search with
  | .error cycle => some cycle
  | .ok _ => none

end Graph

end DeclCodec
