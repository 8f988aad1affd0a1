import DeclCodec.Package.Collect
import DeclCodec.Proofs.Package.Cycles
import Mathlib.Logic.Relation

/-!
# The whole search

`Visits` is the search without a bound on its depth: a relation that holds of an
outcome if going down and coming back, one node after another, ends with it. Where
edges lead to nodes only, the bounded search never uses its depth up, so it takes
the same steps, and the search ends, with one outcome.

The outcome is a cycle exactly if there is one: a node that was left reaches only
nodes that were left before it, and what is met again on the path lies on a cycle.
-/

namespace DeclCodec

namespace Graph

variable {graph : Graph}

/-- Visiting nodes one after another, from the nodes already left and the path walked so far. It
ends with the nodes left by then, or with a cycle. -/
inductive Visits (graph : Graph) :
    List String → List String → List String → Except (List String) (List String) → Prop
  /-- There is nothing more to visit. -/
  | done (left path : List String) : Visits graph left path [] (.ok left)
  /-- The node is met again on the path. -/
  | again {left path : List String} {node : String} (onPath : node ∈ path) (rest : List String) :
      Visits graph left path (node :: rest) (.error (path.dropWhile (· ≠ node) ++ [node]))
  /-- The node was left before and is not entered again. -/
  | known {left path : List String} {node : String} {rest : List String}
      {outcome : Except (List String) (List String)} (notOnPath : node ∉ path)
      (wasLeft : node ∈ left) (others : Visits graph left path rest outcome) :
      Visits graph left path (node :: rest) outcome
  /-- There is a cycle below the node. -/
  | cyclic {left path cycle : List String} {node : String} (notOnPath : node ∉ path)
      (notLeft : node ∉ left)
      (below : Visits graph left (path ++ [node]) (graph.successors node) (.error cycle))
      (rest : List String) : Visits graph left path (node :: rest) (.error cycle)
  /-- There is none, and the node is left. -/
  | leaves {left path found : List String} {node : String} {rest : List String}
      {outcome : Except (List String) (List String)} (notOnPath : node ∉ path)
      (notLeft : node ∉ left)
      (below : Visits graph left (path ++ [node]) (graph.successors node) (.ok found))
      (others : Visits graph (node :: found) path rest outcome) :
      Visits graph left path (node :: rest) outcome

/-- The search ends in one way only. -/
theorem Visits.unique {left path nodes : List String}
    {outcome other : Except (List String) (List String)}
    (visits : graph.Visits left path nodes outcome) (again : graph.Visits left path nodes other) :
    other = outcome := by
  induction visits generalizing other with
  | done left path =>
    cases again
    rfl
  | again onPath rest =>
    cases again with
    | again _ _ => rfl
    | known notOnPath _ _ => exact absurd onPath notOnPath
    | cyclic notOnPath _ _ _ => exact absurd onPath notOnPath
    | leaves notOnPath _ _ _ => exact absurd onPath notOnPath
  | known notOnPath wasLeft _ inductionHypothesis =>
    cases again with
    | again onPath _ => exact absurd onPath notOnPath
    | known _ _ others => exact inductionHypothesis others
    | cyclic _ notLeft _ _ => exact absurd wasLeft notLeft
    | leaves _ notLeft _ _ => exact absurd wasLeft notLeft
  | cyclic notOnPath notLeft _ rest inductionHypothesis =>
    cases again with
    | again onPath _ => exact absurd onPath notOnPath
    | known _ wasLeft _ => exact absurd wasLeft notLeft
    | cyclic _ _ below _ => exact inductionHypothesis below
    | leaves _ _ below _ => cases inductionHypothesis below
  | leaves notOnPath notLeft _ _ below_ih others_ih =>
    cases again with
    | again onPath _ => exact absurd onPath notOnPath
    | known _ wasLeft _ => exact absurd wasLeft notLeft
    | cyclic _ _ below _ => cases below_ih below
    | leaves _ _ below others =>
      cases below_ih below
      exact others_ih others

/-- The bounded search takes the steps of the search, where its depth makes up for the path. -/
theorem visits_foldlM (closed : graph.Closed) {depth : Nat} {left path nodes : List String}
    (areNodes : ∀ node ∈ nodes, node ∈ graph.nodes) (searching : Searching graph depth left path) :
    graph.Visits left path nodes
      (nodes.foldlM (fun left node => graph.visit depth left path node) left) := by
  induction depth generalizing left path nodes with
  | zero => exact absurd searching.depth_pos (Nat.lt_irrefl 0)
  | succ depth below_ih =>
    induction nodes generalizing left with
    | nil => exact .done left path
    | cons node rest others_ih =>
      obtain ⟨isNode, areNodesToo⟩ := List.forall_mem_cons.1 areNodes
      rw [List.foldlM_cons]
      by_cases onPath : node ∈ path
      · rw [visit, if_pos onPath]
        exact .again onPath rest
      by_cases wasLeft : node ∈ left
      · rw [visit, if_neg onPath, if_pos wasLeft]
        exact .known onPath wasLeft (others_ih areNodesToo searching)
      have below := below_ih (closed node) (searching.descend isNode onPath wasLeft)
      cases run : (graph.successors node).foldlM
          (fun left next => graph.visit depth left (path ++ [node]) next) left with
      | error cycle =>
        have visited : graph.visit (depth + 1) left path node = .error cycle := by
          rw [visit, if_neg onPath, if_neg wasLeft, run]
          rfl
        rw [visited]
        rw [run] at below
        exact .cyclic onPath wasLeft below rest
      | ok found =>
        have visited : graph.visit (depth + 1) left path node = .ok (node :: found) := by
          rw [visit, if_neg onPath, if_neg wasLeft, run]
          rfl
        rw [visited]
        rw [run] at below
        obtain ⟨stillSearching, _, _⟩ := searching_of_visit closed isNode searching visited
        exact .leaves onPath wasLeft below (others_ih areNodesToo stillSearching)

/-- Is there an edge from a node to the next? -/
def Edge (graph : Graph) (node next : String) : Prop := next ∈ graph.successors node

/-- A walk goes along edges. -/
theorem IsWalk.transGen {first last : String} {nodes : List String}
    (walk : graph.IsWalk (first :: nodes ++ [last])) :
    Relation.TransGen graph.Edge first last := by
  induction nodes generalizing first with
  | nil => exact .single (List.isChain_cons_cons.1 walk).1
  | cons next nodes inductionHypothesis =>
    obtain ⟨edge, others⟩ := List.isChain_cons_cons.1 walk
    exact .head edge (inductionHypothesis others)

/-- Where the search meets no cycle, no node reaches itself. -/
theorem not_transGen_self (closed : graph.Closed) (acyclic : graph.findCycle? = none)
    (node : String) : ¬Relation.TransGen graph.Edge node node := by
  obtain ⟨rank, _, lower⟩ := exists_rank closed acyclic
  have edge_lower {node next : String} (edge : graph.Edge node next) : rank next < rank node := by
    have isNode : node ∈ graph.nodes := by
      rw [nodes, ← Table.isSome_lookup_iff]
      cases found : List.lookup node graph with
      | none => simp [Edge, successors, found] at edge
      | some _ => rfl
    exact lower node isNode next edge
  have reached_lower {first last : String} (reached : Relation.TransGen graph.Edge first last) :
      rank last < rank first := by
    induction reached with
    | single edge => exact edge_lower edge
    | tail _ edge inductionHypothesis => exact Nat.lt_trans (edge_lower edge) inductionHypothesis
  exact fun around => Nat.lt_irrefl _ (reached_lower around)

/-- The search meets a cycle exactly if some node reaches itself. -/
theorem isSome_findCycle?_iff (closed : graph.Closed) :
    graph.findCycle?.isSome = true ↔ ∃ node, Relation.TransGen graph.Edge node node := by
  constructor
  · intro found
    obtain ⟨cycle, isFound⟩ := Option.isSome_iff_exists.1 found
    have isCycle := isCycle_of_findCycle? isFound
    obtain ⟨first, rest, rfl, _⟩ := isCycle.comesBack
    exact ⟨first, isCycle.isWalk.transGen⟩
  · rintro ⟨node, around⟩
    by_contra none
    rw [Option.not_isSome_iff_eq_none] at none
    exact not_transGen_self closed none node around

/-- A cycle that the search ends with, if it does. -/
def cycle? : Except (List String) (List String) → Option (List String)
  | .error cycle => some cycle
  | .ok _ => none

/-- The search of a closed graph ends, with what the bounded search finds. -/
theorem exists_visits (closed : graph.Closed) :
    ∃ outcome, graph.Visits [] [] graph.nodes outcome ∧ graph.findCycle? = cycle? outcome := by
  have started : Searching graph (graph.length + 1) [] [] :=
    ⟨trivial, by simp, by simp, List.nodup_nil, by simp, rfl⟩
  refine ⟨_, visits_foldlM closed (fun node member => member) started, ?_⟩
  unfold findCycle?
  dsimp only
  rw [nodes]
  cases (graph.map (·.1)).foldlM
    (fun left node => graph.visit (graph.length + 1) left [] node) [] <;> rfl

/-- A graph is closed if what its entries list are nodes. -/
theorem closed_of_entries (listed : ∀ entry ∈ graph, ∀ next ∈ entry.2, next ∈ graph.nodes) :
    graph.Closed := by
  intro node next successor
  rw [successors] at successor
  cases found : List.lookup node graph with
  | none => simp [found] at successor
  | some successors =>
    rw [found] at successor
    exact listed _ (Table.mem_of_lookup found) next successor

/-- The edges are what the entries list, if no node has two of them, in whatever order they
stand. -/
theorem edge_iff (distinct : graph.nodes.Nodup) {node next : String} :
    graph.Edge node next ↔ ∃ entry ∈ graph, entry.1 = node ∧ next ∈ entry.2 := by
  rw [Edge, successors]
  constructor
  · intro successor
    cases found : List.lookup node graph with
    | none => simp [found] at successor
    | some listed =>
      rw [found] at successor
      exact ⟨(node, listed), Table.mem_of_lookup found, rfl, successor⟩
  · rintro ⟨⟨_, listed⟩, member, rfl, inside⟩
    rwa [Table.lookup_of_mem distinct member]

end Graph

namespace Package

/-- A graph is refused for the cycle that the search reports. -/
theorem checkAcyclic_eq (graph : Graph) :
    checkAcyclic graph = (graph.findCycle?.map Fault.recursiveType).elim (.ok ()) .error := by
  rw [checkAcyclic]
  cases graph.findCycle? <;> rfl

/-- A graph whose edges lead to its nodes only is searched to an end, and to one only, which decides
the check. The graph is refused exactly if some node reaches itself, in whatever order its nodes and
edges are listed. What it is refused for is a cycle of the graph, whose nodes the message names. -/
theorem checkAcyclic_search {graph : Graph} (closed : graph.Closed) :
    (∃! outcome, graph.Visits [] [] graph.nodes outcome) ∧
    (∀ outcome, graph.Visits [] [] graph.nodes outcome →
      checkAcyclic graph = (outcome.map fun _ => ()).mapError Fault.recursiveType) ∧
    ((∃ names, checkAcyclic graph = .error (.recursiveType names)) ↔
      ∃ node, Relation.TransGen graph.Edge node node) ∧
    (∀ fault, checkAcyclic graph = .error fault → ∃ names, fault = .recursiveType names ∧
      graph.IsCycle names ∧
      fault.message = "Invalid recursive type: " ++ " -> ".intercalate names) ∧
    ∀ other : Graph, other.Closed → (∀ node next, other.Edge node next ↔ graph.Edge node next) →
      (checkAcyclic other = .ok () ↔ checkAcyclic graph = .ok ()) := by
  obtain ⟨outcome, visits, found⟩ := Graph.exists_visits closed
  have accepted_iff {graph : Graph} (closed : graph.Closed) :
      checkAcyclic graph = .ok () ↔ ¬∃ node, Relation.TransGen graph.Edge node node := by
    rw [← Graph.isSome_findCycle?_iff closed, checkAcyclic_eq]
    cases graph.findCycle? <;> simp
  refine ⟨⟨outcome, visits, fun other again => visits.unique again⟩, ?_, ?_, ?_, ?_⟩
  · intro other again
    rw [visits.unique again, checkAcyclic_eq, found]
    cases outcome <;> rfl
  · rw [← Graph.isSome_findCycle?_iff closed, checkAcyclic_eq]
    cases graph.findCycle? <;> simp
  · intro fault refused
    rw [checkAcyclic_eq] at refused
    cases met : graph.findCycle? with
    | none =>
      rw [met] at refused
      cases refused
    | some names =>
      rw [met] at refused
      cases refused
      exact ⟨names, rfl, Graph.isCycle_of_findCycle? met, rfl⟩
  · intro other otherClosed same
    have sameEdges : other.Edge = graph.Edge := by
      funext node next
      exact propext (same node next)
    rw [accepted_iff otherClosed, accepted_iff closed, sameEdges]

/-- Two types that hold each other, and one that leads to them. -/
def mutualTypes : Graph := [("Entry", ["Left"]), ("Right", ["Left"]), ("Left", ["Right"])]

/-- They are refused for each other, and in another order they are refused as well. -/
theorem checkAcyclic_search_mutualTypes :
    mutualTypes.Closed ∧
      checkAcyclic mutualTypes = .error (.recursiveType ["Left", "Right", "Left"]) ∧
      (Fault.recursiveType ["Left", "Right", "Left"]).message =
        "Invalid recursive type: Left -> Right -> Left" ∧
      mutualTypes.IsCycle ["Left", "Right", "Left"] ∧
      checkAcyclic mutualTypes.reverse ≠ .ok () := by
  have closed : mutualTypes.Closed := Graph.closed_of_entries (by decide)
  have refused : checkAcyclic mutualTypes = .error (.recursiveType ["Left", "Right", "Left"]) := by
    decide
  have sameEdges (node next : String) :
      Graph.Edge mutualTypes.reverse node next ↔ mutualTypes.Edge node next := by
    rw [Graph.edge_iff (by decide), Graph.edge_iff (by decide)]
    simp only [List.mem_reverse]
  obtain ⟨_, _, _, explained, ordered⟩ := checkAcyclic_search closed
  obtain ⟨names, isNamed, isCycle, message⟩ := explained _ refused
  cases isNamed
  refine ⟨closed, refused, message, isCycle, ?_⟩
  rw [Ne, ordered mutualTypes.reverse (Graph.closed_of_entries (by decide)) sameEdges, refused]
  exact fun accepted => by cases accepted

end Package

end DeclCodec
