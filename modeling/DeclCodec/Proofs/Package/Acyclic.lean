import DeclCodec.Graph
import DeclCodec.Table
import Mathlib.Data.List.Perm.Subperm
import Mathlib.Tactic.Common

/-!
# Graphs without a cycle

The search leaves a node only after all its successors. So if it meets no cycle,
the list of the nodes it has left is ordered: the successors of each of them were
left before it. The number of nodes left before a node is then a rank that goes
down along every edge, and it is below the number of nodes.

The depth of the search never runs out: a path holds no node twice, and the nodes
of a closed graph are the only ones it can hold.
-/

namespace DeclCodec.Graph

variable {graph : Graph}

/-- The nodes of a graph. -/
def nodes (graph : Graph) : List String := graph.map (·.1)

/-- Edges lead to nodes only. -/
def Closed (graph : Graph) : Prop :=
  ∀ node, ∀ next ∈ graph.successors node, next ∈ graph.nodes

/-- The successors of each node that was left were left before it; the last left stands first. -/
def Ordered (graph : Graph) : List String → Prop
  | [] => True
  | node :: earlier =>
    node ∉ earlier ∧ (∀ next ∈ graph.successors node, next ∈ earlier) ∧ Ordered graph earlier

/-- The state of a search: the nodes left are ordered nodes of the graph, the path holds other nodes
of the graph, none of them twice, and what is left of the depth makes up for its length. -/
structure Searching (graph : Graph) (depth : Nat) (left path : List String) : Prop where
  ordered : graph.Ordered left
  known : ∀ node ∈ left, node ∈ graph.nodes
  within : ∀ node ∈ path, node ∈ graph.nodes
  once : path.Nodup
  apart : ∀ node ∈ path, node ∉ left
  enough : depth + path.length = graph.length + 1

/-- A path of a search is never as long as the depth allows. -/
theorem Searching.depth_pos {depth : Nat} {left path : List String}
    (searching : Searching graph depth left path) : 0 < depth := by
  have bounded : path.length ≤ graph.nodes.length :=
    (searching.once.subperm fun node member => searching.within node member).length_le
  have total := searching.enough
  rw [nodes, List.length_map] at bounded
  omega

/-- One step down, the path is longer by the node. -/
theorem Searching.descend {depth : Nat} {left path : List String} {node : String}
    (searching : Searching graph (depth + 1) left path) (isNode : node ∈ graph.nodes)
    (notOnPath : node ∉ path) (notLeft : node ∉ left) :
    Searching graph depth left (path ++ [node]) := by
  refine ⟨searching.ordered, searching.known, ?_, ?_, ?_, ?_⟩
  · intro other member
    rcases List.mem_append.1 member with earlier | last
    · exact searching.within other earlier
    · exact List.mem_singleton.1 last ▸ isNode
  · rw [List.nodup_append]
    refine ⟨searching.once, by simp, ?_⟩
    intro other member last single same
    rw [List.mem_singleton] at single
    exact notOnPath (single ▸ same ▸ member)
  · intro other member
    rcases List.mem_append.1 member with earlier | last
    · exact searching.apart other earlier
    · exact List.mem_singleton.1 last ▸ notLeft
  · have total := searching.enough
    rw [List.length_append, List.length_singleton]
    omega

/-- Visits one after another keep the search in order, if each of them does. -/
theorem searching_of_visits {depth : Nat} {path : List String}
    (visit_ok : ∀ {left later : List String} {node : String}, node ∈ graph.nodes →
      Searching graph depth left path → graph.visit depth left path node = .ok later →
        Searching graph depth later path ∧ node ∈ later ∧ left ⊆ later)
    {visits left later : List String} (areNodes : ∀ node ∈ visits, node ∈ graph.nodes)
    (searching : Searching graph depth left path)
    (visited : visits.foldlM (fun left node => graph.visit depth left path node) left =
      .ok later) :
    Searching graph depth later path ∧ (∀ node ∈ visits, node ∈ later) ∧ left ⊆ later := by
  induction visits generalizing left with
  | nil =>
    cases visited
    exact ⟨searching, by simp, List.Subset.refl _⟩
  | cons node others inductionHypothesis =>
    rw [List.foldlM_cons] at visited
    cases visitedNode : graph.visit depth left path node with
    | error cycle =>
      rw [visitedNode] at visited
      cases visited
    | ok middle =>
      rw [visitedNode] at visited
      obtain ⟨stillSearching, nodeLeft, grown⟩ :=
        visit_ok (areNodes node List.mem_cons_self) searching visitedNode
      obtain ⟨finished, othersLeft, grownMore⟩ := inductionHypothesis
        (fun other member => areNodes other (List.mem_cons_of_mem _ member)) stillSearching visited
      refine ⟨finished, ?_, List.Subset.trans grown grownMore⟩
      intro other member
      rcases List.mem_cons.1 member with rfl | later
      · exact grownMore nodeLeft
      · exact othersLeft other later

/-- Visiting a node, where it meets no cycle, leaves the node as well and keeps the search in
order. -/
theorem searching_of_visit (closed : graph.Closed) {depth : Nat} {left later path : List String}
    {node : String} (isNode : node ∈ graph.nodes) (searching : Searching graph depth left path)
    (visited : graph.visit depth left path node = .ok later) :
    Searching graph depth later path ∧ node ∈ later ∧ left ⊆ later := by
  induction depth generalizing left later path node with
  | zero => exact absurd searching.depth_pos (Nat.lt_irrefl 0)
  | succ depth inductionHypothesis =>
    rw [visit] at visited
    split at visited
    · cases visited
    next notOnPath =>
    split at visited
    · next wasLeft =>
      cases visited
      exact ⟨searching, wasLeft, List.Subset.refl _⟩
    next notLeft =>
    have deeper := searching.descend isNode notOnPath notLeft
    cases run : (graph.successors node).foldlM
        (fun left next => graph.visit depth left (path ++ [node]) next) left with
    | error cycle =>
      rw [run] at visited
      cases visited
    | ok below =>
      rw [run] at visited
      cases visited
      obtain ⟨finished, successorsLeft, grown⟩ :=
        searching_of_visits inductionHypothesis (closed node) deeper run
      have notBelow : node ∉ below := finished.apart node (by simp)
      refine ⟨⟨⟨notBelow, successorsLeft, finished.ordered⟩, ?_, searching.within, searching.once,
        ?_, searching.enough⟩, List.mem_cons_self, fun other member =>
          List.mem_cons_of_mem node (grown member)⟩
      · intro other member
        rcases List.mem_cons.1 member with rfl | earlier
        · exact isNode
        · exact finished.known other earlier
      · intro other member again
        rcases List.mem_cons.1 again with rfl | earlier
        · exact notOnPath member
        · exact finished.apart other (List.mem_append_left _ member) earlier

/-- No node is left twice. -/
theorem Ordered.nodup {left : List String} (ordered : graph.Ordered left) : left.Nodup := by
  induction left with
  | nil => exact List.nodup_nil
  | cons node earlier inductionHypothesis =>
    exact List.nodup_cons.2 ⟨ordered.1, inductionHypothesis ordered.2.2⟩

/-- With a node its successors were left. -/
theorem Ordered.successor_mem {left : List String} (ordered : graph.Ordered left)
    {node next : String} (member : node ∈ left) (successor : next ∈ graph.successors node) :
    next ∈ left := by
  induction left with
  | nil => cases member
  | cons first earlier inductionHypothesis =>
    obtain ⟨_, successorsEarlier, orderedEarlier⟩ := ordered
    apply List.mem_cons_of_mem
    rcases List.mem_cons.1 member with rfl | later
    · exact successorsEarlier next successor
    · exact inductionHypothesis orderedEarlier later

/-- How many nodes of a list stand behind a node. -/
def behind : List String → String → Nat
  | [], _ => 0
  | node :: rest, other => if other = node then rest.length else behind rest other

/-- Behind a node there are fewer nodes than in the list. -/
theorem behind_lt {left : List String} {node : String} (member : node ∈ left) :
    behind left node < left.length := by
  induction left with
  | nil => cases member
  | cons first rest inductionHypothesis =>
    unfold behind
    split
    · exact Nat.lt_succ_self _
    · next notFirst =>
      have later := (List.mem_cons.1 member).resolve_left notFirst
      exact Nat.lt_succ_of_lt (inductionHypothesis later)

/-- Behind a successor there are fewer nodes than behind the node. -/
theorem behind_successor_lt {left : List String} (ordered : graph.Ordered left) {node next : String}
    (member : node ∈ left) (successor : next ∈ graph.successors node) :
    behind left next < behind left node := by
  induction left with
  | nil => cases member
  | cons first rest inductionHypothesis =>
    obtain ⟨once, successorsLater, orderedRest⟩ := ordered
    by_cases isFirst : node = first
    · subst isFirst
      have later : next ∈ rest := successorsLater next successor
      have notFirst : next ≠ node := fun same => once (same ▸ later)
      simpa [behind, notFirst] using behind_lt later
    · have later : node ∈ rest := (List.mem_cons.1 member).resolve_left isFirst
      have below := inductionHypothesis orderedRest later
      by_cases nextFirst : next = first
      · exact absurd (nextFirst ▸ orderedRest.successor_mem later successor) once
      · simpa [behind, isFirst, nextFirst] using below

/-- The nodes of a closed graph without a cycle have ranks below their number, and every edge leads
to a lower rank. -/
theorem exists_rank (closed : graph.Closed) (acyclic : graph.findCycle? = none) :
    ∃ rank : String → Nat, (∀ node ∈ graph.nodes, rank node < graph.length) ∧
      ∀ node ∈ graph.nodes, ∀ next ∈ graph.successors node, rank next < rank node := by
  have started : Searching graph (graph.length + 1) [] [] :=
    ⟨trivial, by simp, by simp, List.nodup_nil, by simp, rfl⟩
  unfold findCycle? at acyclic
  dsimp only at acyclic
  split at acyclic
  · cases acyclic
  next left search =>
  obtain ⟨finished, allLeft, _⟩ := searching_of_visits
    (fun isNode searching => searching_of_visit closed isNode searching)
    (fun node member => member) started search
  have bounded : left.length ≤ graph.length := by
    have fewer := (finished.ordered.nodup.subperm finished.known).length_le
    rwa [nodes, List.length_map] at fewer
  refine ⟨behind left, ?_, ?_⟩
  · intro node isNode
    exact Nat.lt_of_lt_of_le (behind_lt (allLeft node isNode)) bounded
  · intro node isNode next successor
    exact behind_successor_lt finished.ordered (allLeft node isNode) successor

/-- The successors of a key, in the graph of what a table refers to, are those that its value
refers to. -/
theorem successors_map {α : Type} (next : α → List String) (table : List (String × α))
    (key : String) : successors (table.map fun entry => (entry.1, next entry.2)) key =
      ((table.lookup key).map next).getD [] :=
  congrArg (·.getD []) (Table.lookup_map next key table)

/-- The nodes of the graph of what a table refers to are its keys. -/
theorem mem_nodes_map {α : Type} {next : α → List String} {table : List (String × α)}
    {key : String} : key ∈ nodes (table.map fun entry => (entry.1, next entry.2)) ↔
      (table.lookup key).isSome = true := by
  rw [Table.isSome_lookup_iff, nodes, List.map_map]
  rfl

/-- The graph of what a table refers to is closed if the table has what its values refer to. -/
theorem closed_map {α : Type} {table : List (String × α)} {next : α → List String}
    (closed : ∀ key value, table.lookup key = some value → ∀ other ∈ next value,
      (table.lookup other).isSome = true) :
    Closed (table.map fun entry => (entry.1, next entry.2)) := by
  intro key other successor
  rw [successors_map] at successor
  cases found : table.lookup key with
  | none => simp [found] at successor
  | some value =>
    rw [found] at successor
    exact mem_nodes_map.2 (closed key value found other successor)

/-- What a table refers to has ranks, if the graph of the references is closed and has no cycle: the
ranks are below the number of entries, and those of the keys referred to are lower. -/
theorem exists_rank_of_table {α : Type} {table : List (String × α)} {next : α → List String}
    (closed : ∀ key value, table.lookup key = some value → ∀ other ∈ next value,
      (table.lookup other).isSome = true)
    (acyclic : findCycle? (table.map fun entry => (entry.1, next entry.2)) = none) :
    ∃ rank : String → Nat, ∀ key value, table.lookup key = some value →
      rank key < table.length ∧ ∀ other ∈ next value, rank other < rank key := by
  obtain ⟨rank, bounded, lower⟩ := exists_rank (closed_map closed) acyclic
  refine ⟨rank, ?_⟩
  intro key value found
  have among : key ∈ nodes (table.map fun entry => (entry.1, next entry.2)) :=
    mem_nodes_map.2 (by rw [found]; rfl)
  constructor
  · have below := bounded key among
    rwa [List.length_map] at below
  · intro other successor
    refine lower key among other ?_
    rw [successors_map, found]
    exact successor

end DeclCodec.Graph
