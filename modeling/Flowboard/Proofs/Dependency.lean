import Flowboard.Program
import Flowboard.Proofs.Connections
import Mathlib

/-! The order of nodes along their connections: which order it is, and when there is none. -/
namespace Flowboard

open Canvas Relation

variable {nodes : List Node} {connections : List Connection} {order : List Node} {visit : List Nat}

/-- Of all visits along the connections the least one, read from the start: at each point it goes
to the first node on the canvas that is due. -/
structure LeastTopological (nodes : List Node) (connections : List Connection)
    (visit : List Nat) : Prop extends Topological nodes connections visit where
  greedy : ∀ before i after, visit = before ++ i :: after → Due nodes connections before i ∧
    ∀ j, Due nodes connections before j → j = i ∨ Before nodes i j
  least : ∀ other, Topological nodes connections other →
    visit = other ∨ List.Lex (Before nodes) visit other

theorem map_some_filterMap {α β : Type} {f : α → Option β} {xs : List α}
    (h : ∀ x ∈ xs, (f x).isSome) : (xs.filterMap f).map some = xs.map f := by
  induction xs with
  | nil => rfl
  | cons x xs ih =>
    obtain ⟨hx, hxs⟩ := List.forall_mem_cons.mp h
    obtain ⟨y, hy⟩ := Option.isSome_iff_exists.mp hx
    simp [hy, ih hxs]

theorem dependencyOrder_of_edges {es : List Edge}
    (h : Order.edges (spatialOrder nodes) connections = .ok es) :
    dependencyOrder nodes connections = (Graph.linearize? ⟨nodes.length, es⟩).elim (.error .cycle)
      fun order => .ok (order.filterMap ((spatialOrder nodes)[·]?)) := by
  have hlen : (spatialOrder nodes).length = nodes.length := by simp [spatialOrder]
  simp only [dependencyOrder, h, hlen]
  cases Graph.linearize? ⟨nodes.length, es⟩ <;> rfl

/-- An order that is found comes from a greedy order of the ranks. -/
theorem dependencyOrder_eq_ok (h : dependencyOrder nodes connections = .ok order) :
    ∃ es ranks, Order.edges (spatialOrder nodes) connections = .ok es ∧
      Graph.Linear ⟨nodes.length, es⟩ ranks ∧ Graph.Greedy ⟨nodes.length, es⟩ [] ranks ∧
      order.map some = (ranks.map (nth nodes)).map (nodes[·]?) := by
  have hlen : (spatialOrder nodes).length = nodes.length := by simp [spatialOrder]
  cases hes : Order.edges (spatialOrder nodes) connections with
  | error e => simp [dependencyOrder, hes] at h
  | ok es =>
    rw [dependencyOrder_of_edges hes] at h
    cases hranks : Graph.linearize? ⟨nodes.length, es⟩ with
    | none => simp [hranks] at h
    | some ranks =>
      obtain ⟨hlinear, hgreedy⟩ := Graph.linearize?_eq_some (proper_of_edges hes) hranks
      obtain rfl : ranks.filterMap ((spatialOrder nodes)[·]?) = order := by
        simpa [hranks] using h
      refine ⟨es, ranks, rfl, hlinear, hgreedy, ?_⟩
      have hlt : ∀ r ∈ ranks, r < nodes.length := fun r hr => by
        simpa using hlinear.perm.mem_iff.mp hr
      rw [map_some_filterMap fun r hr => by simpa [hlen] using hlt r hr, List.map_map]
      exact List.map_congr_left fun r hr => by
        simp [spatialOrder_getElem?, getElem?_indices (hlt r hr)]

/-- Each node is visited once along the connections. -/
theorem dependencyOrder_perm (h : dependencyOrder nodes connections = .ok order) :
    order.Perm nodes := by
  obtain ⟨es, ranks, -, hlinear, -, horder⟩ := dependencyOrder_eq_ok h
  have hindices : (ranks.map (nth nodes)).Perm (indices nodes) := by
    rw [← map_nth_range]
    exact hlinear.perm.map _
  have hsome : (order.map some).Perm ((spatialOrder nodes).map some) := by
    rw [horder, map_spatialOrder]
    exact hindices.map _
  have horder : order.Perm (spatialOrder nodes) := by
    simpa [List.filterMap_map] using hsome.filterMap id
  exact horder.trans (spatialOrder_perm nodes)

/-- Whatever the strategy, each node is visited once. -/
theorem ordered_perm {w : Workflow} {strategy : Strategy} (h : w.ordered strategy = .ok nodes) :
    nodes.Perm w.nodes := by
  cases strategy with
  | spatial =>
    obtain rfl := Except.ok.inj h
    exact spatialOrder_perm w.nodes
  | dependency => exact dependencyOrder_perm h

/-- Nodes are ordered by a visit to all of them, by their indices in the list, in which each
connection leads forward, and which is the least such visit. -/
theorem dependencyOrder_least_topological (h : dependencyOrder nodes connections = .ok order) :
    ∃ visit, order.map some = visit.map (nodes[·]?) ∧
      LeastTopological nodes connections visit := by
  obtain ⟨es, ranks, hes, hlinear, hgreedy, horder⟩ := dependencyOrder_eq_ok h
  have hlt : ∀ r ∈ ranks, r < nodes.length := fun r hr => by
    simpa using hlinear.perm.mem_iff.mp hr
  refine ⟨ranks.map (nth nodes), horder, (linear_iff_topological hes hlt).mp hlinear,
    fun before i after hv => Greedy.due hes hlt hgreedy hv, fun other ho => ?_⟩
  have hother : ∀ i ∈ other, i < nodes.length := fun i hi => by
    simpa using ho.perm.mem_iff.mp hi
  obtain ⟨others, hothers, rfl⟩ := exists_map_nth hother
  obtain rfl | hlex := hgreedy.least hlinear ((linear_iff_topological hes hothers).mpr ho)
  · exact Or.inl rfl
  · exact Or.inr (lex_map_nth hlt hothers hlex)

/-- A node above another one that it depends on twice, and two nodes with the same id, of which the
upper one is meant. -/
def crossingNodes : List Node :=
  [⟨"show", .print "x", .origin, [], []⟩,
   ⟨"set", .assign "x" "late", ⟨.zero, ⟨5⟩⟩, [], []⟩,
   ⟨"set", .assign "x" "soon", ⟨.zero, ⟨3⟩⟩, [], []⟩]

def crossingConnections : List Connection :=
  [⟨"1", "set", "value", "show", "message"⟩, ⟨"2", "set", "value", "show", "title"⟩]

/-- Of the two nodes with one id the upper one comes first, because the node above it depends on it
twice. -/
theorem dependencyOrder_least_topological_crossing :
    dependencyOrder crossingNodes crossingConnections =
      .ok (crossingNodes.drop 2 ++ crossingNodes.take 2) ∧
    ∃ visit, (crossingNodes.drop 2 ++ crossingNodes.take 2).map some =
        visit.map (crossingNodes[·]?) ∧
      LeastTopological crossingNodes crossingConnections visit :=
  ⟨by cbv, dependencyOrder_least_topological (by cbv)⟩

theorem dependencyOrder_eq_unknownNode_iff {connection node : String} :
    dependencyOrder nodes connections = .error (.unknownNode connection node) ↔
      Order.edges (spatialOrder nodes) connections = .error (.unknownNode connection node) := by
  cases hes : Order.edges (spatialOrder nodes) connections with
  | error e => simp [dependencyOrder, hes]
  | ok es =>
    rw [dependencyOrder_of_edges hes]
    cases Graph.linearize? ⟨nodes.length, es⟩ <;> simp

/-- A cycle is reported exactly if there is one and all ends are known. -/
theorem dependencyOrder_eq_cycle_iff : dependencyOrder nodes connections = .error .cycle ↔
    (∀ c ∈ connections, Attached nodes c) ∧ ∃ i, TransGen (Link nodes connections) i i := by
  rw [← edges_ok_iff_attached]
  cases hes : Order.edges (spatialOrder nodes) connections with
  | error e =>
    obtain ⟨_, c, _, -, -, hc⟩ := Order.edges_eq_error_iff.mp hes
    obtain ⟨-, rfl⟩ | ⟨-, -, rfl⟩ := Order.edge_eq_error_iff.mp hc <;>
      simp [dependencyOrder, hes]
  | ok es =>
    rw [dependencyOrder_of_edges hes, ← cyclic_iff_link hes,
      ← Graph.linearize?_eq_none_iff (proper_of_edges hes)]
    cases Graph.linearize? ⟨nodes.length, es⟩ <;> simp

/-- There is an order exactly if all ends are known and there is no cycle. -/
theorem dependencyOrder_eq_ok_iff : (∃ order, dependencyOrder nodes connections = .ok order) ↔
    (∀ c ∈ connections, Attached nodes c) ∧ ¬ ∃ i, TransGen (Link nodes connections) i i := by
  rw [← edges_ok_iff_attached]
  cases hes : Order.edges (spatialOrder nodes) connections with
  | error e => simp [dependencyOrder, hes]
  | ok es =>
    rw [dependencyOrder_of_edges hes, ← cyclic_iff_link hes,
      ← Graph.linearize?_eq_none_iff (proper_of_edges hes)]
    cases Graph.linearize? ⟨nodes.length, es⟩ <;> simp

/-- What decides whether nodes have an order along their connections: first whether each end is the
id of a node, the first connection with an unknown end being reported and its source before its
target, and then whether the connections form a cycle. -/
theorem dependencyOrder_outcome (nodes : List Node) (connections : List Connection) :
    (∀ connection node,
      dependencyOrder nodes connections = .error (.unknownNode connection node) ↔
        ∃ before c after, connections = before ++ c :: after ∧
          (∀ d ∈ before, Attached nodes d) ∧ connection = c.id ∧
          ((¬ Known nodes c.sourceNode ∧ node = c.sourceNode) ∨
            (Known nodes c.sourceNode ∧ ¬ Known nodes c.targetNode ∧ node = c.targetNode))) ∧
    (dependencyOrder nodes connections = .error .cycle ↔
      (∀ c ∈ connections, Attached nodes c) ∧ ∃ i, TransGen (Link nodes connections) i i) ∧
    ((∃ order, dependencyOrder nodes connections = .ok order) ↔
      (∀ c ∈ connections, Attached nodes c) ∧ ¬ ∃ i, TransGen (Link nodes connections) i i) ∧
    ((∀ c ∈ connections, Attached nodes c) →
      ((∃ i, TransGen (Link nodes connections) i i) ↔
        ∃ id, TransGen (Joined connections) id id)) := by
  refine ⟨fun connection node => ?_, dependencyOrder_eq_cycle_iff, dependencyOrder_eq_ok_iff,
    cycle_link_iff_joined⟩
  rw [dependencyOrder_eq_unknownNode_iff, Order.edges_eq_error_iff]
  simp only [edge_ok_iff_attached, Order.edge_eq_error_iff, place?_eq_none_iff, ne_eq, not_not,
    OrderError.unknownNode.injEq]
  constructor
  · rintro ⟨before, c, after, hs, hbefore, ⟨hc, hid, hn⟩ | ⟨hc, ht, hid, hn⟩⟩
    · exact ⟨before, c, after, hs, hbefore, hid, Or.inl ⟨hc, hn⟩⟩
    · exact ⟨before, c, after, hs, hbefore, hid, Or.inr ⟨hc, ht, hn⟩⟩
  · rintro ⟨before, c, after, hs, hbefore, hid, ⟨hc, hn⟩ | ⟨hc, ht, hn⟩⟩
    · exact ⟨before, c, after, hs, hbefore, Or.inl ⟨hc, hid, hn⟩⟩
    · exact ⟨before, c, after, hs, hbefore, Or.inr ⟨hc, ht, hid, hn⟩⟩

end Flowboard
