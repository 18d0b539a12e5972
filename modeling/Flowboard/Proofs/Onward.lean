import Flowboard.Proofs.Reachability

/-! The order along the connections and the order on the canvas are the same where all connections
lead onward on the canvas. -/
namespace Flowboard

open Canvas

variable {nodes : List Node} {connections : List Connection} {es : List Edge}

/-- The order of nodes along their connections, as the indices of the nodes in the list. -/
def dependencyVisit (nodes : List Node) (connections : List Connection) :
    Except OrderError (List Nat) :=
  match Order.edges (spatialOrder nodes) connections with
  | .error e => .error e
  | .ok es => (Graph.linearize? ⟨nodes.length, es⟩).elim (.error .cycle)
      fun ranks => .ok (ranks.map (nth nodes))

/-- Each connection leads from a node to one that comes later on the canvas. -/
def Onward (nodes : List Node) (connections : List Connection) : Prop :=
  ∀ c ∈ connections, ∃ i j, Denotes nodes c.sourceNode i ∧ Denotes nodes c.targetNode j ∧
    Before nodes i j

theorem dependencyOrder_eq_visit (nodes : List Node) (connections : List Connection) :
    dependencyOrder nodes connections =
      (dependencyVisit nodes connections).map (·.filterMap (nodes[·]?)) := by
  cases hes : Order.edges (spatialOrder nodes) connections with
  | error e => simp [dependencyOrder, dependencyVisit, hes, Except.map]
  | ok es =>
    rw [dependencyOrder_of_edges hes, dependencyVisit, hes]
    cases hranks : Graph.linearize? ⟨nodes.length, es⟩ with
    | none => simp [hranks, Except.map]
    | some ranks =>
      have hperm := (Graph.linearize?_eq_some (proper_of_edges hes) hranks).1.perm
      have hsame : ranks.filterMap ((spatialOrder nodes)[·]?) =
          ranks.filterMap fun r => nodes[nth nodes r]? := List.filterMap_congr fun r hr => by
        have hr : r < nodes.length := by simpa using hperm.mem_iff.mp hr
        simp [spatialOrder_getElem?, getElem?_indices hr]
      simp [hranks, Except.map, hsame, List.filterMap_map]

theorem spatialOrder_eq_visit (nodes : List Node) :
    spatialOrder nodes = (indices nodes).filterMap (nodes[·]?) := by
  have h := congrArg (List.filterMap id) (map_spatialOrder nodes)
  simpa [List.filterMap_map, Function.comp_def] using h

/-- Connections lead onward where their edges go up. -/
theorem onward_iff_edges (hes : Order.edges (spatialOrder nodes) connections = .ok es) :
    Onward nodes connections ↔ ∀ e ∈ es, e.source < e.target := by
  have hedge {c : Connection} {e : Edge} (hc : Order.edge (spatialOrder nodes) c = .ok e) :
      Denotes nodes c.sourceNode (nth nodes e.source) ∧
        Denotes nodes c.targetNode (nth nodes e.target) ∧
        (Before nodes (nth nodes e.source) (nth nodes e.target) ↔ e.source < e.target) := by
    obtain ⟨hs, ht⟩ := Order.edge_eq_ok_iff.mp hc
    exact ⟨(place?_eq_some_nth_iff (place?_lt hs)).mp hs,
      (place?_eq_some_nth_iff (place?_lt ht)).mp ht, before_nth_iff (place?_lt hs) (place?_lt ht)⟩
  constructor
  · intro h e he
    obtain ⟨c, hm, hc⟩ := (Order.mem_edges hes).mp he
    obtain ⟨hs, ht, hbefore⟩ := hedge hc
    obtain ⟨i, j, hi, hj, hij⟩ := h c hm
    exact hbefore.mp (hs.unique hi ▸ ht.unique hj ▸ hij)
  · intro h c hm
    obtain ⟨e, hc⟩ := Order.exists_edge hes hm
    obtain ⟨hs, ht, hbefore⟩ := hedge hc
    exact ⟨_, _, hs, ht, hbefore.mpr (h e ((Order.mem_edges hes).mpr ⟨c, hm, hc⟩))⟩

/-- Along connections that all lead onward the nodes are visited as on the canvas. -/
theorem dependencyVisit_of_onward (h : Onward nodes connections) :
    dependencyVisit nodes connections = .ok (indices nodes) := by
  have hknown : ∀ c ∈ connections, Attached nodes c := fun c hc => by
    obtain ⟨i, j, hi, hj, -⟩ := h c hc
    exact ⟨hi.known, hj.known⟩
  obtain ⟨es, hes⟩ := edges_ok_iff_attached.mpr hknown
  have hranks := Graph.linearize?_of_lt (proper_of_edges hes) ((onward_iff_edges hes).mp h)
  simp [dependencyVisit, hes, hranks, map_nth_range]

/-- A node that a connection starts from is the first one that carries its id, so that no node with
the same value stands before its place on the canvas. -/
theorem le_idxOf_source {ranks : List Nat} (hlinear : Graph.Linear ⟨nodes.length, es⟩ ranks)
    (hes : Order.edges (spatialOrder nodes) connections = .ok es)
    (hsame : (spatialOrder nodes).map some = (ranks.map (nth nodes)).map (nodes[·]?)) :
    ∀ e ∈ es, e.source ≤ ranks.idxOf e.source := by
  intro e he
  obtain ⟨c, -, hc⟩ := (Order.mem_edges hes).mp he
  have hplace := (Order.edge_eq_ok_iff.mp hc).1
  obtain ⟨hs, hid, hfirst⟩ := List.findIdx?_eq_some_iff_getElem.mp hplace
  have hlt := place?_lt hplace
  by_contra hearly
  have hr : ranks.idxOf e.source < e.source := by omega
  have hm : e.source ∈ ranks := hlinear.perm.mem_iff.mpr (List.mem_range.mpr hlt)
  have hnode : some (spatialOrder nodes)[e.source] = nodes[nth nodes e.source]? := by
    simpa [hs, getElem?_indices hlt] using spatialOrder_getElem? nodes e.source
  have hplaced : some (spatialOrder nodes)[ranks.idxOf e.source] = nodes[nth nodes e.source]? := by
    simpa [hm, Nat.lt_trans hr hs] using congrArg (·[ranks.idxOf e.source]?) hsame
  refine hfirst _ hr ?_
  rwa [Option.some.inj (hplaced.trans hnode.symm)]

/-- The order of the canvas is found only if no connection leads back, even if nodes of equal value
are not told apart. -/
theorem onward_of_dependencyOrder
    (h : dependencyOrder nodes connections = .ok (spatialOrder nodes)) :
    Onward nodes connections := by
  obtain ⟨es, ranks, hes, hlinear, hgreedy, hsame⟩ := dependencyOrder_eq_ok h
  have hproper := proper_of_edges hes
  obtain rfl : ranks = List.range nodes.length :=
    hgreedy.eq_range_of_le hlinear hproper (le_idxOf_source hlinear hes hsame)
  refine (onward_iff_edges hes).mpr fun e he => ?_
  obtain ⟨hs, ht⟩ := hproper e he
  have halong := hlinear.along e he
  rwa [Graph.idxOf_range hs, Graph.idxOf_range ht] at halong

/-- How the two orders of a workflow's nodes compare, both by the nodes and by their indices in the
list, and the programs along them. -/
structure Workflow.OrdersCompared (w : Workflow) : Prop where
  spatial : w.ordered .spatial = .ok ((indices w.nodes).filterMap (w.nodes[·]?))
  dependency : w.ordered .dependency =
    (dependencyVisit w.nodes w.connections).map (·.filterMap (w.nodes[·]?))
  visits : dependencyVisit w.nodes w.connections = .ok (indices w.nodes) ↔
    Onward w.nodes w.connections
  nodes : w.ordered .dependency = w.ordered .spatial ↔ Onward w.nodes w.connections
  compiled : Onward w.nodes w.connections → w.compile .dependency = w.compile .spatial
  unconnected : w.connections = [] → w.compile .dependency = w.compile .spatial

/-- The two orders are the same exactly if each connection leads from a node to a later one on the
canvas, and then so are the programs. -/
theorem orders_agree_iff_onward (w : Workflow) : w.OrdersCompared := by
  have hdependency := dependencyOrder_eq_visit w.nodes w.connections
  have hspatial := spatialOrder_eq_visit w.nodes
  have hsame (h : Onward w.nodes w.connections) : w.ordered .dependency = w.ordered .spatial := by
    rw [Workflow.ordered, Workflow.ordered, hdependency, dependencyVisit_of_onward h, hspatial]
    rfl
  have hcompiled (h : Onward w.nodes w.connections) :
      w.compile .dependency = w.compile .spatial := by
    rw [Workflow.compile, Workflow.compile, hsame h]
  refine ⟨by rw [Workflow.ordered, hspatial], hdependency, ⟨fun h => ?_, dependencyVisit_of_onward⟩,
    ⟨onward_of_dependencyOrder, hsame⟩, hcompiled, fun h => hcompiled ?_⟩
  · refine onward_of_dependencyOrder ?_
    rw [hdependency, h, hspatial]
    rfl
  · rw [h]
    exact List.forall_mem_nil _

def onward : Connection :=
  ⟨"5", "last", "value", "first", "value"⟩

/-- One connection along the canvas leaves the program as it is, and one against it does not lead
onward. -/
theorem orders_agree_iff_onward_chained :
    Onward (chained []).nodes [onward] ∧ ¬ Onward (chained []).nodes [lower] ∧
    (chained [onward]).compile .dependency = (chained [onward]).compile .spatial ∧
    (chained []).compile .dependency = (chained []).compile .spatial := by
  have hsame : (chained [onward]).ordered .dependency = (chained [onward]).ordered .spatial := by
    cbv
  have honward := (orders_agree_iff_onward (chained [onward])).nodes.mp hsame
  refine ⟨honward, fun hlower => ?_, (orders_agree_iff_onward _).compiled honward,
    (orders_agree_iff_onward _).unconnected rfl⟩
  have hother := (orders_agree_iff_onward (chained [lower])).nodes.mpr hlower
  have hids : ((chained [lower]).ordered .dependency).map (·.map (·.id)) =
      .ok ["last", "first", "middle"] := by cbv
  have hspatial : ((chained [lower]).ordered .spatial).map (·.map (·.id)) =
      .ok ["last", "middle", "first"] := by cbv
  rw [hother, hspatial] at hids
  exact absurd hids (by decide)

/-- A check for cycles before nodes are taken makes no difference, whatever else is wrong. -/
theorem checkedOrder_eq_dependencyOrder {cyclic : Graph → Bool}
    (hcyclic : ∀ g : Graph, g.Proper → (cyclic g ↔ g.Cyclic)) :
    checkedOrder cyclic nodes connections = dependencyOrder nodes connections := by
  cases hes : Order.edges (spatialOrder nodes) connections with
  | error e => simp [checkedOrder, dependencyOrder, hes]
  | ok es =>
    rw [dependencyOrder_of_edges hes, checkedOrder, hes]
    by_cases hc : cyclic ⟨nodes.length, es⟩
    · have hnone := (Graph.linearize?_eq_none_iff (proper_of_edges hes)).mpr
        ((hcyclic _ (proper_of_edges hes)).mp hc)
      simp [hc, hnone]
    · simp [hc]

/-- The queue counts exactly the edges that are awaited, and a check for cycles before it is used
makes no difference. -/
theorem queue_counts_edges (nodes : List Node) (connections : List Connection)
    (cyclic : Graph → Bool) (hcyclic : ∀ g : Graph, g.Proper → (cyclic g ↔ g.Cyclic)) :
    (∀ es, Order.edges (spatialOrder nodes) connections = .ok es →
      Graph.TakesAll ⟨nodes.length, es⟩ ∧
      (cyclic ⟨nodes.length, es⟩ = false → Graph.linearize? ⟨nodes.length, es⟩ ≠ none)) ∧
    checkedOrder cyclic nodes connections = dependencyOrder nodes connections := by
  refine ⟨fun es hes => ⟨Graph.takesAll (proper_of_edges hes), fun hpassed hnone => ?_⟩,
    checkedOrder_eq_dependencyOrder hcyclic⟩
  have hproper := proper_of_edges hes
  rw [Graph.linearize?_eq_none_iff hproper, ← hcyclic _ hproper] at hnone
  simp [hpassed] at hnone

/-- A node that depends on itself. -/
def looping : Connection :=
  ⟨"3", "show", "value", "show", "message"⟩

/-- Both edges between two nodes are counted, and the check finds the node that depends on itself.
-/
theorem queue_counts_edges_crossing :
    Graph.TakesAll ⟨3, [⟨1, 0⟩, ⟨1, 0⟩]⟩ ∧
    checkedOrder (·.linearize?.isNone) crossingNodes crossingConnections =
      dependencyOrder crossingNodes crossingConnections ∧
    checkedOrder (·.linearize?.isNone) crossingNodes [looping] = .error .cycle := by
  have hcyclic (g : Graph) (hg : g.Proper) : g.linearize?.isNone ↔ g.Cyclic := by
    rw [Option.isNone_iff_eq_none, Graph.linearize?_eq_none_iff hg]
  have hcrossing := queue_counts_edges crossingNodes crossingConnections _ hcyclic
  have hlooping := queue_counts_edges crossingNodes [looping] _ hcyclic
  exact ⟨(hcrossing.1 _ (by cbv)).1, hcrossing.2, hlooping.2.trans (by cbv)⟩

end Flowboard
