import Flowboard.Proofs.Canvas
import Flowboard.Proofs.Linear

/-! Connections between nodes as edges between their ranks on the canvas. -/
namespace Flowboard

open Canvas Relation

variable {nodes ranked : List Node} {connections : List Connection} {es : List Edge}
  {i j r s : Nat} {visited visit : List Nat}

/-- Both ends of a connection are ids of nodes. -/
def Attached (nodes : List Node) (c : Connection) : Prop :=
  Known nodes c.sourceNode ∧ Known nodes c.targetNode

/-- A connection leads from one node to another one, or to the same. -/
def Link (nodes : List Node) (connections : List Connection) (i j : Nat) : Prop :=
  ∃ c ∈ connections, Denotes nodes c.sourceNode i ∧ Denotes nodes c.targetNode j

/-- Ids follow each other when a connection leads from one to the other. -/
def Joined (connections : List Connection) (a b : String) : Prop :=
  ∃ c ∈ connections, c.sourceNode = a ∧ c.targetNode = b

/-- A node that has not been visited, after all nodes that lead to it have been. -/
structure Due (nodes : List Node) (connections : List Connection) (visited : List Nat)
    (i : Nat) : Prop where
  lt : i < nodes.length
  fresh : i ∉ visited
  freed : ∀ j, Link nodes connections j i → j ∈ visited

/-- A visit to every node, each once, in which all connections lead forward. -/
structure Topological (nodes : List Node) (connections : List Connection)
    (visit : List Nat) : Prop where
  perm : visit.Perm (List.range nodes.length)
  along : ∀ c ∈ connections, ∃ i j, Denotes nodes c.sourceNode i ∧
    Denotes nodes c.targetNode j ∧ visit.idxOf i < visit.idxOf j

namespace Order

theorem edge_eq_ok_iff {c : Connection} {e : Edge} : edge ranked c = .ok e ↔
    place? ranked c.sourceNode = some e.source ∧ place? ranked c.targetNode = some e.target := by
  obtain ⟨a, b⟩ := e
  cases hs : place? ranked c.sourceNode <;> cases ht : place? ranked c.targetNode <;>
    simp [edge, hs, ht]

/-- The source of a connection is complained about before its target. -/
theorem edge_eq_error_iff {c : Connection} {e : OrderError} : edge ranked c = .error e ↔
    (place? ranked c.sourceNode = none ∧ e = .unknownNode c.id c.sourceNode) ∨
    (place? ranked c.sourceNode ≠ none ∧ place? ranked c.targetNode = none ∧
      e = .unknownNode c.id c.targetNode) := by
  cases hs : place? ranked c.sourceNode <;> cases ht : place? ranked c.targetNode <;>
    simp [edge, hs, ht, eq_comm]

theorem edges_eq_ok_iff :
    edges ranked connections = .ok es ↔ connections.map (edge ranked) = es.map .ok := by
  induction connections generalizing es with
  | nil => cases es <;> simp [edges]
  | cons c connections ih =>
    cases hc : edge ranked c with
    | error e => cases es <;> simp [edges, hc]
    | ok e =>
      cases hr : edges ranked connections with
      | error e' =>
        cases es with
        | nil => simp [edges, hc, hr]
        | cons a es =>
          have hne : connections.map (edge ranked) ≠ es.map .ok := fun h => by
            have := ih.mpr h
            simp [hr] at this
          simp [edges, hc, hr, hne]
      | ok es' =>
        cases es with
        | nil => simp [edges, hc, hr]
        | cons a es => simp [edges, hc, hr, ← ih]

/-- The first connection with an unknown end is reported. -/
theorem edges_eq_error_iff {e : OrderError} : edges ranked connections = .error e ↔
    ∃ before c after, connections = before ++ c :: after ∧
      (∀ d ∈ before, ∃ a, edge ranked d = .ok a) ∧ edge ranked c = .error e := by
  induction connections with
  | nil => simp [edges]
  | cons c connections ih =>
    constructor
    · intro h
      cases hc : edge ranked c with
      | error e' =>
        obtain rfl : e' = e := by simpa [edges, hc] using h
        exact ⟨[], c, connections, rfl, by simp, hc⟩
      | ok a =>
        have hr : edges ranked connections = .error e := by
          cases hr : edges ranked connections <;> simp_all [edges]
        obtain ⟨before, d, after, rfl, hbefore, hd⟩ := ih.mp hr
        exact ⟨c :: before, d, after, rfl, List.forall_mem_cons.mpr ⟨⟨a, hc⟩, hbefore⟩, hd⟩
    · rintro ⟨before, d, after, hs, hbefore, hd⟩
      cases before with
      | nil =>
        obtain ⟨rfl, rfl⟩ := by simpa using hs
        simp [edges, hd]
      | cons b before =>
        obtain ⟨rfl, rfl⟩ := by simpa using hs
        obtain ⟨a, ha⟩ := hbefore c List.mem_cons_self
        have hr := ih.mpr ⟨before, d, after, rfl, (List.forall_mem_cons.mp hbefore).2, hd⟩
        simp [edges, ha, hr]

theorem mem_edges (h : edges ranked connections = .ok es) {e : Edge} :
    e ∈ es ↔ ∃ c ∈ connections, edge ranked c = .ok e := by
  have hm := congrArg (Except.ok e ∈ ·) (edges_eq_ok_iff.mp h)
  simpa [eq_comm] using hm

end Order

theorem Order.exists_edge (h : Order.edges ranked connections = .ok es) {c : Connection}
    (hc : c ∈ connections) : ∃ e, Order.edge ranked c = .ok e := by
  have hm := List.mem_map_of_mem (f := Order.edge ranked) hc
  rw [Order.edges_eq_ok_iff.mp h] at hm
  obtain ⟨e, -, he⟩ := List.mem_map.mp hm
  exact ⟨e, he.symm⟩

/-- The graph of the connections on the ranks of the nodes. -/
theorem proper_of_edges (h : Order.edges (spatialOrder nodes) connections = .ok es) :
    Graph.Proper ⟨nodes.length, es⟩ := by
  intro e he
  obtain ⟨c, -, hc⟩ := (Order.mem_edges h).mp he
  obtain ⟨hs, ht⟩ := Order.edge_eq_ok_iff.mp hc
  exact ⟨place?_lt hs, place?_lt ht⟩

/-- Ranks are joined by an edge where their nodes are joined by a connection. -/
theorem arrow_iff_link (h : Order.edges (spatialOrder nodes) connections = .ok es)
    (hr : r < nodes.length) (hs : s < nodes.length) :
    Graph.Arrow ⟨nodes.length, es⟩ r s ↔ Link nodes connections (nth nodes r) (nth nodes s) := by
  constructor
  · rintro ⟨e, he, rfl, rfl⟩
    obtain ⟨c, hm, hc⟩ := (Order.mem_edges h).mp he
    obtain ⟨hsource, htarget⟩ := Order.edge_eq_ok_iff.mp hc
    exact ⟨c, hm, (place?_eq_some_nth_iff hr).mp hsource, (place?_eq_some_nth_iff hs).mp htarget⟩
  · rintro ⟨c, hm, hsource, htarget⟩
    have hc := Order.edge_eq_ok_iff (e := ⟨r, s⟩).mpr
      ⟨(place?_eq_some_nth_iff hr).mpr hsource, (place?_eq_some_nth_iff hs).mpr htarget⟩
    exact ⟨_, (Order.mem_edges h).mpr ⟨c, hm, hc⟩, rfl, rfl⟩

/-- A rank can be taken when its node is due. -/
theorem free_iff_due (h : Order.edges (spatialOrder nodes) connections = .ok es)
    (hd : ∀ r ∈ visited, r < nodes.length) (hr : r < nodes.length) :
    Graph.Free ⟨nodes.length, es⟩ visited r ↔
      Due nodes connections (visited.map (nth nodes)) (nth nodes r) := by
  constructor
  · intro hf
    have hn : nth nodes r < nodes.length := by
      have := List.mem_of_getElem? (getElem?_indices hr)
      simpa using (indices_perm nodes).mem_iff.mp this
    refine ⟨hn, fun hm => hf.fresh ((mem_map_nth hd hr).mp hm), fun j hj => ?_⟩
    have hjlt : j < nodes.length := by
      obtain ⟨_, _, hs, _⟩ := hj
      exact hs.lt
    obtain ⟨s, hs, rfl⟩ := exists_nth hjlt
    obtain ⟨e, he, rfl, rfl⟩ := (arrow_iff_link h hs hr).mpr hj
    exact List.mem_map_of_mem (hf.freed e he rfl)
  · intro hf
    refine ⟨hr, fun hm => hf.fresh ((mem_map_nth hd hr).mpr hm), fun e he ht => ?_⟩
    have hs := (proper_of_edges h e he).1
    exact (mem_map_nth hd hs).mp (hf.freed _ ((arrow_iff_link h hs hr).mp ⟨e, he, rfl, ht⟩))

/-- Orders of the ranks along the edges are visits of the nodes along the connections. -/
theorem linear_iff_topological (h : Order.edges (spatialOrder nodes) connections = .ok es)
    (hd : ∀ r ∈ visited, r < nodes.length) :
    Graph.Linear ⟨nodes.length, es⟩ visited ↔
      Topological nodes connections (visited.map (nth nodes)) := by
  have hperm : visited.Perm (List.range nodes.length) ↔
      (visited.map (nth nodes)).Perm (List.range nodes.length) := by
    constructor
    · intro hp
      have := hp.map (nth nodes)
      rw [map_nth_range] at this
      exact this.trans (indices_perm nodes)
    · intro hp
      have hn : (visited.map (nth nodes)).Nodup := hp.nodup_iff.mpr List.nodup_range
      have hsub : visited ⊆ List.range nodes.length := fun r hr => List.mem_range.mpr (hd r hr)
      exact (List.subperm_of_subset hn.of_map hsub).perm_of_length_le (by simpa using hp.length_eq.ge)
  constructor
  · intro hl
    refine ⟨hperm.mp hl.perm, fun c hc => ?_⟩
    obtain ⟨e, he⟩ := Order.exists_edge h hc
    obtain ⟨hsource, htarget⟩ := Order.edge_eq_ok_iff.mp he
    refine ⟨nth nodes e.source, nth nodes e.target,
      (place?_eq_some_nth_iff (place?_lt hsource)).mp hsource,
      (place?_eq_some_nth_iff (place?_lt htarget)).mp htarget, ?_⟩
    rw [idxOf_map_nth hd (place?_lt hsource), idxOf_map_nth hd (place?_lt htarget)]
    exact hl.along e ((Order.mem_edges h).mpr ⟨c, hc, he⟩)
  · intro ht
    refine ⟨hperm.mpr ht.perm, fun e he => ?_⟩
    obtain ⟨c, hc, hce⟩ := (Order.mem_edges h).mp he
    obtain ⟨hsource, htarget⟩ := Order.edge_eq_ok_iff.mp hce
    obtain ⟨i, j, hi, hj, hlt⟩ := ht.along c hc
    have hs := place?_lt hsource
    have ht := place?_lt htarget
    obtain rfl := hi.unique ((place?_eq_some_nth_iff hs).mp hsource)
    obtain rfl := hj.unique ((place?_eq_some_nth_iff ht).mp htarget)
    rwa [idxOf_map_nth hd hs, idxOf_map_nth hd ht] at hlt

/-- What is greedy on ranks takes the first node on the canvas that is due. -/
theorem Greedy.due (hes : Order.edges (spatialOrder nodes) connections = .ok es)
    (hd : ∀ r ∈ visited, r < nodes.length) (hg : Graph.Greedy ⟨nodes.length, es⟩ [] visited)
    {before after : List Nat} (hv : visited.map (nth nodes) = before ++ i :: after) :
    Due nodes connections before i ∧
      ∀ j, Due nodes connections before j → j = i ∨ Before nodes i j := by
  obtain ⟨rs, rest, rfl, rfl, hrest⟩ := List.map_eq_append_iff.mp hv
  obtain ⟨r, ts, rfl, rfl, -⟩ := List.map_eq_cons_iff.mp hrest
  have hrs : ∀ s ∈ rs, s < nodes.length := fun s hs => hd s (by simp [hs])
  have hr : r < nodes.length := hd r (by simp)
  obtain ⟨hfree, hleast⟩ := hg.split
  refine ⟨(free_iff_due hes hrs hr).mp hfree, fun j hj => ?_⟩
  obtain ⟨s, hs, rfl⟩ := exists_nth hj.lt
  obtain heq | hlt := Nat.eq_or_lt_of_le (hleast s ((free_iff_due hes hrs hs).mpr hj))
  · exact Or.inl (heq ▸ rfl)
  · exact Or.inr ((before_nth_iff hr hs).mpr hlt)

/-- An order of ranks that comes before another one visits nodes that come before on the canvas. -/
theorem lex_map_nth {other : List Nat} (hd : ∀ r ∈ visited, r < nodes.length)
    (ho : ∀ r ∈ other, r < nodes.length) (h : List.Lex (· < ·) visited other) :
    List.Lex (Before nodes) (visited.map (nth nodes)) (other.map (nth nodes)) := by
  induction h with
  | nil => exact .nil
  | @rel r _ s _ hlt =>
    exact .rel ((before_nth_iff (hd r List.mem_cons_self) (ho s List.mem_cons_self)).mpr hlt)
  | cons _ ih =>
    exact .cons (ih (List.forall_mem_cons.mp hd).2 (List.forall_mem_cons.mp ho).2)

theorem place?_isSome_iff {id : String} :
    (∃ r, Order.place? (spatialOrder nodes) id = some r) ↔ Known nodes id := by
  rw [← Option.isSome_iff_exists, ← Option.ne_none_iff_isSome, ne_eq, place?_eq_none_iff, not_not]

theorem edge_ok_iff_attached {c : Connection} :
    (∃ e, Order.edge (spatialOrder nodes) c = .ok e) ↔ Attached nodes c := by
  simp only [Order.edge_eq_ok_iff, Attached, ← place?_isSome_iff]
  exact ⟨fun ⟨e, hs, ht⟩ => ⟨⟨_, hs⟩, ⟨_, ht⟩⟩, fun ⟨⟨r, hr⟩, ⟨s, hs⟩⟩ => ⟨⟨r, s⟩, hr, hs⟩⟩

/-- There are edges if every connection is attached. -/
theorem edges_ok_iff_attached : (∃ es, Order.edges (spatialOrder nodes) connections = .ok es) ↔
    ∀ c ∈ connections, Attached nodes c := by
  refine ⟨fun ⟨es, hes⟩ c hc => edge_ok_iff_attached.mp (Order.exists_edge hes hc), fun h => ?_⟩
  cases hes : Order.edges (spatialOrder nodes) connections with
  | ok es => exact ⟨es, rfl⟩
  | error e =>
    obtain ⟨before, c, after, rfl, -, hc⟩ := Order.edges_eq_error_iff.mp hes
    obtain ⟨a, ha⟩ := edge_ok_iff_attached.mpr (h c (by simp))
    simp [ha] at hc

theorem lt_of_transGen (hes : Order.edges (spatialOrder nodes) connections = .ok es)
    (h : TransGen (Graph.Arrow ⟨nodes.length, es⟩) r s) : r < nodes.length ∧ s < nodes.length := by
  induction h with
  | single ha =>
    obtain ⟨e, he, rfl, rfl⟩ := ha
    exact proper_of_edges hes e he
  | tail _ ha ih =>
    obtain ⟨e, he, rfl, rfl⟩ := ha
    exact ⟨ih.1, (proper_of_edges hes e he).2⟩

/-- One rank can be reached from another along the edges where the one node can from the other along
the connections. -/
theorem reaches_iff_link (hes : Order.edges (spatialOrder nodes) connections = .ok es)
    (hr : r < nodes.length) (hs : s < nodes.length) :
    TransGen (Graph.Arrow ⟨nodes.length, es⟩) r s ↔
      TransGen (Link nodes connections) (nth nodes r) (nth nodes s) := by
  constructor
  · intro h
    refine h.lift (nth nodes) fun a b hab => ?_
    obtain ⟨ha, hb⟩ := lt_of_transGen hes (.single hab)
    exact (arrow_iff_link hes ha hb).mp hab
  · have hpath : ∀ j, TransGen (Link nodes connections) (nth nodes r) j →
        ∃ s < nodes.length, nth nodes s = j ∧ TransGen (Graph.Arrow ⟨nodes.length, es⟩) r s := by
      intro j hj
      induction hj with
      | single hl =>
        obtain ⟨c, hc, ha, hb⟩ := hl
        obtain ⟨s, hs, rfl⟩ := exists_nth hb.lt
        exact ⟨s, hs, rfl, .single ((arrow_iff_link hes hr hs).mpr ⟨c, hc, ha, hb⟩)⟩
      | tail _ hl ih =>
        obtain ⟨m, hm, rfl, hrm⟩ := ih
        obtain ⟨c, hc, ha, hb⟩ := hl
        obtain ⟨s, hs, rfl⟩ := exists_nth hb.lt
        exact ⟨s, hs, rfl, hrm.tail ((arrow_iff_link hes hm hs).mpr ⟨c, hc, ha, hb⟩)⟩
    intro h
    obtain ⟨s', hs', hsame, hrs⟩ := hpath _ h
    obtain rfl := nth_inj hs' hs hsame
    exact hrs

/-- The cycles of the graph are those of the connections. -/
theorem cyclic_iff_link (hes : Order.edges (spatialOrder nodes) connections = .ok es) :
    Graph.Cyclic ⟨nodes.length, es⟩ ↔ ∃ i, TransGen (Link nodes connections) i i := by
  constructor
  · rintro ⟨r, hr⟩
    have hlt := (lt_of_transGen hes hr).1
    exact ⟨nth nodes r, (reaches_iff_link hes hlt hlt).mp hr⟩
  · rintro ⟨i, hi⟩
    obtain ⟨j, -, c, hc, ha, hb⟩ := TransGen.tail'_iff.mp hi
    obtain ⟨r, hr, rfl⟩ := exists_nth hb.lt
    exact ⟨r, (reaches_iff_link hes hr hr).mpr hi⟩

theorem exists_denotes {id : String} (h : Known nodes id) : ∃ i, Denotes nodes id i := by
  obtain ⟨r, hr⟩ := place?_isSome_iff.mpr h
  exact ⟨nth nodes r, (place?_eq_some_nth_iff (place?_lt hr)).mp hr⟩

theorem Canvas.Denotes.id_unique {a b : String} (ha : Denotes nodes a i) (hb : Denotes nodes b i) :
    a = b := by
  obtain ⟨n, hn, rfl⟩ := ha.carries
  obtain ⟨m, hm, rfl⟩ := hb.carries
  obtain rfl := Option.some.inj (hn.symm.trans hm)
  rfl

/-- One node can be reached from another where the id that means the one can be reached from an id
that means the other. -/
theorem transGen_link_iff_joined (h : ∀ c ∈ connections, Attached nodes c) :
    TransGen (Link nodes connections) i j ↔ ∃ a b, Denotes nodes a i ∧ Denotes nodes b j ∧
      TransGen (Joined connections) a b := by
  constructor
  · intro hij
    induction hij with
    | single hl =>
      obtain ⟨c, hc, ha, hb⟩ := hl
      exact ⟨_, _, ha, hb, .single ⟨c, hc, rfl, rfl⟩⟩
    | tail _ hl ih =>
      obtain ⟨a, m, ha, hm, ham⟩ := ih
      obtain ⟨c, hc, hm', hb⟩ := hl
      obtain rfl := hm.id_unique hm'
      exact ⟨a, _, ha, hb, ham.tail ⟨c, hc, rfl, rfl⟩⟩
  · rintro ⟨a, b, ha, hb, hab⟩
    induction hab generalizing j with
    | single hl =>
      obtain ⟨c, hc, rfl, rfl⟩ := hl
      exact .single ⟨c, hc, ha, hb⟩
    | tail _ hl ih =>
      obtain ⟨c, hc, rfl, rfl⟩ := hl
      obtain ⟨m, hm⟩ := exists_denotes (h c hc).1
      exact (ih hm).tail ⟨c, hc, hm, hb⟩

/-- A cycle among ids is one among the nodes that they mean, and the other way round. -/
theorem cycle_link_iff_joined (h : ∀ c ∈ connections, Attached nodes c) :
    (∃ i, TransGen (Link nodes connections) i i) ↔
      ∃ id, TransGen (Joined connections) id id := by
  constructor
  · rintro ⟨i, hi⟩
    obtain ⟨a, b, ha, hb, hab⟩ := (transGen_link_iff_joined h).mp hi
    obtain rfl := ha.id_unique hb
    exact ⟨a, hab⟩
  · rintro ⟨id, hid⟩
    obtain ⟨b, -, c, hc, -, rfl⟩ := TransGen.tail'_iff.mp hid
    obtain ⟨i, hi⟩ := exists_denotes (h c hc).2
    exact ⟨i, (transGen_link_iff_joined h).mpr ⟨_, _, hi, hi, hid⟩⟩

end Flowboard
