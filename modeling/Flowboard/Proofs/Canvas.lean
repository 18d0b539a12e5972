import Flowboard.Order.Dependency
import Mathlib.Data.List.Nodup
import Mathlib.Data.List.Pairwise
import Mathlib.Data.Prod.Lex

/-! Where the nodes of a list stand in the order of the canvas, and which of them an id means. -/
namespace Flowboard.Canvas

variable {nodes : List Node} {id : String} {i j k r s : Nat} {visited : List Nat}

/-- What decides about the order of the node at an index of the list: how high it stands, then how
far to the left, and for nodes in the same place the index. -/
def spot (n : Node) (i : Nat) : Int ×ₗ Int ×ₗ Nat :=
  toLex (n.position.y.rank, toLex (n.position.x.rank, i))

/-- The nodes at two indices stand on the canvas in this order. -/
def Before (nodes : List Node) (i j : Nat) : Prop :=
  ∃ a b, nodes[i]? = some a ∧ nodes[j]? = some b ∧ spot a i < spot b j

/-- An id means, of the nodes that carry it, the first one on the canvas. -/
structure Denotes (nodes : List Node) (id : String) (i : Nat) : Prop where
  carries : ∃ n, nodes[i]? = some n ∧ n.id = id
  first : ∀ j n, nodes[j]? = some n → n.id = id → j = i ∨ Before nodes i j

/-- Some node carries the id. -/
def Known (nodes : List Node) (id : String) : Prop :=
  ∃ n ∈ nodes, n.id = id

/-- The nodes with their indices, as they stand on the canvas. -/
def ranking (nodes : List Node) : List (Node × Nat) :=
  nodes.zipIdx.mergeSort (List.zipIdxLE fun a b => a.position.le b.position)

/-- The indices of the nodes in the order of the canvas. -/
def indices (nodes : List Node) : List Nat :=
  (ranking nodes).map (·.2)

theorem position_le_trans (a b c : Position) (hab : a.le b) (hbc : b.le c) : a.le c := by
  simp only [Position.le, Bool.or_eq_true, Bool.and_eq_true, decide_eq_true_eq, beq_iff_eq] at *
  omega

theorem position_le_total (a b : Position) : a.le b || b.le a := by
  simp only [Position.le, Bool.or_eq_true, Bool.and_eq_true, decide_eq_true_eq, beq_iff_eq]
  omega

theorem zipIdxLE_iff (a b : Node) (i j : Nat) :
    List.zipIdxLE (fun a b : Node => a.position.le b.position) (a, i) (b, j) ↔
      spot a i ≤ spot b j := by
  simp only [List.zipIdxLE, spot, Prod.Lex.toLex_le_toLex, Position.le]
  grind

theorem mem_ranking {p : Node × Nat} : p ∈ ranking nodes ↔ nodes[p.2]? = some p.1 := by
  simp [ranking, List.mem_zipIdx_iff_getElem?]

/-- Each index stands in the order once. -/
theorem indices_perm (nodes : List Node) : (indices nodes).Perm (List.range nodes.length) := by
  have h := (List.mergeSort_perm nodes.zipIdx
    (List.zipIdxLE fun a b => a.position.le b.position)).map (·.2)
  rwa [List.zipIdx_map_snd, ← List.range_eq_range'] at h

/-- The indices tell the nodes of equal places apart, so that their order is strict. -/
theorem indices_pairwise (nodes : List Node) : (indices nodes).Pairwise (Before nodes) := by
  have hsorted : (ranking nodes).Pairwise fun p q =>
      List.zipIdxLE (fun a b : Node => a.position.le b.position) p q := by
    apply List.pairwise_mergeSort
    · exact List.zipIdxLE_trans fun a b c => position_le_trans a.position b.position c.position
    · exact List.zipIdxLE_total fun a b => position_le_total a.position b.position
  have hle : (ranking nodes).Pairwise fun p q => spot p.1 p.2 ≤ spot q.1 q.2 :=
    hsorted.imp fun {p q} h => (zipIdxLE_iff p.1 q.1 p.2 q.2).mp h
  have hne : (ranking nodes).Pairwise fun p q => p.2 ≠ q.2 :=
    List.pairwise_map.mp ((indices_perm nodes).nodup_iff.mpr List.nodup_range)
  refine List.pairwise_map.mpr ((hle.and hne).imp_of_mem fun {p q} hp hq h => ?_)
  refine ⟨p.1, q.1, mem_ranking.mp hp, mem_ranking.mp hq, lt_of_le_of_ne h.1 fun he => h.2 ?_⟩
  simpa [spot] using congrArg (fun t => (ofLex (ofLex t).2).2) he

theorem spatialOrder_perm (nodes : List Node) : (spatialOrder nodes).Perm nodes :=
  List.mergeSort_perm _ _

/-- The order of the canvas visits the nodes at the indices in their order. -/
theorem map_spatialOrder (nodes : List Node) :
    (spatialOrder nodes).map some = (indices nodes).map (nodes[·]?) := by
  have h : spatialOrder nodes = (ranking nodes).map (·.1) := List.mergeSort_zipIdx.symm
  rw [h, indices, List.map_map, List.map_map]
  exact List.map_congr_left fun p hp => (mem_ranking.mp hp).symm

theorem spatialOrder_getElem? (nodes : List Node) (r : Nat) :
    (spatialOrder nodes)[r]? = ((indices nodes)[r]?).bind (nodes[·]?) := by
  have h := congrArg (·[r]?) (map_spatialOrder nodes)
  simp only [List.getElem?_map] at h
  cases hs : (spatialOrder nodes)[r]? <;> cases hi : (indices nodes)[r]? <;> simp_all

theorem not_before_self : ¬ Before nodes i i := by
  rintro ⟨a, b, ha, hb, h⟩
  obtain rfl := Option.some.inj (ha.symm.trans hb)
  exact lt_irrefl _ h

theorem Before.trans (h : Before nodes i j) (h' : Before nodes j k) : Before nodes i k := by
  obtain ⟨a, b, ha, hb, hab⟩ := h
  obtain ⟨b', c, hb', hc, hbc⟩ := h'
  obtain rfl := Option.some.inj (hb.symm.trans hb')
  exact ⟨a, c, ha, hc, lt_trans hab hbc⟩

theorem before_of_lt (hr : (indices nodes)[r]? = some i) (hs : (indices nodes)[s]? = some j)
    (h : r < s) : Before nodes i j := by
  obtain ⟨hrlt, rfl⟩ := List.getElem?_eq_some_iff.mp hr
  obtain ⟨hslt, rfl⟩ := List.getElem?_eq_some_iff.mp hs
  exact List.pairwise_iff_getElem.mp (indices_pairwise nodes) r s hrlt hslt h

/-- Of two indices the one of the lesser rank stands before the other one. -/
theorem before_iff_lt (hr : (indices nodes)[r]? = some i) (hs : (indices nodes)[s]? = some j) :
    Before nodes i j ↔ r < s := by
  refine ⟨fun h => ?_, before_of_lt hr hs⟩
  by_contra hle
  obtain heq | hlt := Nat.eq_or_lt_of_le (Nat.le_of_not_lt hle)
  · subst heq
    obtain rfl := Option.some.inj (hr.symm.trans hs)
    exact not_before_self h
  · exact not_before_self (h.trans (before_of_lt hs hr hlt))

theorem exists_rank (hi : i < nodes.length) : ∃ r : Nat, (indices nodes)[r]? = some i := by
  have hm : i ∈ indices nodes := (indices_perm nodes).mem_iff.mpr (List.mem_range.mpr hi)
  exact List.mem_iff_getElem?.mp hm

theorem Denotes.lt (h : Denotes nodes id i) : i < nodes.length := by
  obtain ⟨n, hn, -⟩ := h.carries
  exact (List.getElem?_eq_some_iff.mp hn).1

theorem Denotes.known (h : Denotes nodes id i) : Known nodes id := by
  obtain ⟨n, hn, hid⟩ := h.carries
  exact ⟨n, List.mem_of_getElem? hn, hid⟩

/-- Where ids are not shared, each means the node that carries it. -/
theorem denotes_of_nodup (hids : (nodes.map (·.id)).Nodup) {n : Node} (hn : nodes[i]? = some n) :
    Denotes nodes n.id i := by
  refine ⟨⟨n, hn, rfl⟩, fun j m hm hid => Or.inl ?_⟩
  have hj : j < (nodes.map (·.id)).length := by
    simpa using (List.getElem?_eq_some_iff.mp hm).1
  exact (List.getElem?_inj hj hids).mp (by simp [hm, hn, hid])

theorem Denotes.unique (h : Denotes nodes id i) (h' : Denotes nodes id j) : i = j := by
  obtain ⟨n, hn, hni⟩ := h.carries
  obtain ⟨m, hm, hmi⟩ := h'.carries
  obtain rfl | hij := h.first j m hm hmi
  · rfl
  · obtain rfl | hji := h'.first i n hn hni
    · rfl
    · exact (not_before_self (hij.trans hji)).elim

/-- The place of an id in the order of the canvas is that of the node it means. -/
theorem place?_eq_some_iff (hr : (indices nodes)[r]? = some i) :
    Order.place? (spatialOrder nodes) id = some r ↔ Denotes nodes id i := by
  have hnode : (spatialOrder nodes)[r]? = nodes[i]? := by simp [spatialOrder_getElem?, hr]
  rw [Order.place?, List.findIdx?_eq_some_iff_getElem]
  constructor
  · rintro ⟨hlt, hid, hfirst⟩
    rw [List.getElem?_eq_getElem hlt] at hnode
    refine ⟨⟨_, hnode.symm, beq_iff_eq.mp hid⟩, fun j n hn hni => ?_⟩
    obtain ⟨s, hs⟩ := exists_rank (List.getElem?_eq_some_iff.mp hn).1
    obtain hrs | rfl | hsr := Nat.lt_trichotomy r s
    · exact Or.inr (before_of_lt hr hs hrs)
    · exact Or.inl (Option.some.inj (hs.symm.trans hr))
    · have hsn : (spatialOrder nodes)[s]? = some n := by simp [spatialOrder_getElem?, hs, hn]
      obtain ⟨hs', rfl⟩ := List.getElem?_eq_some_iff.mp hsn
      exact (hfirst s hsr (beq_iff_eq.mpr hni)).elim
  · rintro ⟨⟨n, hn, hni⟩, hfirst⟩
    rw [hn] at hnode
    obtain ⟨hlt, rfl⟩ := List.getElem?_eq_some_iff.mp hnode
    refine ⟨hlt, beq_iff_eq.mpr hni, fun s hsr hsi => ?_⟩
    have hs : s < (indices nodes).length := by
      have := (List.getElem?_eq_some_iff.mp hr).1
      omega
    have hsn : (spatialOrder nodes)[s]? = nodes[(indices nodes)[s]]? := by
      simp [spatialOrder_getElem?, hs]
    rw [List.getElem?_eq_getElem (Nat.lt_trans hsr hlt)] at hsn
    -- a node of lower rank with the same id would be the one that is meant
    have hsr' : Before nodes (indices nodes)[s] i :=
      before_of_lt (List.getElem?_eq_getElem hs) hr hsr
    obtain heq | hrs := hfirst _ _ hsn.symm (beq_iff_eq.mp hsi)
    · exact not_before_self (heq ▸ hsr')
    · exact not_before_self (hsr'.trans hrs)

theorem place?_eq_none_iff :
    Order.place? (spatialOrder nodes) id = none ↔ ¬ Known nodes id := by
  simp [Order.place?, Known, spatialOrder]

/-- The index of the node of a rank. -/
def nth (nodes : List Node) (r : Nat) : Nat :=
  ((indices nodes)[r]?).getD 0

theorem getElem?_indices (hr : r < nodes.length) : (indices nodes)[r]? = some (nth nodes r) := by
  have hl : r < (indices nodes).length := by simpa [(indices_perm nodes).length_eq] using hr
  simp [nth, hl]

theorem exists_nth (hi : i < nodes.length) : ∃ r < nodes.length, nth nodes r = i := by
  obtain ⟨r, hr⟩ := exists_rank hi
  have hl := (List.getElem?_eq_some_iff.mp hr).1
  rw [(indices_perm nodes).length_eq, List.length_range] at hl
  exact ⟨r, hl, by simp [nth, hr]⟩

theorem exists_map_nth (h : ∀ i ∈ visited, i < nodes.length) :
    ∃ rs : List Nat, (∀ r ∈ rs, r < nodes.length) ∧ rs.map (nth nodes) = visited := by
  induction visited with
  | nil => exact ⟨[], by simp, rfl⟩
  | cons i visited ih =>
    obtain ⟨hi, hv⟩ := List.forall_mem_cons.mp h
    obtain ⟨r, hr, rfl⟩ := exists_nth hi
    obtain ⟨rs, hrs, rfl⟩ := ih hv
    exact ⟨r :: rs, List.forall_mem_cons.mpr ⟨hr, hrs⟩, rfl⟩

theorem before_nth_iff (hr : r < nodes.length) (hs : s < nodes.length) :
    Before nodes (nth nodes r) (nth nodes s) ↔ r < s :=
  before_iff_lt (getElem?_indices hr) (getElem?_indices hs)

theorem nth_inj (hr : r < nodes.length) (hs : s < nodes.length) (h : nth nodes r = nth nodes s) :
    r = s := by
  obtain hrs | he | hsr := Nat.lt_trichotomy r s
  · exact (not_before_self (h ▸ (before_nth_iff hr hs).mpr hrs)).elim
  · exact he
  · exact (not_before_self (h ▸ (before_nth_iff hs hr).mpr hsr)).elim

/-- The ranks from the least one on give the indices in the order of the canvas. -/
theorem map_nth_range (nodes : List Node) :
    (List.range nodes.length).map (nth nodes) = indices nodes := by
  apply List.ext_getElem?
  intro r
  by_cases hr : r < nodes.length
  · simp [hr, getElem?_indices hr]
  · have hl : (indices nodes).length ≤ r := by
      rw [(indices_perm nodes).length_eq, List.length_range]
      omega
    simp [hr, List.getElem?_eq_none hl]

theorem mem_map_nth (hd : ∀ r ∈ visited, r < nodes.length) (hr : r < nodes.length) :
    nth nodes r ∈ visited.map (nth nodes) ↔ r ∈ visited := by
  refine ⟨fun h => ?_, List.mem_map_of_mem⟩
  obtain ⟨s, hs, he⟩ := List.mem_map.mp h
  exact nth_inj (hd s hs) hr he ▸ hs

theorem idxOf_map_nth (hd : ∀ r ∈ visited, r < nodes.length) (hr : r < nodes.length) :
    (visited.map (nth nodes)).idxOf (nth nodes r) = visited.idxOf r := by
  induction visited with
  | nil => rfl
  | cons s visited ih =>
    obtain ⟨hs, hd⟩ := List.forall_mem_cons.mp hd
    by_cases he : s = r
    · subst he
      simp
    · have hne : nth nodes s ≠ nth nodes r := fun h => he (nth_inj hs hr h)
      simp [List.idxOf_cons_ne, he, hne, ih hd]

/-- The place of an id is the rank of the node that it means. -/
theorem place?_eq_some_nth_iff {id : String} (hr : r < nodes.length) :
    Order.place? (spatialOrder nodes) id = some r ↔ Denotes nodes id (nth nodes r) :=
  place?_eq_some_iff (getElem?_indices hr)

theorem place?_lt {id : String} (h : Order.place? (spatialOrder nodes) id = some r) :
    r < nodes.length := by
  obtain ⟨hl, -⟩ := List.findIdx?_eq_some_iff_getElem.mp h
  simpa [spatialOrder] using hl

end Flowboard.Canvas
