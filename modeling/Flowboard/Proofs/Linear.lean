import Flowboard.Proofs.Queue

/-! Orders of the vertices along the edges: which one is found, and when there is none. -/
namespace Flowboard.Graph

open Relation

variable {g : Graph} {q : Queue} {u v : Nat} {done rest order other : List Nat}

/-- All vertices, each once, and of each edge the source before the target. -/
structure Linear (g : Graph) (order : List Nat) : Prop where
  perm : order.Perm (List.range g.size)
  along : ∀ e ∈ g.edges, order.idxOf e.source < order.idxOf e.target

def Arrow (g : Graph) (u v : Nat) : Prop :=
  ∃ e ∈ g.edges, e.source = u ∧ e.target = v

/-- Some vertex can be reached from itself along one or more edges. -/
def Cyclic (g : Graph) : Prop :=
  ∃ v, TransGen g.Arrow v v

theorem Linear.transGen (h : g.Linear order) (hp : TransGen g.Arrow u v) :
    order.idxOf u < order.idxOf v := by
  induction hp with
  | single ha =>
    obtain ⟨e, he, rfl, rfl⟩ := ha
    exact h.along e he
  | tail _ ha ih =>
    obtain ⟨e, he, rfl, rfl⟩ := ha
    exact Nat.lt_trans ih (h.along e he)

theorem Linear.not_cyclic (h : g.Linear order) : ¬ g.Cyclic := by
  rintro ⟨v, hv⟩
  exact Nat.lt_irrefl _ (h.transGen hv)

/-- In an order along the edges each vertex can be taken when its turn comes. -/
theorem Linear.free (h : g.Linear order) (hs : order = done ++ v :: rest) : g.Free done v := by
  have hn : order.Nodup := h.perm.nodup_iff.mpr List.nodup_range
  have hv : v < g.size := by simpa [hs] using h.perm.mem_iff (a := v)
  have hfresh : v ∉ done := by
    rw [hs, List.nodup_append] at hn
    exact fun hm => hn.2.2 v hm v List.mem_cons_self rfl
  refine ⟨hv, hfresh, fun e he ht => ?_⟩
  have hlt := h.along e he
  rw [ht, hs, List.idxOf_append_of_notMem hfresh, List.idxOf_cons_self, Nat.add_zero] at hlt
  by_contra hm
  rw [List.idxOf_append_of_notMem hm] at hlt
  omega

theorem Greedy.split {before after : List Nat} (h : g.Greedy done (before ++ v :: after)) :
    g.Free (done ++ before) v ∧ ∀ u, g.Free (done ++ before) u → v ≤ u := by
  induction before generalizing done with
  | nil => simpa using h.1
  | cons w before ih => simpa using ih h.2

/-- All vertices have been taken, each when it could be: they stand in an order along the edges. -/
theorem After.linear (h : g.After order q) (hg : g.Proper) (hgreedy : g.Greedy [] order)
    (hl : order.length = g.size) : g.Linear order := by
  have hsub : order ⊆ List.range g.size := fun v hv => List.mem_range.mpr (h.lt v hv)
  have hperm : order.Perm (List.range g.size) :=
    (List.subperm_of_subset h.nodup hsub).perm_of_length_le (by simp [hl])
  refine ⟨hperm, fun e he => ?_⟩
  have hmem : e.target ∈ order := hperm.mem_iff.mpr (List.mem_range.mpr (hg e he).2)
  obtain ⟨before, after, rfl⟩ := List.append_of_mem hmem
  have hfree := hgreedy.split.1
  rw [List.nil_append] at hfree
  have hs : e.source ∈ before := hfree.freed e he rfl
  rw [List.idxOf_append_of_mem hs, List.idxOf_append_of_notMem hfree.fresh]
  exact Nat.lt_of_lt_of_le (List.idxOf_lt_length_iff.mpr hs) (Nat.le_add_right _ _)

/-- Where no cycle goes through the vertices that are left, one that leads to each of them can be
taken. -/
theorem exists_free (hg : g.Proper) (hc : ¬ g.Cyclic) (hv : v < g.size) (hd : v ∉ done) :
    ∃ u, g.Free done u ∧ ReflTransGen g.Arrow u v := by
  let before (a b : Fin g.size) : Prop := TransGen g.Arrow a b
  have : IsTrans (Fin g.size) before := ⟨fun _ _ _ hab hbc => TransGen.trans hab hbc⟩
  have : Std.Irrefl before := ⟨fun a ha => hc ⟨a, ha⟩⟩
  have hwf : WellFounded before := Finite.wellFounded_of_trans_of_irrefl before
  obtain ⟨u, ⟨hu, hpath⟩, hmin⟩ :=
    hwf.has_min {a | a.val ∉ done ∧ ReflTransGen g.Arrow a.val v} ⟨⟨v, hv⟩, hd, .refl⟩
  refine ⟨u, ⟨u.isLt, hu, fun e he ht => ?_⟩, hpath⟩
  have hstep : g.Arrow e.source u := ⟨e, he, rfl, ht⟩
  by_contra hs
  exact hmin ⟨e.source, (hg e he).1⟩ ⟨hs, .head hstep hpath⟩ (.single hstep)

/-- The order that is found goes along the edges, and each vertex in it is the least one that can
stand there. -/
theorem linearize?_eq_some (hg : g.Proper) (h : g.linearize? = some order) :
    g.Linear order ∧ g.Greedy [] order := by
  obtain ⟨q, htaken, -⟩ := Taken.start.take (g := g) g.size
  simp only [linearize?, Option.ite_none_right_eq_some, Option.some.injEq] at h
  obtain ⟨hl, rfl⟩ := h
  exact ⟨(htaken.after hg).linear hg (htaken.greedy hg) hl, htaken.greedy hg⟩

/-- There is no order just for graphs with a cycle: when the queue is empty too early, no vertex
that is left can be taken. -/
theorem linearize?_eq_none_iff (hg : g.Proper) : g.linearize? = none ↔ g.Cyclic := by
  constructor
  · intro h
    by_contra hc
    obtain ⟨q, htaken, hend⟩ := Taken.start.take (g := g) g.size
    simp only [linearize?, ite_eq_right_iff, reduceCtorEq, imp_false] at h
    rw [List.nil_append] at htaken
    have hlt := Nat.lt_of_le_of_ne (htaken.after hg).length_le h
    have hleft : ∃ v < g.size, v ∉ g.take g.size g.start := by
      by_contra hall
      push Not at hall
      have hle := (List.subperm_of_subset List.nodup_range
        fun v hv => hall v (List.mem_range.mp hv)).length_le
      rw [List.length_range] at hle
      omega
    obtain ⟨v, hv, hd⟩ := hleft
    obtain ⟨u, hu, -⟩ := exists_free hg hc hv hd
    exact (htaken.free_iff hg).mp (hend hlt) u hu
  · intro hc
    cases h : g.linearize? with
    | none => rfl
    | some order => exact ((linearize?_eq_some hg h).1.not_cyclic hc).elim

/-- The vertices of a graph are taken one after the other, each once, as long as one is ready, and
that ends. -/
structure TakesAll (g : Graph) : Prop where
  follows : ∀ done q v q', g.Taken done q → g.next? q = some (v, q') → g.Taken (done ++ [v]) q'
  exact : ∀ done q, g.Taken done q → q.Exact g done
  careful : ∀ done q, g.Taken done q → q.Careful g done
  bounded : ∀ done q, g.Taken done q → done.length ≤ g.size
  ended : ∀ done q, g.Taken done q → q.ready = [] →
    (∀ fuel, g.size ≤ fuel → g.take fuel g.start = done) ∧ (done.length = g.size ↔ ¬ g.Cyclic)
  ends : ∀ done q, g.Taken done q → ∃ more q', g.Taken (done ++ more) q' ∧ q'.ready = []

theorem length_take_eq_size_iff (hg : g.Proper) :
    (g.take g.size g.start).length = g.size ↔ ¬ g.Cyclic := by
  rw [← linearize?_eq_none_iff hg]
  simp [linearize?]

theorem takesAll (hg : g.Proper) : g.TakesAll := by
  refine ⟨fun _ _ _ _ h => h.of_next?, fun _ _ h => (h.after hg).exact,
    fun _ _ h => (h.after hg).careful hg, fun _ _ h => (h.after hg).length_le,
    fun done q h hq => ⟨fun fuel hfuel => ?_, ?_⟩, fun done q h => ?_⟩
  · exact (h.eq_take hg hq hfuel).symm
  · rw [h.eq_take hg hq le_rfl, length_take_eq_size_iff hg]
  · obtain ⟨q', htaken, hend⟩ := h.take (g.size + 1)
    have hle := (htaken.after hg).length_le
    rw [List.length_append] at hle
    exact ⟨_, q', htaken, hend (by omega)⟩

/-- Where two orders first differ, the greedy one has the lesser vertex. -/
theorem Greedy.least_of_suffix (h : g.Greedy done rest) (ho : g.Linear (done ++ other))
    (hl : rest.length = other.length) : rest = other ∨ List.Lex (· < ·) rest other := by
  induction rest generalizing done other with
  | nil => exact Or.inl (List.length_eq_zero_iff.mp hl.symm).symm
  | cons v rest ih =>
    cases other with
    | nil => simp at hl
    | cons w other =>
      obtain ⟨⟨_, hleast⟩, htail⟩ := h
      obtain hlt | rfl := Nat.lt_or_eq_of_le (hleast w (ho.free rfl))
      · exact Or.inr (.rel hlt)
      · obtain rfl | hlex := ih htail (by simpa using ho) (by simpa using hl)
        · exact Or.inl rfl
        · exact Or.inr (.cons hlex)

theorem Greedy.least (h : g.Greedy [] order) (hl : g.Linear order) (ho : g.Linear other) :
    order = other ∨ List.Lex (· < ·) order other := by
  have hlen : order.length = other.length := by rw [hl.perm.length_eq, ho.perm.length_eq]
  exact h.least_of_suffix ho hlen

theorem Free.mono (h : g.Free done v) (hd : done ⊆ other) (hv : v ∉ other) : g.Free other v :=
  ⟨h.lt, hv, fun e he ht => hd (h.freed e he ht)⟩

theorem idxOf_range {n : Nat} (hv : v < n) : (List.range n).idxOf v = v := by
  have h := List.nodup_range.idxOf_getElem v (by simpa using hv)
  rwa [List.getElem_range] at h

/-- Vertices are taken by their numbers if each can be taken once the lesser ones have been. -/
theorem Greedy.eq_range (h : g.Greedy [] order) (hl : g.Linear order)
    (hnext : ∀ v rest, order = List.range v ++ rest → v < g.size → g.Free (List.range v) v) :
    order = List.range g.size := by
  have hlen : order.length = g.size := by simpa using hl.perm.length_eq
  have htake : ∀ v ≤ g.size, order.take v = List.range v := by
    intro v hv
    induction v with
    | zero => simp
    | succ v ih =>
      obtain ⟨w, rest, hw⟩ : ∃ w rest, order.drop v = w :: rest :=
        List.exists_cons_of_length_pos (by rw [List.length_drop]; omega)
      have hs : order = List.range v ++ w :: rest := by
        rw [← ih (by omega), ← hw, List.take_append_drop]
      obtain ⟨hfree, hleast⟩ := (hs ▸ h).split
      have hle := hleast v (hnext v _ hs (by omega))
      have hge : v ≤ w := by simpa using hfree.fresh
      obtain rfl : v = w := by omega
      rw [hs, List.range_succ]
      simp [List.take_append]
  rw [← htake g.size le_rfl, ← hlen, List.take_length]

/-- What is taken while a vertex could be taken is less than it. -/
theorem Greedy.lt_of_waits {first before after : List Nat}
    (h : g.Greedy [] (first ++ (before ++ u :: after))) (hu : g.Free first u)
    (hfresh : u ∉ first ++ before) (hv : v ∈ before) : v < u := by
  obtain ⟨earlier, later, rfl⟩ := List.append_of_mem hv
  have hsub : first ++ earlier ⊆ first ++ (earlier ++ v :: later) := by
    simp [← List.append_assoc]
  have hfree := hu.mono (List.subset_append_left _ earlier) fun he => hfresh (hsub he)
  have hsplit : first ++ ((earlier ++ v :: later) ++ u :: after) =
      (first ++ earlier) ++ v :: (later ++ u :: after) := by simp
  have hle := (hsplit ▸ h).split.2 u hfree
  exact Nat.lt_of_le_of_ne hle fun he => hfresh (by simp [he])

/-- While a vertex waits for a greater one, vertices less than that one stand before it, and not all
of them do. -/
theorem Greedy.idxOf_lt (h : g.Greedy [] order) (hl : g.Linear order)
    (hs : order = List.range v ++ rest) (hu : g.Free (List.range v) u)
    (hp : TransGen g.Arrow u v) : order.idxOf u < u := by
  have hlt : v < u := by
    have hne : v ≠ u := fun he => hl.not_cyclic ⟨v, by rwa [← he] at hp⟩
    have hle : v ≤ u := by simpa using hu.fresh
    omega
  have hrest : u ∈ rest := by
    have hm := hl.perm.mem_iff.mpr (List.mem_range.mpr hu.lt)
    rw [hs] at hm
    exact (List.mem_append.mp hm).resolve_left hu.fresh
  obtain ⟨before, after, rfl⟩ := List.append_of_mem hrest
  rw [← List.append_assoc] at hs
  have hnodup := List.nodup_append.mp (hs ▸ hl.perm.nodup_iff.mpr List.nodup_range)
  have hfresh : u ∉ List.range v ++ before := fun hm => hnodup.2.2 u hm u List.mem_cons_self rfl
  have hidx : order.idxOf u = (List.range v ++ before).length := by
    rw [hs, List.idxOf_append_of_notMem hfresh, List.idxOf_cons_self, Nat.add_zero]
  have hless : ∀ w ∈ List.range v ++ before, w < u := by
    intro w hw
    obtain hw | hm := List.mem_append.mp hw
    · exact Nat.lt_trans (List.mem_range.mp hw) hlt
    · rw [hs, List.append_assoc] at h
      exact h.lt_of_waits hu hfresh hm
  have hlate : v ∉ List.range v ++ before := fun hm => by
    have hbefore := hl.transGen hp
    rw [hidx, hs, List.idxOf_append_of_mem hm] at hbefore
    exact Nat.lt_asymm hbefore (List.idxOf_lt_length_iff.mpr hm)
  have hall : ∀ w ∈ v :: (List.range v ++ before), w < u := List.forall_mem_cons.mpr ⟨hlt, hless⟩
  have hsub : v :: (List.range v ++ before) ⊆ List.range u := fun w hw =>
    List.mem_range.mpr (hall w hw)
  have hlen := (List.subperm_of_subset (List.nodup_cons.mpr ⟨hlate, hnodup.1⟩) hsub).length_le
  rw [List.length_cons, ← hidx, List.length_range] at hlen
  omega

/-- Vertices are taken by their numbers if none with an edge out of it is taken too early. -/
theorem Greedy.eq_range_of_le (h : g.Greedy [] order) (hl : g.Linear order) (hg : g.Proper)
    (hle : ∀ e ∈ g.edges, e.source ≤ order.idxOf e.source) : order = List.range g.size := by
  refine h.eq_range hl fun v rest hs hv => ?_
  obtain ⟨u, hu, hp⟩ := exists_free hg hl.not_cyclic hv List.not_mem_range_self
  obtain rfl | hp := reflTransGen_iff_eq_or_transGen.mp hp
  · exact hu
  · obtain ⟨_, ⟨e, he, rfl, -⟩, -⟩ := TransGen.head'_iff.mp hp
    have := h.idxOf_lt hl hs hu hp
    have := hle e he
    omega

theorem not_cyclic_of_lt (hlt : ∀ e ∈ g.edges, e.source < e.target) : ¬ g.Cyclic := by
  have hup : ∀ u v, TransGen g.Arrow u v → u < v := fun u v hp => by
    induction hp with
    | single ha =>
      obtain ⟨e, he, rfl, rfl⟩ := ha
      exact hlt e he
    | tail _ ha ih =>
      obtain ⟨e, he, rfl, rfl⟩ := ha
      exact Nat.lt_trans ih (hlt e he)
  exact fun ⟨v, hv⟩ => Nat.lt_irrefl v (hup v v hv)

/-- The order that is found is that of the numbers where all edges go up. -/
theorem linearize?_of_lt (hg : g.Proper) (hlt : ∀ e ∈ g.edges, e.source < e.target) :
    g.linearize? = some (List.range g.size) := by
  cases horder : g.linearize? with
  | none => exact absurd ((linearize?_eq_none_iff hg).mp horder) (not_cyclic_of_lt hlt)
  | some order =>
    obtain ⟨hlinear, hgreedy⟩ := linearize?_eq_some hg horder
    rw [hgreedy.eq_range hlinear fun v _ _ hv =>
      ⟨hv, List.not_mem_range_self, fun e he ht => List.mem_range.mpr (ht ▸ hlt e he)⟩]

section

variable {es fs : List Edge} {size : Nat}

/-- An order along edges is one along all edges whose ends are joined by them. -/
theorem Linear.of_reaches (h : Linear ⟨size, es⟩ order)
    (hreach : ∀ u v, Arrow ⟨size, fs⟩ u v → TransGen (Arrow ⟨size, es⟩) u v) :
    Linear ⟨size, fs⟩ order :=
  ⟨h.perm, fun e he => h.transGen (hreach _ _ ⟨e, he, rfl, rfl⟩)⟩

/-- Which order is found depends only on which vertices can be reached from which. -/
theorem linearize?_congr (hes : Proper ⟨size, es⟩) (hfs : Proper ⟨size, fs⟩)
    (h : ∀ u v, TransGen (Arrow ⟨size, es⟩) u v ↔ TransGen (Arrow ⟨size, fs⟩) u v) :
    linearize? ⟨size, es⟩ = linearize? ⟨size, fs⟩ := by
  have hcyclic : Cyclic ⟨size, es⟩ ↔ Cyclic ⟨size, fs⟩ := exists_congr fun v => h v v
  cases horder : linearize? ⟨size, es⟩ with
  | none =>
    have hc := hcyclic.mp ((linearize?_eq_none_iff hes).mp horder)
    exact ((linearize?_eq_none_iff hfs).mpr hc).symm
  | some order =>
    obtain ⟨hlinear, hgreedy⟩ := linearize?_eq_some hes horder
    cases hother : linearize? ⟨size, fs⟩ with
    | none =>
      have hc := hcyclic.mpr ((linearize?_eq_none_iff hfs).mp hother)
      exact (hlinear.not_cyclic hc).elim
    | some other =>
      obtain ⟨hlinear', hgreedy'⟩ := linearize?_eq_some hfs hother
      -- each of the two orders goes along both lists of edges, and is the least that does
      have hleft := hgreedy.least hlinear
        (hlinear'.of_reaches fun u v huv => (h u v).mp (.single huv))
      have hright := hgreedy'.least hlinear'
        (hlinear.of_reaches fun u v huv => (h u v).mpr (.single huv))
      obtain rfl | hlt := hleft
      · rfl
      · obtain rfl | hgt := hright
        · rfl
        · exact (asymm hlt hgt).elim

end

end Flowboard.Graph
