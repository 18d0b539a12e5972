import Flowboard.Order.Graph
import Mathlib.Data.Fintype.EquivFin
import Mathlib.Data.List.Basic
import Mathlib.Data.List.Count
import Mathlib.Data.List.Range
import Mathlib.Logic.Function.Basic
import Mathlib.Logic.Relation
import Mathlib.Order.WellFounded

/-! What the queue of a graph holds before each vertex is taken, and halfway through its edges. -/
namespace Flowboard.Graph

variable {g : Graph} {q : Queue} {size u v : Nat} {pool : Nat → Prop} {left : Nat → Nat}
  {done rest vs : List Nat}

/-- Every edge joins vertices of the graph. -/
def Proper (g : Graph) : Prop :=
  ∀ e ∈ g.edges, e.source < g.size ∧ e.target < g.size

/-- The number of edges into a vertex from vertices that have not been taken. -/
def waiting (g : Graph) (done : List Nat) (v : Nat) : Nat :=
  g.edges.countP fun e => e.target = v ∧ e.source ∉ done

/-- A vertex that can be taken now: no edge into it comes from a vertex that has not been taken. -/
structure Free (g : Graph) (done : List Nat) (v : Nat) : Prop where
  lt : v < g.size
  fresh : v ∉ done
  freed : ∀ e ∈ g.edges, e.target = v → e.source ∈ done

/-- A queue that awaits `left v` edges into each vertex `v`, and of the vertices in the pool has
those ready that await none. This holds also between two edges out of the same vertex. -/
structure Queue.Tracks (q : Queue) (size : Nat) (pool : Nat → Prop) (left : Nat → Nat) : Prop where
  degrees : q.degrees = (List.range size).map left
  sorted : q.ready.Pairwise (· < ·)
  mem_ready : ∀ v, v ∈ q.ready ↔ v < size ∧ pool v ∧ left v = 0

theorem mem_enqueue : u ∈ enqueue v vs ↔ u = v ∨ u ∈ vs := by
  induction vs with
  | nil => simp [enqueue]
  | cons w vs ih =>
    simp only [enqueue]
    split
    · simp
    · simp only [List.mem_cons, ih]
      exact or_left_comm

theorem sorted_enqueue (h : vs.Pairwise (· < ·)) (hv : v ∉ vs) :
    (enqueue v vs).Pairwise (· < ·) := by
  induction vs with
  | nil => simp [enqueue]
  | cons w vs ih =>
    obtain ⟨hw, hvs⟩ := List.pairwise_cons.mp h
    have hne : v ≠ w := fun he => hv (by simp [he])
    simp only [enqueue]
    split
    · rename_i hle
      refine List.pairwise_cons.mpr ⟨fun u hu => ?_, h⟩
      obtain rfl | hu := List.mem_cons.mp hu
      · omega
      · have := hw u hu
        omega
    · rename_i hlt
      refine List.pairwise_cons.mpr ⟨fun u hu => ?_, ih hvs fun hm => hv (List.mem_cons_of_mem _ hm)⟩
      obtain rfl | hu := mem_enqueue.mp hu
      · omega
      · exact hw u hu

theorem map_range_set (d : Nat) :
    ((List.range size).map left).set v d = (List.range size).map (Function.update left v d) := by
  apply List.ext_getElem
  · simp
  · intro i _ _
    by_cases he : v = i
    · subst he
      simp
    · simp [he, Function.update_of_ne (Ne.symm he)]

namespace Queue.Tracks

/-- One edge less is awaited, and a vertex becomes ready with the last one: it was not ready
before, so that it never stands twice in the queue. -/
theorem release (h : q.Tracks size pool left) (hv : v < size) (hp : pool v) (hl : 0 < left v) :
    (q.release v).Tracks size pool (Function.update left v (left v - 1)) := by
  have hd : (q.degrees[v]?).getD 0 = left v := by simp [h.degrees, hv]
  have hnot : v ∉ q.ready := fun hm => by have := ((h.mem_ready v).mp hm).2.2; omega
  simp only [Queue.release, hd]
  refine ⟨?_, ?_, fun u => ?_⟩
  · rw [h.degrees, map_range_set]
  · split
    · exact sorted_enqueue h.sorted hnot
    · exact h.sorted
  · by_cases hu : u = v
    · subst hu
      split
      · simp [mem_enqueue, *]
      · simp [*]
    · have hr := h.mem_ready u
      split
      · simpa [mem_enqueue, hu] using hr
      · simpa [hu] using hr

/-- Parallel edges are given back one by one: of a vertex as many as it stands in the list. -/
theorem foldl_release (h : q.Tracks size pool left) (hvs : ∀ v ∈ vs, v < size ∧ pool v)
    (hl : ∀ v, vs.count v ≤ left v) :
    (vs.foldl Queue.release q).Tracks size pool fun v => left v - vs.count v := by
  induction vs generalizing q left with
  | nil => simpa using h
  | cons w vs ih =>
    have hw := hvs w List.mem_cons_self
    have hc := hl w
    rw [List.count_cons_self] at hc
    have hstep := h.release hw.1 hw.2 (by omega)
    have hfold := ih hstep (fun v hv => hvs v (List.mem_cons_of_mem _ hv)) fun v => by
      have hcount := hl v
      by_cases hv : v = w
      · subst hv
        simp only [Function.update_self]
        omega
      · rw [List.count_cons_of_ne (Ne.symm hv)] at hcount
        simpa [Function.update_of_ne hv] using hcount
    have hleft : (fun v => Function.update left w (left w - 1) v - vs.count v) =
        fun v => left v - (w :: vs).count v := by
      funext v
      by_cases hv : v = w
      · subst hv
        simp only [Function.update_self, List.count_cons_self]
        omega
      · simp [Function.update_of_ne hv, List.count_cons_of_ne (Ne.symm hv)]
    rwa [hleft] at hfold

end Queue.Tracks

/-- What holds before each vertex is taken, when `done` are the vertices taken so far: the numbers
in the queue count the edges from the other vertices. -/
structure After (g : Graph) (done : List Nat) (q : Queue) : Prop where
  tracks : q.Tracks g.size (· ∉ done) (g.waiting done)
  nodup : done.Nodup
  lt : ∀ v ∈ done, v < g.size
  closed : ∀ e ∈ g.edges, e.target ∈ done → e.source ∈ done

theorem waiting_nil (g : Graph) : g.waiting [] = g.inDegree := by
  funext v
  exact List.countP_congr fun e _ => by simp

theorem waiting_eq_zero : g.waiting done v = 0 ↔ ∀ e ∈ g.edges, e.target = v → e.source ∈ done := by
  simp [waiting, List.countP_eq_zero]

/-- The edges out of a vertex are those that are awaited no longer once it has been taken. -/
theorem waiting_concat (hv : v ∉ done) (u : Nat) :
    g.waiting done u = g.waiting (done ++ [v]) u + (g.successors v).count u := by
  simp only [waiting, successors]
  induction g.edges with
  | nil => simp
  | cons e es ih =>
    rw [List.countP_cons, List.countP_cons, ih, List.filter_cons]
    by_cases hs : e.source = v
    · by_cases ht : e.target = u <;> simp [hs, ht, hv, Nat.add_assoc]
    · by_cases ht : e.target = u <;> simp [hs, ht, Nat.add_right_comm]

theorem After.mem_ready (h : g.After done q) : v ∈ q.ready ↔ g.Free done v := by
  rw [h.tracks.mem_ready, waiting_eq_zero]
  exact ⟨fun ⟨hlt, hf, he⟩ => ⟨hlt, hf, he⟩, fun hv => ⟨hv.lt, hv.fresh, hv.freed⟩⟩

theorem after_start (g : Graph) : g.After [] g.start := by
  refine ⟨⟨?_, ?_, fun v => ?_⟩, by simp, by simp, by simp⟩
  · simp [start, waiting_nil]
  · exact List.pairwise_lt_range.filter _
  · simp [start, waiting_nil]

theorem After.length_le (h : g.After done q) : done.length ≤ g.size := by
  have hle := (List.subperm_of_subset h.nodup
    fun v hv => List.mem_range.mpr (h.lt v hv)).length_le
  rwa [List.length_range] at hle

/-- Once all vertices have been taken, none is ready. -/
theorem After.ready_eq_nil (h : g.After done q) (hl : done.length = g.size) : q.ready = [] := by
  by_contra hne
  obtain ⟨v, hv⟩ := List.exists_mem_of_ne_nil _ hne
  have hfree := h.mem_ready.mp hv
  have hnodup : (v :: done).Nodup := List.nodup_cons.mpr ⟨hfree.fresh, h.nodup⟩
  have hlt : ∀ u ∈ v :: done, u < g.size := List.forall_mem_cons.mpr ⟨hfree.lt, h.lt⟩
  have hle := (List.subperm_of_subset hnodup fun u hu => List.mem_range.mpr (hlt u hu)).length_le
  rw [List.length_cons, List.length_range] at hle
  omega

/-- The first vertex is out of the queue, and none of the edges out of it has been given back. -/
theorem After.popped (h : g.After done q) (hq : q.ready = v :: rest) :
    Queue.Tracks { q with ready := rest } g.size (· ∉ done ++ [v]) (g.waiting done) := by
  have hsorted := h.tracks.sorted
  rw [hq, List.pairwise_cons] at hsorted
  refine ⟨h.tracks.degrees, hsorted.2, fun u => ?_⟩
  have hu := h.tracks.mem_ready u
  rw [hq] at hu
  by_cases he : u = v
  · subst he
    have hnot : u ∉ rest := fun hm => by have := hsorted.1 u hm; omega
    simp [hnot]
  · simpa [he] using hu

/-- The edges out of a vertex that can be taken lead to vertices that come after it. -/
theorem After.mem_successors (h : g.After done q) (hg : g.Proper) (hv : g.Free done v)
    (hu : u ∈ g.successors v) : u < g.size ∧ u ∉ done ++ [v] := by
  obtain ⟨e, hm, rfl⟩ := List.mem_map.mp hu
  obtain ⟨he, hs⟩ := List.mem_filter.mp hm
  obtain rfl := beq_iff_eq.mp hs
  refine ⟨(hg e he).2, fun ht => ?_⟩
  -- an edge into a vertex that has been taken comes from one taken before
  obtain ht | ht := List.mem_append.mp ht
  · exact hv.fresh (h.closed e he ht)
  · exact hv.fresh (hv.freed e he (List.mem_singleton.mp ht))

/-- Halfway through the edges out of a vertex, in whatever order they are given back: the numbers in
the queue count the edges that are left, besides those from vertices that have not been taken. -/
theorem After.halfway {before after : List Nat} (h : g.After done q) (hg : g.Proper)
    (hq : q.ready = v :: rest) (hp : (before ++ after).Perm (g.successors v)) :
    (before.foldl Queue.release { q with ready := rest }).Tracks g.size (· ∉ done ++ [v])
      fun u => g.waiting (done ++ [v]) u + after.count u := by
  have hv : g.Free done v := h.mem_ready.mp (by simp [hq])
  have hcount (u : Nat) : g.waiting done u =
      g.waiting (done ++ [v]) u + (before.count u + after.count u) := by
    rw [waiting_concat hv.fresh u, ← hp.count_eq u, List.count_append]
  have hfold := (h.popped hq).foldl_release
    (fun u hu => h.mem_successors hg hv (hp.subset (List.mem_append_left _ hu)))
    fun u => by have := hcount u; omega
  have hleft : (fun u => g.waiting done u - before.count u) =
      fun u => g.waiting (done ++ [v]) u + after.count u := by
    funext u
    have := hcount u
    omega
  rwa [hleft] at hfold

/-- The least vertex that can be taken is taken, and the edges out of it are given back. -/
theorem After.next {targets : List Nat} (h : g.After done q) (hg : g.Proper)
    (hq : q.ready = v :: rest) (hp : targets.Perm (g.successors v)) :
    g.After (done ++ [v]) (targets.foldl Queue.release { q with ready := rest }) := by
  have hv : g.Free done v := h.mem_ready.mp (by simp [hq])
  refine ⟨?_, ?_, ?_, ?_⟩
  · have hall : (targets ++ []).Perm (g.successors v) := by simpa using hp
    simpa using h.halfway hg hq hall
  · exact List.nodup_append.mpr ⟨h.nodup, by simp, by
      intro a ha b hb he
      obtain rfl := List.mem_singleton.mp hb
      exact hv.fresh (he ▸ ha)⟩
  · intro u hu
    obtain hu | hu := List.mem_append.mp hu
    · exact h.lt u hu
    · exact List.mem_singleton.mp hu ▸ hv.lt
  · intro e he ht
    obtain ht | ht := List.mem_append.mp ht
    · exact List.mem_append_left _ (h.closed e he ht)
    · exact List.mem_append_left _ (hv.freed e he (List.mem_singleton.mp ht))

/-- Vertices each of which, when its turn comes, is the least that can be taken. -/
def Greedy (g : Graph) : List Nat → List Nat → Prop
  | _, [] => True
  | done, v :: rest => (g.Free done v ∧ ∀ u, g.Free done u → v ≤ u) ∧ g.Greedy (done ++ [v]) rest

theorem Greedy.concat (h : g.Greedy done rest) (hv : g.Free (done ++ rest) v)
    (hleast : ∀ u, g.Free (done ++ rest) u → v ≤ u) : g.Greedy done (rest ++ [v]) := by
  induction rest generalizing done with
  | nil => exact ⟨⟨by simpa using hv, by simpa using hleast⟩, trivial⟩
  | cons w rest ih => exact ⟨h.1, ih h.2 (by simpa using hv) (by simpa using hleast)⟩

/-- Of two greedy lists to which nothing can be added neither is longer. -/
theorem Greedy.eq_of_ended {other : List Nat} (h : g.Greedy done rest) (ho : g.Greedy done other)
    (hrest : ∀ v, ¬ g.Free (done ++ rest) v) (hother : ∀ v, ¬ g.Free (done ++ other) v) :
    rest = other := by
  induction rest generalizing done other with
  | nil =>
    cases other with
    | nil => rfl
    | cons w other => exact absurd ho.1.1 (by simpa using hrest w)
  | cons v rest ih =>
    cases other with
    | nil => exact absurd h.1.1 (by simpa using hother v)
    | cons w other =>
      obtain rfl : v = w := Nat.le_antisymm (h.1.2 w ho.1.1) (ho.1.2 v h.1.1)
      rw [ih h.2 ho.2 (by simpa using hrest) (by simpa using hother)]

/-- The vertices that have been taken, one after the other, and the queue after them. The edges out
of a vertex may be given back in any order. -/
inductive Taken (g : Graph) : List Nat → Queue → Prop
  | start : g.Taken [] g.start
  | next {done rest targets : List Nat} {q : Queue} {v : Nat} (taken : g.Taken done q)
      (ready : q.ready = v :: rest) (edges : targets.Perm (g.successors v)) :
      g.Taken (done ++ [v]) (targets.foldl Queue.release { q with ready := rest })

theorem Taken.of_next? {q' : Queue} (h : g.Taken done q) (hq : g.next? q = some (v, q')) :
    g.Taken (done ++ [v]) q' := by
  unfold next? at hq
  split at hq
  next => cases hq
  next hready =>
    cases hq
    exact h.next hready (.refl _)

theorem Taken.after (h : g.Taken done q) (hg : g.Proper) : g.After done q := by
  induction h with
  | start => exact after_start g
  | next taken ready edges ih => exact ih.next hg ready edges

/-- Each vertex was the least one that could be taken when its turn came. -/
theorem Taken.greedy (h : g.Taken done q) (hg : g.Proper) : g.Greedy [] done := by
  induction h with
  | start => trivial
  | @next done rest targets q v taken ready edges ih =>
    have hafter := taken.after hg
    have hsorted := hafter.tracks.sorted
    refine ih.concat (hafter.mem_ready.mp (by simp [ready])) fun u hu => ?_
    have hm := hafter.mem_ready.mpr hu
    rw [ready] at hm hsorted
    obtain rfl | hm := List.mem_cons.mp hm
    · exact Nat.le_refl _
    · exact Nat.le_of_lt ((List.pairwise_cons.mp hsorted).1 u hm)

/-- However many vertices are taken, if they are fewer than asked for, none is left that can be
taken. -/
theorem Taken.take (h : g.Taken done q) (fuel : Nat) :
    ∃ q', g.Taken (done ++ g.take fuel q) q' ∧ ((g.take fuel q).length < fuel → q'.ready = []) := by
  induction fuel generalizing done q with
  | zero => exact ⟨q, by simpa [Graph.take] using h, by simp [Graph.take]⟩
  | succ fuel ih =>
    cases hq : q.ready with
    | nil => exact ⟨q, by simpa [Graph.take, next?, hq] using h, fun _ => hq⟩
    | cons v rest =>
      obtain ⟨q', h', hend⟩ := ih (h.of_next? (by rw [next?, hq]))
      exact ⟨q', by simpa [Graph.take, next?, hq] using h',
        fun hl => hend (by simpa [Graph.take, next?, hq] using hl)⟩

theorem Taken.free_iff (h : g.Taken done q) (hg : g.Proper) : q.ready = [] ↔ ∀ v, ¬ g.Free done v := by
  simp only [← (h.after hg).mem_ready, List.eq_nil_iff_forall_not_mem]

/-- Enough fuel makes no difference: the vertices end before it does. -/
theorem Taken.eq_take (h : g.Taken done q) (hg : g.Proper) (hq : q.ready = []) {fuel : Nat}
    (hfuel : g.size ≤ fuel) : done = g.take fuel g.start := by
  obtain ⟨q', h', hend⟩ := Taken.start.take (g := g) fuel
  rw [List.nil_append] at h'
  have hq' : q'.ready = [] := by
    have hle := (h'.after hg).length_le
    obtain hlt | heq := Nat.lt_or_eq_of_le (hle.trans hfuel)
    · exact hend hlt
    · exact (h'.after hg).ready_eq_nil (by omega)
  exact (h.greedy hg).eq_of_ended (h'.greedy hg) ((h.free_iff hg).mp hq) ((h'.free_iff hg).mp hq')

/-- What the queue holds when some vertices have been taken: of each vertex the number of edges into
it from the others, and which of these await none. -/
structure Queue.Exact (g : Graph) (done : List Nat) (q : Queue) : Prop where
  degrees : ∀ t < g.size, q.degrees[t]? =
    some (g.edges.countP fun e => e.target = t ∧ e.source ∉ done)
  ready : ∀ v, v ∈ q.ready ↔ v ∉ done ∧ q.degrees[v]? = some 0
  once : (done ++ q.ready).Nodup

/-- What happens between two vertices: an edge is given back only to a vertex that awaits one, and
no vertex gets ready that was ready before or has been taken. -/
def Queue.Careful (g : Graph) (done : List Nat) (q : Queue) : Prop :=
  ∀ v rest before t after, q.ready = v :: rest → (before ++ t :: after).Perm (g.successors v) →
    let p := before.foldl Queue.release { q with ready := rest }
    (∃ n, p.degrees[t]? = some (n + 1)) ∧ (done ++ v :: (p.release t).ready).Nodup

theorem Queue.Tracks.nodup (h : q.Tracks size (· ∉ done) left)
    (hd : done.Nodup) : (done ++ q.ready).Nodup := by
  refine List.nodup_append.mpr ⟨hd, h.sorted.imp Nat.ne_of_lt, ?_⟩
  rintro u hu _ hv rfl
  exact ((h.mem_ready u).mp hv).2.1 hu

theorem After.exact (h : g.After done q) : q.Exact g done := by
  refine ⟨fun t ht => by simp [h.tracks.degrees, ht, waiting], fun v => ?_, h.tracks.nodup h.nodup⟩
  rw [h.tracks.mem_ready, h.tracks.degrees]
  by_cases hv : v < g.size <;> simp [hv]

theorem After.careful (h : g.After done q) (hg : g.Proper) : q.Careful g done := by
  intro v rest before t after hq hp
  have hv : g.Free done v := h.mem_ready.mp (by simp [hq])
  have ht := h.mem_successors hg hv (hp.subset (by simp : t ∈ before ++ t :: after))
  have hbefore := h.halfway hg hq hp
  have hmore : (before ++ [t] ++ after).Perm (g.successors v) := by simpa using hp
  have hafter := h.halfway hg hq hmore
  refine ⟨⟨g.waiting (done ++ [v]) t + after.count t, ?_⟩, ?_⟩
  · simp [hbefore.degrees, ht.1, Nat.add_assoc]
  · have hnodup := hafter.nodup (h.next hg hq (.refl _)).nodup
    simpa [List.foldl_append] using hnodup

end Flowboard.Graph
