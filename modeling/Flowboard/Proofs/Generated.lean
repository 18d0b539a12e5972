import Flowboard.Proofs.Separation
import Mathlib.Data.List.Nodup
import Mathlib.Data.List.Perm.Subperm
import Mathlib.Data.Nat.Find
import Mathlib.Order.Bounds.Basic

/-! Ids that are made up for new workflows, nodes and connections: nothing has them yet in the version
of the store that is replaced, however the steps of clients are interleaved. -/
namespace Flowboard

variable {stem : String} {taken : List String} {fuel m n : Nat}

theorem numberedId_injective (h : numberedId stem m = numberedId stem n) : m = n := by
  have hlist := congrArg String.toList h
  simp only [numberedId, String.toList_append, String.toList_ofList] at hlist
  have hdigits := List.append_cancel_left hlist
  calc
    m = Nat.ofDigitChars 10 (Nat.toDigits 10 m) 0 := Nat.ofDigitChars_ten_toDigits.symm
    _ = Nat.ofDigitChars 10 (Nat.toDigits 10 n) 0 := by rw [hdigits]
    _ = n := Nat.ofDigitChars_ten_toDigits

/-- Ids with different numbers are different, so that a list has no more of them than it is long. -/
theorem le_length_of_numbered (h : ∀ i < fuel, numberedId stem (n + i) ∈ taken) :
    fuel ≤ taken.length := by
  have hnodup : ((List.range fuel).map fun i => numberedId stem (n + i)).Nodup := by
    refine List.nodup_range.map fun i j hij => ?_
    have := numberedId_injective hij
    omega
  have hsub : ((List.range fuel).map fun i => numberedId stem (n + i)) ⊆ taken := by
    intro id hid
    obtain ⟨i, hi, rfl⟩ := List.mem_map.mp hid
    exact h i (List.mem_range.mp hi)
  simpa using (List.subperm_of_subset hnodup hsub).length_le

/-- The search stops at the first number whose id is free, or at the end of its fuel. -/
theorem firstFreeId_eq (stem : String) (taken : List String) (fuel n : Nat) :
    ∃ i ≤ fuel, firstFreeId stem taken fuel n = numberedId stem (n + i) ∧
      (∀ j < i, numberedId stem (n + j) ∈ taken) ∧
      (i < fuel → numberedId stem (n + i) ∉ taken) := by
  induction fuel generalizing n with
  | zero => exact ⟨0, Nat.le_refl 0, rfl, by simp, by simp⟩
  | succ fuel ih =>
    rw [firstFreeId]
    split
    · rename_i htaken
      obtain ⟨i, hi, heq, hbefore, hfree⟩ := ih (n + 1)
      have hshift : n + 1 + i = n + (i + 1) := by omega
      refine ⟨i + 1, by omega, by rw [heq, hshift], fun j hj => ?_, fun hlt => ?_⟩
      · cases j with
        | zero => exact htaken
        | succ j =>
          have := hbefore j (by omega)
          rwa [show n + 1 + j = n + (j + 1) by omega] at this
      · rw [← hshift]
        exact hfree (by omega)
    · rename_i hfree
      exact ⟨0, by omega, rfl, by simp, fun _ => hfree⟩

/-- The number that is chosen is the least one from the start on whose id is free, and no farther
from the start than there are ids. -/
theorem freshId_eq (stem : String) (taken : List String) :
    ∃ i ≤ taken.length, freshId stem taken = numberedId stem (taken.length + 1 + i) ∧
      (∀ j < i, numberedId stem (taken.length + 1 + j) ∈ taken) ∧
      numberedId stem (taken.length + 1 + i) ∉ taken := by
  obtain ⟨i, hi, heq, hbefore, hfree⟩ :=
    firstFreeId_eq stem taken taken.length (taken.length + 1)
  refine ⟨i, hi, heq, hbefore, fun htaken => ?_⟩
  have hall : ∀ j < i + 1, numberedId stem (taken.length + 1 + j) ∈ taken := by
    intro j hj
    obtain hlt | rfl := Nat.lt_succ_iff_lt_or_eq.mp hj
    · exact hbefore j hlt
    · exact htaken
  -- the search has used up its fuel, and one id more is taken than there are
  have hlast : ¬ i < taken.length := fun hlt => hfree hlt htaken
  have := le_length_of_numbered hall
  omega

theorem freshId_notMem (stem : String) (taken : List String) : freshId stem taken ∉ taken := by
  obtain ⟨i, -, heq, -, hfree⟩ := freshId_eq stem taken
  rwa [heq]

theorem numberedId_eq (stem : String) (n : Nat) : numberedId stem n = stem ++ "_" ++ Nat.repr n :=
  rfl

/-- The id with the least number from the one after the number of ids on whose id is free. A search
through enough of these numbers, or through all of them, finds it. -/
structure FirstFree (stem : String) (taken : List String) (id : String) : Prop where
  least : ∃ m, id = stem ++ "_" ++ Nat.repr m ∧ m ≤ 2 * taken.length + 1 ∧
    IsLeast {n | taken.length + 1 ≤ n ∧ stem ++ "_" ++ Nat.repr n ∉ taken} m
  found : ∀ fuel, taken.length < fuel →
    ((List.range' (taken.length + 1) fuel).map fun n => stem ++ "_" ++ Nat.repr n).find?
      (· ∉ taken) = some id

/-- An id that is made up has the first free number. -/
theorem freshId_firstFree (stem : String) (taken : List String) :
    FirstFree stem taken (freshId stem taken) := by
  obtain ⟨i, hi, heq, hbefore, hfree⟩ := freshId_eq stem taken
  have htaken (n : Nat) (hle : taken.length + 1 ≤ n) (hlt : n < taken.length + 1 + i) :
      numberedId stem n ∈ taken := by
    have := hbefore (n - (taken.length + 1)) (by omega)
    rwa [Nat.add_sub_cancel' hle] at this
  refine ⟨⟨taken.length + 1 + i, heq, by omega, ⟨by omega, hfree⟩, ?_⟩, fun fuel hfuel => ?_⟩
  · rintro n ⟨hle, hn⟩
    by_contra hlt
    exact hn (htaken n hle (by omega))
  · rw [List.find?_map, heq, Option.map_eq_some_iff]
    refine ⟨_, List.find?_range'_eq_some.mpr ⟨decide_eq_true hfree, ?_, fun n hle hlt => ?_⟩, rfl⟩
    · rw [List.mem_range'_1]
      omega
    · simpa [← numberedId_eq] using htaken n hle hlt

theorem freshId_of_free (h : numberedId stem (taken.length + 1) ∉ taken) :
    freshId stem taken = numberedId stem (taken.length + 1) := by
  obtain ⟨i, -, heq, hbefore, -⟩ := freshId_eq stem taken
  obtain rfl | hi := Nat.eq_zero_or_pos i
  · exact heq
  · exact absurd (hbefore 0 hi) h

/-- Where all numbers up to some number are taken, the next one is chosen. -/
theorem freshId_of_numbered {n : Nat} (h : taken = (List.range' 1 n).map (numberedId stem)) :
    freshId stem taken = numberedId stem (n + 1) := by
  have hlen : taken.length = n := by simp [h]
  rw [← hlen]
  refine freshId_of_free fun hm => ?_
  rw [h] at hm
  obtain ⟨m, hm, heq⟩ := List.mem_map.mp hm
  have := numberedId_injective heq
  rw [List.mem_range'_1] at hm
  simp only [List.length_map, List.length_range'] at this
  omega

namespace Workflow

variable {w : Workflow}

def NodesDistinct (w : Workflow) : Prop :=
  (w.nodes.map (·.id)).Nodup

def ConnectionsDistinct (w : Workflow) : Prop :=
  (w.connections.map (·.id)).Nodup

theorem ne_nextNodeId (w : Workflow) : ∀ n ∈ w.nodes, n.id ≠ w.nextNodeId := by
  intro n hn heq
  have hmem : n.id ∈ w.nodes.map (·.id) := List.mem_map_of_mem hn
  rw [heq] at hmem
  exact freshId_notMem _ _ hmem

theorem ne_nextConnectionId (w : Workflow) : ∀ c ∈ w.connections, c.id ≠ w.nextConnectionId := by
  intro c hc heq
  have hmem : c.id ∈ w.connections.map (·.id) := List.mem_map_of_mem hc
  rw [heq] at hmem
  exact freshId_notMem _ _ hmem

end Workflow

theorem nodup_map_concat {α : Type} {xs : List α} {x : α} {f : α → String}
    (h : (xs.map f).Nodup) (hx : ∀ y ∈ xs, f y ≠ f x) : ((xs ++ [x]).map f).Nodup := by
  rw [List.map_append, List.map_singleton]
  refine List.nodup_append.mpr ⟨h, List.nodup_singleton _, ?_⟩
  rintro a ha b hb rfl
  obtain ⟨y, hy, rfl⟩ := List.mem_map.mp ha
  exact hx y hy (List.mem_singleton.mp hb)

namespace Store

variable {s t : Store} {id k : String} {v w : Workflow}

/-- In every workflow no two nodes share an id, and no two connections. -/
def Distinct (s : Store) : Prop :=
  ∀ k w, s.get k = .ok w → w.NodesDistinct ∧ w.ConnectionsDistinct

/-- In a workflow that comes out of another one, or out of nothing, no two nodes share an id if none
did before, and no two connections. -/
def KeepsDistinct (s t : Store) : Prop :=
  ∀ k w, t.get k = .ok w →
    ((∀ v, s.get k = .ok v → v.NodesDistinct) → w.NodesDistinct) ∧
    ((∀ v, s.get k = .ok v → v.ConnectionsDistinct) → w.ConnectionsDistinct)

theorem KeepsDistinct.refl (s : Store) : s.KeepsDistinct s :=
  fun _ w hw => ⟨fun h => h w hw, fun h => h w hw⟩

/-- Only in the workflow that is put in place can ids have come to be shared. -/
theorem KeepsDistinct.put (hnodes : (∀ v, s.get id = .ok v → v.NodesDistinct) → w.NodesDistinct)
    (hconnections : (∀ v, s.get id = .ok v → v.ConnectionsDistinct) → w.ConnectionsDistinct) :
    s.KeepsDistinct (s.put id w) := by
  intro k v hv
  by_cases hk : k = id
  · subst k
    obtain rfl : w = v := by simpa using hv
    exact ⟨hnodes, hconnections⟩
  · rw [get_put_of_ne s w hk] at hv
    exact KeepsDistinct.refl s k v hv

theorem KeepsDistinct.distinct (h : s.KeepsDistinct t) (hs : s.Distinct) : t.Distinct :=
  fun k w hw => ⟨(h k w hw).1 fun v hv => (hs k v hv).1, (h k w hw).2 fun v hv => (hs k v hv).2⟩

theorem size_put (w : Workflow) (h : s.contains id = false) : (s.put id w).size = s.size + 1 :=
  Table.length_insert_of_contains_eq_false w h

/-- Nothing is replaced under an id that is not in use. -/
theorem mem_put_of_unused (w : Workflow) (h : s.contains id = false) {e : String × Workflow}
    (he : e ∈ s.workflows) : e ∈ (s.put id w).workflows := by
  refine Table.mem_insert_of_ne w he fun hid => ?_
  have : s.contains id = true := List.any_eq_true.mpr ⟨e, he, by simpa using hid⟩
  simp [this] at h

/-- Of a source that repeats itself the first id is taken that is not in use. -/
theorem unusedId?_source {source : Nat → String} {n : Nat} (h : s.contains (source n) = false) :
    ∃ m ≤ n, (∀ i < m, s.contains (source i) = true) ∧ s.contains (source m) = false ∧
      s.unusedId? ((List.range (n + 1)).map source) = some (source m) := by
  have hex : ∃ m, s.contains (source m) = false := ⟨n, h⟩
  have hle : Nat.find hex ≤ n := Nat.find_min' hex h
  have hbefore : ∀ i < Nat.find hex, s.contains (source i) = true := fun i hi => by
    simpa using Nat.find_min hex hi
  refine ⟨Nat.find hex, hle, hbefore, Nat.find_spec hex, ?_⟩
  have hfind : (List.range (n + 1)).find? ((fun id => !s.contains id) ∘ source) =
      some (Nat.find hex) := by
    rw [List.find?_range_eq_some]
    refine ⟨by simpa using Nat.find_spec hex, List.mem_range.mpr (by omega), fun i hi => ?_⟩
    simpa using hbefore i hi
  rw [unusedId?, List.find?_map, hfind, Option.map_some]

end Store

namespace Shared

open Store

variable {c : Command} {d : Draw} {s t : Store} {a : Answer}

/-- A command that brings no ids of nodes or connections with it. -/
def Command.GivesNoIds : Command → Prop
  | .update _ p => p.nodes = none ∧ p.connections = none
  | .appendNode _ spec => spec.id = none
  | .appendConnection _ spec => spec.id = none
  | .create _ => True
  | .updateNode _ _ _ => True

/-- Whatever id a command makes up is not in use in the store that it is carried out on. -/
structure Collisionless (d : Draw) (s : Store) (c : Command) (t : Store) (a : Answer) : Prop where
  workflow : ∀ r, c = .create r → r.id = none → ∃ w, a = .workflow w ∧ w.id ∈ d.ids ∧
    s.contains w.id = false ∧ t = s.put w.id w ∧ t.size = s.size + 1 ∧
    ∀ e ∈ s.workflows, e ∈ t.workflows
  node : ∀ id spec, c = .appendNode id spec → spec.id = none →
    (∃ e, a = .error e ∧ t = s) ∨ ∃ w n, a = .node n ∧ s.get id = .ok w ∧
      (∀ m ∈ w.nodes, m.id ≠ n.id) ∧
      t = s.put id { w with nodes := w.nodes ++ [n], updatedAt := d.now }
  connection : ∀ id spec, c = .appendConnection id spec → spec.id = none →
    (∃ e, a = .error e ∧ t = s) ∨ ∃ w x, a = .connection x ∧ s.get id = .ok w ∧
      (∀ y ∈ w.connections, y.id ≠ x.id) ∧
      t = s.put id { w with connections := w.connections ++ [x], updatedAt := d.now }
  distinct : c.GivesNoIds → s.KeepsDistinct t

/-- A command that brings no ids makes no two nodes or connections share one. -/
theorem Effect.keepsDistinct (h : Effect d s c t a) (hc : c.GivesNoIds) : s.KeepsDistinct t := by
  cases h with
  | refused reason => exact .refl s
  | created chosen => exact .put (fun _ => List.nodup_nil) fun _ => List.nodup_nil
  | @updated id p w known =>
    obtain ⟨hnodes, hconnections⟩ := hc
    refine .put (fun hw => ?_) fun hw => ?_
    · simpa [applyPatch, hnodes, Workflow.NodesDistinct] using hw w known
    · simpa [applyPatch, hconnections, Workflow.ConnectionsDistinct] using hw w known
  | @nodeAdded id spec kind w known fit =>
    have hid : spec.id = none := hc
    refine .put (fun hw => ?_) fun hw => hw w known
    refine nodup_map_concat (hw w known) fun n hn => ?_
    simpa [hid] using Workflow.ne_nextNodeId { w with updatedAt := d.now } n hn
  | @nodeEdited id node p w before n after m known nodes first named patched =>
    obtain ⟨kind, rfl, -⟩ := patchNode_eq_ok_iff.mp patched
    refine .put (fun hw => ?_) fun hw => hw w known
    have hold := hw w known
    rw [Workflow.NodesDistinct, nodes] at hold
    simpa [Workflow.NodesDistinct] using hold
  | @connectionAdded id spec ends w known given =>
    have hid : spec.id = none := hc
    refine .put (fun hw => hw w known) fun hw => ?_
    refine nodup_map_concat (hw w known) fun x hx => ?_
    simpa [hid] using Workflow.ne_nextConnectionId { w with updatedAt := d.now } x hx

/-- An id that a command has made up was not in use in the store. -/
theorem Effect.collisionless (h : Effect d s c t a) : Collisionless d s c t a := by
  refine ⟨?workflow, ?node, ?connection, h.keepsDistinct⟩
  case workflow =>
    rintro r rfl hr
    cases h with
    | refused reason => cases reason
    | @created r id chosen =>
      rw [hr, Option.none_or] at chosen
      obtain ⟨hmem, hunused⟩ := unusedId?_eq_some chosen
      exact ⟨_, rfl, hmem, hunused, rfl, size_put _ hunused, fun e => mem_put_of_unused _ hunused⟩
  case node =>
    rintro id spec rfl hspec
    cases h with
    | refused reason => exact Or.inl ⟨_, rfl, rfl⟩
    | @nodeAdded _ _ kind w known fit =>
      refine Or.inr ⟨w, _, rfl, known, fun m hm => ?_, rfl⟩
      simpa [addNode, hspec] using Workflow.ne_nextNodeId { w with updatedAt := d.now } m hm
  case connection =>
    rintro id spec rfl hspec
    cases h with
    | refused reason => exact Or.inl ⟨_, rfl, rfl⟩
    | @connectionAdded _ _ ends w known given =>
      refine Or.inr ⟨w, _, rfl, known, fun y hy => ?_, rfl⟩
      simpa [addConnection, hspec] using Workflow.ne_nextConnectionId { w with updatedAt := d.now } y hy

variable {Client : Type} [DecidableEq Client] {σ τ : State Client} {k : Client}
  {events : List (Event Client)}

/-- What is published is the effect of the command on what was current. -/
theorem step_effect (h : Step σ (.swap k c d a) τ) (hσ : Sound σ) :
    Effect d σ.current.store c τ.current.store a := by
  have hperforms := step_performs h hσ (q := ⟨.command c, some d, a⟩) rfl
  exact effect_of_perform (hperforms d fun drawn hd => (Option.some.inj hd).symm ▸ rfl)

theorem step_current_or_swap {e : Event Client} (h : Step σ e τ) :
    τ.current = σ.current ∨ ∃ k c d a, e = .swap k c d a := by
  cases h with
  | swap computed unchanged returned => exact Or.inr ⟨_, _, _, _, rfl⟩
  | _ => exact Or.inl rfl

/-- Along a run of commands that bring no ids none come to be shared. -/
theorem run_distinct {tag : Nat} (h : Run (.initial s tag) events σ)
    (hevents : ∀ k c d a, .swap k c d a ∈ events → c.GivesNoIds) (hs : s.Distinct) :
    σ.current.store.Distinct := by
  induction h with
  | nil => exact hs
  | @snoc events σ e τ run step ih =>
    have hσ := ih fun k c d a he => hevents k c d a (List.mem_append_left _ he)
    obtain hsame | ⟨k, c, d, a, rfl⟩ := step_current_or_swap step
    · rwa [hsame]
    · have hc := hevents k c d a (List.mem_append_right _ List.mem_cons_self)
      exact ((step_effect step (run_sound run)).keepsDistinct hc).distinct hσ

/-- Whatever other clients do in between, the id that is made up for a workflow, a node or a
connection is not in use in the version that is replaced, so that nothing is overwritten and ids stay
distinct; and an id for a workflow is found in every source that has an unused one. -/
theorem generated_ids_never_collide (s : Store) :
    (∀ (now : Timestamp) (r : NewWorkflow) (source : Nat → String) (n : Nat), r.id = none →
      s.contains (source n) = false →
      ∃ m ≤ n, (∀ i < m, s.contains (source i) = true) ∧ s.contains (source m) = false ∧
        (Command.create r).perform ⟨now, (List.range (n + 1)).map source⟩ s =
          some (s.put (source m) (newWorkflow r (source m) now),
            .workflow (newWorkflow r (source m) now))) ∧
    ∀ (Client : Type) [DecidableEq Client] (tag : Nat) (events : List (Event Client))
      (σ : State Client), Run (.initial s tag) events σ →
      (∀ k c d a τ, Step σ (.swap k c d a) τ →
        Collisionless d σ.current.store c τ.current.store a) ∧
      ((∀ k c d a, .swap k c d a ∈ events → c.GivesNoIds) → s.Distinct →
        σ.current.store.Distinct) := by
  refine ⟨fun now r source n hr hn => ?_, fun Client _ tag events σ run => ⟨?_, ?_⟩⟩
  · obtain ⟨m, hm, hbefore, hfree, hunused⟩ := unusedId?_source hn
    refine ⟨m, hm, hbefore, hfree, perform_of_effect (.created ?_)⟩
    rw [hr, Option.none_or]
    exact hunused
  · intro k c d a τ step
    exact (step_effect step (run_sound run)).collisionless
  · exact run_distinct run

/-- The one node has the id of a node that would be the second one. -/
def raceStart : Workflow :=
  { Workflow.empty "w" "race" noon.now with nodes := [⟨"node_2", .print "x", .origin, [], []⟩] }

def raceStore : Store :=
  ⟨[("w", raceStart)]⟩

def racer : Command :=
  .appendNode "w" {}

def raceFirst : Workflow × Node :=
  addNode (.other "default" []) {} { raceStart with updatedAt := noon.now }

def raceSecond : Workflow × Node :=
  addNode (.other "default" []) {} { raceFirst.1 with updatedAt := evening.now }

/-- Two clients append nodes and make up the same id, but one of them is overtaken. -/
def raceEvents : List (Event Bool) :=
  [.invoke true (.command racer), .invoke false (.command racer), .load true, .load false,
   .compute true noon, .compute false noon, .swap true racer noon (.node raceFirst.2), .retry false,
   .compute false evening]

theorem race_runs : ∃ σ τ, Run (State.initial raceStore 0) raceEvents σ ∧
    Step σ (.swap false racer evening (.node raceSecond.2)) τ := by
  have run : Run (State.initial raceStore 0 : State Bool) [] _ := .nil
  have run := run.snoc (.invoke (k := true) (r := .command racer) rfl)
  have run := run.snoc (.invoke (k := false) (r := .command racer) rfl)
  have run := run.snoc (.load (k := true) rfl rfl)
  have run := run.snoc (.load (k := false) rfl rfl)
  have run := run.snoc (.compute (k := true) (d := noon) rfl rfl
    (show State.Fresh _ 1 from State.fresh_iff.mpr (by decide)))
  have run := run.snoc (.compute (k := false) (d := noon) rfl rfl
    (show State.Fresh _ 2 from State.fresh_iff.mpr (by decide)))
  have run := run.snoc (.swap (k := true) rfl rfl (.inl rfl))
  have run := run.snoc (.retry (k := false) rfl (by decide))
  have run := run.snoc (.compute (k := false) (d := evening) rfl rfl
    (show State.Fresh _ 2 from State.fresh_iff.mpr (by decide)))
  exact ⟨_, _, run, .swap (k := false) rfl rfl (.inl rfl)⟩

/-- Two clients append to the version that both have seen. The one that is overtaken makes up
another id. -/
theorem generated_ids_never_collide_race :
    raceFirst.2.id = "node_3" ∧ raceSecond.2.id = "node_4" ∧
    (∃ σ τ, Run (State.initial raceStore 0) raceEvents σ ∧
      Step σ (.swap false racer evening (.node raceSecond.2)) τ ∧
      Collisionless evening σ.current.store racer τ.current.store (.node raceSecond.2) ∧
      σ.current.store.Distinct) ∧
    (Command.create {}).perform ⟨noon.now, ["w", "w", "free"]⟩ raceStore =
      some (raceStore.put "free" (newWorkflow {} "free" noon.now),
        .workflow (newWorkflow {} "free" noon.now)) := by
  obtain ⟨hcreate, hrun⟩ := generated_ids_never_collide raceStore
  obtain ⟨σ, τ, run, step⟩ := race_runs
  obtain ⟨hswap, hdistinct⟩ := hrun Bool 0 raceEvents σ run
  have hevents : ∀ k c d a, .swap k c d a ∈ raceEvents → c.GivesNoIds := by
    intro k c d a h
    simp only [raceEvents, List.mem_cons, List.not_mem_nil, reduceCtorEq, false_or, or_false,
      Event.swap.injEq] at h
    obtain ⟨-, rfl, -⟩ := h
    rfl
  have hstart : raceStore.Distinct := by
    intro k w hw
    simp only [raceStore, Store.get, Table.get?_cons, Table.get?_nil] at hw
    split_ifs at hw
    cases hw
    exact ⟨List.nodup_singleton _, List.nodup_nil⟩
  obtain ⟨m, hm, -, hfree, hperform⟩ :=
    hcreate noon.now {} (fun i => if i < 2 then "w" else "free") 2 rfl (by decide)
  have hlast : ¬ m < 2 := fun hlt => by
    have hused : raceStore.contains "w" = true := by decide
    simp [hlt, hused] at hfree
  rw [if_neg hlast] at hperform
  have hfirst : raceFirst.2.id = "node_3" := by decide +kernel
  have hsecond : raceSecond.2.id = "node_4" := by decide +kernel
  exact ⟨hfirst, hsecond, ⟨σ, τ, run, step, hswap _ _ _ _ _ step, hdistinct hevents hstart⟩,
    hperform⟩

section

open Store

variable {s : Store} {w : Workflow} {k : String} {spec : NodeSpec} {n : Nat}

/-- A node is appended without an id. -/
def appending (k : String) (call : Draw × NodeSpec) : Operation :=
  ⟨call.1, .command (.appendNode k { call.2 with id := none })⟩

/-- Whether the properties of a node fit its type. -/
def fits (call : Draw × NodeSpec) : Bool :=
  (Kind.ofParts (call.2.type.getD Node.defaultType) call.2.properties).isOk

/-- The id of the node that an answer brings. -/
def Answer.nodeId? : Answer → Option String
  | .node n => some n.id
  | _ => none

/-- A node without an id gets the next number behind numbered ones. -/
theorem map_id_addNode (kind : Kind) (hid : spec.id = none)
    (h : w.nodes.map (·.id) = (List.range' 1 n).map (numberedId "node")) :
    (addNode kind spec w).2.id = numberedId "node" (n + 1) ∧
      (addNode kind spec w).1.nodes.map (·.id) =
        (List.range' 1 (n + 1)).map (numberedId "node") := by
  have hnext : w.nextNodeId = numberedId "node" (n + 1) := freshId_of_numbered h
  simp [addNode, hid, hnext, h, List.range'_1_concat, Nat.add_comm 1 n]

/-- One call: either it gives the next number, or nothing is changed. -/
theorem appending_step (call : Draw × NodeSpec) (hw : s.get k = .ok w)
    (h : w.nodes.map (·.id) = (List.range' 1 n).map (numberedId "node")) :
    ∃ t v a, (appending k call).request.perform call.1 s = some (t, a) ∧ t.get k = .ok v ∧
      (fits call = true ∧ a.nodeId? = some (numberedId "node" (n + 1)) ∧
          v.nodes.map (·.id) = (List.range' 1 (n + 1)).map (numberedId "node") ∨
        fits call = false ∧ a.nodeId? = none ∧ v = w) := by
  cases hkind : Kind.ofParts (call.2.type.getD Node.defaultType) call.2.properties with
  | error fault =>
    let type := call.2.type.getD Node.defaultType
    refine ⟨s, w, .error (.invalidProperties type fault), ?_, hw, .inr ⟨?_, rfl, rfl⟩⟩
    · simp [appending, Request.perform, Command.perform, appendNode, kindOf, hkind, settle, type]
    · simp [fits, hkind, Except.isOk, Except.toBool]
  | ok kind =>
    let spec : NodeSpec := { call.2 with id := none }
    have hid : spec.id = none := rfl
    obtain ⟨hid, hmore⟩ := map_id_addNode (w := { w with updatedAt := call.1.now }) kind hid h
    have hadded : (Command.appendNode k spec).perform call.1 s = _ :=
      perform_of_effect (.nodeAdded hw hkind)
    refine ⟨_, _, _, hadded, get_put_self s k _, .inl ⟨?_, congrArg some hid, hmore⟩⟩
    simp [fits, hkind, Except.isOk, Except.toBool]

/-- Nodes that are appended one after the other are numbered one after the other. -/
theorem appending_run (calls : List (Draw × NodeSpec)) (hw : s.get k = .ok w)
    (h : w.nodes.map (·.id) = (List.range' 1 n).map (numberedId "node")) :
    ∃ t entries, performAll s (calls.map (appending k)) = some (t, entries) ∧
      entries.filterMap (·.answer.nodeId?) =
        (List.range' (n + 1) (calls.countP fits)).map (numberedId "node") := by
  induction calls generalizing s w n with
  | nil => exact ⟨s, [], rfl, by simp⟩
  | cons call calls ih =>
    obtain ⟨u, v, a, hstep, hv, ⟨hfits, ha, hmore⟩ | ⟨hfits, ha, rfl⟩⟩ := appending_step call hw h
    · obtain ⟨t, entries, hrun, hids⟩ := ih hv hmore
      refine ⟨t, _, performAll_cons_iff.mpr ⟨u, a, entries, hstep, hrun, rfl⟩, ?_⟩
      simp [ha, hids, hfits, List.range'_succ]
    · obtain ⟨t, entries, hrun, hids⟩ := ih hv h
      refine ⟨t, _, performAll_cons_iff.mpr ⟨u, a, entries, hstep, hrun, rfl⟩, ?_⟩
      simp [ha, hids, hfits]

/-- The ids that are made up for nodes and connections are the first that are free, and the nodes
that are appended without ids to a workflow without nodes are numbered from one on, as long as their
properties fit. -/
theorem made_up_ids_first_free :
    (∀ w : Workflow, FirstFree "node" (w.nodes.map (·.id)) w.nextNodeId ∧
      FirstFree "conn" (w.connections.map (·.id)) w.nextConnectionId) ∧
    ∀ (s : Store) (k : String) (w : Workflow) (calls : List (Draw × NodeSpec)),
      s.get k = .ok w → w.nodes = [] →
      ∃ t entries, performAll s (calls.map (appending k)) = some (t, entries) ∧
        entries.filterMap (·.answer.nodeId?) =
          (List.range' 1 (calls.countP fits)).map fun i => "node_" ++ Nat.repr i := by
  refine ⟨fun w => ⟨freshId_firstFree _ _, freshId_firstFree _ _⟩, fun s k w calls hw hnodes => ?_⟩
  exact appending_run calls hw (by simp [hnodes])

/-- Ids that leave a gap behind the number of nodes, two of them alike. -/
def gappedStart : Workflow :=
  let node (id : String) : Node := ⟨id, .print "x", .origin, [], []⟩
  { raceStart with nodes := ["node_4", "node_007", "node_4", "node_5"].map node }

/-- The properties of the second one are no object. -/
def unnamedCalls : List (Draw × NodeSpec) :=
  [(noon, {}), (noon, { properties := some (.array []) }), (evening, { id := some "node_1" })]

/-- Numbers up to the number of nodes are not looked at, and those that are taken are passed over.
-/
theorem made_up_ids_first_free_gapped :
    FirstFree "node" ["node_4", "node_007", "node_4", "node_5"] gappedStart.nextNodeId ∧
    gappedStart.nextNodeId = "node_6" ∧
    ∃ t entries,
      performAll ⟨[("w", { raceStart with nodes := [] })]⟩ (unnamedCalls.map (appending "w")) =
        some (t, entries) ∧
      entries.filterMap (·.answer.nodeId?) = ["node_1", "node_2"] := by
  obtain ⟨hfirst, hrun⟩ := made_up_ids_first_free
  obtain ⟨t, entries, hperform, hids⟩ :=
    hrun ⟨[("w", { raceStart with nodes := [] })]⟩ "w" _ unnamedCalls rfl rfl
  have hcount : unnamedCalls.countP fits = 2 := by decide +kernel
  rw [hcount] at hids
  exact ⟨(hfirst gappedStart).1, by decide +kernel, t, entries, hperform, hids⟩

end

end Shared

end Flowboard
