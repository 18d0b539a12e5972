import Flowboard.Proofs.Ages
import Flowboard.Proofs.Separation
import Mathlib.Data.String.Basic

/-! The list of all workflows: what is stored decides about it, and nothing else. -/
namespace Flowboard

/-- What decides about the place of a workflow in the list: when it was made, and then its id. -/
def Workflow.age (w : Workflow) : Timestamp ×ₗ String :=
  toLex (w.createdAt, w.id)

namespace Store

variable {s : Store} {id : String} {v w : Workflow} {vs : List Workflow}

theorem listedBefore_iff_age_le : listedBefore v w = true ↔ v.age ≤ w.age := by
  simp [listedBefore, Workflow.age, Prod.Lex.toLex_le_toLex, Timestamp.before_iff_lt,
    le_iff_lt_or_eq (a := v.id), -String.lt_iff_ltb]

/-- All workflows, in the order of their ids. -/
def values (s : Store) : List Workflow :=
  s.workflows.map (·.2)

theorem Keyed.mem_values (hs : s.Keyed) : w ∈ s.values ↔ s.get w.id = .ok w := by
  rw [hs.get_eq_ok_iff, values, List.mem_map]
  constructor
  · rintro ⟨⟨key, w⟩, he, rfl⟩
    rw [hs.own _ he]
    exact he
  · exact fun h => ⟨_, h, rfl⟩

/-- No two workflows share an id, so that no two are of the same age. -/
theorem Keyed.values_pairwise (hs : s.Keyed) : s.values.Pairwise fun v w => v.age ≠ w.age := by
  refine List.pairwise_map.mpr (hs.sorted.imp_of_mem fun {e f} he hf hlt hage => ?_)
  have hid : e.2.id = f.2.id := (Prod.mk.inj (toLex.injective hage)).2
  rw [hs.own e he, hs.own f hf] at hid
  exact String.ne_of_lt hlt hid

theorem list_perm (s : Store) : s.list.Perm s.values :=
  List.mergeSort_perm s.values listedBefore

theorem mergeSort_pairwise (vs : List Workflow) :
    (vs.mergeSort listedBefore).Pairwise fun v w => v.age ≤ w.age := by
  refine (List.pairwise_mergeSort (fun u v w huv hvw => ?_) (fun v w => ?_) vs).imp
    listedBefore_iff_age_le.mp
  · rw [listedBefore_iff_age_le] at *
    exact huv.trans hvw
  · rw [Bool.or_eq_true, listedBefore_iff_age_le, listedBefore_iff_age_le]
    exact le_total v.age w.age

/-- The list goes up in age. -/
theorem Keyed.list_pairwise (hs : s.Keyed) : s.list.Pairwise fun v w => v.age < w.age := by
  have hne : s.list.Pairwise fun v w => v.age ≠ w.age :=
    (s.list_perm.pairwise_iff Ne.symm).mpr hs.values_pairwise
  exact (mergeSort_pairwise s.values).imp₂ (fun _ _ hle hne => lt_of_le_of_ne hle hne) hne

theorem Keyed.list_nodup (hs : s.Keyed) : s.list.Nodup :=
  hs.list_pairwise.imp fun hlt => mt (congrArg Workflow.age) hlt.ne

/-- What is listed is what is found under its own id. -/
theorem Keyed.mem_list (hs : s.Keyed) : w ∈ s.list ↔ s.get w.id = .ok w := by
  rw [s.list_perm.mem_iff, hs.mem_values]

/-- In whatever order the workflows are yielded, they are sorted into the same list. -/
theorem Keyed.mergeSort_eq_list (hs : s.Keyed) (h : vs.Perm s.values) :
    vs.mergeSort listedBefore = s.list := by
  have hperm : (vs.mergeSort listedBefore).Perm s.list :=
    (List.mergeSort_perm vs listedBefore).trans (h.trans s.list_perm.symm)
  refine hperm.eq_of_pairwise (fun v w hv hw hvw hwv => ?_) (mergeSort_pairwise vs)
    (mergeSort_pairwise s.values)
  -- two workflows of the same age have the same id, under which only one is stored
  have hid : v.id = w.id := (Prod.mk.inj (toLex.injective (le_antisymm hvw hwv))).2
  have hv := hs.mem_list.mp (hperm.mem_iff.mp hv)
  have hw := hs.mem_list.mp hw
  rw [hid, hw] at hv
  exact (Except.ok.inj hv).symm

/-- The list of all workflows is canonical. Each workflow stands under its own id, and once in the
list, which goes up in age and does not depend on the order in which the workflows are yielded. -/
structure Canonical (s : Store) : Prop where
  own : ∀ id w, s.get id = .ok w → w.id = id
  once : ∀ id w, s.get id = .ok w → s.list.count w = 1
  increasing : s.list.Pairwise fun v w =>
    v.createdAt < w.createdAt ∨ v.createdAt = w.createdAt ∧ v.id < w.id
  yielded : ∀ vs : List Workflow, vs.Perm (s.workflows.map (·.2)) →
    vs.mergeSort listedBefore = s.list
  length : s.list.length = s.size
  found : ∀ w ∈ s.list, s.get w.id = .ok w

/-- Workflows that stand under their own ids have a canonical list. -/
theorem Keyed.canonical (hs : s.Keyed) : s.Canonical where
  own _ _ := hs.id_eq
  once id w h := by
    obtain rfl := hs.id_eq h
    exact List.count_eq_one_of_mem hs.list_nodup (hs.mem_list.mpr h)
  increasing := hs.list_pairwise.imp fun h => Prod.Lex.toLex_lt_toLex.mp h
  yielded _ := hs.mergeSort_eq_list
  length := by rw [s.list_perm.length_eq, values, List.length_map, size]
  found _ := hs.mem_list.mp

end Store

namespace Shared

open Store

variable {s t : Store} {d : Draw} {r : Request} {a : Answer} {ops : List Operation}
  {entries : List Entry}

theorem keyed_perform (h : r.perform d s = some (t, a)) (hs : s.Keyed) : t.Keyed := by
  cases r with
  | query q =>
    obtain ⟨rfl, -⟩ := Prod.mk.inj (Option.some.inj h)
    exact hs
  | command c => exact (effect_of_perform h).writes.keyed hs

theorem keyed_performAll (h : performAll s ops = some (t, entries)) (hs : s.Keyed) : t.Keyed := by
  induction ops generalizing s entries with
  | nil =>
    obtain ⟨rfl, -⟩ := Prod.mk.inj (Option.some.inj h)
    exact hs
  | cons o ops ih =>
    obtain ⟨u, a, rest, hperform, hrest, -⟩ := performAll_cons_iff.mp h
    exact ih hrest (keyed_perform hperform hs)

/-- Whatever is done to a store, one operation after the other or by clients whose steps come
between each other's, all workflows have one list. -/
theorem list_canonical :
    (∀ ops s entries, performAll .empty ops = some (s, entries) → s.Canonical) ∧
    ∀ (Client : Type) [DecidableEq Client] (tag : Nat) (events : List (Event Client))
      (σ : State Client), Run (.initial .empty tag) events σ → σ.current.store.Canonical :=
  ⟨fun _ _ _ h => (keyed_performAll h keyed_empty).canonical,
    fun _ _ _ _ _ run => (keyed_run run (sound_initial _ _) keyed_empty).canonical⟩

/-- Two workflows are made at the same time, and then one that comes before them by its id. -/
def tiedOperations : List Operation :=
  [⟨noon, .command (.create { id := some "c" })⟩, ⟨noon, .command (.create { id := some "b" })⟩,
   ⟨evening, .command (.create early)⟩, ⟨laterDraw, .command (.update "c" late)⟩]

/-- Of the workflows that are made at the same time the one with the lesser id is listed first. -/
theorem list_canonical_tied :
    (∃ s entries, performAll .empty tiedOperations = some (s, entries) ∧ s.Canonical ∧
      s.list.map (fun w => (w.createdAt, w.id)) =
        [(noon.now, "b"), (noon.now, "c"), (evening.now, "a")]) ∧
    ∃ σ, Run (.initial .empty 0) remadeBefore σ ∧ σ.current.store.Canonical := by
  obtain ⟨hoperations, hruns⟩ := list_canonical
  let a := newWorkflow early "a" evening.now
  let b := newWorkflow {} "b" noon.now
  let c := applyPatch late { newWorkflow {} "c" noon.now with updatedAt := laterDraw.now }
  have hperform : ∃ entries,
      performAll .empty tiedOperations = some (⟨[("a", a), ("b", b), ("c", c)]⟩, entries) :=
    ⟨_, rfl⟩
  obtain ⟨entries, hperform⟩ := hperform
  have hcanonical := hoperations _ _ _ hperform
  have hsorted : [b, c, a].Pairwise fun v w => listedBefore v w = true := by decide
  have hperm : ([b, c] ++ [a]).Perm ([a] ++ [b, c]) := List.perm_append_comm
  have hlist := hcanonical.yielded [b, c, a] hperm
  rw [List.mergeSort_of_pairwise hsorted] at hlist
  obtain ⟨σ, -, before, -⟩ := timed_remade
  exact ⟨⟨_, entries, hperform, hcanonical, hlist ▸ rfl⟩, σ, before.run,
    hruns _ _ _ σ before.run⟩

end Shared

end Flowboard
