import Flowboard.Proofs.Generated

/-! How one version of a store follows another one: at most one workflow has been made anew or
changed, and none is ever taken away. -/
namespace Flowboard

theorem Table.length_le_length_insert {α : Type} (t : Table α) (key : String) (value : α) :
    t.length ≤ (t.insert key value).length := by
  induction t with
  | nil => simp [insert]
  | cons e t ih =>
    obtain ⟨k, v⟩ := e
    simp only [insert]
    split
    · simp
    · split
      · simp
      · simpa using ih

theorem Table.get?_of_mem {α : Type} {t : Table α} (ht : t.Sorted) {key : String} {value : α}
    (h : (key, value) ∈ t) : get? t key = some value := by
  induction t with
  | nil => simp at h
  | cons e t ih =>
    obtain ⟨k, v⟩ := e
    obtain ⟨hk, ht⟩ := List.pairwise_cons.mp ht
    rw [get?_cons]
    obtain h | h := List.mem_cons.mp h
    · obtain ⟨rfl, rfl⟩ := Prod.mk.inj h
      exact if_pos rfl
    · rw [if_neg (String.ne_of_lt (hk _ h)), ih ht h]

theorem Table.mem_of_get? {α : Type} {t : Table α} {key : String} {value : α}
    (h : get? t key = some value) : (key, value) ∈ t := by
  induction t with
  | nil => simp at h
  | cons e t ih =>
    obtain ⟨k, v⟩ := e
    rw [get?_cons] at h
    split_ifs at h with hk
    · rw [hk, Option.some.inj h]
      exact List.mem_cons_self
    · exact List.mem_cons_of_mem _ (ih h)

namespace Store

variable {s : Store} {id : String} {w : Workflow}

theorem contains_iff_get : s.contains id = true ↔ ∃ w, s.get id = .ok w := by
  constructor
  · intro h
    cases hget : s.get id with
    | ok w => exact ⟨w, rfl⟩
    | error e => simp [(get_eq_error_iff.mp hget).1] at h
  · rintro ⟨w, hw⟩
    exact contains_of_get hw

theorem contains_put_self (s : Store) (id : String) (w : Workflow) :
    (s.put id w).contains id = true :=
  contains_of_get (get_put_self s id w)

/-- Every id that is in use in the one store is in use in the other. -/
def Grows (s t : Store) : Prop :=
  ∀ id, s.contains id = true → t.contains id = true

theorem grows_put (s : Store) (id : String) (w : Workflow) : s.Grows (s.put id w) := by
  intro other h
  by_cases hother : other = id
  · subst hother
    exact contains_put_self s other w
  · rw [contains_congr (get_put_of_ne s w hother)]
    exact h

theorem size_le_size_put (s : Store) (id : String) (w : Workflow) : s.size ≤ (s.put id w).size :=
  Table.length_le_length_insert s.workflows id w

/-- The ids are in order, and under each of them stands the workflow with that id. -/
structure Keyed (s : Store) : Prop where
  sorted : s.workflows.Sorted
  own : ∀ e ∈ s.workflows, e.2.id = e.1

theorem keyed_empty : Keyed empty :=
  ⟨.nil, by simp [empty]⟩

theorem Keyed.put (hs : s.Keyed) (hid : w.id = id) : (s.put id w).Keyed := by
  refine ⟨Table.sorted_insert hs.sorted id w, fun e he => ?_⟩
  obtain rfl | he := Table.mem_insert he
  · exact hid
  · exact hs.own e he

theorem Keyed.get_eq_ok_iff (hs : s.Keyed) : s.get id = .ok w ↔ (id, w) ∈ s.workflows := by
  constructor
  · intro h
    unfold get at h
    split at h
    · rename_i hget
      obtain rfl := Except.ok.inj h
      exact Table.mem_of_get? hget
    · simp at h
  · intro h
    rw [get, Table.get?_of_mem hs.sorted h]

theorem Keyed.id_eq (hs : s.Keyed) (h : s.get id = .ok w) : w.id = id :=
  hs.own _ (hs.get_eq_ok_iff.mp h)

end Store

namespace Shared

open Store

variable {c : Command} {d : Draw} {s t : Store} {a : Answer} {r : Request} {now : Timestamp}
  {id : String}

/-- What a command writes at some time. A workflow that it makes has that time as both its times;
one that it changes keeps its id and the time at which it was made. -/
inductive Writes (now : Timestamp) (s : Store) : Command → Answer → Store → Prop
  | nothing {c e} : Writes now s c (.error e) s
  | made {r w} (created : w.createdAt = now) (updated : w.updatedAt = now) :
      Writes now s (.create r) (.workflow w) (s.put w.id w)
  | changed {c a id v w} (about : c.workflow? = some id) (known : s.get id = .ok v)
      (same : w.id = v.id) (created : w.createdAt = v.createdAt) (updated : w.updatedAt = now) :
      Writes now s c a (s.put id w)

/-- A command writes at most one workflow. -/
theorem Effect.writes (h : Effect d s c t a) : Writes d.now s c a t := by
  cases h with
  | refused reason => exact .nothing
  | @created r id chosen => exact .made (w := newWorkflow r id d.now) rfl rfl
  | updated known => exact .changed rfl known rfl rfl rfl
  | nodeAdded known fit => exact .changed rfl known rfl rfl rfl
  | nodeEdited known nodes first named patched => exact .changed rfl known rfl rfl rfl
  | connectionAdded known given => exact .changed rfl known rfl rfl rfl

theorem Writes.grows (h : Writes now s c a t) : s.Grows t := by
  cases h with
  | nothing => exact fun id hid => hid
  | made created updated => exact grows_put _ _ _
  | changed about known same created updated => exact grows_put _ _ _

/-- Each write leaves every workflow under its own id. -/
theorem Writes.keyed (h : Writes now s c a t) (hs : s.Keyed) : t.Keyed := by
  cases h with
  | nothing => exact hs
  | made created updated => exact hs.put rfl
  | changed about known same created updated => exact hs.put (same.trans (hs.id_eq known))

theorem Writes.size_le (h : Writes now s c a t) : s.size ≤ t.size := by
  cases h with
  | nothing => exact Nat.le_refl _
  | made created updated => exact size_le_size_put _ _ _
  | changed about known same created updated => exact size_le_size_put _ _ _

variable {Client : Type} [DecidableEq Client] {σ τ : State Client} {e : Event Client}
  {events : List (Event Client)}

/-- A step leaves the current store as it is, or publishes what one command writes to it. -/
theorem step_writes (h : Step σ e τ) (hσ : Sound σ) : τ.current.store = σ.current.store ∨
    ∃ k c d a, e = .swap k c d a ∧ Writes d.now σ.current.store c a τ.current.store := by
  obtain hsame | ⟨k, c, d, a, rfl⟩ := step_current_or_swap h
  · exact Or.inl (by rw [hsame])
  · exact Or.inr ⟨k, c, d, a, rfl, (step_effect h hσ).writes⟩

variable {P : Store → Prop}

/-- What every write keeps is kept by every step. -/
theorem kept_step (keeps : ∀ now s c a t, Writes now s c a t → P s → P t) (h : Step σ e τ)
    (hσ : Sound σ) (hs : P σ.current.store) : P τ.current.store := by
  obtain hsame | ⟨k, c, d, a, -, hwrites⟩ := step_writes h hσ
  · rwa [hsame]
  · exact keeps _ _ _ _ _ hwrites hs

/-- What every write keeps is kept along a run. -/
theorem kept_run (keeps : ∀ now s c a t, Writes now s c a t → P s → P t) (h : Run σ events τ)
    (hσ : Sound σ) (hs : P σ.current.store) : P τ.current.store := by
  induction h with
  | nil => exact hs
  | snoc run step ih => exact kept_step keeps step (sound_run run hσ) ih

/-- What has been published once is there in all later versions. -/
theorem grows_run (h : Run σ events τ) (hσ : Sound σ) :
    σ.current.store.Grows τ.current.store :=
  kept_run (P := fun s => σ.current.store.Grows s)
    (fun _ _ _ _ _ hwrites hgrows id hid => hwrites.grows id (hgrows id hid)) h hσ fun _ hid => hid

theorem keyed_run (h : Run σ events τ) (hσ : Sound σ) (hs : σ.current.store.Keyed) :
    τ.current.store.Keyed :=
  kept_run (fun _ _ _ _ _ hwrites => hwrites.keyed) h hσ hs

/-- Along a run workflows do not get fewer. -/
theorem size_le_run (h : Run σ events τ) (hσ : Sound σ) :
    σ.current.store.size ≤ τ.current.store.size :=
  kept_run (P := fun s => σ.current.store.size ≤ s.size)
    (fun _ _ _ _ _ hwrites hle => Nat.le_trans hle hwrites.size_le) h hσ (Nat.le_refl _)

end Shared

end Flowboard
