import Flowboard.Proofs.Succession
import Mathlib.Data.Prod.Lex
import Mathlib.Order.Basic

/-! Points in time are in a linear order. The times of stored workflows do not go back, as long as
the clock does not. -/
namespace Flowboard

namespace Date

/-- What decides about the order of days: the year, then the month, then the day of the month. -/
def rank (d : Date) : Int ×ₗ Nat ×ₗ Nat :=
  toLex (d.year, toLex (d.month, d.day))

theorem rank_inj {a b : Date} (h : a.rank = b.rank) : a = b := by
  obtain ⟨year, month, day, _⟩ := a
  obtain ⟨year', month', day', _⟩ := b
  obtain ⟨rfl, hrest⟩ := Prod.mk.inj (toLex.injective h)
  obtain ⟨rfl, rfl⟩ := Prod.mk.inj (toLex.injective hrest)
  rfl

theorem before_iff_rank_lt {a b : Date} : a.before b = true ↔ a.rank < b.rank := by
  simp [before, rank, Prod.Lex.toLex_lt_toLex]

end Date

namespace Timestamp

/-- What decides about the order of points in time: the day, then the second of the day, then the
nanoseconds of the second. -/
def rank (t : Timestamp) : (Int ×ₗ Nat ×ₗ Nat) ×ₗ Nat ×ₗ Nat :=
  toLex (t.date.rank, toLex (t.second, t.nanos))

theorem rank_inj {a b : Timestamp} (h : a.rank = b.rank) : a = b := by
  obtain ⟨date, second, nanos, _⟩ := a
  obtain ⟨date', second', nanos', _⟩ := b
  obtain ⟨hdate, hrest⟩ := Prod.mk.inj (toLex.injective h)
  obtain rfl := Date.rank_inj hdate
  obtain ⟨rfl, rfl⟩ := Prod.mk.inj (toLex.injective hrest)
  rfl

instance : LinearOrder Timestamp :=
  LinearOrder.lift' rank fun _ _ => rank_inj

/-- The comparison that lists use is the one of the linear order. -/
theorem before_iff_lt {a b : Timestamp} : a.before b = true ↔ a < b := by
  have hdate : (a.date == b.date) = true ↔ a.date.rank = b.date.rank := by
    rw [beq_iff_eq]
    exact ⟨congrArg Date.rank, Date.rank_inj⟩
  change _ ↔ a.rank < b.rank
  simp [before, rank, Prod.Lex.toLex_lt_toLex, Date.before_iff_rank_lt, hdate]

end Timestamp

namespace Store

variable {s : Store} {times more : List Timestamp}

/-- Each workflow was made no later than it was last changed, and that at one of the times. -/
def Dated (times : List Timestamp) (s : Store) : Prop :=
  ∀ id w, s.get id = .ok w → w.createdAt ≤ w.updatedAt ∧ w.updatedAt ∈ times

/-- No workflow was changed after a time. -/
def Until (s : Store) (now : Timestamp) : Prop :=
  ∀ id w, s.get id = .ok w → w.updatedAt ≤ now

theorem dated_empty (times : List Timestamp) : empty.Dated times := by
  intro id w h
  simp [get, empty] at h

theorem Dated.append (h : s.Dated times) (more : List Timestamp) : s.Dated (times ++ more) :=
  fun id w hw => ⟨(h id w hw).1, List.mem_append_left more (h id w hw).2⟩

/-- A clock that does not go back shows no time before any that it has shown. -/
theorem Dated.until {now : Timestamp} (h : s.Dated times)
    (forward : (times ++ [now]).Pairwise (· ≤ ·)) : s.Until now :=
  fun id w hw => (List.pairwise_append.mp forward).2.2 _ (h id w hw).2 _ List.mem_cons_self

/-- Under an id there is a workflow again, and none of its times has gone back. -/
def Advances (s t : Store) (id : String) : Prop :=
  ∀ v, s.get id = .ok v → ∃ w, t.get id = .ok w ∧ v.createdAt ≤ w.createdAt ∧
    v.updatedAt ≤ w.updatedAt

theorem Advances.refl (s : Store) (id : String) : s.Advances s id :=
  fun v hv => ⟨v, hv, le_rfl, le_rfl⟩

theorem Advances.trans {t u : Store} {id : String} (h : s.Advances t id) (h' : t.Advances u id) :
    s.Advances u id := by
  intro v hv
  obtain ⟨w, hw, hcreated, hupdated⟩ := h v hv
  obtain ⟨x, hx, hcreated', hupdated'⟩ := h' w hw
  exact ⟨x, hx, hcreated.trans hcreated', hupdated.trans hupdated'⟩

end Store

namespace Shared

open Store

variable {s t : Store} {c : Command} {a : Answer} {now : Timestamp} {id : String} {v w : Workflow}
  {times later : List Timestamp}

/-- An attempt at a command reads the clock, unless it does not find the workflow to be changed. -/
def Command.ReadsClock (c : Command) (s : Store) : Prop :=
  ∀ id, c.workflow? = some id → s.contains id = true

instance (c : Command) (s : Store) : Decidable (c.ReadsClock s) :=
  decidable_of_iff (c.workflow?.all s.contains = true) (by
    cases h : c.workflow? <;> simp [Command.ReadsClock, h])

/-- What has been written is dated, if the writer has read the clock where the command asks for it.
-/
theorem Writes.dated (h : Writes now s c a t)
    (hread : c.ReadsClock s → now ∈ times ∧ s.Until now) (hs : s.Dated times) : t.Dated times := by
  cases h with
  | nothing => exact hs
  | @made r x created updated =>
    obtain ⟨hnow, -⟩ := hread (by simp [Command.ReadsClock, Command.workflow?])
    intro id w hw
    by_cases hid : id = x.id
    · subst hid
      obtain rfl : x = w := by simpa using hw
      exact ⟨(created.trans updated.symm).le, updated ▸ hnow⟩
    · rw [get_put_of_ne s x hid] at hw
      exact hs id w hw
  | @changed c a key v x about known same created updated =>
    obtain ⟨hnow, huntil⟩ := hread (by simp [Command.ReadsClock, about, contains_of_get known])
    intro id w hw
    by_cases hid : id = key
    · subst hid
      obtain rfl : x = w := by simpa using hw
      have hold := (hs _ v known).1.trans (huntil _ v known)
      exact ⟨by rwa [created, updated], updated ▸ hnow⟩
    · rw [get_put_of_ne s x hid] at hw
      exact hs id w hw

/-- No time of a workflow goes back when something is written by a clock that does not. -/
theorem Writes.advances (h : Writes now s c a t) (hread : c.ReadsClock s → s.Until now)
    (hs : s.Dated times) (id : String) : s.Advances t id := by
  cases h with
  | nothing => exact .refl s id
  | @made r x created updated =>
    have huntil := hread (by simp [Command.ReadsClock, Command.workflow?])
    intro v hv
    by_cases hid : id = x.id
    · subst hid
      have hupdated := huntil _ v hv
      have hcreated := (hs _ v hv).1.trans hupdated
      exact ⟨x, get_put_self s _ x, by rwa [created], by rwa [updated]⟩
    · exact ⟨v, by rwa [get_put_of_ne s x hid], le_rfl, le_rfl⟩
  | @changed c a key old x about known same created updated =>
    have huntil := hread (by simp [Command.ReadsClock, about, contains_of_get known])
    intro v hv
    by_cases hid : id = key
    · subst hid
      obtain rfl : old = v := Except.ok.inj (known.symm.trans hv)
      exact ⟨x, get_put_self s _ x, created.ge, updated ▸ huntil _ old hv⟩
    · exact ⟨v, by rwa [get_put_of_ne s x hid], le_rfl, le_rfl⟩

/-- Only a workflow that is made in place of another one has been made at another time. -/
theorem Writes.created_again (h : Writes now s c a t) (hv : s.get id = .ok v)
    (hw : t.get id = .ok w) (hne : w.createdAt ≠ v.createdAt) :
    ∃ r u, c = .create r ∧ a = .workflow u ∧ u.id = id := by
  cases h with
  | nothing =>
    obtain rfl := Except.ok.inj (hv.symm.trans hw)
    exact absurd rfl hne
  | @made r x created updated =>
    by_cases hid : id = x.id
    · exact ⟨r, x, rfl, rfl, hid.symm⟩
    · rw [get_put_of_ne s x hid] at hw
      obtain rfl := Except.ok.inj (hv.symm.trans hw)
      exact absurd rfl hne
  | @changed c a key old x about known same created updated =>
    by_cases hid : id = key
    · subst hid
      obtain rfl : x = w := by simpa using hw
      obtain rfl : old = v := Except.ok.inj (known.symm.trans hv)
      exact absurd created hne
    · rw [get_put_of_ne s x hid] at hw
      obtain rfl := Except.ok.inj (hv.symm.trans hw)
      exact absurd rfl hne

/-- The version that an attempt has seen is dated, and no workflow in it was changed after the time
that the attempt has read off the clock. -/
def Phase.Timely (times : List Timestamp) : Phase → Prop
  | .loaded _ _ seen _ => seen.store.Dated times
  | .computed c _ seen _ _ d => seen.store.Dated times ∧
      (c.ReadsClock seen.store → d.now ∈ times ∧ seen.store.Until d.now)
  | _ => True

theorem Phase.Timely.append {p : Phase} (h : p.Timely times) (more : List Timestamp) :
    p.Timely (times ++ more) := by
  cases p with
  | loaded c change seen left => exact Store.Dated.append h more
  | computed c change seen next left d =>
    refine ⟨h.1.append more, fun hread => ?_⟩
    obtain ⟨hnow, huntil⟩ := h.2 hread
    exact ⟨List.mem_append_left more hnow, huntil⟩
  | _ => trivial

variable {Client : Type}

/-- What is read off the clock in a step. The time in a draw is not read when the attempt has no use
for it. -/
def State.reading (σ : State Client) : Event Client → List Timestamp
  | .compute k d =>
    match σ.phase k with
    | .loaded c _ seen _ => if c.ReadsClock seen.store then [d.now] else []
    | _ => []
  | _ => []

/-- The current version and all versions that attempts have seen are timely. -/
structure State.Timely (times : List Timestamp) (σ : State Client) : Prop where
  current : σ.current.store.Dated times
  phase : ∀ k, (σ.phase k).Timely times

theorem timely_initial (tag : Nat) : (State.initial .empty tag : State Client).Timely [] :=
  ⟨dated_empty _, fun _ => trivial⟩

variable [DecidableEq Client]

/-- A run, with what is read off the clock in it, in the order in which it is read. -/
inductive Timed (start : State Client) :
    List (Event Client) → List Timestamp → State Client → Prop
  | nil : Timed start [] [] start
  | snoc {before times σ e τ} (timed : Timed start before times σ) (step : Step σ e τ) :
      Timed start (before ++ [e]) (times ++ σ.reading e) τ

variable {ρ σ τ : State Client} {e : Event Client} {events more : List (Event Client)}

theorem Timed.run (h : Timed ρ events times σ) : Run ρ events σ := by
  induction h with
  | nil => exact .nil
  | snoc timed step ih => exact ih.snoc step

theorem Run.timed (h : Run ρ events σ) : ∃ times, Timed ρ events times σ := by
  induction h with
  | nil => exact ⟨[], .nil⟩
  | snoc run step ih =>
    obtain ⟨times, timed⟩ := ih
    exact ⟨_, timed.snoc step⟩

/-- Whoever publishes has read the clock since the last change of what is replaced. -/
theorem swap_timely {k : Client} {d : Draw} (h : Step σ (.swap k c d a) τ) (hσ : Sound σ)
    (ht : σ.Timely times) :
    c.ReadsClock σ.current.store → d.now ∈ times ∧ σ.current.store.Until d.now := by
  cases h with
  | @swap _ _ change seen next left _ _ computed unchanged returned =>
    have hseen : σ.InUse seen := Or.inr ⟨k, by simp [computed, Phase.versions]⟩
    obtain rfl := hσ.distinct _ _ (Or.inl rfl) hseen unchanged
    have htimely := ht.phase k
    rw [computed] at htimely
    exact htimely.2

/-- What a step publishes is dated. -/
theorem dated_step (h : Step σ e τ) (hσ : Sound σ) (ht : σ.Timely times) :
    τ.current.store.Dated times := by
  obtain hsame | ⟨k, c, d, a, rfl⟩ := step_current_or_swap h
  · rw [hsame]
    exact ht.current
  · exact (step_effect h hσ).writes.dated (swap_timely h hσ ht) ht.current

/-- Whatever happens, attempts keep to what the clock has shown so far. -/
theorem phase_timely_step (h : Step σ e τ) (ht : σ.Timely times)
    (forward : (times ++ σ.reading e).Pairwise (· ≤ ·)) :
    ∀ k, (τ.phase k).Timely (times ++ σ.reading e) := by
  have hold : ∀ k, (σ.phase k).Timely (times ++ σ.reading e) :=
    fun k => (ht.phase k).append _
  have hcurrent := ht.current.append (σ.reading e)
  cases h with
  | invoke idle => exact forall_enter hold trivial
  | refuse called refused => exact forall_enter hold trivial
  | read called => exact forall_enter hold trivial
  | load called prepared => exact forall_enter hold hcurrent
  | @compute k c change seen left d next a tag loaded attempted fresh =>
    have hseen := ht.phase k
    rw [loaded] at hseen
    refine forall_enter hold ⟨hseen.append _, fun hread => ?_⟩
    have hreading : σ.reading (.compute k d) = [d.now] := by simp [State.reading, loaded, hread]
    rw [hreading] at forward ⊢
    exact ⟨List.mem_append_right times List.mem_cons_self, hseen.until forward⟩
  | retry computed changed => exact forall_enter hold hcurrent
  | @swap k c change seen next left d a computed unchanged returned =>
    exact forall_enter (p := .returning a) hold trivial
  | respond returning => exact forall_enter hold trivial

theorem timely_step (h : Step σ e τ) (hσ : Sound σ) (ht : σ.Timely times)
    (forward : (times ++ σ.reading e).Pairwise (· ≤ ·)) : τ.Timely (times ++ σ.reading e) :=
  ⟨(dated_step h hσ ht).append _, phase_timely_step h ht forward⟩

/-- No time of a workflow goes back in a step. -/
theorem advances_step (h : Step σ e τ) (hσ : Sound σ) (ht : σ.Timely times) (id : String) :
    σ.current.store.Advances τ.current.store id := by
  obtain hsame | ⟨k, c, d, a, rfl⟩ := step_current_or_swap h
  · rw [hsame]
    exact .refl _ id
  · exact (step_effect h hσ).writes.advances (fun hread => (swap_timely h hσ ht hread).2)
      ht.current id

/-- Along a run everything stays timely while the clock does not go back. -/
theorem timely_run (h : Timed σ more later τ) (hσ : Sound σ) (ht : σ.Timely times)
    (forward : (times ++ later).Pairwise (· ≤ ·)) : τ.Timely (times ++ later) := by
  induction h with
  | nil => simpa using ht
  | snoc timed step ih =>
    rw [← List.append_assoc] at forward ⊢
    exact timely_step step (sound_run timed.run hσ) (ih (List.pairwise_append.mp forward).1) forward

/-- No time of a workflow goes back along a run while the clock does not. -/
theorem advances_run (h : Timed σ more later τ) (hσ : Sound σ) (ht : σ.Timely times)
    (forward : (times ++ later).Pairwise (· ≤ ·)) (id : String) :
    σ.current.store.Advances τ.current.store id := by
  induction h with
  | nil => exact .refl _ id
  | snoc timed step ih =>
    rw [← List.append_assoc] at forward
    have hbefore := (List.pairwise_append.mp forward).1
    have hstep := advances_step step (sound_run timed.run hσ) (timely_run timed hσ ht hbefore) id
    exact (ih hbefore).trans hstep

theorem created_again_step (h : Step σ e τ) (hσ : Sound σ) (hv : σ.current.store.get id = .ok v)
    (hw : τ.current.store.get id = .ok w) (hne : w.createdAt ≠ v.createdAt) :
    ∃ k r d u, e = .swap k (.create r) d (.workflow u) ∧ u.id = id := by
  obtain hsame | ⟨k, c, d, a, rfl, hwrites⟩ := step_writes h hσ
  · rw [hsame, hv] at hw
    obtain rfl := Except.ok.inj hw
    exact absurd rfl hne
  · obtain ⟨r, u, rfl, rfl, hu⟩ := hwrites.created_again hv hw hne
    exact ⟨k, r, d, u, rfl, hu⟩

/-- Any differing time of making has a creation inside the run, whatever the clock does. -/
theorem created_again_run (h : Run σ events τ) (hσ : Sound σ)
    (hv : σ.current.store.get id = .ok v) (hw : τ.current.store.get id = .ok w)
    (hne : w.createdAt ≠ v.createdAt) :
    ∃ k r d u, .swap k (.create r) d (.workflow u) ∈ events ∧ u.id = id := by
  induction h generalizing w with
  | nil =>
    obtain rfl := Except.ok.inj (hv.symm.trans hw)
    exact absurd rfl hne
  | @snoc events ρ e τ run step ih =>
    have hsound := sound_run run hσ
    obtain ⟨x, hx⟩ : ∃ x, ρ.current.store.get id = .ok x :=
      contains_iff_get.mp (grows_run run hσ id (contains_of_get hv))
    by_cases heq : x.createdAt = v.createdAt
    · obtain ⟨k, r, d, u, rfl, hu⟩ := created_again_step step hsound hx hw (by rwa [heq])
      exact ⟨k, r, d, u, List.mem_append_right _ List.mem_cons_self, hu⟩
    · obtain ⟨k, r, d, u, hmem, hu⟩ := ih hx heq
      exact ⟨k, r, d, u, List.mem_append_left _ hmem, hu⟩

/-- As long as what clients read off the clock does not go back, whichever client reads it: a
published workflow was made no later than it was last changed, and in the versions that are
published later under its id neither time goes back. It was made at another time only if it has been
made again in between. What is refused changes neither time. -/
structure Ages (σ τ : State Client) (more : List (Event Client)) : Prop where
  ordered : ∀ id w, σ.current.store.get id = .ok w → w.createdAt ≤ w.updatedAt
  advance : ∀ id v, σ.current.store.get id = .ok v → ∃ w, τ.current.store.get id = .ok w ∧
    v.createdAt ≤ w.createdAt ∧ v.updatedAt ≤ w.updatedAt ∧
    (w.createdAt ≠ v.createdAt →
      ∃ k r d u, .swap k (.create r) d (.workflow u) ∈ more ∧ u.id = id)
  refused : ∀ e ρ p reason, Step σ e ρ → e.point? = some p → p.answer = .error reason →
    ρ.current.store = σ.current.store

/-- Times move on as long as the clock does, whoever reads it. -/
theorem times_advance {tag : Nat} (before : Timed (.initial .empty tag) events times σ)
    (after : Timed σ more later τ) (forward : (times ++ later).Pairwise (· ≤ ·)) :
    Ages σ τ more := by
  have hsound := run_sound before.run
  have hinitial : (State.initial .empty tag : State Client).Timely [] := timely_initial tag
  have htimely : σ.Timely times := by
    simpa using timely_run before (sound_initial _ _) hinitial
      (by simpa using (List.pairwise_append.mp forward).1)
  refine ⟨fun id w hw => (htimely.current id w hw).1, fun id v hv => ?_, ?_⟩
  · obtain ⟨w, hw, hcreated, hupdated⟩ := advances_run after hsound htimely forward id v hv
    exact ⟨w, hw, hcreated, hupdated, created_again_run after.run hsound hv hw⟩
  · exact fun e ρ p reason step hp hreason => (step_refuses step hsound hp hreason noon).2

/-- A client makes a workflow that another one renames. The first attempt at the name finds nothing
and has no use for the time in its draw. -/
def remadeBefore : List (Event Bool) :=
  [.invoke true (.command (.create early)), .invoke false (.command (.update "a" late)),
   .load true, .load false, .compute true noon, .compute false laterDraw,
   .swap true (.create early) noon (.workflow (newWorkflow early "a" noon.now)), .retry false,
   .respond true (.workflow (newWorkflow early "a" noon.now))]

/-- The workflow is made again, which overtakes the second attempt at the name. -/
def remadeAfter : List (Event Bool) :=
  let remade := newWorkflow early "a" evening.now
  [.compute false evening, .invoke true (.command (.create early)), .load true,
   .compute true evening, .swap true (.create early) evening (.workflow remade), .retry false,
   .compute false laterDraw,
   .swap false (.update "a" late) laterDraw
     (.workflow (applyPatch late { remade with updatedAt := laterDraw.now }))]

theorem timed_remade : ∃ σ τ, Timed (State.initial .empty 0) remadeBefore [noon.now] σ ∧
    Timed σ remadeAfter [evening.now, evening.now, laterDraw.now] τ := by
  have timed : Timed (State.initial .empty 0 : State Bool) [] [] _ := .nil
  have timed := timed.snoc (.invoke (k := true) (r := .command (.create early)) rfl)
  have timed := timed.snoc (.invoke (k := false) (r := .command (.update "a" late)) rfl)
  have timed := timed.snoc (.load (k := true) rfl rfl)
  have timed := timed.snoc (.load (k := false) rfl rfl)
  have timed := timed.snoc (.compute (k := true) (d := noon) rfl rfl
    (show State.Fresh _ 1 from State.fresh_iff.mpr (by decide)))
  have timed := timed.snoc (.compute (k := false) (d := laterDraw) rfl rfl
    (show State.Fresh _ 2 from State.fresh_iff.mpr (by decide)))
  have timed := timed.snoc (.swap (k := true) rfl rfl (.inl rfl))
  have timed := timed.snoc (.retry (k := false) rfl (by decide))
  have timed := timed.snoc (.respond (k := true) rfl)
  have rest {σ : State Bool} {events times} (_ : Timed (.initial .empty 0) events times σ) :
      Timed σ [] [] σ := .nil
  have more := rest timed
  have more := more.snoc (.compute (k := false) (d := evening) rfl rfl
    (show State.Fresh _ 2 from State.fresh_iff.mpr (by decide)))
  have more := more.snoc (.invoke (k := true) (r := .command (.create early)) rfl)
  have more := more.snoc (.load (k := true) rfl rfl)
  have more := more.snoc (.compute (k := true) (d := evening) rfl rfl
    (show State.Fresh _ 3 from State.fresh_iff.mpr (by decide)))
  have more := more.snoc (.swap (k := true) rfl rfl (.inl rfl))
  have more := more.snoc (.retry (k := false) rfl (by decide))
  have more := more.snoc (.compute (k := false) (d := laterDraw) rfl rfl
    (show State.Fresh _ 4 from State.fresh_iff.mpr (by decide)))
  have more := more.snoc (.swap (k := false) rfl rfl (.inl rfl))
  exact ⟨_, _, timed, more⟩

/-- The clock is read three more times by two clients, one of which makes the workflow again. -/
theorem times_advance_remade : ∃ σ τ,
    Timed (State.initial .empty 0) remadeBefore [noon.now] σ ∧
    Timed σ remadeAfter [evening.now, evening.now, laterDraw.now] τ ∧
    [noon.now, evening.now, evening.now, laterDraw.now].Pairwise (· ≤ ·) ∧
    Ages σ τ remadeAfter := by
  obtain ⟨σ, τ, before, after⟩ := timed_remade
  have forward : [noon.now, evening.now, evening.now, laterDraw.now].Pairwise (· ≤ ·) := by decide
  exact ⟨σ, τ, before, after, forward, times_advance before after forward⟩

end Shared

end Flowboard
