import Flowboard.Proofs.Clients

/-! However the steps of clients are interleaved, they are answered as if each operation had been
carried out on its own. -/
namespace Flowboard.Shared

open Store

variable {Client : Type} {σ τ : State Client} {e : Event Client} {k : Client}
  {before events : List (Event Client)} {r : Request} {c : Command} {p : Phase} {d : Draw}
  {draw : Option Draw} {s t : Store} {v : Version} {a : Answer}

/-- An operation at the point in time at which it takes effect, with what it took from outside the
store if it changes something. -/
structure Point where
  request : Request
  draw : Option Draw
  answer : Answer

def Event.point? : Event Client → Option Point
  | .refuse _ c e => some ⟨.command c, none, .error e⟩
  | .read _ q a => some ⟨.query q, none, a⟩
  | .swap _ c d a => some ⟨.command c, some d, a⟩
  | _ => none

/-- Carried out on its own, the operation takes one store to another with the same answer. -/
def Point.Performs (p : Point) (s t : Store) : Prop :=
  ∀ d, (∀ drawn ∈ p.draw, d = drawn) → p.request.perform d s = some (t, p.answer)

/-- Whatever is drawn besides, the operation can be carried out. -/
theorem Point.Performs.perform {p : Point} (h : p.Performs s t) (d : Draw) :
    ∃ d, p.request.perform d s = some (t, p.answer) :=
  ⟨p.draw.getD d, h _ fun drawn hdrawn => by rw [Option.mem_def.mp hdrawn, Option.getD_some]⟩

/-- Operations one after the other. -/
def Replays : List Point → Store → Store → Prop
  | [], s, t => s = t
  | p :: more, s, t => ∃ u, p.Performs s u ∧ Replays more u t

theorem replays_concat {ps : List Point} {q : Point} {u : Store} (h : Replays ps s t)
    (hq : q.Performs t u) : Replays (ps ++ [q]) s u := by
  induction ps generalizing s with
  | nil =>
    obtain rfl : s = t := h
    exact ⟨u, hq, rfl⟩
  | cons p ps ih =>
    obtain ⟨v, hp, hps⟩ := h
    exact ⟨v, hp, ih hps⟩

def Event.isAttempt : Event Client → Bool
  | .load _ => true
  | .compute _ _ => true
  | .retry _ => true
  | _ => false

/-- Versions in use that have the same tag are the same. -/
def State.Distinct (σ : State Client) : Prop :=
  ∀ v w, σ.InUse v → σ.InUse w → v.tag = w.tag → v = w

/-- What an attempt wants to publish, and the answer that it has left behind, are what its command
makes of the version that it saw. -/
def Phase.Valid : Phase → Prop
  | .loaded c change _ _ => c.prepare = .ok change
  | .computed c change seen next left d => c.prepare = .ok change ∧
      ∃ a, left = some a ∧ c.perform d seen.store = some (next.store, a)
  | _ => True

structure Sound (σ : State Client) : Prop where
  distinct : σ.Distinct
  valid : ∀ k, (σ.phase k).Valid

theorem distinct_initial (s : Store) (tag : Nat) : (State.initial s tag : State Client).Distinct := by
  have hcurrent : ∀ v, (State.initial s tag : State Client).InUse v → v = ⟨tag, s⟩ := by
    rintro v (h | ⟨k, hk⟩)
    · exact h
    · simp [State.initial, Phase.versions] at hk
  intro v w hv hw _
  rw [hcurrent v hv, hcurrent w hw]

theorem sound_initial (s : Store) (tag : Nat) : Sound (State.initial s tag : State Client) :=
  ⟨distinct_initial s tag, fun _ => trivial⟩

/-- Whoever finds the version current that it has seen publishes what its command makes of the
store, and returns the answer that belongs to it. -/
theorem swap_performs {seen next : Version} {left : Option Answer} (hσ : Sound σ)
    (computed : σ.phase k = .computed c change seen next left d)
    (unchanged : σ.current.tag = seen.tag) (returned : c.Returns left a) :
    c.perform d σ.current.store = some (next.store, a) := by
  have hseen : σ.InUse seen := Or.inr ⟨k, by simp [computed, Phase.versions]⟩
  obtain rfl := hσ.distinct _ _ (Or.inl rfl) hseen unchanged
  have hvalid := hσ.valid k
  rw [computed] at hvalid
  obtain ⟨-, b, rfl, hperform⟩ := hvalid
  obtain hleft | ⟨hleft, -⟩ := returned
  · rw [← Option.some.inj hleft]
    exact hperform
  · exact absurd hleft (by simp)

/-- A request has been made, and its client has only made attempts since then. -/
def Tried (k : Client) (before : List (Event Client)) (r : Request) : Prop :=
  ∃ earlier attempts, before = earlier ++ .invoke k r :: attempts ∧ ∀ e ∈ attempts, e.isAttempt

/-- A request has been made, and its client has only made attempts since then, the last of which has
just taken something from outside the store; or no attempt at all. -/
def Invoked (k : Client) (before : List (Event Client)) (r : Request) (draw : Option Draw) : Prop :=
  ∃ earlier attempts, before = earlier ++ .invoke k r :: attempts ∧
    (∀ e ∈ attempts, e.isAttempt) ∧ attempts.getLast? = draw.map (.compute k)

/-- An operation has just taken effect with an answer. -/
def Answered (before : List (Event Client)) (a : Answer) : Prop :=
  ∃ earlier e q, before = earlier ++ [e] ∧ e.point? = some q ∧ q.answer = a

/-- What has happened at a client before the phase that it is in. -/
def Phase.Trail (k : Client) (before : List (Event Client)) : Phase → Prop
  | .idle => True
  | .called r => Invoked k before r none
  | .loaded c _ _ _ => Tried k before (.command c)
  | .computed c _ _ _ _ d => Invoked k before (.command c) (some d)
  | .returning a => Answered before a

theorem Invoked.tried (h : Invoked k before r draw) : Tried k before r := by
  obtain ⟨earlier, attempts, hbefore, hall, -⟩ := h
  exact ⟨earlier, attempts, hbefore, hall⟩

theorem Tried.attempt (h : Tried k before r) (he : e.isAttempt) : Tried k (before ++ [e]) r := by
  obtain ⟨earlier, attempts, rfl, hall⟩ := h
  refine ⟨earlier, attempts ++ [e], by simp, fun a ha => ?_⟩
  obtain ha | ha := List.mem_append.mp ha
  · exact hall a ha
  · exact List.mem_singleton.mp ha ▸ he

theorem Tried.compute (h : Tried k before r) : Invoked k (before ++ [.compute k d]) r (some d) := by
  obtain ⟨earlier, attempts, rfl, hall⟩ := h
  refine ⟨earlier, attempts ++ [.compute k d], by simp, fun a ha => ?_, by simp⟩
  obtain ha | ha := List.mem_append.mp ha
  · exact hall a ha
  · exact List.mem_singleton.mp ha ▸ rfl

variable [DecidableEq Client]

/-- What happens at one client. -/
def history (events : List (Event Client)) (k : Client) : List (Event Client) :=
  events.filter fun e => e.client = k

theorem inUse_enter (h : (σ.enter k p).InUse v) : σ.InUse v ∨ v ∈ p.versions := by
  obtain h | ⟨j, hj⟩ := h
  · exact Or.inl (Or.inl h)
  · by_cases hk : j = k
    · subst j
      exact Or.inr (by simpa [State.enter] using hj)
    · exact Or.inl (Or.inr ⟨j, by simpa [State.enter, hk] using hj⟩)

theorem inUse_publish {w : Version} (h : (σ.publish k w p).InUse v) :
    v = w ∨ σ.InUse v ∨ v ∈ p.versions := by
  obtain h | ⟨j, hj⟩ := h
  · exact Or.inl h
  · exact Or.inr (inUse_enter (Or.inr ⟨j, hj⟩))

theorem State.Distinct.enter (h : σ.Distinct) (hp : ∀ v ∈ p.versions, σ.InUse v) :
    (σ.enter k p).Distinct := by
  have hold : ∀ v, (σ.enter k p).InUse v → σ.InUse v := fun v hv =>
    (inUse_enter hv).elim id (hp v)
  exact fun v w hv hw => h v w (hold v hv) (hold w hw)

/-- A new version with a fresh tag is told apart from all others. -/
theorem State.Distinct.enter_fresh (h : σ.Distinct) (new : Version) (hnew : σ.Fresh new.tag)
    (hp : ∀ v ∈ p.versions, σ.InUse v ∨ v = new) : (σ.enter k p).Distinct := by
  have hold : ∀ v, (σ.enter k p).InUse v → σ.InUse v ∨ v = new := fun v hv =>
    (inUse_enter hv).elim Or.inl (hp v)
  intro v w hv hw htag
  obtain hv | rfl := hold v hv
  · obtain hw | rfl := hold w hw
    · exact h v w hv hw htag
    · exact absurd htag (hnew v hv)
  · obtain hw | rfl := hold w hw
    · exact absurd htag.symm (hnew w hw)
    · rfl

theorem State.Distinct.publish (h : σ.Distinct) (hv : σ.InUse v)
    (hp : ∀ w ∈ p.versions, σ.InUse w) : (σ.publish k v p).Distinct := by
  have hold : ∀ w, (σ.publish k v p).InUse w → σ.InUse w := by
    intro w hw
    obtain rfl | hw | hw := inUse_publish hw
    · exact hv
    · exact hw
    · exact hp w hw
  exact fun w w' hw hw' => h w w' (hold w hw) (hold w' hw')

/-- No step gives a tag that is in use to another version. -/
theorem distinct_step (h : Step σ e τ) (hσ : σ.Distinct) : τ.Distinct := by
  cases h with
  | invoke idle => exact hσ.enter (by simp [Phase.versions])
  | refuse called refused => exact hσ.enter (by simp [Phase.versions])
  | read called => exact hσ.enter (by simp [Phase.versions])
  | load called prepared =>
    refine hσ.enter fun v hv => ?_
    obtain rfl : v = σ.current := by simpa [Phase.versions] using hv
    exact Or.inl rfl
  | @compute k c change seen left d next a tag loaded attempted fresh =>
    have hseen : σ.InUse seen := Or.inr ⟨k, by simp [loaded, Phase.versions]⟩
    cases next with
    | none =>
      refine hσ.enter fun v hv => ?_
      obtain rfl : v = seen := by simpa [Phase.versions, Version.next] using hv
      exact hseen
    | some s =>
      refine hσ.enter_fresh ⟨tag, s⟩ fresh fun v hv => ?_
      obtain rfl | rfl : v = seen ∨ v = ⟨tag, s⟩ := by
        simpa [Phase.versions, Version.next] using hv
      · exact Or.inl hseen
      · exact Or.inr rfl
  | retry computed changed =>
    refine hσ.enter fun v hv => ?_
    obtain rfl : v = σ.current := by simpa [Phase.versions] using hv
    exact Or.inl rfl
  | @swap k c change seen next left d a computed unchanged returned =>
    exact hσ.publish (Or.inr ⟨k, by simp [computed, Phase.versions]⟩) (by simp [Phase.versions])
  | respond returning => exact hσ.enter (by simp [Phase.versions])

theorem forall_enter {P : Phase → Prop} (h : ∀ j, P (σ.phase j)) (hp : P p) :
    ∀ j, P ((σ.enter k p).phase j) := by
  intro j
  by_cases hj : j = k
  · simpa [State.enter, hj] using hp
  · simpa [State.enter, hj] using h j

/-- What attempts hold on to stays what their commands make of what they have seen. -/
theorem valid_step (h : Step σ e τ) (hσ : ∀ j, (σ.phase j).Valid) :
    ∀ j, (τ.phase j).Valid := by
  cases h with
  | invoke idle => exact forall_enter hσ trivial
  | refuse called refused => exact forall_enter hσ trivial
  | read called => exact forall_enter hσ trivial
  | load called prepared => exact forall_enter hσ prepared
  | @compute k c change seen left d next a tag loaded attempted fresh =>
    have hprepared : c.prepare = .ok change := by simpa [loaded, Phase.Valid] using hσ k
    have hnext : (seen.next tag next).store = next.getD seen.store := by cases next <;> rfl
    refine forall_enter hσ ⟨hprepared, a, rfl, ?_⟩
    rw [hnext]
    exact perform_of_attempt hprepared attempted
  | @retry k c change seen next left d computed changed =>
    have hvalid := hσ k
    rw [computed] at hvalid
    exact forall_enter hσ hvalid.1
  | @swap k c change seen next left d a computed unchanged returned =>
    exact forall_enter (p := .returning a) hσ trivial
  | respond returning => exact forall_enter hσ trivial

/-- Steps keep versions apart and attempts valid. -/
theorem sound_step (h : Step σ e τ) (hσ : Sound σ) : Sound τ :=
  ⟨distinct_step h hσ.distinct, valid_step h hσ.valid⟩

/-- An operation that takes effect in a step does to the current store what it does on its own. -/
theorem step_performs (h : Step σ e τ) (hσ : Sound σ) {q : Point} (hq : e.point? = some q) :
    q.Performs σ.current.store τ.current.store := by
  cases h with
  | @refuse k c e called refused =>
    obtain rfl := Option.some.inj hq
    exact fun d _ => perform_of_refused refused d _
  | read called =>
    obtain rfl := Option.some.inj hq
    exact fun d _ => rfl
  | @swap k c change seen next left d a computed unchanged returned =>
    obtain rfl := Option.some.inj hq
    intro d' hd
    obtain rfl := hd d rfl
    exact swap_performs hσ computed unchanged returned
  | _ => simp [Event.point?] at hq

/-- Steps in which no operation takes effect leave the current version as it is. -/
theorem step_current (h : Step σ e τ) (he : e.point? = none) : τ.current = σ.current := by
  cases h with
  | swap computed unchanged returned => simp [Event.point?] at he
  | _ => rfl

/-- After a step its client is as far as its history tells. -/
theorem trail_step (h : Step σ e τ) (ht : (σ.phase e.client).Trail e.client before) :
    (τ.phase e.client).Trail e.client (before ++ [e]) := by
  cases h with
  | invoke idle => simpa [State.enter, Event.client, Phase.Trail] using ⟨before, [], by simp⟩
  | refuse called refused =>
    simpa [State.enter, Event.client, Phase.Trail] using ⟨before, _, _, rfl, rfl, rfl⟩
  | read called =>
    simpa [State.enter, Event.client, Phase.Trail] using ⟨before, _, _, rfl, rfl, rfl⟩
  | load called prepared =>
    rw [Event.client, called] at ht
    simpa [State.enter, Event.client, Phase.Trail] using ht.tried.attempt rfl
  | compute loaded attempted fresh =>
    rw [Event.client, loaded] at ht
    simpa [State.enter, Event.client, Phase.Trail] using ht.compute
  | retry computed changed =>
    rw [Event.client, computed] at ht
    simpa [State.enter, Event.client, Phase.Trail] using ht.tried.attempt rfl
  | swap computed unchanged returned =>
    simpa [State.publish, Event.client, Phase.Trail] using ⟨before, _, _, rfl, rfl, rfl⟩
  | respond returning => simp [State.enter, Event.client, Phase.Trail]

/-- An operation that takes effect has been invoked, with the draw of its last attempt. -/
theorem point_step (h : Step σ e τ) (ht : (σ.phase e.client).Trail e.client before) {q : Point}
    (hq : e.point? = some q) : Invoked e.client before q.request q.draw := by
  cases h with
  | refuse called refused =>
    obtain rfl := Option.some.inj hq
    rwa [Event.client, called] at ht
  | read called =>
    obtain rfl := Option.some.inj hq
    rwa [Event.client, called] at ht
  | swap computed unchanged returned =>
    obtain rfl := Option.some.inj hq
    rwa [Event.client, computed] at ht
  | _ => simp [Event.point?] at hq

/-- A client is answered what its operation has just come to. -/
theorem respond_step (h : Step σ (.respond k a) τ) (ht : (σ.phase k).Trail k before) :
    Answered before a := by
  cases h with
  | respond returning => rwa [returning] at ht

theorem phase_step (h : Step σ e τ) (hk : e.client ≠ k) : τ.phase k = σ.phase k := by
  cases h <;> simp_all [Event.client, State.enter, State.publish, Function.update, eq_comm]

theorem history_concat (events : List (Event Client)) (e : Event Client) (k : Client) :
    history (events ++ [e]) k =
      if e.client = k then history events k ++ [e] else history events k := by
  by_cases he : e.client = k <;> simp [history, he]

theorem sound_run (h : Run σ events τ) (hσ : Sound σ) : Sound τ := by
  induction h with
  | nil => exact hσ
  | snoc run step ih => exact sound_step step ih

theorem run_sound {tag : Nat} (h : Run (.initial s tag) events σ) : Sound σ :=
  sound_run h (sound_initial s tag)

/-- In a run each client is as far as its history tells. -/
theorem run_trail {tag : Nat} (h : Run (.initial s tag) events σ) (k : Client) :
    (σ.phase k).Trail k (history events k) := by
  induction h with
  | nil => trivial
  | @snoc events σ e τ run step ih =>
    rw [history_concat]
    by_cases he : e.client = k
    · subst k
      simpa using trail_step step ih
    · simpa [he, phase_step step he] using ih

/-- The operations that have taken effect make the current store out of the first one. -/
theorem run_replays {tag : Nat} (h : Run (.initial s tag) events σ) :
    Replays (events.filterMap Event.point?) s σ.current.store := by
  induction h with
  | nil => rfl
  | @snoc events σ e τ run step ih =>
    rw [List.filterMap_append]
    cases hq : e.point? with
    | none => simpa [hq, step_current step hq] using ih
    | some q => simpa [hq] using replays_concat ih (step_performs step (run_sound run) hq)

theorem concat_eq_append_cons {α : Type} {xs before after : List α} {x y : α}
    (h : xs ++ [x] = before ++ y :: after) :
    (before = xs ∧ y = x) ∨ ∃ after', xs = before ++ y :: after' := by
  obtain rfl | ⟨after', z, rfl⟩ := after.eq_nil_or_concat
  · obtain ⟨rfl, hxy⟩ := List.append_inj' h rfl
    exact Or.inl ⟨rfl, (List.singleton_inj.mp hxy).symm⟩
  · rw [List.concat_eq_append, ← List.cons_append, ← List.append_assoc] at h
    exact Or.inr ⟨after', (List.append_inj' h rfl).1⟩

/-- What happens at a client is a step from a state in which the client has come as far as its
history tells. -/
theorem exists_step {tag : Nat} {after : List (Event Client)} (h : Run (.initial s tag) events σ)
    (hs : history events k = before ++ e :: after) :
    e.client = k ∧ ∃ ρ τ, Sound ρ ∧ Step ρ e τ ∧ (ρ.phase k).Trail k before := by
  induction h generalizing after with
  | nil => simp [history] at hs
  | @snoc events σ e' τ run step ih =>
    rw [history_concat] at hs
    by_cases he : e'.client = k
    · rw [if_pos he] at hs
      obtain ⟨rfl, rfl⟩ | ⟨after', hs⟩ := concat_eq_append_cons hs
      · exact ⟨he, σ, τ, run_sound run, step, run_trail run k⟩
      · exact ih hs
    · rw [if_neg he] at hs
      exact ih hs

/-- The operations that have taken effect, one after the other, make the current store out of the
first one and give the same answers. Each has been invoked by its client and taken effect once since
then, before the client was answered, with the answer that the client was given and with what its
last attempt took from outside the store. Commands that are refused change nothing. -/
structure Linearized (s : Store) (events : List (Event Client)) (σ : State Client) : Prop where
  replays : Replays (events.filterMap Event.point?) s σ.current.store
  invoked : ∀ k before e after q, history events k = before ++ e :: after → e.point? = some q →
    Invoked k before q.request q.draw
  answered : ∀ k before a after, history events k = before ++ .respond k a :: after →
    Answered before a
  refused : ∀ k c d a e, .swap k c d a ∈ events → c.prepare ≠ .error e

/-- Clients are answered as if each operation had been carried out alone, at one point between its
invocation and its answer. -/
theorem linearizable {tag : Nat} (run : Run (.initial s tag) events σ) :
    Linearized s events σ where
  replays := run_replays run
  invoked k before e after q hs hq := by
    obtain ⟨rfl, ρ, τ, -, step, trail⟩ := exists_step run hs
    exact point_step step trail hq
  answered k before a after hs := by
    obtain ⟨-, ρ, τ, -, step, trail⟩ := exists_step run hs
    exact respond_step step trail
  refused k c d a e hswap := by
    have hmem : .swap k c d a ∈ history events k :=
      List.mem_filter.mpr ⟨hswap, by simp [Event.client]⟩
    obtain ⟨before, after, hs⟩ := List.append_of_mem hmem
    obtain ⟨-, ρ, τ, hρ, step, -⟩ := exists_step run hs
    cases step with
    | swap computed unchanged returned =>
      have hvalid := hρ.valid k
      rw [computed] at hvalid
      simp [hvalid.1]

def noon : Draw :=
  ⟨⟨⟨2024, 1, 1, by decide⟩, 43200, 0, by decide⟩, []⟩

def evening : Draw :=
  ⟨⟨⟨2024, 1, 1, by decide⟩, 64800, 0, by decide⟩, []⟩

def early : NewWorkflow :=
  ⟨some "a", some "early", none⟩

def late : WorkflowPatch :=
  ⟨some "late", none, none, none⟩

/-- A client renames a workflow while another one creates it. Its first attempt finds no workflow,
but is overtaken. -/
def overtakenEvents : List (Event Bool) :=
  let created := newWorkflow early "a" noon.now
  let renamed := applyPatch late { created with updatedAt := evening.now }
  [.invoke true (.command (.create early)), .invoke false (.command (.update "a" late)),
   .load true, .load false, .compute true noon, .compute false noon,
   .swap true (.create early) noon (.workflow created), .retry false, .compute false evening,
   .swap false (.update "a" late) evening (.workflow renamed),
   .respond false (.workflow renamed), .respond true (.workflow created)]

/-- The name is given on the second attempt, to the workflow that has overtaken the first one. -/
theorem linearizable_overtaken : ∃ σ, Run (State.initial Store.empty 0) overtakenEvents σ ∧
    Linearized Store.empty overtakenEvents σ := by
  have run : Run (State.initial Store.empty 0 : State Bool) [] _ := .nil
  have run := run.snoc (.invoke (k := true) (r := .command (.create early)) rfl)
  have run := run.snoc (.invoke (k := false) (r := .command (.update "a" late)) rfl)
  have run := run.snoc (.load (k := true) rfl rfl)
  have run := run.snoc (.load (k := false) rfl rfl)
  have run := run.snoc (.compute (k := true) (d := noon) rfl rfl
    (show State.Fresh _ 1 from State.fresh_iff.mpr (by decide)))
  have run := run.snoc (.compute (k := false) (d := noon) rfl rfl
    (show State.Fresh _ 2 from State.fresh_iff.mpr (by decide)))
  have run := run.snoc (.swap (k := true) rfl rfl (.inl rfl))
  have run := run.snoc (.retry (k := false) rfl (by decide))
  have run := run.snoc (.compute (k := false) (d := evening) rfl rfl
    (show State.Fresh _ 2 from State.fresh_iff.mpr (by decide)))
  have run := run.snoc (.swap (k := false) rfl rfl (.inl rfl))
  have run := run.snoc (.respond (k := false) rfl)
  have run := run.snoc (.respond (k := true) rfl)
  exact ⟨_, run, linearizable run⟩

end Flowboard.Shared
