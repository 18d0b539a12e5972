import Flowboard.Proofs.Handlers

/-! Requests of many clients are handled at the same time, on one store: what a handler has found is
still there when it is changed. -/
namespace Flowboard.Http

open Shared (Answer Command Phase Refuses Sound)

variable {rest : Handling} {s t : Store} {a : Answer} {c : Command} {q : Shared.Request} {p : Phase}
  {id : String} {server : Server}

/-- A request that is being handled, with what the store has been asked for and has answered. -/
structure Job where
  now : Timestamp
  request : Request
  log : List (Shared.Request × Answer)
  rest : Handling

/-- The requests that clients have made of a server, and what is going on at its store. -/
structure Traffic (Client : Type) where
  store : Shared.State Client
  job : Client → Option Job

/-- What happens to a request. -/
inductive Signal (Client : Type) where
  | arrive (k : Client) (now : Timestamp) (r : Request)
  /-- something at the store -/
  | within (e : Shared.Event Client)
  | reply (k : Client) (x : Response)

def Signal.within? {Client : Type} : Signal Client → Option (Shared.Event Client)
  | .within e => some e
  | _ => none

def Signal.client {Client : Type} : Signal Client → Client
  | .arrive k _ _ => k
  | .within e => e.client
  | .reply k _ => k

/-- A step of an operation, neither its start nor its end. -/
def Inside {Client : Type} : Shared.Event Client → Prop
  | .invoke _ _ => False
  | .respond _ _ => False
  | _ => True

namespace Traffic

variable {Client : Type}

def initial (s : Store) (tag : Nat) : Traffic Client :=
  ⟨.initial s tag, fun _ => none⟩

def published (σ : Traffic Client) : Store :=
  σ.store.current.store

variable [DecidableEq Client]

/-- The client's request has come so far, or there is none any more. -/
def turn (σ : Traffic Client) (k : Client) (job : Option Job) : Traffic Client :=
  { σ with job := Function.update σ.job k job }

/-- One step in the handling of one request. -/
inductive Step (server : Server) : Traffic Client → Signal Client → Traffic Client → Prop
  | arrive {σ k now r} (free : σ.job k = none) :
      Step server σ (.arrive k now r) (σ.turn k (some ⟨now, r, [], server.handling now r⟩))
  | ask {σ k now r log q next τ} (asking : σ.job k = some ⟨now, r, log, .ask q next⟩)
      (step : Shared.Step σ.store (.invoke k q) τ) :
      Step server σ (.within (.invoke k q)) { σ with store := τ }
  | work {σ e τ} (step : Shared.Step σ.store e τ) (inside : Inside e) :
      Step server σ (.within e) { σ with store := τ }
  | hear {σ k now r log q next a τ} (asking : σ.job k = some ⟨now, r, log, .ask q next⟩)
      (step : Shared.Step σ.store (.respond k a) τ) :
      Step server σ (.within (.respond k a))
        (({ σ with store := τ } : Traffic Client).turn k (some ⟨now, r, log ++ [(q, a)], next a⟩))
  | reply {σ k now r log x} (done : σ.job k = some ⟨now, r, log, .answer x⟩) :
      Step server σ (.reply k x) (σ.turn k none)

/-- Steps in the handling of any requests in any order. -/
inductive Run (server : Server) (start : Traffic Client) :
    List (Signal Client) → Traffic Client → Prop
  | nil : Run server start [] start
  | snoc {before σ e τ} (run : Run server start before σ) (step : Step server σ e τ) :
      Run server start (before ++ [e]) τ

end Traffic

/-- Whatever an answer says is there, is there; and it does not say of a workflow that is changed
that it is not there. -/
structure Heeds (s : Store) (q : Shared.Request) (a : Answer) : Prop where
  found : ∀ id, Found [(q, a)] id → s.contains id = true
  known : ∀ c id, q = .command c → a ≠ .error (.workflowNotFound id)

theorem Heeds.mono (hq : Heeds s q a) (hst : s.Grows t) : Heeds t q a :=
  ⟨fun id hid => hst id (hq.found id hid), hq.known⟩

theorem unknown_of_refuses (h : Refuses s (.command c) (.workflowNotFound id)) :
    c.workflow? = some id ∧ s.contains id = false := by
  cases h with
  | update unknown | newNode _ unknown | patch unknown | newConnection _ unknown =>
    exact ⟨rfl, unknown⟩

/-- What an operation answers is right for the store that it leaves. -/
theorem heeds_of_perform {d : Shared.Draw} (hperform : q.perform d s = some (t, a))
    (hknown : ∀ c id, q = .command c → c.workflow? = some id → s.contains id = true) :
    Heeds t q a := by
  constructor
  · rintro id ⟨w, hw⟩
    obtain ⟨rfl, rfl⟩ := Prod.mk.inj (List.mem_singleton.mp hw)
    obtain ⟨rfl, hanswer⟩ := Prod.mk.inj (Option.some.inj hperform)
    cases hget : s.get id with
    | ok v => exact Store.contains_of_get hget
    | error e => simp [Shared.Query.answer, hget] at hanswer
  · rintro c id rfl rfl
    obtain ⟨hid, hunknown⟩ := unknown_of_refuses (Shared.perform_eq_error_iff.mp hperform).1
    simp [hknown c id rfl hid] at hunknown

/-- The store is at what a handling asks it for. -/
def Serves (s : Store) : Phase → Handling → Prop
  | .idle, _ => True
  | .called q, .ask question _ => question = q
  | .loaded c _ _ _, .ask question _ => question = .command c
  | .computed c _ _ _ _ _, .ask question _ => question = .command c
  | .returning a, .ask question _ => Heeds s question a
  | _, .answer _ => False

theorem Serves.mono (hp : Serves s p rest) (hst : s.Grows t) : Serves t p rest := by
  cases p with
  | returning a =>
    cases rest with
    | answer x => exact hp
    | ask question next => exact Heeds.mono hp hst
  | _ => cases rest <;> exact hp

/-- What has been asked for and answered so far agrees with the store, and what is going on too. -/
structure Job.Proper (server : Server) (s : Store) (p : Phase) (job : Job) : Prop where
  follows : (server.handling job.now job.request).Follows job.log job.rest
  heeds : ∀ x ∈ job.log, Heeds s x.1 x.2
  serves : Serves s p job.rest

theorem Job.Proper.mono {job : Job} (hj : job.Proper server s p) (hst : s.Grows t) :
    job.Proper server t p :=
  ⟨hj.follows, fun x hx => (hj.heeds x hx).mono hst, hj.serves.mono hst⟩

theorem Job.Proper.contains {job : Job} (hj : job.Proper server s p) (hid : Found job.log id) :
    s.contains id = true := by
  obtain ⟨w, hw⟩ := hid
  exact (hj.heeds _ hw).found id ⟨w, List.mem_singleton_self _⟩

/-- Whatever is asked for next is only to change a workflow that is there. -/
theorem Job.Proper.guarded {job : Job} (hj : job.Proper server s p) :
    job.rest.Guarded fun id => s.contains id = true := by
  have hguarded : (server.handling job.now job.request).Guarded fun _ => False :=
    guarded_handling server job.now job.request
  exact (hj.follows.guarded hguarded).mono fun id hid => hj.contains (hid.resolve_left not_false)

/-- A client without a request is not at the store. -/
def Attended (server : Server) (s : Store) (p : Phase) : Option Job → Prop
  | none => p = .idle
  | some job => job.Proper server s p

theorem Attended.mono {job : Option Job} (hj : Attended server s p job) (hst : s.Grows t) :
    Attended server t p job := by
  cases job with
  | none => exact hj
  | some job => exact Job.Proper.mono hj hst

namespace Traffic

variable {Client : Type}

structure Proper (server : Server) (σ : Traffic Client) : Prop where
  sound : Sound σ.store
  jobs : ∀ k, Attended server σ.published (σ.store.phase k) (σ.job k)

theorem proper_initial (server : Server) (s : Store) (tag : Nat) :
    (initial s tag : Traffic Client).Proper server :=
  ⟨Shared.sound_initial s tag, fun _ => rfl⟩

variable {σ : Traffic Client} {k : Client}

theorem Proper.idle (hσ : σ.Proper server) (hk : σ.job k = none) : σ.store.phase k = .idle := by
  have hjob := hσ.jobs k
  rwa [hk] at hjob

theorem Proper.job (hσ : σ.Proper server) {job : Job} (hk : σ.job k = some job) :
    job.Proper server σ.published (σ.store.phase k) := by
  have hjob := hσ.jobs k
  rwa [hk] at hjob

variable [DecidableEq Client]

@[simp] theorem turn_store (σ : Traffic Client) (k : Client) (job : Option Job) :
    (σ.turn k job).store = σ.store := rfl

@[simp] theorem turn_job_self (σ : Traffic Client) (k : Client) (job : Option Job) :
    (σ.turn k job).job k = job := by
  simp [turn]

theorem turn_job_of_ne (σ : Traffic Client) (job : Option Job) {j k : Client} (hj : j ≠ k) :
    (σ.turn k job).job j = σ.job j := by
  simp [turn, hj]

end Traffic

section

variable {Client : Type} [DecidableEq Client] {σ τ : Shared.State Client} {e : Shared.Event Client}

/-- When the store has answered what it was asked for, the answer is heeded. -/
theorem heeds_step (h : Shared.Step σ e τ) (hσ : Sound σ) {p : Shared.Point}
    (hp : e.point? = some p)
    (hknown : ∀ c id, p.request = .command c → c.workflow? = some id →
      σ.current.store.contains id = true) : Heeds τ.current.store p.request p.answer := by
  obtain ⟨d, hperform⟩ := (Shared.step_performs h hσ hp).perform Shared.noon
  exact heeds_of_perform hperform hknown

theorem idle_of_serves {x : Response} (h : Serves s p (.answer x)) : p = .idle := by
  cases p with
  | idle => rfl
  | _ => exact h.elim

theorem ne_idle_of_inside (h : Shared.Step σ e τ) (inside : Inside e) :
    σ.phase e.client ≠ .idle := by
  cases h with
  | invoke idle => exact inside.elim
  | respond returning => exact inside.elim
  | refuse called refused => simp [Shared.Event.client, called]
  | read called => simp [Shared.Event.client, called]
  | load called prepared => simp [Shared.Event.client, called]
  | compute loaded attempted fresh => simp [Shared.Event.client, loaded]
  | retry computed changed => simp [Shared.Event.client, computed]
  | swap computed unchanged returned => simp [Shared.Event.client, computed]

/-- A step inside an operation leaves the store at what it was asked for. -/
theorem serves_step (h : Shared.Step σ e τ) (hσ : Sound σ) (inside : Inside e)
    (hserves : Serves σ.current.store (σ.phase e.client) rest)
    (hguard : rest.Guarded fun id => σ.current.store.contains id = true) :
    Serves τ.current.store (τ.phase e.client) rest := by
  cases rest with
  | answer x => exact absurd (idle_of_serves hserves) (ne_idle_of_inside h inside)
  | ask question next =>
    have hheeds (p : Shared.Point) (hp : e.point? = some p) (hq : question = p.request) :
        Heeds τ.current.store question p.answer :=
      hq ▸ heeds_step h hσ hp (hq ▸ hguard.1)
    cases h with
    | invoke idle => exact inside.elim
    | respond returning => exact inside.elim
    | refuse called refused =>
      rw [Shared.Event.client, called] at hserves
      simpa [Shared.Event.client, Shared.State.enter, Serves] using hheeds _ rfl hserves
    | read called =>
      rw [Shared.Event.client, called] at hserves
      simpa [Shared.Event.client, Shared.State.enter, Serves] using hheeds _ rfl hserves
    | load called prepared =>
      rw [Shared.Event.client, called] at hserves
      simpa [Shared.Event.client, Shared.State.enter, Serves] using hserves
    | compute loaded attempted fresh =>
      rw [Shared.Event.client, loaded] at hserves
      simpa [Shared.Event.client, Shared.State.enter, Serves] using hserves
    | retry computed changed =>
      rw [Shared.Event.client, computed] at hserves
      simpa [Shared.Event.client, Shared.State.enter, Serves] using hserves
    | swap computed unchanged returned =>
      rw [Shared.Event.client, computed] at hserves
      simpa [Shared.Event.client, Shared.State.publish, Serves] using hheeds _ rfl hserves

end

namespace Traffic

variable {Client : Type} [DecidableEq Client] {σ τ : Traffic Client} {e : Signal Client}
  {events : List (Signal Client)} {j : Client}

/-- Each step is one at the store, or leaves the store as it is. -/
theorem store_step (h : Step server σ e τ) : e.within? = none ∧ τ.store = σ.store ∨
    ∃ e', e.within? = some e' ∧ Shared.Step σ.store e' τ.store := by
  cases h with
  | arrive free => exact Or.inl ⟨rfl, rfl⟩
  | ask asking step => exact Or.inr ⟨_, rfl, step⟩
  | work step inside => exact Or.inr ⟨_, rfl, step⟩
  | hear asking step => exact Or.inr ⟨_, rfl, step⟩
  | reply done => exact Or.inl ⟨rfl, rfl⟩

/-- At the store, a run is one of its own. -/
theorem Run.store (h : Run server σ events τ) :
    Shared.Run σ.store (events.filterMap Signal.within?) τ.store := by
  induction h with
  | nil => exact .nil
  | snoc run step ih =>
    rw [List.filterMap_append]
    obtain ⟨hnone, hsame⟩ | ⟨e', he', hstep⟩ := store_step step
    · simpa [hnone, hsame] using ih
    · simpa [he'] using ih.snoc hstep

/-- No step takes a published workflow away. -/
theorem grows_step (h : Step server σ e τ) (hσ : Sound σ.store) :
    σ.published.Grows τ.published :=
  Shared.grows_run (Run.nil.snoc h).store hσ

theorem elsewhere_step (h : Step server σ e τ) (hj : e.client ≠ j) :
    τ.job j = σ.job j ∧ τ.store.phase j = σ.store.phase j := by
  cases h with
  | arrive free => exact ⟨turn_job_of_ne σ _ (Ne.symm hj), rfl⟩
  | ask asking step => exact ⟨rfl, Shared.phase_step step hj⟩
  | work step inside => exact ⟨rfl, Shared.phase_step step hj⟩
  | hear asking step => exact ⟨turn_job_of_ne _ _ (Ne.symm hj), Shared.phase_step step hj⟩
  | reply done => exact ⟨turn_job_of_ne σ _ (Ne.symm hj), rfl⟩

/-- The client of a step goes on with its request. -/
theorem attended_step (h : Step server σ e τ) (hσ : σ.Proper server) :
    Attended server τ.published (τ.store.phase e.client) (τ.job e.client) := by
  have hgrows := grows_step h hσ.sound
  cases h with
  | arrive free =>
    rw [Signal.client, turn_job_self]
    exact ⟨rfl, by simp, by rw [turn_store, hσ.idle free]; trivial⟩
  | ask asking step =>
    have hjob := hσ.job asking
    rw [Signal.client, Shared.Event.client, asking]
    cases step with
    | invoke idle => exact ⟨hjob.follows, hjob.heeds, by simp [Shared.State.enter, Serves]⟩
  | @work e ρ step inside =>
    cases hk : σ.job e.client with
    | none => exact absurd (hσ.idle hk) (ne_idle_of_inside step inside)
    | some job =>
      have hjob := hσ.job hk
      rw [Signal.client, hk]
      exact ⟨hjob.follows, (hjob.mono hgrows).heeds,
        serves_step step hσ.sound inside hjob.serves hjob.guarded⟩
  | @hear k now r log q next a ρ asking step =>
    have hjob := hσ.job asking
    rw [Signal.client, Shared.Event.client, turn_job_self]
    cases step with
    | respond returning =>
      have hheeds : Heeds σ.published q a := by simpa [returning, Serves] using hjob.serves
      refine ⟨hjob.follows.concat a, fun x hx => ?_, by simp [Shared.State.enter, Serves]⟩
      obtain hx | hx := List.mem_append.mp hx
      · exact hjob.heeds x hx
      · obtain rfl := List.mem_singleton.mp hx
        exact hheeds
  | reply done =>
    rw [Signal.client, turn_job_self]
    exact idle_of_serves (hσ.job done).serves

/-- After each step, what has been answered still agrees with the store. -/
theorem proper_step (h : Step server σ e τ) (hσ : σ.Proper server) : τ.Proper server := by
  refine ⟨Shared.sound_run (Run.nil.snoc h).store hσ.sound, fun j => ?_⟩
  by_cases hj : e.client = j
  · subst hj
    exact attended_step h hσ
  · obtain ⟨hjob, hphase⟩ := elsewhere_step h hj
    rw [hjob, hphase]
    exact (hσ.jobs j).mono (grows_step h hσ.sound)

/-- Along a run what has been answered agrees with the store. -/
theorem proper_run (h : Run server σ events τ) (hσ : σ.Proper server) : τ.Proper server := by
  induction h with
  | nil => exact hσ
  | snoc run step ih => exact proper_step step ih

/-- What has been published under an id stays, so that there are never fewer workflows; and whatever
is done in between, no workflow that a handler has found is missing when it is changed. -/
structure Steady (server : Server) (σ : Traffic Client) : Prop where
  present : ∀ more τ, Run server σ more τ →
    (∀ id, σ.published.contains id = true → τ.published.contains id = true) ∧
      σ.published.size ≤ τ.published.size
  changed : ∀ k job c id, σ.job k = some job →
    (.command c, .error (.workflowNotFound id)) ∉ job.log
  answered : ∀ k job resource found edit, σ.job k = some job →
    Resource.ofTarget? job.request.target = some resource →
    job.request.method ∈ resource.methods → resource.decoded = .ok found →
    job.request.edit? found = some edit → Found job.log edit.id →
    σ.published.contains edit.id = true ∧ ∀ x id, job.rest = .answer x → x ≠ missing id

/-- Where answers agree with the store, what they say is there stays there. -/
theorem Proper.steady (hσ : σ.Proper server) : σ.Steady server where
  present more τ run :=
    ⟨Shared.grows_run run.store hσ.sound, Shared.size_le_run run.store hσ.sound⟩
  changed k job c id hk hmem := ((hσ.job hk).heeds _ hmem).known c id rfl rfl
  answered k job resource found edit hk htarget hmethod hdecoded hedit hfound := by
    have hjob := hσ.job hk
    refine ⟨hjob.contains hfound, fun x id hrest => ?_⟩
    have hfollows := hjob.follows
    rw [handling_of_edit server job.now htarget hmethod hdecoded hedit, hrest] at hfollows
    obtain ⟨e, -, rfl⟩ | ⟨c, a, hmem, rfl⟩ := answer_of_follows hfollows hfound
    · intro heq
      have hcode : 400 = 404 := congrArg Response.status heq
      omega
    · exact told_ne_missing (status_of_edit hedit) (fun id => (hjob.heeds _ hmem).known c id rfl) id

end Traffic

/-- Requests that are handled at the same time do not take workflows away from each other. When
nobody else is at the store, they are handled as by the server. -/
theorem found_stays (server : Server) :
    (∀ m s r, Shared.Draw.Suffices ⟨m.now, m.supply⟩ s →
      (server.handling m.now r).alone ⟨m.now, m.supply⟩ s = some (server.answer m s r)) ∧
    ∀ (Client : Type) [DecidableEq Client] (s : Store) (tag : Nat)
      (events : List (Signal Client)) (σ : Traffic Client),
      Traffic.Run server (.initial s tag) events σ → σ.Steady server :=
  ⟨fun _ _ r => alone_handling server r,
    fun _ _ s tag _ _ run => (Traffic.proper_run run (Traffic.proper_initial server s tag)).steady⟩

def touching : Request :=
  ⟨.put, "/api/workflows/w", [("content-type", "application/json")], Text.encode "\x7b\x7d"⟩

def replacing : Request :=
  ⟨.post, "/api/workflows", [("content-type", "application/json")],
    Text.encode "\x7b\"id\":\"w\"\x7d"⟩

/-- A workflow is made again after another request has found it and before it is changed there. -/
def replacedSignals : List (Signal Bool) :=
  let known := Workflow.empty "w" "known" noon
  let made := Store.newWorkflow { id := some "w" } "w" Shared.noon.now
  let changed := { made with updatedAt := Shared.evening.now }
  [.arrive true noon touching, .within (.invoke true (.query (.get "w"))),
   .within (.read true (.get "w") (.workflow known)), .within (.respond true (.workflow known)),
   .arrive false noon replacing,
   .within (.invoke false (.command (.create { id := some "w" }))), .within (.load false),
   .within (.compute false Shared.noon),
   .within (.swap false (.create { id := some "w" }) Shared.noon (.workflow made)),
   .within (.respond false (.workflow made)), .reply false (.json 201 made.json),
   .within (.invoke true (.command (.update "w" {}))), .within (.load true),
   .within (.compute true Shared.evening),
   .within (.swap true (.update "w" {}) Shared.evening (.workflow changed)),
   .within (.respond true (.workflow changed))]

theorem handling_touching : idle.handling noon touching =
    (editing ⟨"w", .ok (.update "w" {}), 200⟩).map fun x => { x with bodiless := false } := by
  have htarget : Resource.ofTarget? touching.target = some (.workflow "w") := by decide +kernel
  have hdecoded : (Resource.workflow "w").decoded = .ok (.workflow "w") := by decide +kernel
  have hread : touching.read WorkflowPatch.record.decoder = .ok {} := by decide +kernel
  have hedit : touching.edit? (.workflow "w") = some ⟨"w", .ok (.update "w" {}), 200⟩ := by
    rw [Request.edit?, hread]
    rfl
  exact handling_of_edit idle noon htarget (by decide) hdecoded hedit

theorem handling_replacing : idle.handling noon replacing =
    (creating (.ok { id := some "w" })).map fun x => { x with bodiless := false } := by
  have htarget : Resource.ofTarget? replacing.target = some .workflows := by decide +kernel
  have hread : replacing.read NewWorkflow.record.decoder = .ok { id := some "w" } := by
    decide +kernel
  have hmethod : replacing.method = .post := rfl
  simp [Server.handling, Server.fulfilling, Server.handle, htarget, hread, hmethod,
    Resource.methods, Resource.decoded]

theorem replaced_runs : ∃ σ job, Traffic.Run idle (.initial knownStore 0) replacedSignals σ ∧
    σ.job true = some job ∧ job.request = touching ∧ Found job.log "w" := by
  have run : Traffic.Run idle (.initial knownStore 0 : Traffic Bool) [] _ := .nil
  have run := run.snoc (show Traffic.Step idle _ (.arrive true noon touching) _ from .arrive rfl)
  rw [handling_touching] at run
  have run := run.snoc (.ask (k := true) rfl (.invoke rfl))
  have run := run.snoc (.work (.read (k := true) rfl) trivial)
  have run := run.snoc (.hear (k := true) rfl (.respond rfl))
  have run := run.snoc (show Traffic.Step idle _ (.arrive false noon replacing) _ from .arrive rfl)
  rw [handling_replacing] at run
  have run := run.snoc (.ask (k := false) rfl (.invoke rfl))
  have run := run.snoc (.work (.load (k := false) rfl rfl) trivial)
  have run := run.snoc (.work (.compute (k := false) (d := Shared.noon) rfl rfl
    (show Shared.State.Fresh _ 1 from Shared.State.fresh_iff.mpr (by decide))) trivial)
  have run := run.snoc (.work (.swap (k := false) rfl rfl (.inl rfl)) trivial)
  have run := run.snoc (.hear (k := false) rfl (.respond rfl))
  have run := run.snoc (.reply (k := false) rfl)
  have run := run.snoc (.ask (k := true) rfl (.invoke rfl))
  have run := run.snoc (.work (.load (k := true) rfl rfl) trivial)
  have run := run.snoc (.work (.compute (k := true) (d := Shared.evening) rfl rfl
    (show Shared.State.Fresh _ 2 from Shared.State.fresh_iff.mpr (by decide))) trivial)
  have run := run.snoc (.work (.swap (k := true) rfl rfl (.inl rfl)) trivial)
  have run := run.snoc (.hear (k := true) rfl (.respond rfl))
  exact ⟨_, _, run, rfl, rfl, _, List.mem_cons_self⟩

/-- The workflow is made again after it has been found and before it is changed, and it is changed
all the same. -/
theorem found_stays_replaced :
    (idle.handling noon replacing).alone ⟨noon, ["free"]⟩ knownStore =
      some (idle.answer ⟨noon, ["free"]⟩ knownStore replacing) ∧
    ∃ σ, Traffic.Run idle (.initial knownStore 0) replacedSignals σ ∧ σ.Steady idle ∧
      ∃ job, σ.job true = some job ∧ job.request = touching ∧ Found job.log "w" := by
  obtain ⟨halone, hruns⟩ := found_stays idle
  obtain ⟨σ, job, run, hjob, hrequest, hfound⟩ := replaced_runs
  exact ⟨halone ⟨noon, ["free"]⟩ _ _ ⟨"free", by decide, by decide⟩, σ, run, hruns _ _ _ _ σ run,
    job, hjob, hrequest, hfound⟩

end Flowboard.Http
