import Flowboard.Store.Operations
import Mathlib.Logic.Function.Basic

/-! Clients of one store: what they ask for, and the steps in which they are answered. -/
namespace Flowboard.Shared

open Store

/-- What clients ask a store to change. -/
inductive Command where
  | create (r : NewWorkflow)
  | update (id : String) (p : WorkflowPatch)
  | appendNode (id : String) (spec : NodeSpec)
  | updateNode (id node : String) (p : NodePatch)
  | appendConnection (id : String) (spec : ConnectionSpec)

/-- What clients ask a store to show. -/
inductive Query where
  | get (id : String)
  | list
  | size

inductive Request where
  | command (c : Command)
  | query (q : Query)

inductive Answer where
  | workflow (w : Workflow)
  | node (n : Node)
  | connection (c : Connection)
  | workflows (ws : List Workflow)
  | size (n : Nat)
  | error (e : StoreError)

/-- What a command takes from outside the store: the time, and ids that were drawn for a workflow
without one. -/
structure Draw where
  now : Timestamp
  ids : List String

def Query.answer (s : Store) : Query → Answer
  | .get id =>
    match s.get id with
    | .ok w => .workflow w
    | .error e => .error e
  | .list => .workflows s.list
  | .size => .size s.size

/-- The store and the answer after an operation. -/
def settle {α : Type} (s : Store) (answer : α → Answer) : Except StoreError (Store × α) →
    Store × Answer
  | .ok (next, x) => (next, answer x)
  | .error e => (s, .error e)

/-- What a command does to a store when nobody else is at it. There is no result only when the
drawn ids run out. -/
def Command.perform (d : Draw) (s : Store) : Command → Option (Store × Answer)
  | .create r => (s.create? d.now d.ids r).map fun (next, w) => (next, .workflow w)
  | .update id p => some (settle s .workflow (s.update d.now id p))
  | .appendNode id spec => some (settle s .node (s.appendNode d.now id spec))
  | .updateNode id node p => some (settle s .node (s.updateNode d.now id node p))
  | .appendConnection id spec => some (settle s .connection (s.appendConnection d.now id spec))

def Request.perform (d : Draw) (s : Store) : Request → Option (Store × Answer)
  | .command c => c.perform d s
  | .query q => some (s, q.answer s)

/-- What is tried on one version of the store after another until it is published. -/
inductive Change where
  | create (r : NewWorkflow)
  | modify (id : String) (change : Workflow → Except StoreError (Workflow × Answer))

def Change.of {α : Type} (id : String) (answer : α → Answer)
    (change : Workflow → Except StoreError (Workflow × α)) : Change :=
  .modify id fun w => (change w).map fun (w, x) => (w, answer x)

/-- An attempt at a version: the store to publish, unless the version is to stay, and the answer
that the attempt leaves behind. -/
def Change.attempt (d : Draw) (s : Store) : Change → Option (Option Store × Answer)
  | .create r => (s.create? d.now d.ids r).map fun (next, w) => (some next, .workflow w)
  | .modify id change =>
    match s.modify id d.now change with
    | .ok (next, x) => some (some next, x)
    | .error e => some (none, .error e)

/-- The change of a command, unless the command is refused before the store is looked at. -/
def Command.prepare : Command → Except StoreError Change
  | .create r => .ok (.create r)
  | .update id p => .ok (.of id .workflow fun w => .ok (applyPatch p w, applyPatch p w))
  | .appendNode id spec =>
    match kindOf (spec.type.getD Node.defaultType) spec.properties with
    | .error e => .error e
    | .ok kind => .ok (.of id .node fun w => .ok (addNode kind spec w))
  | .updateNode id node p => .ok (.of id .node (editNode id node p))
  | .appendConnection id spec =>
    match endsOf spec with
    | .error e => .error e
    | .ok ends => .ok (.of id .connection fun w => .ok (addConnection spec.id ends w))

variable {c : Command} {change : Change} {d : Draw} {s : Store} {made : Option Store} {a : Answer}

theorem attempt_of {α : Type} (id : String) (answer : α → Answer)
    (f : Workflow → Except StoreError (Workflow × α)) (d : Draw) (s : Store) :
    ((Change.of id answer f).attempt d s).map (fun (made, a) => (made.getD s, a)) =
      some (settle s answer (s.modify id d.now f)) := by
  simp only [Change.of, Change.attempt, Store.modify]
  cases s.get id with
  | error e => rfl
  | ok w =>
    simp only
    cases f { w with updatedAt := d.now } <;> rfl

/-- An attempt at a version does to it what the command does on its own. -/
theorem perform_of_attempt (hc : c.prepare = .ok change)
    (ha : change.attempt d s = some (made, a)) : c.perform d s = some (made.getD s, a) := by
  have hmap := congrArg (Option.map fun (made, a) => (made.getD s, a)) ha
  cases c with
  | create r =>
    obtain rfl := Except.ok.inj hc
    simp only [Change.attempt, Option.map_map] at hmap
    exact hmap
  | update id p =>
    obtain rfl := Except.ok.inj hc
    rwa [attempt_of] at hmap
  | updateNode id node p =>
    obtain rfl := Except.ok.inj hc
    rwa [attempt_of] at hmap
  | appendNode id spec =>
    simp only [Command.prepare] at hc
    simp only [Command.perform, appendNode]
    cases hk : kindOf (spec.type.getD Node.defaultType) spec.properties with
    | error e => simp [hk] at hc
    | ok kind =>
      obtain rfl := Except.ok.inj (hk ▸ hc)
      rwa [attempt_of] at hmap
  | appendConnection id spec =>
    simp only [Command.prepare] at hc
    simp only [Command.perform, appendConnection]
    cases hk : endsOf spec with
    | error e => simp [hk] at hc
    | ok ends =>
      obtain rfl := Except.ok.inj (hk ▸ hc)
      rwa [attempt_of] at hmap

/-- A command that is refused changes nothing on its own either. -/
theorem perform_of_refused {e : StoreError} (hc : c.prepare = .error e) (d : Draw) (s : Store) :
    c.perform d s = some (s, .error e) := by
  cases c with
  | create r => simp [Command.prepare] at hc
  | update id p => simp [Command.prepare] at hc
  | updateNode id node p => simp [Command.prepare] at hc
  | appendNode id spec =>
    simp only [Command.prepare] at hc
    simp only [Command.perform, appendNode]
    cases hk : kindOf (spec.type.getD Node.defaultType) spec.properties with
    | ok kind => simp [hk] at hc
    | error e' =>
      obtain rfl : e' = e := by simpa [hk] using hc
      rfl
  | appendConnection id spec =>
    simp only [Command.prepare] at hc
    simp only [Command.perform, appendConnection]
    cases hk : endsOf spec with
    | ok ends => simp [hk] at hc
    | error e' =>
      obtain rfl : e' = e := by simpa [hk] using hc
      rfl

/-- The answer in case no attempt has left one behind. -/
def Command.fallback (now : Timestamp) : Command → Answer
  | .create _ => .workflow (Workflow.empty "" "" now)
  | .update id _ => .error (.workflowNotFound id)
  | .appendNode id _ => .error (.workflowNotFound id)
  | .updateNode id _ _ => .error (.workflowNotFound id)
  | .appendConnection id _ => .error (.workflowNotFound id)

/-- A command returns what its attempts have left behind. -/
def Command.Returns (c : Command) (left : Option Answer) (a : Answer) : Prop :=
  left = some a ∨ left = none ∧ ∃ now, a = c.fallback now

/-- A version of the store. The tags of versions that are in use at the same time differ; the tag
of a version that nobody uses any more can be taken again. -/
structure Version where
  tag : Nat
  store : Store

/-- The version that an attempt at a version wants to publish. -/
def Version.next (seen : Version) (tag : Nat) : Option Store → Version
  | some s => ⟨tag, s⟩
  | none => seen

/-- How far the operation of a client is. -/
inductive Phase where
  | idle
  | called (r : Request)
  /-- with a version that was seen, and the answer that an abandoned attempt has left behind -/
  | loaded (c : Command) (change : Change) (seen : Version) (left : Option Answer)
  | computed (c : Command) (change : Change) (seen next : Version) (left : Option Answer) (d : Draw)
  | returning (a : Answer)

/-- The versions that an operation holds on to. -/
def Phase.versions : Phase → List Version
  | .loaded _ _ seen _ => [seen]
  | .computed _ _ seen next _ _ => [seen, next]
  | _ => []

structure State (Client : Type) where
  current : Version
  phase : Client → Phase

/-- What happens at a client. -/
inductive Event (Client : Type) where
  | invoke (k : Client) (r : Request)
  /-- a command is refused without a look at the store -/
  | refuse (k : Client) (c : Command) (e : StoreError)
  /-- a query loads the current version, and needs no more -/
  | read (k : Client) (q : Query) (a : Answer)
  | load (k : Client)
  | compute (k : Client) (d : Draw)
  /-- another version than the one that was seen is current, and is seen now -/
  | retry (k : Client)
  | swap (k : Client) (c : Command) (d : Draw) (a : Answer)
  | respond (k : Client) (a : Answer)

def Event.client {Client : Type} : Event Client → Client
  | .invoke k _ => k
  | .refuse k _ _ => k
  | .read k _ _ => k
  | .load k => k
  | .compute k _ => k
  | .retry k => k
  | .swap k _ _ _ => k
  | .respond k _ => k

namespace State

variable {Client : Type}

def initial (s : Store) (tag : Nat) : State Client :=
  ⟨⟨tag, s⟩, fun _ => .idle⟩

def InUse (σ : State Client) (v : Version) : Prop :=
  v = σ.current ∨ ∃ k, v ∈ (σ.phase k).versions

/-- No version that is in use has the tag. -/
def Fresh (σ : State Client) (tag : Nat) : Prop :=
  ∀ v, σ.InUse v → v.tag ≠ tag

/-- A tag is fresh if neither the current version nor any that a client holds on to has it. -/
theorem fresh_iff {σ : State Client} {tag : Nat} : σ.Fresh tag ↔
    σ.current.tag ≠ tag ∧ ∀ k, ∀ v ∈ (σ.phase k).versions, v.tag ≠ tag := by
  constructor
  · exact fun h => ⟨h _ (Or.inl rfl), fun k v hv => h v (Or.inr ⟨k, hv⟩)⟩
  · rintro ⟨hcurrent, hphase⟩ v (rfl | ⟨k, hv⟩)
    · exact hcurrent
    · exact hphase k v hv

variable [DecidableEq Client]

def enter (σ : State Client) (k : Client) (p : Phase) : State Client :=
  { σ with phase := Function.update σ.phase k p }

/-- A client enters a phase when it has made a version the current one. -/
def publish (σ : State Client) (k : Client) (v : Version) (p : Phase) : State Client :=
  ⟨v, Function.update σ.phase k p⟩

end State

variable {Client : Type} [DecidableEq Client]

/-- One step of one client. -/
inductive Step : State Client → Event Client → State Client → Prop
  | invoke {σ k r} (idle : σ.phase k = .idle) : Step σ (.invoke k r) (σ.enter k (.called r))
  | refuse {σ k c e} (called : σ.phase k = .called (.command c)) (refused : c.prepare = .error e) :
      Step σ (.refuse k c e) (σ.enter k (.returning (.error e)))
  | read {σ k q} (called : σ.phase k = .called (.query q)) :
      Step σ (.read k q (q.answer σ.current.store))
        (σ.enter k (.returning (q.answer σ.current.store)))
  | load {σ k c change} (called : σ.phase k = .called (.command c))
      (prepared : c.prepare = .ok change) :
      Step σ (.load k) (σ.enter k (.loaded c change σ.current none))
  | compute {σ k c change seen left d next a tag}
      (loaded : σ.phase k = .loaded c change seen left)
      (attempted : change.attempt d seen.store = some (next, a)) (fresh : σ.Fresh tag) :
      Step σ (.compute k d)
        (σ.enter k (.computed c change seen (seen.next tag next) (some a) d))
  | retry {σ k c change seen next left d}
      (computed : σ.phase k = .computed c change seen next left d)
      (changed : σ.current.tag ≠ seen.tag) :
      Step σ (.retry k) (σ.enter k (.loaded c change σ.current left))
  | swap {σ k c change seen next left d a}
      (computed : σ.phase k = .computed c change seen next left d)
      (unchanged : σ.current.tag = seen.tag) (returned : c.Returns left a) :
      Step σ (.swap k c d a) (σ.publish k next (.returning a))
  | respond {σ k a} (returning : σ.phase k = .returning a) :
      Step σ (.respond k a) (σ.enter k .idle)

/-- Steps of any clients in any order. -/
inductive Run (start : State Client) : List (Event Client) → State Client → Prop
  | nil : Run start [] start
  | snoc {events σ e τ} (run : Run start events σ) (step : Step σ e τ) :
      Run start (events ++ [e]) τ

end Flowboard.Shared
