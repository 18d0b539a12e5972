import Flowboard.Proofs.Commands

/-! Operations on one workflow and operations on another one do not see each other. -/
namespace Flowboard

namespace Store

variable {s t : Store} {id other : String} {w : Workflow} {change : Option Workflow}

/-- Puts a workflow under an id, or leaves the store as it is. -/
def write (s : Store) (id : String) : Option Workflow → Store
  | none => s
  | some w => s.put id w

/-- What is found under an id after it has been written depends only on what was found before. -/
theorem get_write_congr (h : t.get id = s.get id) (change : Option Workflow) :
    (t.write id change).get id = (s.write id change).get id := by
  cases change with
  | none => exact h
  | some w => simp [write]

theorem get_write_of_ne (s : Store) (change : Option Workflow) (h : other ≠ id) :
    (s.write id change).get other = s.get other := by
  cases change with
  | none => rfl
  | some w => exact get_put_of_ne s w h

theorem write_comm (s : Store) (first second : Option Workflow) (h : id ≠ other) :
    (s.write id first).write other second = (s.write other second).write id first := by
  cases first with
  | none => rfl
  | some v =>
    cases second with
    | none => rfl
    | some w => exact congrArg Store.mk (Table.insert_comm s.workflows v w h)

end Store

namespace Shared

open Store

variable {s t u : Store} {d : Draw} {r : Request} {c : Command} {a : Answer} {e : StoreError}
  {k : String}

/-- The workflow that a request is about. When a new one is made, the answer tells its id; a request
about all workflows is about none. -/
def Request.workflow? : Request → Answer → Option String
  | .command (.create _), .workflow w => some w.id
  | .command c, _ => c.workflow?
  | .query (.get id), _ => some id
  | .query _, _ => none

/-- The same point in time, and no other id than the one that was assigned. -/
def Draw.assigned (d : Draw) : Answer → Draw
  | .workflow w => { d with ids := [w.id] }
  | _ => d

/-- Only what stands under the id of a command decides about refusing it. -/
theorem refuses_congr (h : Refuses s (.command c) e) (hk : c.workflow? = some k)
    (hs : t.get k = s.get k) : Refuses t (.command c) e := by
  have hcontains := contains_congr hs
  cases h with
  | update unknown =>
    obtain rfl := Option.some.inj hk
    exact .update (hcontains ▸ unknown)
  | newProperties unfit => exact .newProperties unfit
  | newNode fit unknown =>
    obtain rfl := Option.some.inj hk
    exact .newNode fit (hcontains ▸ unknown)
  | patch unknown =>
    obtain rfl := Option.some.inj hk
    exact .patch (hcontains ▸ unknown)
  | patchNode known absent =>
    obtain rfl := Option.some.inj hk
    exact .patchNode (hs ▸ known) absent
  | patchProperties known first given unfit =>
    obtain rfl := Option.some.inj hk
    exact .patchProperties (hs ▸ known) first given unfit
  | newEnds absent => exact .newEnds absent
  | newConnection given unknown =>
    obtain rfl := Option.some.inj hk
    exact .newConnection given (hcontains ▸ unknown)

/-- What a command does depends only on what is stored under one id, and changes nothing else. -/
theorem Effect.local (h : Effect d s c t a) (hk : Request.workflow? (.command c) a = some k) :
    ∃ change, t = s.write k change ∧
      ∀ u, u.get k = s.get k → Effect (d.assigned a) u c (u.write k change) a := by
  cases h with
  | refused reason =>
    have hk : c.workflow? = some k := by cases c <;> exact hk
    exact ⟨none, rfl, fun u hu => .refused (refuses_congr reason hk hu)⟩
  | @created r id chosen =>
    obtain rfl : id = k := Option.some.inj hk
    refine ⟨some _, rfl, fun u hu => .created ?_⟩
    cases hid : r.id with
    | some given => simpa [hid] using chosen
    | none =>
      rw [hid, Option.none_or] at chosen
      have hfree : u.contains id = false := contains_congr hu ▸ (unusedId?_eq_some chosen).2
      simp [unusedId?, Draw.assigned, newWorkflow, Workflow.empty, hfree]
  | updated known =>
    obtain rfl := Option.some.inj hk
    exact ⟨some _, rfl, fun u hu => .updated (hu ▸ known)⟩
  | nodeAdded known fit =>
    obtain rfl := Option.some.inj hk
    exact ⟨some _, rfl, fun u hu => .nodeAdded (hu ▸ known) fit⟩
  | nodeEdited known nodes first named patched =>
    obtain rfl := Option.some.inj hk
    exact ⟨some _, rfl, fun u hu => .nodeEdited (hu ▸ known) nodes first named patched⟩
  | connectionAdded known given =>
    obtain rfl := Option.some.inj hk
    exact ⟨some _, rfl, fun u hu => .connectionAdded (hu ▸ known) given⟩

/-- An operation on a workflow writes under its id, and depends on nothing else in the store. -/
theorem perform_local (h : r.perform d s = some (t, a)) (hk : r.workflow? a = some k) :
    ∃ change, t = s.write k change ∧
      ∀ u, u.get k = s.get k → r.perform (d.assigned a) u = some (u.write k change, a) := by
  cases r with
  | command c =>
    obtain ⟨change, ht, hlocal⟩ := (effect_of_perform h).local hk
    exact ⟨change, ht, fun u hu => perform_of_effect (hlocal u hu)⟩
  | query q =>
    obtain ⟨rfl, rfl⟩ := Prod.mk.inj (Option.some.inj h)
    cases q with
    | get id =>
      obtain rfl : id = k := Option.some.inj hk
      refine ⟨none, rfl, fun u hu => ?_⟩
      simp [Request.perform, Query.answer, hu, write]
    | list => simp [Request.workflow?] at hk
    | size => simp [Request.workflow?] at hk

/-- A request about no workflow changes nothing. -/
theorem perform_of_workflow?_eq_none (h : r.perform d s = some (t, a)) (hr : r.workflow? a = none) :
    t = s ∧ ∀ e u, ∃ b, r.perform e u = some (u, b) ∧ r.workflow? b = none := by
  cases r with
  | command c =>
    cases effect_of_perform h with
    | refused reason => cases reason <;> simp [Request.workflow?, Command.workflow?] at hr
    | _ => simp [Request.workflow?, Command.workflow?] at hr
  | query q =>
    obtain ⟨rfl, rfl⟩ := Prod.mk.inj (Option.some.inj h)
    cases q with
    | get id => simp [Request.workflow?] at hr
    | list => exact ⟨rfl, fun _ u => ⟨.workflows u.list, rfl, rfl⟩⟩
    | size => exact ⟨rfl, fun _ u => ⟨.size u.size, rfl, rfl⟩⟩

/-- A request, with what it takes from outside the store. -/
structure Operation where
  draw : Draw
  request : Request

/-- An operation that has been carried out. -/
structure Entry extends Operation where
  answer : Answer

def Entry.workflow? (e : Entry) : Option String :=
  e.request.workflow? e.answer

/-- The operation as it is carried out again. -/
def Entry.again (e : Entry) : Entry :=
  { e with draw := e.draw.assigned e.answer }

@[simp] theorem Entry.workflow?_again (e : Entry) : e.again.workflow? = e.workflow? := rfl

/-- Carries out operations one after the other. There is no result only when the ids that were drawn
for a workflow run out. -/
def performAll : Store → List Operation → Option (Store × List Entry)
  | s, [] => some (s, [])
  | s, o :: rest =>
    match o.request.perform o.draw s with
    | none => none
    | some (t, a) => (performAll t rest).map fun (u, entries) => (u, ⟨o, a⟩ :: entries)

variable {o : Operation} {ops : List Operation} {entries : List Entry}

theorem performAll_cons_iff : performAll s (o :: ops) = some (t, entries) ↔
    ∃ u a rest, o.request.perform o.draw s = some (u, a) ∧ performAll u ops = some (t, rest) ∧
      entries = ⟨o, a⟩ :: rest := by
  constructor
  · intro h
    unfold performAll at h
    split at h
    · simp at h
    · rename_i u a hperform
      obtain ⟨⟨v, rest⟩, hrest, heq⟩ := Option.map_eq_some_iff.mp h
      obtain ⟨rfl, rfl⟩ := Prod.mk.inj heq
      exact ⟨u, a, rest, hperform, hrest, rfl⟩
  · rintro ⟨u, a, rest, hperform, hrest, rfl⟩
    simp [performAll, hperform, hrest]

/-- Without the operations on other workflows, what is stored under an id is the same in the end, and
so are the answers to operations on it. -/
theorem exists_performAll_again (h : performAll s ops = some (t, entries))
    (hu : u.get k = s.get k) : ∃ v rerun,
      performAll u ((entries.filter fun e => e.workflow?.all (· = k)).map (·.again.toOperation)) =
        some (v, rerun) ∧
      v.get k = t.get k ∧
      rerun.filter (·.workflow? = some k) =
        (entries.filter (·.workflow? = some k)).map Entry.again := by
  induction ops generalizing s u entries with
  | nil =>
    obtain ⟨rfl, rfl⟩ := Prod.mk.inj (Option.some.inj h)
    exact ⟨u, [], rfl, hu, rfl⟩
  | cons o ops ih =>
    obtain ⟨next, a, rest, hperform, hrest, rfl⟩ := performAll_cons_iff.mp h
    cases hw : Entry.workflow? ⟨o, a⟩ with
    | none =>
      obtain ⟨rfl, hall⟩ := perform_of_workflow?_eq_none hperform hw
      obtain ⟨b, hb, hbw⟩ := hall (o.draw.assigned a) u
      obtain ⟨v, rerun, hrerun, hv, hsame⟩ := ih hrest hu
      refine ⟨v, ⟨⟨o.draw.assigned a, o.request⟩, b⟩ :: rerun, ?_, hv, ?_⟩
      · rw [List.filter_cons_of_pos (by simp [hw]), List.map_cons]
        exact performAll_cons_iff.mpr ⟨u, b, rerun, hb, hrerun, rfl⟩
      · rw [List.filter_cons_of_neg (by simp [Entry.workflow?, hbw]),
          List.filter_cons_of_neg (by simp [hw])]
        exact hsame
    | some j =>
      obtain ⟨change, rfl, hlocal⟩ := perform_local hperform hw
      by_cases hjk : j = k
      · subst hjk
        obtain ⟨v, rerun, hrerun, hv, hsame⟩ := ih hrest (get_write_congr hu change)
        refine ⟨v, Entry.again ⟨o, a⟩ :: rerun, ?_, hv, ?_⟩
        · rw [List.filter_cons_of_pos (by simp [hw]), List.map_cons]
          exact performAll_cons_iff.mpr ⟨_, a, rerun, hlocal u hu, hrerun, rfl⟩
        · rw [List.filter_cons_of_pos (by simp [hw]), List.filter_cons_of_pos (by simp [hw]),
            List.map_cons, hsame]
      · have hnext : (s.write j change).get k = s.get k :=
          get_write_of_ne s change (Ne.symm hjk)
        obtain ⟨v, rerun, hrerun, hv, hsame⟩ := ih hrest (hu.trans hnext.symm)
        refine ⟨v, rerun, ?_, hv, ?_⟩
        · simpa [hw, hjk] using hrerun
        · simpa [hw, hjk] using hsame

/-- Two operations on different workflows can change places. -/
theorem performAll_swap {o p : Operation} {e f : Entry} {j : String}
    (h : performAll s [o, p] = some (t, [e, f])) (he : e.workflow? = some j)
    (hf : f.workflow? = some k) (hjk : j ≠ k) :
    performAll s [f.again.toOperation, e.again.toOperation] = some (t, [f.again, e.again]) := by
  obtain ⟨next, a, rest, hfirst, hrest, heq⟩ := performAll_cons_iff.mp h
  obtain ⟨rfl, rfl⟩ := List.cons.inj heq
  obtain ⟨last, b, nothing, hsecond, hnothing, heq⟩ := performAll_cons_iff.mp hrest
  obtain ⟨rfl, rfl⟩ := List.cons.inj heq
  obtain ⟨rfl, -⟩ := Prod.mk.inj (Option.some.inj hnothing)
  obtain ⟨first, rfl, hlocal⟩ := perform_local hfirst he
  obtain ⟨second, rfl, hlocal'⟩ := perform_local hsecond hf
  have hf := hlocal' s (get_write_of_ne s first hjk.symm).symm
  have he := hlocal (s.write k second) (get_write_of_ne s second hjk)
  rw [write_comm s first second hjk]
  exact performAll_cons_iff.mpr ⟨_, _, _, hf, performAll_cons_iff.mpr ⟨_, _, _, he, rfl, rfl⟩, rfl⟩

/-- Workflows do not interfere. What is stored under an id, and the answers to the operations on it,
are the same when all operations on other workflows are left out; and operations on different
workflows can change places. -/
theorem workflows_separate (s : Store) :
    (∀ ops t entries k, performAll s ops = some (t, entries) → ∃ u rerun,
      performAll s ((entries.filter fun e => e.workflow?.all (· = k)).map (·.again.toOperation)) =
        some (u, rerun) ∧
      u.get k = t.get k ∧
      rerun.filter (·.workflow? = some k) =
        (entries.filter (·.workflow? = some k)).map Entry.again) ∧
    ∀ o p t (e f : Entry) j k, performAll s [o, p] = some (t, [e, f]) → e.workflow? = some j →
      f.workflow? = some k → j ≠ k →
      performAll s [f.again.toOperation, e.again.toOperation] = some (t, [f.again, e.again]) :=
  ⟨fun _ _ _ _ h => exists_performAll_again h rfl,
    fun _ _ _ _ _ _ _ h he hf hjk => performAll_swap h he hf hjk⟩

/-- Of two workflows the one is made without an id, and the id that is drawn first for it is that of
the other one. -/
def mingledOperations : List Operation :=
  [⟨laterDraw, .command (.create { id := some "w" })⟩,
   ⟨laterDraw, .command (.create {})⟩,
   ⟨laterDraw, .command (.appendNode "w" {})⟩,
   ⟨laterDraw, .query .size⟩,
   ⟨laterDraw, .command (.update "free" { name := some "other" })⟩,
   ⟨laterDraw, .query (.get "free")⟩]

/-- Without the operations on the other workflow the answers about this one are the same. -/
theorem workflows_separate_mingled :
    (∃ t entries u rerun, performAll .empty mingledOperations = some (t, entries) ∧
      entries.map Entry.workflow? =
        [some "w", some "free", some "w", none, some "free", some "free"] ∧
      performAll .empty
        [⟨⟨laterDraw.now, ["free"]⟩, .command (.create {})⟩,
         ⟨laterDraw, .query .size⟩,
         ⟨⟨laterDraw.now, ["free"]⟩, .command (.update "free" { name := some "other" })⟩,
         ⟨⟨laterDraw.now, ["free"]⟩, .query (.get "free")⟩] = some (u, rerun) ∧
      u.get "free" = t.get "free") ∧
    ∃ t e f, performAll .empty (mingledOperations.take 2) = some (t, [e, f]) ∧
      performAll .empty
        [⟨⟨laterDraw.now, ["free"]⟩, .command (.create {})⟩,
         ⟨⟨laterDraw.now, ["w"]⟩, .command (.create { id := some "w" })⟩] =
        some (t, [f.again, e.again]) := by
  obtain ⟨hagain, hswap⟩ := workflows_separate .empty
  obtain ⟨u, rerun, hrerun, hu, -⟩ := hagain mingledOperations _ _ "free" rfl
  have hswapped := hswap ⟨laterDraw, .command (.create { id := some "w" })⟩
    ⟨laterDraw, .command (.create {})⟩ _ _ _ "w" "free" rfl rfl rfl (by decide)
  exact ⟨⟨_, _, u, rerun, rfl, rfl, hrerun, hu⟩, _, _, _, rfl, hswapped⟩

end Shared

end Flowboard
