import Flowboard.Proofs.Answers
import Flowboard.Proofs.Succession

/-! Requests are handled in steps: a handler asks the store one thing after the other, and what it
does next depends on the answer. -/
namespace Flowboard.Http

open Shared (Answer Command Draw)

variable {server : Server} {m : Moment} {d : Draw} {s : Store} {r : Request} {found : Resource}
  {edit : Edit} {status : Nat} {id : String}

/-- What is still to be done for a request: its answer is known, or the store is asked first. -/
inductive Handling where
  | answer (x : Response)
  | ask (question : Shared.Request) (next : Answer → Handling)

namespace Handling

def map (f : Response → Response) : Handling → Handling
  | answer x => answer (f x)
  | ask question next => ask question fun a => (next a).map f

/-- What comes of it when nobody else is at the store. There is no result only when the drawn ids
run out. -/
def alone (d : Draw) : Handling → Store → Option (Store × Response)
  | answer x, s => some (s, x)
  | ask question next, s =>
    match question.perform d s with
    | some (t, a) => (next a).alone d t
    | none => none

theorem alone_map (f : Response → Response) (d : Draw) (h : Handling) (s : Store) :
    (h.map f).alone d s = (h.alone d s).map fun x => (x.1, f x.2) := by
  induction h generalizing s with
  | answer x => rfl
  | ask question next ih =>
    simp only [map, alone]
    cases question.perform d s with
    | none => rfl
    | some x => exact ih x.2 x.1

end Handling

/-- How an answer of the store is told. Nothing asks for the number of workflows alone. -/
def told (status : Nat) : Answer → Response
  | .error e => (ApiError.store e).response
  | .workflow w => .json status w.json
  | .node n => .json status n.json
  | .connection c => .json status c.json
  | .workflows ws => .json status (.array (ws.map Workflow.json))
  | .size _ => .json status .null

/-- A workflow is looked for, and its value decides about the answer. -/
def looking (id : String) (f : Workflow → Except ApiError Response) : Handling :=
  .ask (.query (.get id)) fun
    | .workflow w =>
      match f w with
      | .ok x => .answer x
      | .error e => .answer e.response
    | a => .answer (told 200 a)

/-- A workflow is looked for before the body of the request counts, and again when it is changed. -/
def editing (edit : Edit) : Handling :=
  .ask (.query (.get edit.id)) fun
    | .workflow _ =>
      match edit.body with
      | .error e => .answer (ApiError.body e).response
      | .ok c => .ask (.command c) fun a => .answer (told edit.status a)
    | a => .answer (told edit.status a)

/-- The body of a request describes a new workflow. -/
def creating : Except BodyError NewWorkflow → Handling
  | .error e => .answer (ApiError.body e).response
  | .ok new => .ask (.command (.create new)) fun a => .answer (told 201 a)

/-- A workflow is looked for, and its program is told, or what comes of it. -/
def programming (server : Server) (id : String) (json : Program → Json) : Handling :=
  looking id fun w =>
    match w.compile server.strategy with
    | .error e => .error (.compile e)
    | .ok p => .ok (.json 200 (json p))

/-- What is done for a request for a resource, with a method that the resource answers. -/
def Server.handle (server : Server) (now : Timestamp) (r : Request) : Resource → Handling
  | .health => .answer (health ⟨now, []⟩)
  | .workflows =>
    if r.method = .post then creating (r.read NewWorkflow.record.decoder)
    else .ask (.query .list) fun a => .answer (told 200 a)
  | .workflow id =>
    if r.method = .put then
      editing ⟨id, (r.read WorkflowPatch.record.decoder).map (.update id), 200⟩
    else looking id fun w => .ok (.json 200 w.json)
  | .nodes id => editing ⟨id, (r.read NodeSpec.record.decoder).map (.appendNode id), 201⟩
  | .node id n => editing ⟨id, (r.read NodePatch.record.decoder).map (.updateNode id n), 200⟩
  | .connections id =>
    editing ⟨id, (r.read ConnectionSpec.record.decoder).map (.appendConnection id), 201⟩
  | .compilation id => programming server id Program.json
  | .execution id => programming server id fun p => (server.runner.run server.host p.source).json
  | .acknowledgement id => looking id fun w => .ok (.json 200 (.object
    [("status", .string "executed"), ("workflow_id", .string w.id),
     ("result", .string "Workflow execution not yet implemented")]))

/-- What is done for a request for a resource whose ids stand as they do in the path, with a method
that the resource answers. -/
def Server.fulfilling (server : Server) (now : Timestamp) (r : Request) (resource : Resource) :
    Handling :=
  match resource.decoded with
  | .error name => .answer (.text 400 ("Invalid URL: Invalid UTF-8 in `" ++ name ++ "`"))
  | .ok found => server.handle now r found

/-- What is done for a request. -/
def Server.handling (server : Server) (now : Timestamp) (r : Request) : Handling :=
  let resource := Resource.ofTarget? r.target
  if r.method = .options then .answer (.permission (resource.map Resource.allow))
  else
    match resource with
    | none => .answer .notFound
    | some resource =>
      if r.method ∉ resource.methods then .answer (.methodNotAllowed resource.allow)
      else
        (server.fulfilling now r resource).map fun x => { x with bodiless := r.method = .head }

theorem handle_of_edit (server : Server) (now : Timestamp) (h : r.edit? found = some edit) :
    server.handle now r found = editing edit := by
  cases edits_of_edit? h with
  | update id put => exact if_pos put
  | _ => rfl

theorem told_of_shows {a : Answer} {v : Json} (h : Shows a v) : told status a = .json status v := by
  cases h <;> rfl

/-- On its own, a request to change something is decided about as by the server. -/
theorem alone_editing {x : Store × Response} (h : Decided d s edit x) :
    (editing edit).alone d s = some x := by
  cases hget : s.get edit.id with
  | error e =>
    obtain ⟨hunknown, rfl⟩ := Store.get_eq_error_iff.mp hget
    cases h with
    | unknown absent =>
      simp [editing, Handling.alone, Shared.Request.perform, Shared.Query.answer, hget]
      rfl
    | _ => simp_all
  | ok w =>
    have hknown := Store.contains_of_get hget
    cases hbody : edit.body with
    | error e =>
      cases h with
      | unreadable known unread =>
        obtain rfl := Except.error.inj (hbody.symm.trans unread)
        simp [editing, Handling.alone, Shared.Request.perform, Shared.Query.answer, hget, hbody]
        rfl
      | _ => simp_all
    | ok c =>
      have hperform : (editing edit).alone d s =
          (c.perform d s).map fun y => (y.1, told edit.status y.2) := by
        simp only [editing, Handling.alone, Shared.Request.perform, Shared.Query.answer, hget,
          hbody]
        cases c.perform d s <;> rfl
      obtain ⟨e, hc, rfl⟩ | ⟨t, a, v, hc, hv, rfl⟩ := h.performed hknown hbody
      · rw [hperform, hc]
        rfl
      · rw [hperform, hc, Option.map_some, told_of_shows hv]

theorem alone_looking (f : Workflow → Except ApiError Response) (d : Draw) (s : Store)
    (id : String) : (looking id f).alone d s = some (looked s (match s.get id with
      | .error e => .error (.store e)
      | .ok w => f w)) := by
  simp only [looking, Handling.alone, Shared.Request.perform, Shared.Query.answer]
  cases s.get id with
  | error e => rfl
  | ok w =>
    dsimp only
    cases f w <;> rfl

/-- On its own, a request for a new workflow is handled as by the server if the drawn ids are
enough. -/
theorem alone_creating (r : Request) (h : Draw.Suffices ⟨m.now, m.supply⟩ s) :
    (creating (r.read NewWorkflow.record.decoder)).alone ⟨m.now, m.supply⟩ s =
      some (createWorkflow m s r) := by
  rw [createWorkflow]
  cases r.read NewWorkflow.record.decoder with
  | error e => rfl
  | ok new =>
    obtain ⟨t, a, hperform⟩ := Shared.exists_perform (r := .command (.create new)) h
    obtain ⟨⟨t, w⟩, hcreate, heq⟩ := Option.map_eq_some_iff.mp hperform
    obtain ⟨rfl, rfl⟩ := Prod.mk.inj heq
    simp only [creating, Handling.alone, hperform, hcreate]
    rfl

theorem alone_programming (server : Server) (d : Draw) (s : Store) (id : String)
    (json : Program → Json) : (programming server id json).alone d s =
      some (looked s ((server.program s id).map fun p => .json 200 (json p))) := by
  rw [programming, alone_looking, Server.program]
  cases s.get id with
  | error e => rfl
  | ok w =>
    dsimp only
    cases w.compile server.strategy <;> rfl

/-- When nobody else is at the store, a request is handled as by the server. -/
theorem alone_handle (server : Server) (r : Request) (found : Resource)
    (h : Draw.Suffices ⟨m.now, m.supply⟩ s) :
    (server.handle m.now r found).alone ⟨m.now, m.supply⟩ s =
      some (server.perform m s r found) := by
  cases hedit : r.edit? found with
  | some edit =>
    rw [handle_of_edit server m.now hedit]
    exact alone_editing (decided_edit server m s hedit)
  | none =>
    cases found with
    | health => rfl
    | workflows =>
      simp only [Server.handle, Server.perform]
      split_ifs
      · exact alone_creating r h
      · rfl
    | workflow id =>
      have hput : r.method ≠ .put := by simpa [Request.edit?] using hedit
      simp only [Server.handle, Server.perform, if_neg hput, alone_looking, getWorkflow]
      cases s.get id <;> rfl
    | nodes id | node id n | connections id => simp [Request.edit?] at hedit
    | compilation id | execution id => exact alone_programming server _ s id _
    | acknowledgement id =>
      simp only [Server.handle, Server.perform, alone_looking, acknowledge]
      cases s.get id <;> rfl

theorem alone_handling (server : Server) (r : Request) (h : Draw.Suffices ⟨m.now, m.supply⟩ s) :
    (server.handling m.now r).alone ⟨m.now, m.supply⟩ s = some (server.answer m s r) := by
  have hfulfilling (resource : Resource) :
      (server.fulfilling m.now r resource).alone ⟨m.now, m.supply⟩ s =
        some (server.fulfil m s r resource) := by
    simp only [Server.fulfilling, Server.fulfil]
    cases resource.decoded with
    | error name => rfl
    | ok found => exact alone_handle server r found h
  simp only [Server.handling, Server.answer]
  split_ifs with hoptions
  · rfl
  · cases Resource.ofTarget? r.target with
    | none => rfl
    | some resource =>
      dsimp only
      split_ifs
      · rw [Handling.alone_map, hfulfilling]
        rfl
      · rfl

section

variable {h rest : Handling} {log : List (Shared.Request × Answer)} {known : String → Prop}
  {a : Answer} {c : Command} {q : Shared.Request} {now : Timestamp}

/-- A workflow has been looked for and found. -/
def Found (log : List (Shared.Request × Answer)) (id : String) : Prop :=
  ∃ w, (.query (.get id), .workflow w) ∈ log

theorem found_cons {x : Shared.Request × Answer} :
    Found (x :: log) id ↔ Found [x] id ∨ Found log id := by
  simp [Found, exists_or]

namespace Handling

/-- What is left of a handling after some answers of the store. -/
def Follows : List (Shared.Request × Answer) → Handling → Handling → Prop
  | [], h, rest => h = rest
  | (q, a) :: log, ask question next, rest => question = q ∧ (next a).Follows log rest
  | _ :: _, answer _, _ => False

theorem follows_answer {x : Response} (hf : (answer x).Follows log rest) :
    log = [] ∧ answer x = rest := by
  cases log with
  | nil => exact ⟨rfl, hf⟩
  | cons y log => exact hf.elim

/-- The answer of the store goes to the end of what has been asked for. -/
theorem Follows.concat {next : Answer → Handling} (hf : h.Follows log (.ask q next)) (a : Answer) :
    h.Follows (log ++ [(q, a)]) (next a) := by
  induction log generalizing h with
  | nil =>
    obtain rfl : h = .ask q next := hf
    exact ⟨rfl, rfl⟩
  | cons x log ih =>
    cases h with
    | answer y => exact hf.elim
    | ask question next' => exact ⟨hf.1, ih hf.2⟩

/-- Only workflows that are known to be there are changed: those that have been found before. -/
def Guarded : (String → Prop) → Handling → Prop
  | _, answer _ => True
  | known, ask question next =>
    (∀ c id, question = .command c → c.workflow? = some id → known id) ∧
      ∀ a, (next a).Guarded fun id => known id ∨ Found [(question, a)] id

theorem Guarded.mono {more : String → Prop} (hg : h.Guarded known)
    (hmore : ∀ id, known id → more id) : h.Guarded more := by
  induction h generalizing known more with
  | answer x => trivial
  | ask question next ih =>
    exact ⟨fun c id hc hid => hmore id (hg.1 c id hc hid),
      fun a => ih a (hg.2 a) fun id => Or.imp_left (hmore id)⟩

theorem Guarded.map (f : Response → Response) (hg : h.Guarded known) : (h.map f).Guarded known := by
  induction h generalizing known with
  | answer x => trivial
  | ask question next ih => exact ⟨hg.1, fun a => ih a (hg.2 a)⟩

/-- What has been found on the way is known to the rest of the handling. -/
theorem Follows.guarded (hf : h.Follows log rest) (hg : h.Guarded known) :
    rest.Guarded fun id => known id ∨ Found log id := by
  induction log generalizing h known with
  | nil =>
    obtain rfl : h = rest := hf
    exact hg.mono fun id => Or.inl
  | cons x log ih =>
    cases h with
    | answer y => exact hf.elim
    | ask question next =>
      obtain ⟨rfl, hf⟩ := hf
      refine (ih hf (hg.2 x.2)).mono fun id hid => ?_
      rw [or_assoc] at hid
      exact hid.imp_right found_cons.mpr

end Handling

theorem workflow?_of_edit (hedit : r.edit? found = some edit) (hbody : edit.body = .ok c) :
    c.workflow? = some edit.id := by
  cases edits_of_edit? hedit with
  | update | appendNode | updateNode | appendConnection =>
    obtain ⟨x, -, rfl⟩ := Decoder.map_eq_ok hbody
    rfl

theorem guarded_editing (hbody : ∀ c, edit.body = .ok c → c.workflow? = some edit.id) :
    (editing edit).Guarded known := by
  refine ⟨by simp, fun a => ?_⟩
  cases a with
  | workflow w =>
    cases hedit : edit.body with
    | error e => trivial
    | ok c =>
      refine ⟨?_, fun _ => trivial⟩
      rintro _ id ⟨rfl⟩ hid
      obtain rfl := Option.some.inj ((hbody c hedit).symm.trans hid)
      exact Or.inr ⟨w, List.mem_singleton_self _⟩
  | _ => trivial

theorem guarded_looking (f : Workflow → Except ApiError Response) :
    (looking id f).Guarded known := by
  refine ⟨by simp, fun a => ?_⟩
  cases a with
  | workflow w =>
    dsimp only
    cases f w <;> trivial
  | _ => trivial

theorem guarded_creating (body : Except BodyError NewWorkflow) : (creating body).Guarded known := by
  cases body with
  | error e => trivial
  | ok new =>
    refine ⟨?_, fun _ => trivial⟩
    rintro _ id ⟨rfl⟩ hid
    simp [Command.workflow?] at hid

theorem guarded_handle (server : Server) (now : Timestamp) (r : Request) (found : Resource) :
    (server.handle now r found).Guarded known := by
  cases hedit : r.edit? found with
  | some edit =>
    rw [handle_of_edit server now hedit]
    exact guarded_editing fun c => workflow?_of_edit hedit
  | none =>
    cases found with
    | health => trivial
    | workflows =>
      simp only [Server.handle]
      split_ifs
      · exact guarded_creating _
      · exact ⟨by simp, fun _ => trivial⟩
    | workflow id =>
      have hput : r.method ≠ .put := by simpa [Request.edit?] using hedit
      simp only [Server.handle, if_neg hput]
      exact guarded_looking _
    | nodes id | node id n | connections id => simp [Request.edit?] at hedit
    | compilation id | execution id => exact guarded_looking _
    | acknowledgement id =>
      simp only [Server.handle]
      exact guarded_looking _

/-- Whatever the request, only workflows that have been found are changed. -/
theorem guarded_handling (server : Server) (now : Timestamp) (r : Request) :
    (server.handling now r).Guarded known := by
  have hfulfilling (resource : Resource) :
      (server.fulfilling now r resource).Guarded known := by
    rw [Server.fulfilling]
    cases resource.decoded with
    | error name => trivial
    | ok found => exact guarded_handle server now r found
  simp only [Server.handling]
  split_ifs
  · trivial
  · cases Resource.ofTarget? r.target with
    | none => trivial
    | some resource =>
      dsimp only
      split_ifs
      · exact (hfulfilling resource).map _
      · trivial

/-- What is left of a request to change a workflow that has been found is nothing but its body, and
what the store says when it is changed. -/
theorem answer_of_follows {f : Response → Response} {x : Response}
    (hf : ((editing edit).map f).Follows log (.answer x)) (hfound : Found log edit.id) :
    (∃ e, edit.body = .error e ∧ x = f (ApiError.body e).response) ∨
      ∃ c a, (.command c, a) ∈ log ∧ x = f (told edit.status a) := by
  obtain ⟨w, hw⟩ := hfound
  cases log with
  | nil => simp at hw
  | cons y log =>
    obtain ⟨q, a⟩ := y
    obtain ⟨rfl, hf⟩ := hf
    cases a with
    | workflow v =>
      cases hbody : edit.body with
      | error e =>
        simp only [hbody] at hf
        obtain ⟨-, hx⟩ := Handling.follows_answer hf
        exact Or.inl ⟨e, rfl, (Handling.answer.inj hx).symm⟩
      | ok c =>
        simp only [hbody] at hf
        cases log with
        | nil => simp [Handling.Follows, Handling.map] at hf
        | cons z log =>
          obtain ⟨q, b⟩ := z
          obtain ⟨rfl, hf⟩ := hf
          obtain ⟨-, hx⟩ := Handling.follows_answer hf
          exact Or.inr ⟨c, b, by simp, (Handling.answer.inj hx).symm⟩
    | _ =>
      obtain ⟨rfl, -⟩ := Handling.follows_answer hf
      simp at hw

/-- A request to change a workflow is handled as one, but for the body of the response. -/
theorem handling_of_edit {resource : Resource} (server : Server) (now : Timestamp)
    (htarget : Resource.ofTarget? r.target = some resource) (hmethod : r.method ∈ resource.methods)
    (hdecoded : resource.decoded = .ok found) (hedit : r.edit? found = some edit) :
    server.handling now r =
      (editing edit).map fun x => { x with bodiless := r.method = .head } := by
  simp [Server.handling, Server.fulfilling, htarget, hmethod, hdecoded, ne_options_of_mem hmethod,
    handle_of_edit server now hedit]

theorem status_of_edit (hedit : r.edit? found = some edit) : edit.status ≠ 404 := by
  cases edits_of_edit? hedit <;> simp

/-- The answer to a request that fails for want of a workflow. -/
def missing (id : String) : Response :=
  .failure 404 ("Workflow not found: " ++ id)

/-- Unless the store says so, no answer says that the workflow is missing. -/
theorem told_ne_missing {f : Bool} (hstatus : status ≠ 404)
    (ha : ∀ id, a ≠ .error (.workflowNotFound id)) (id : String) :
    { told status a with bodiless := f } ≠ missing id := by
  intro heq
  have hcode : (told status a).status = 404 := congrArg Response.status heq
  cases a with
  | error e =>
    cases e with
    | workflowNotFound id => exact ha id rfl
    | nodeNotFound workflow node =>
      -- the status is the same, but not the text
      have hcontent : Content.json (.object
          [("error", .string (StoreError.nodeNotFound workflow node).message)]) =
          .json (.object [("error", .string ("Workflow not found: " ++ id))]) :=
        congrArg Response.content heq
      have hmessage : (StoreError.nodeNotFound workflow node).message =
          "Workflow not found: " ++ id := by simpa using hcontent
      have hlist : ("Node '" ++ node ++ "' not found in workflow '" ++ workflow ++ "'").toList =
          ("Workflow not found: " ++ id).toList := congrArg String.toList hmessage
      simp at hlist
    | missingFields names =>
      have hcode : 400 = 404 := hcode
      omega
    | invalidProperties type fault =>
      have hcode : 400 = 404 := hcode
      omega
  | _ => exact hstatus hcode

end

end Flowboard.Http
