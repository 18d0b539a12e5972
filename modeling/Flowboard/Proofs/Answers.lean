import Flowboard.Proofs.Commands
import Flowboard.Proofs.Export

/-! What decides about the answers to requests, and which answers tell that the store has changed. -/
namespace Flowboard.Http

open Shared (Answer Command Draw Refuses)

variable {α β : Type} {server : Server} {m : Moment} {d : Draw} {s t : Store} {r : Request}
  {id : String} {resource found : Resource} {x y : Store × Response}

/-- A request to change something of a workflow: which one, the command that the body holds, and
the status of the answer when it has been carried out. -/
structure Edit where
  id : String
  body : Except BodyError Command
  status : Nat

def Request.edit? (r : Request) : Resource → Option Edit
  | .workflow id =>
    if r.method = .put then
      some ⟨id, (r.read WorkflowPatch.record.decoder).map (.update id), 200⟩
    else none
  | .nodes id => some ⟨id, (r.read NodeSpec.record.decoder).map (.appendNode id), 201⟩
  | .node id n => some ⟨id, (r.read NodePatch.record.decoder).map (.updateNode id n), 200⟩
  | .connections id =>
    some ⟨id, (r.read ConnectionSpec.record.decoder).map (.appendConnection id), 201⟩
  | _ => none

/-- The requests to change something of a workflow. -/
inductive Request.Edits (r : Request) : Resource → Edit → Prop
  | update (id : String) (put : r.method = .put) :
      r.Edits (.workflow id) ⟨id, (r.read WorkflowPatch.record.decoder).map (.update id), 200⟩
  | appendNode (id : String) :
      r.Edits (.nodes id) ⟨id, (r.read NodeSpec.record.decoder).map (.appendNode id), 201⟩
  | updateNode (id n : String) :
      r.Edits (.node id n) ⟨id, (r.read NodePatch.record.decoder).map (.updateNode id n), 200⟩
  | appendConnection (id : String) : r.Edits (.connections id)
      ⟨id, (r.read ConnectionSpec.record.decoder).map (.appendConnection id), 201⟩

/-- How what a command has made is told. -/
inductive Shows : Answer → Json → Prop
  | workflow (w : Workflow) : Shows (.workflow w) w.json
  | node (n : Node) : Shows (.node n) n.json
  | connection (c : Connection) : Shows (.connection c) c.json

/-- What decides about a request to change something of a workflow. The body counts only if there is
such a workflow, and what the store says about the command only if the body could be read. -/
inductive Decided (d : Draw) (s : Store) (edit : Edit) : Store × Response → Prop
  | unknown (absent : s.contains edit.id = false) :
      Decided d s edit (s, .failure 404 ("Workflow not found: " ++ edit.id))
  | unreadable {e} (known : s.contains edit.id = true) (unread : edit.body = .error e) :
      Decided d s edit (s, .failure 400 ("Invalid request body: " ++ e.message))
  | nodeless {c workflow node} (known : s.contains edit.id = true) (read : edit.body = .ok c)
      (refused : Refuses s (.command c) (.nodeNotFound workflow node)) :
      Decided d s edit (s, .failure 404 (StoreError.nodeNotFound workflow node).message)
  | incomplete {c names} (known : s.contains edit.id = true) (read : edit.body = .ok c)
      (refused : Refuses s (.command c) (.missingFields names)) :
      Decided d s edit (s, .failure 400 (StoreError.missingFields names).message)
  | unfit {c type fault} (known : s.contains edit.id = true) (read : edit.body = .ok c)
      (refused : Refuses s (.command c) (.invalidProperties type fault)) :
      Decided d s edit (s, .failure 400 (StoreError.invalidProperties type fault).message)
  | done {c t a v} (known : s.contains edit.id = true) (read : edit.body = .ok c)
      (performed : c.perform d s = some (t, a)) (shown : Shows a v) :
      Decided d s edit (t, .json edit.status v)

/-- What decides about a request for the program of a workflow, or for what comes of running it. -/
inductive Programmed (server : Server) (s : Store) (id : String) (json : Program → Json) :
    Store × Response → Prop
  | unknown (absent : s.contains id = false) :
      Programmed server s id json (s, .failure 404 ("Workflow not found: " ++ id))
  | uncompiled {w e} (known : s.get id = .ok w) (failed : w.compile server.strategy = .error e) :
      Programmed server s id json (s, .failure 422 e.message)
  | compiled {w p} (known : s.get id = .ok w) (compiled : w.compile server.strategy = .ok p) :
      Programmed server s id json (s, .json 200 (json p))

theorem edits_of_edit? {edit : Edit} (h : r.edit? found = some edit) : r.Edits found edit := by
  cases found with
  | workflow id =>
    obtain ⟨hput, hedit⟩ := Option.ite_none_right_eq_some.mp h
    obtain rfl := Option.some.inj hedit
    exact .update id hput
  | nodes id =>
    obtain rfl := Option.some.inj h
    exact .appendNode id
  | node id n =>
    obtain rfl := Option.some.inj h
    exact .updateNode id n
  | connections id =>
    obtain rfl := Option.some.inj h
    exact .appendConnection id
  | health | workflows | compilation id | execution id | acknowledgement id =>
    simp [Request.edit?] at h

/-- An answer is told in one way. -/
theorem Shows.unique {a : Answer} {v w : Json} (hv : Shows a v) (hw : Shows a w) : v = w := by
  cases hv <;> cases hw <;> rfl

theorem not_shows_error {e : StoreError} {v : Json} : ¬ Shows (.error e) v := nofun

/-- A command that is refused comes to nothing but the error. -/
theorem perform_of_refuses {c : Command} {e : StoreError} (d : Draw)
    (h : Refuses s (.command c) e) : c.perform d s = some (s, .error e) :=
  (Shared.perform_eq_error_iff (r := .command c)).mpr ⟨h, rfl⟩

/-- Where the command is known, what the store makes of it is the answer. -/
theorem Decided.performed {edit : Edit} {c : Command} (h : Decided d s edit x)
    (known : s.contains edit.id = true) (read : edit.body = .ok c) :
    (∃ e, c.perform d s = some (s, .error e) ∧ x = (s, (ApiError.store e).response)) ∨
      ∃ t a v, c.perform d s = some (t, a) ∧ Shows a v ∧ x = (t, .json edit.status v) := by
  cases h with
  | unknown absent => simp [known] at absent
  | unreadable _ unread => simp [read] at unread
  | nodeless _ read' refused | incomplete _ read' refused | unfit _ read' refused =>
    obtain rfl := Except.ok.inj (read.symm.trans read')
    exact Or.inl ⟨_, perform_of_refuses d refused, rfl⟩
  | done _ read' performed shown =>
    obtain rfl := Except.ok.inj (read.symm.trans read')
    exact Or.inr ⟨_, _, _, performed, shown, rfl⟩

/-- There is one way only to decide about a request. -/
theorem Decided.unique {edit : Edit} (hx : Decided d s edit x) (hy : Decided d s edit y) :
    x = y := by
  cases hknown : s.contains edit.id with
  | false => cases hx <;> cases hy <;> simp_all
  | true =>
    cases hbody : edit.body with
    | error e => cases hx <;> cases hy <;> simp_all
    | ok c =>
      obtain ⟨e, hx, rfl⟩ | ⟨t, a, v, hx, hv, rfl⟩ := hx.performed hknown hbody <;>
        obtain ⟨e', hy, rfl⟩ | ⟨t', a', v', hy, hv', rfl⟩ := hy.performed hknown hbody <;>
        grind [Shows.unique, not_shows_error]

theorem Programmed.unique {json : Program → Json} (hx : Programmed server s id json x)
    (hy : Programmed server s id json y) : x = y := by
  cases hx <;> cases hy <;> grind [Store.contains_of_get]

/-- Of a workflow that is there the store does not say that it is not. -/
theorem known_of_refuses {c : Command} {e : StoreError} (h : Refuses s (.command c) e)
    (hid : c.workflow? = some id) (known : s.contains id = true) :
    (∃ workflow node, e = .nodeNotFound workflow node) ∨ (∃ names, e = .missingFields names) ∨
      ∃ type fault, e = .invalidProperties type fault := by
  cases h <;> simp_all [Command.workflow?]

theorem decided_changed (command : α → Command) {body : Except BodyError α} {answer : β → Answer}
    {change : α → Except StoreError (Store × β)} {status : Nat} {json : β → Json}
    (hid : ∀ x, (command x).workflow? = some id)
    (hperform : ∀ x, (command x).perform d s = some (Shared.settle s answer (change x)))
    (hshown : ∀ y, Shows (answer y) (json y)) :
    Decided d s ⟨id, body.map command, status⟩ (changed s id body change status json) := by
  unfold changed
  split
  · rename_i e hget
    obtain ⟨absent, rfl⟩ := Store.get_eq_error_iff.mp hget
    exact .unknown absent
  rename_i w hget
  have known := Store.contains_of_get hget
  split
  · exact .unreadable known rfl
  rename_i c
  have hc := hperform c
  split
  · rename_i e hchange
    rw [hchange] at hc
    have refused := (Shared.perform_eq_error_iff (r := .command (command c))).mp hc
    obtain ⟨_, _, rfl⟩ | ⟨_, rfl⟩ | ⟨_, _, rfl⟩ := known_of_refuses refused.1 (hid c) known
    · exact .nodeless known rfl refused.1
    · exact .incomplete known rfl refused.1
    · exact .unfit known rfl refused.1
  · rename_i t y hchange
    rw [hchange] at hc
    exact .done known rfl hc (hshown y)

/-- The server decides about each request to change something of a workflow. -/
theorem decided_edit (server : Server) (m : Moment) (s : Store) {edit : Edit}
    (h : r.edit? found = some edit) :
    Decided ⟨m.now, m.supply⟩ s edit (server.perform m s r found) := by
  cases edits_of_edit? h with
  | update id put =>
    simp only [Server.perform, put, if_true]
    exact decided_changed (.update id) (fun _ => rfl) (fun _ => rfl) .workflow
  | appendNode id => exact decided_changed (.appendNode id) (fun _ => rfl) (fun _ => rfl) .node
  | updateNode id n =>
    exact decided_changed (.updateNode id n) (fun _ => rfl) (fun _ => rfl) .node
  | appendConnection id =>
    exact decided_changed (.appendConnection id) (fun _ => rfl) (fun _ => rfl) .connection

theorem programmed_looked (server : Server) (s : Store) (id : String) (json : Program → Json) :
    Programmed server s id json
      (looked s ((server.program s id).map fun p => .json 200 (json p))) := by
  unfold Server.program
  split
  · rename_i e hget
    obtain ⟨absent, rfl⟩ := Store.get_eq_error_iff.mp hget
    exact .unknown absent
  · rename_i w hget
    split
    · rename_i e hfailed
      exact .uncompiled hget hfailed
    · rename_i p hcompiled
      exact .compiled hget hcompiled

theorem Decided.plain {edit : Edit} (h : Decided d s edit x) : x.2.bodiless = false := by
  cases h <;> rfl

theorem Programmed.plain {json : Program → Json} (h : Programmed server s id json x) :
    x.2.bodiless = false := by
  cases h <;> rfl

theorem ne_options_of_mem (h : r.method ∈ resource.methods) : r.method ≠ .options := by
  intro hoptions
  rw [hoptions] at h
  cases resource <;> simp [Resource.methods] at h

/-- A request whose ids are texts is answered by what is done with the resource. -/
theorem answer_of_decoded (htarget : Resource.ofTarget? r.target = some resource)
    (hmethod : r.method ∈ resource.methods) (hdecoded : resource.decoded = .ok found) :
    server.answer m s r = ((server.perform m s r found).1,
      { (server.perform m s r found).2 with bodiless := r.method = .head }) := by
  simp [Server.answer, Server.fulfil, htarget, hmethod, hdecoded, ne_options_of_mem hmethod]

theorem answer_eq_perform (server : Server) (m : Moment) (s : Store)
    (htarget : Resource.ofTarget? r.target = some resource)
    (hmethod : r.method ∈ resource.methods) (hdecoded : resource.decoded = .ok found)
    (hhead : r.method ≠ .head) (hplain : (server.perform m s r found).2.bodiless = false) :
    server.answer m s r = server.perform m s r found := by
  rw [answer_of_decoded htarget hmethod hdecoded]
  simp [hhead, ← hplain]

/-- An id in the path that is no text is all that is complained about. -/
theorem answer_of_undecoded {name : String} (htarget : Resource.ofTarget? r.target = some resource)
    (hmethod : r.method ∈ resource.methods) (hdecoded : resource.decoded = .error name) :
    server.answer m s r = (s, { Response.text 400 ("Invalid URL: Invalid UTF-8 in `" ++ name ++ "`")
      with bodiless := r.method = .head }) := by
  simp [Server.answer, Server.fulfil, htarget, hmethod, hdecoded, ne_options_of_mem hmethod]

/-- The answers that tell of a change. -/
inductive Accepts : Resource → Method → Nat → Prop
  | workflow : Accepts .workflows .post 201
  | node (id : String) : Accepts (.nodes id) .post 201
  | connection (id : String) : Accepts (.connections id) .post 201
  | update (id : String) : Accepts (.workflow id) .put 200
  | patch (id node : String) : Accepts (.node id node) .patch 200

def Request.Accepted (r : Request) (x : Response) : Prop :=
  ∃ resource, Resource.ofTarget? r.target = some resource ∧ Accepts resource r.method x.status

/-- With its ids as text a resource is of the same kind. -/
theorem kind_of_decoded (h : resource.decoded = .ok found) : found.methods = resource.methods ∧
    ∀ method status, Accepts found method status → Accepts resource method status := by
  cases resource with
  | health => exact Except.ok.inj h ▸ ⟨rfl, fun _ _ h => h⟩
  | workflows => exact Except.ok.inj h ▸ ⟨rfl, fun _ _ h => h⟩
  | workflow id =>
    obtain ⟨id, -, rfl⟩ := Decoder.map_eq_ok h
    exact ⟨rfl, fun _ _ h => by cases h; constructor⟩
  | nodes id =>
    obtain ⟨id, -, rfl⟩ := Decoder.map_eq_ok h
    exact ⟨rfl, fun _ _ h => by cases h; constructor⟩
  | node id n =>
    simp only [Resource.decoded] at h
    split at h
    · simp at h
    obtain ⟨id, -, rfl⟩ := Decoder.map_eq_ok h
    exact ⟨rfl, fun _ _ h => by cases h; constructor⟩
  | connections id =>
    obtain ⟨id, -, rfl⟩ := Decoder.map_eq_ok h
    exact ⟨rfl, fun _ _ h => by cases h; constructor⟩
  | compilation id | execution id | acknowledgement id =>
    obtain ⟨id, -, rfl⟩ := Decoder.map_eq_ok h
    exact ⟨rfl, nofun⟩

theorem accepts_of_edit {edit : Edit} (h : r.edit? found = some edit)
    (hmethod : r.method ∈ found.methods) : Accepts found r.method edit.status := by
  cases edits_of_edit? h with
  | update id put => exact put ▸ .update id
  | appendNode id => exact List.mem_singleton.mp hmethod ▸ .node id
  | updateNode id n => exact List.mem_singleton.mp hmethod ▸ .patch id n
  | appendConnection id => exact List.mem_singleton.mp hmethod ▸ .connection id

theorem ne_head_of_accepts {method : Method} {status : Nat} (h : Accepts found method status) :
    method ≠ .head := by
  cases h <;> simp

/-- An answer to a change that has been carried out has the status of the request. -/
theorem Decided.status_of_changed {edit : Edit} (h : Decided d s edit x) (hx : x.1 ≠ s) :
    x.2.status = edit.status := by
  cases h with
  | done => rfl
  | _ => exact absurd rfl hx

theorem accepts_of_created (h : (createWorkflow m s r).1 ≠ s) :
    (createWorkflow m s r).2.status = 201 := by
  unfold createWorkflow at h ⊢
  split at h
  · exact absurd rfl h
  split at h
  · rfl
  · exact absurd rfl h

/-- What changes the store is answered as an acceptance. -/
theorem accepts_of_changed (hmethod : r.method ∈ found.methods)
    (h : (server.perform m s r found).1 ≠ s) :
    Accepts found r.method (server.perform m s r found).2.status := by
  cases hedit : r.edit? found with
  | some edit =>
    rw [(decided_edit server m s hedit).status_of_changed h]
    exact accepts_of_edit hedit hmethod
  | none =>
    cases found with
    | workflows =>
      simp only [Server.perform] at h ⊢
      split_ifs at h ⊢ with hpost
      · rw [accepts_of_created h, hpost]
        exact .workflow
      · exact absurd rfl h
    | workflow id =>
      have hput : r.method ≠ .put := by simpa [Request.edit?] using hedit
      simp only [Server.perform, if_neg hput] at h
      exact absurd (looked_store s _) h
    | nodes id | node id n | connections id => simp [Request.edit?] at hedit
    | health => exact absurd rfl h
    | compilation id | execution id | acknowledgement id => exact absurd (looked_store s _) h

/-- Only an accepted request changes the store. -/
theorem accepted_of_changed (h : (server.answer m s r).1 ≠ s) :
    r.Accepted (server.answer m s r).2 := by
  by_cases hasked : ∃ resource, Resource.ofTarget? r.target = some resource ∧
      r.method ∈ resource.methods
  · obtain ⟨resource, htarget, hmethod⟩ := hasked
    cases hdecoded : resource.decoded with
    | error name => exact absurd (by rw [answer_of_undecoded htarget hmethod hdecoded]) h
    | ok found =>
      obtain ⟨hmethods, haccepts⟩ := kind_of_decoded hdecoded
      rw [answer_of_decoded htarget hmethod hdecoded] at h ⊢
      exact ⟨resource, htarget, haccepts _ _ (accepts_of_changed (hmethods ▸ hmethod) h)⟩
  · refine absurd ?_ h
    unfold Server.answer
    cases htarget : Resource.ofTarget? r.target with
    | none => split_ifs <;> rfl
    | some resource =>
      have hmethod : r.method ∉ resource.methods := fun hm => hasked ⟨resource, htarget, hm⟩
      simp only [hmethod, not_false_eq_true, if_true]
      split_ifs <;> rfl

/-- Requests of which none is accepted leave the store as it is. -/
theorem serve_of_unaccepted {rs : List (Moment × Request)}
    (h : ∀ before m r after, rs = before ++ (m, r) :: after →
      ¬ r.Accepted (server.answer m (server.serve s before) r).2) : server.serve s rs = s := by
  induction rs generalizing s with
  | nil => rfl
  | cons mr rs ih =>
    obtain ⟨m, r⟩ := mr
    have hsame : (server.answer m s r).1 = s := by
      by_contra hne
      exact h [] m r rs rfl (accepted_of_changed hne)
    rw [Server.serve, hsame]
    refine ih fun before m' r' after hrs => ?_
    have hlater := h ((m, r) :: before) m' r' after (by rw [hrs, List.cons_append])
    rwa [Server.serve, hsame] at hlater

/-- A store changes only when a request is accepted. Ids in the path are read before anything else;
then the workflow is looked for, then the body is read, and then the store decides about the command.
Programs are asked for with nothing but the id of a workflow. -/
theorem answered_in_order (server : Server) (s : Store) :
    (∀ rs, (∀ before m r after, rs = before ++ (m, r) :: after →
      ¬ r.Accepted (server.answer m (server.serve s before) r).2) → server.serve s rs = s) ∧
    ∀ (m : Moment) (r : Request),
      ((server.answer m s r).1 ≠ s → r.Accepted (server.answer m s r).2) ∧
      ∀ resource, Resource.ofTarget? r.target = some resource → r.method ∈ resource.methods →
        (∀ name, resource.decoded = .error name → server.answer m s r =
          (s, { Response.text 400 ("Invalid URL: Invalid UTF-8 in `" ++ name ++ "`") with
            bodiless := r.method = .head })) ∧
        ∀ found, resource.decoded = .ok found →
          (∀ edit x, r.edit? found = some edit →
            (server.answer m s r = x ↔ Decided ⟨m.now, m.supply⟩ s edit x)) ∧
          (∀ id x, found = .compilation id →
            (server.answer m s r = x ↔ Programmed server s id Program.json x)) ∧
          ∀ id x, found = .execution id →
            (server.answer m s r = x ↔ Programmed server s id
              (fun p => (server.runner.run server.host p.source).json) x) := by
  refine ⟨fun _ => serve_of_unaccepted, fun m r => ⟨accepted_of_changed,
    fun resource htarget hmethod => ⟨fun name => answer_of_undecoded htarget hmethod,
      fun found hdecoded => ?_⟩⟩⟩
  have hfound : r.method ∈ found.methods := (kind_of_decoded hdecoded).1 ▸ hmethod
  have hanswer := answer_eq_perform server m s htarget hmethod hdecoded
  refine ⟨fun edit x hedit => ?_, fun id x hid => ?_, fun id x hid => ?_⟩
  · have hdecided := decided_edit server m s hedit
    have hhead := ne_head_of_accepts (accepts_of_edit hedit hfound)
    rw [hanswer hhead hdecided.plain]
    exact ⟨fun h => h ▸ hdecided, hdecided.unique⟩
  · subst hid
    have hprogrammed := programmed_looked server s id Program.json
    have hpost : r.method = .post := List.mem_singleton.mp hfound
    rw [hanswer (by simp [hpost]) hprogrammed.plain]
    exact ⟨fun h => h ▸ hprogrammed, hprogrammed.unique⟩
  · subst hid
    have hprogrammed := programmed_looked server s id
      fun p => (server.runner.run server.host p.source).json
    have hpost : r.method = .post := List.mem_singleton.mp hfound
    rw [hanswer (by simp [hpost]) hprogrammed.plain]
    exact ⟨fun h => h ▸ hprogrammed, hprogrammed.unique⟩

def knownStore : Store :=
  ⟨[("w", Workflow.empty "w" "known" noon)]⟩

def bodilessPost : Request :=
  ⟨.post, "/api/workflows/w/nodes", [], []⟩

def compilePost : Request :=
  ⟨.post, "/api/workflows/w/compile", [], []⟩

/-- The id of the workflow is a text, but that of the node is none. -/
def undecodablePatch : Request :=
  ⟨.patch, "/api/workflows/missing/nodes/%FF", [("content-type", "application/json")],
    Text.encode "\x7b\x7d"⟩

/-- A body that cannot be read is refused where the workflow is known, and a program is told for no
body at all. -/
theorem answered_in_order_known :
    idle.answer ⟨noon, []⟩ knownStore bodilessPost = (knownStore,
      .failure 400 "Invalid request body: Expected request with `Content-Type: application/json`") ∧
    idle.answer ⟨noon, []⟩ knownStore compilePost =
      (knownStore, .json 200 (Program.json ⟨[], [], []⟩)) ∧
    idle.serve knownStore [(⟨noon, []⟩, bodilessPost), (⟨noon, []⟩, compilePost)] = knownStore := by
  obtain ⟨hserve, hanswer⟩ := answered_in_order idle knownStore
  have hpost : Resource.ofTarget? bodilessPost.target = some (.nodes "w") := by decide +kernel
  have hcompile : Resource.ofTarget? compilePost.target = some (.compilation "w") := by
    decide +kernel
  have hunread : bodilessPost.read NodeSpec.record.decoder = .error .wrongContentType := by
    decide +kernel
  obtain ⟨hnodes, -⟩ := ((hanswer ⟨noon, []⟩ bodilessPost).2 _ hpost (by decide)).2 (.nodes "w")
    (by decide +kernel)
  have hposted := (hnodes _ _ rfl).mpr (.unreadable (e := .wrongContentType) (by decide)
    (by simp [hunread, Except.map]))
  obtain ⟨-, hcompilation, -⟩ := ((hanswer ⟨noon, []⟩ compilePost).2 _ hcompile (by decide)).2
    (.compilation "w") (by decide +kernel)
  have hcompiled := (hcompilation "w" _ rfl).mpr (.compiled (p := ⟨[], [], []⟩) rfl (by cbv))
  refine ⟨hposted, hcompiled, hserve _ ?_⟩
  rintro before m r after hrs ⟨resource, htarget, haccepts⟩
  obtain - | ⟨first, - | ⟨second, before⟩⟩ := before
  · simp only [List.nil_append, List.cons.injEq, Prod.mk.injEq] at hrs
    obtain ⟨⟨rfl, rfl⟩, -⟩ := hrs
    obtain rfl := Option.some.inj (hpost.symm.trans htarget)
    rw [Server.serve, hposted] at haccepts
    cases haccepts
  · simp only [List.cons_append, List.nil_append, List.cons.injEq, Prod.mk.injEq] at hrs
    obtain ⟨-, ⟨-, rfl⟩, -⟩ := hrs
    obtain rfl := Option.some.inj (hcompile.symm.trans htarget)
    cases haccepts
  · simp at hrs

/-- A workflow that is not there is not what is answered if the id of the node is no text. -/
theorem answered_before_lookup :
    Resource.ofTarget? undecodablePatch.target = some (.node "missing" "%FF") ∧
    segmentText? "missing" = some "missing" ∧ Store.empty.contains "missing" = false ∧
    idle.answer ⟨noon, []⟩ .empty undecodablePatch =
      (.empty, .text 400 "Invalid URL: Invalid UTF-8 in `node_id`") ∧
    (idle.answer ⟨noon, []⟩ .empty undecodablePatch).2 ≠
      .failure 404 "Workflow not found: missing" := by
  decide +kernel

end Flowboard.Http
