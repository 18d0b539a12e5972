import Flowboard.Http.Server
import Flowboard.Proofs.Document
import Flowboard.Proofs.Stored

/-! What has been stored over HTTP and is exported: which workflows load from their own documents. -/
namespace Flowboard.Http

open Shared (Command Reached)

variable {α β : Type} {server : Server} {m : Moment} {s t : Store} {r : Request} {id : String}
  {rs : List (Moment × Request)} {w : Workflow}

theorem exists_tree_of_read {d : Decoder α} {x : α} (h : r.read d = .ok x) :
    ∃ t, d .document t = .ok x := by
  unfold Request.read at h
  split at h
  · simp at h
  split at h
  · simp at h
  split at h
  · rename_i hread
    obtain rfl := Except.ok.inj h
    obtain ⟨t, -, -, -, ht⟩ := Decoder.exists_tree_of_ofSymbols hread
    exact ⟨t, ht⟩
  · simp at h

/-- The store is as before, or one command has been carried out on it which was read from a text. -/
def Performed (m : Moment) (s t : Store) : Prop :=
  t = s ∨ ∃ c a, Command.ReadIn .document c ∧ c.perform ⟨m.now, m.supply⟩ s = some (t, a)

/-- A request that changes a workflow carries out its command, or nothing. -/
theorem performed_changed (command : α → Command) {d : Decoder α} {answer : β → Shared.Answer}
    {change : α → Except StoreError (Store × β)}
    (hread : ∀ x t, d .document t = .ok x → (command x).ReadIn .document)
    (hperform : ∀ x, (command x).perform ⟨m.now, m.supply⟩ s =
      some (Shared.settle s answer (change x))) (status : Nat) (json : β → Json) :
    Performed m s (changed s id (r.read d) change status json).1 := by
  unfold changed
  split
  · exact Or.inl rfl
  split
  · exact Or.inl rfl
  rename_i x hx
  split
  · exact Or.inl rfl
  · rename_i t y hy
    obtain ⟨tree, htree⟩ := exists_tree_of_read hx
    refine Or.inr ⟨command x, answer y, hread x tree htree, ?_⟩
    rw [hperform, hy, Shared.settle]

theorem looked_store (s : Store) (x : Except ApiError Response) : (looked s x).1 = s := by
  cases x <;> rfl

/-- A request for a new workflow carries out its command, or nothing. -/
theorem performed_createWorkflow (m : Moment) (s : Store) (r : Request) :
    Performed m s (createWorkflow m s r).1 := by
  unfold createWorkflow
  split
  · exact Or.inl rfl
  · rename_i new hread
    split
    · rename_i t w hcreate
      refine Or.inr ⟨.create new, .workflow w, exists_tree_of_read hread, ?_⟩
      simp [Command.perform, hcreate]
    · exact Or.inl rfl

theorem performed_perform (server : Server) (m : Moment) (s : Store) (r : Request)
    (resource : Resource) : Performed m s (server.perform m s r resource).1 := by
  cases resource with
  | health => exact Or.inl rfl
  | workflows =>
    simp only [Server.perform]
    split_ifs
    · exact performed_createWorkflow m s r
    · exact Or.inl rfl
  | workflow id =>
    simp only [Server.perform]
    split_ifs
    · exact performed_changed (.update id) (fun _ t h => ⟨t, h⟩) (fun _ => rfl) _ _
    · exact Or.inl (looked_store s _)
  | nodes id =>
    exact performed_changed (.appendNode id) (fun _ t h => ⟨t, h⟩) (fun _ => rfl) _ _
  | node id node =>
    exact performed_changed (.updateNode id node) (fun _ t h => ⟨t, h⟩) (fun _ => rfl) _ _
  | connections id =>
    exact performed_changed (.appendConnection id) (fun _ t h => ⟨t, h⟩) (fun _ => rfl) _ _
  | compilation id => exact Or.inl (looked_store s _)
  | execution id => exact Or.inl (looked_store s _)
  | acknowledgement id => exact Or.inl (looked_store s _)

/-- A request does at most one thing to the store. -/
theorem performed_answer (server : Server) (m : Moment) (s : Store) (r : Request) :
    Performed m s (server.answer m s r).1 := by
  unfold Server.answer
  simp only
  split
  · exact Or.inl rfl
  split
  · exact Or.inl rfl
  split
  · exact Or.inl rfl
  · unfold Server.fulfil
    split
    · exact Or.inl rfl
    · exact performed_perform server m s r _

/-- The store after requests have been answered one after the other. -/
def Server.serve (server : Server) : Store → List (Moment × Request) → Store
  | s, [] => s
  | s, (m, r) :: rest => server.serve (server.answer m s r).1 rest

/-- What requests make of a store could have been made by commands that were read from texts. -/
theorem reached_serve (h : Reached .document s) : Reached .document (server.serve s rs) := by
  induction rs generalizing s with
  | nil => exact h
  | cons x rs ih =>
    obtain ⟨m, r⟩ := x
    refine ih ?_
    obtain hsame | ⟨c, a, hread, hperform⟩ := performed_answer server m s r
    · rwa [hsame]
    · exact .perform h hread hperform

/-- Two levels more than a document may have: a node is stored with what a text about the node alone
holds, and stands two levels deeper in its workflow. -/
theorem nesting_of_reached (h : Reached .document s) (hw : w ∈ s.list) : w.json.nesting ≤ 129 := by
  have hnodes := ((h.fits (by decide)).of_mem_list hw).2
  have hdepth : (Context.text 129).Holds w.json.nesting := by
    rw [Workflow.nesting_json, Context.holds_max_add]
    refine ⟨Json.holds_nesting_array.mpr ⟨by decide, ?_⟩, Connection.holds_nesting (by decide) _⟩
    intro v hv
    obtain ⟨n, hn, rfl⟩ := List.mem_map.mp hv
    have hn : n.json.nesting ≤ 127 := (Node.readIn_iff.mp (hnodes n hn)).2
    exact Nat.add_le_add_right hn 2
  exact hdepth

open Workflow (ofDocument)

/-- A workflow in a store loads from its document exactly if it is not nested too deep. -/
theorem ofDocument_of_reached (h : Reached .document s) (hw : w ∈ s.list)
    (hd : ∀ d ∈ w.json.doubles, d.ReadsBack) :
    ofDocument w.json.render =
        (if w.json.nesting ≤ 127 then .ok w else .error (.text .nestingTooDeep)) ∧
      ofDocument w.document =
        (if w.json.nesting ≤ 127 then .ok w else .error (.text .nestingTooDeep)) := by
  have hnodes := ((h.fits (by decide)).of_mem_list hw).2
  have hform : ∀ n ∈ w.nodes, n.ReadIn .value := fun n hn => (Node.readIn_iff.mp (hnodes n hn)).1
  exact ⟨Workflow.ofDocument_of_tree hform (Decoder.ofText_render _ hd),
    Workflow.ofDocument_of_tree hform (Decoder.ofText_renderPretty _ hd)⟩

/-- A workflow that was stored over HTTP loads from what is exported of it, in one line or in many,
exactly if it is not nested deeper than a document may be, which is two levels less than it can be. -/
theorem ofDocument_exported (server : Server) (rs : List (Moment × Request)) (w : Workflow)
    (hw : w ∈ (server.serve .empty rs).list) (hd : ∀ d ∈ w.json.doubles, d.ReadsBack) :
    getWorkflow (server.serve .empty rs) w.id = (server.serve .empty rs, .json 200 w.json) ∧
    w.json.nesting ≤ 129 ∧
    ofDocument w.json.render =
      (if w.json.nesting ≤ 127 then .ok w else .error (.text .nestingTooDeep)) ∧
    ofDocument w.document =
      (if w.json.nesting ≤ 127 then .ok w else .error (.text .nestingTooDeep)) := by
  have hreached : Reached .document (server.serve .empty rs) := reached_serve .empty
  have hget := ((hreached.fits (by decide)).of_mem_list hw).1
  exact ⟨by simp [getWorkflow, hget, looked], nesting_of_reached hreached hw,
    ofDocument_of_reached hreached hw hd⟩

/-- Lists in lists. -/
def nested : Nat → Json
  | 0 => .array []
  | depth + 1 => .array [nested depth]

def noon : Timestamp :=
  ⟨⟨2024, 2, 29, Date.valid_leapDay⟩, 43200, 0, Timestamp.clockValid_noon⟩

def post (target : String) (v : Json) : Moment × Request :=
  (⟨noon, []⟩, ⟨.post, target, [("content-type", "application/json")], Text.encode v.render⟩)

/-- A workflow is created, and a node with nested properties is appended. -/
def nestedRequests (depth : Nat) : List (Moment × Request) :=
  [post "/api/workflows" (.object [("id", .string "w")]),
   post "/api/workflows/w/nodes"
    (.object [("id", .string "n"), ("properties", .object [("a", nested depth)])])]

/-- What is stored then. -/
def nestedWorkflow (depth : Nat) : Workflow :=
  { Workflow.empty "w" "Untitled Workflow" noon with
    nodes := [⟨"n", .other "default" [("a", nested depth)], .origin, [], []⟩] }

def idle : Server :=
  ⟨.spatial, ⟨"python3", .ofSeconds 30⟩, ⟨fun _ _ => .error .notFound⟩⟩

theorem serve_nested_within :
    idle.serve .empty (nestedRequests 122) = ⟨[("w", nestedWorkflow 122)]⟩ := by decide +kernel

/-- As deep as a document may be. -/
theorem ofDocument_exported_within :
    nestedWorkflow 122 ∈ (idle.serve .empty (nestedRequests 122)).list ∧
    (∀ d ∈ (nestedWorkflow 122).json.doubles, d.ReadsBack) ∧
    (nestedWorkflow 122).json.nesting = 127 ∧
    ofDocument (nestedWorkflow 122).json.render = .ok (nestedWorkflow 122) ∧
    ofDocument (nestedWorkflow 122).document = .ok (nestedWorkflow 122) := by
  have hmem : nestedWorkflow 122 ∈ (idle.serve .empty (nestedRequests 122)).list := by
    simp [serve_nested_within, Store.list]
  have hdoubles : ∀ d ∈ (nestedWorkflow 122).json.doubles, d.ReadsBack := by decide +kernel
  have hdepth : (nestedWorkflow 122).json.nesting = 127 := by decide +kernel
  obtain ⟨-, -, hrender, hdocument⟩ :=
    ofDocument_exported idle (nestedRequests 122) _ hmem hdoubles
  rw [hdepth] at hrender hdocument
  exact ⟨hmem, hdoubles, hdepth, hrender, hdocument⟩

theorem serve_nested_beyond :
    idle.serve .empty (nestedRequests 124) = ⟨[("w", nestedWorkflow 124)]⟩ := by decide +kernel

/-- A body that is as deep as it may be leads to a workflow that does not load. -/
theorem ofDocument_nested_beyond :
    nestedWorkflow 124 ∈ (idle.serve .empty (nestedRequests 124)).list ∧
    (∀ d ∈ (nestedWorkflow 124).json.doubles, d.ReadsBack) ∧
    (nestedWorkflow 124).json.nesting = 129 ∧
    ofDocument (nestedWorkflow 124).json.render = .error (.text .nestingTooDeep) ∧
    ofDocument (nestedWorkflow 124).document = .error (.text .nestingTooDeep) := by
  have hmem : nestedWorkflow 124 ∈ (idle.serve .empty (nestedRequests 124)).list := by
    simp [serve_nested_beyond, Store.list]
  have hdoubles : ∀ d ∈ (nestedWorkflow 124).json.doubles, d.ReadsBack := by decide +kernel
  have hdepth : (nestedWorkflow 124).json.nesting = 129 := by decide +kernel
  have hreached : Reached .document (idle.serve .empty (nestedRequests 124)) := reached_serve .empty
  obtain ⟨hrender, hdocument⟩ := ofDocument_of_reached hreached hmem hdoubles
  rw [hdepth] at hrender hdocument
  exact ⟨hmem, hdoubles, hdepth, hrender, hdocument⟩

end Flowboard.Http
