import Flowboard.Http.Body
import Flowboard.Http.Route
import Flowboard.Program
import Flowboard.Runner
import Flowboard.Store.Operations

/-! The answers to requests on a store of workflows. -/
namespace Flowboard.Http

/-- How workflows are compiled and run, and on what machine. -/
structure Server where
  strategy : Strategy
  runner : Runner
  host : Host

/-- What goes into an answer besides the request: the time, and ids for new workflows. -/
structure Moment where
  now : Timestamp
  supply : List String

/-- Why a request fails. -/
inductive ApiError where
  | store (e : StoreError)
  | compile (e : CompileError)
  | body (e : BodyError)
  deriving DecidableEq

def ApiError.status : ApiError → Nat
  | store (.workflowNotFound _) => 404
  | store (.nodeNotFound _ _) => 404
  | store (.missingFields _) => 400
  | store (.invalidProperties _ _) => 400
  | compile _ => 422
  | body _ => 400

def ApiError.message : ApiError → String
  | store e => e.message
  | compile e => e.message
  | body e => "Invalid request body: " ++ e.message

def ApiError.response (e : ApiError) : Response :=
  .failure e.status e.message

/-- An answer that leaves the store as it is. -/
def looked (s : Store) (r : Except ApiError Response) : Store × Response :=
  match r with
  | .ok response => (s, response)
  | .error e => (s, e.response)

/-- An answer to a request that changes a workflow. The workflow is looked for first, then the body
is read, and then the change is made. -/
def changed {α β : Type} (s : Store) (id : String) (body : Except BodyError α)
    (change : α → Except StoreError (Store × β)) (status : Nat) (json : β → Json) :
    Store × Response :=
  match s.get id with
  | .error e => (s, (ApiError.store e).response)
  | .ok _ =>
    match body with
    | .error e => (s, (ApiError.body e).response)
    | .ok x =>
      match change x with
      | .error e => (s, (ApiError.store e).response)
      | .ok (s, y) => (s, .json status (json y))

/-- The program of a stored workflow. -/
def Server.program (server : Server) (s : Store) (id : String) : Except ApiError Program :=
  match s.get id with
  | .error e => .error (.store e)
  | .ok w =>
    match w.compile server.strategy with
    | .error e => .error (.compile e)
    | .ok p => .ok p

def health (m : Moment) : Response :=
  .json 200 (.object [("status", .string "healthy"), ("timestamp", .string m.now.offsetText)])

def listWorkflows (s : Store) : Response :=
  .json 200 (.array (s.list.map Workflow.json))

def createWorkflow (m : Moment) (s : Store) (r : Request) : Store × Response :=
  match r.read NewWorkflow.record.decoder with
  | .error e => (s, (ApiError.body e).response)
  | .ok new =>
    match s.create? m.now m.supply new with
    | some (s, w) => (s, .json 201 w.json)
    | none => (s, .failure 500 "no id is left")

def getWorkflow (s : Store) (id : String) : Store × Response :=
  looked s <| match s.get id with
    | .ok w => .ok (.json 200 w.json)
    | .error e => .error (.store e)

/-- Tells that a workflow is there; it is not run. -/
def acknowledge (s : Store) (id : String) : Store × Response :=
  looked s <| match s.get id with
    | .ok w => .ok (.json 200 (.object
        [("status", .string "executed"), ("workflow_id", .string w.id),
         ("result", .string "Workflow execution not yet implemented")]))
    | .error e => .error (.store e)

def compileWorkflow (server : Server) (s : Store) (id : String) : Store × Response :=
  looked s ((server.program s id).map fun p => .json 200 p.json)

def runWorkflow (server : Server) (s : Store) (id : String) : Store × Response :=
  looked s ((server.program s id).map fun p =>
    .json 200 (server.runner.run server.host p.source).json)

/-- The answer to a request for a resource, with a method that the resource answers. -/
def Server.perform (server : Server) (m : Moment) (s : Store) (r : Request) :
    Resource → Store × Response
  | .health => (s, health m)
  | .workflows => if r.method = .post then createWorkflow m s r else (s, listWorkflows s)
  | .workflow id =>
    if r.method = .put then
      changed s id (r.read WorkflowPatch.record.decoder) (s.update m.now id) 200 Workflow.json
    else getWorkflow s id
  | .nodes id =>
    changed s id (r.read NodeSpec.record.decoder) (s.appendNode m.now id) 201 Node.json
  | .node id n =>
    changed s id (r.read NodePatch.record.decoder) (s.updateNode m.now id n) 200 Node.json
  | .connections id =>
    changed s id (r.read ConnectionSpec.record.decoder) (s.appendConnection m.now id) 201
      Connection.json
  | .compilation id => compileWorkflow server s id
  | .execution id => runWorkflow server s id
  | .acknowledgement id => acknowledge s id

/-- The answer to a request for a resource whose ids stand as they do in the path, with a method
that the resource answers. -/
def Server.fulfil (server : Server) (m : Moment) (s : Store) (r : Request) (resource : Resource) :
    Store × Response :=
  match resource.decoded with
  | .error name => (s, .text 400 ("Invalid URL: Invalid UTF-8 in `" ++ name ++ "`"))
  | .ok resource => server.perform m s r resource

/-- The answer to a request. Requests for the headers alone are answered like those for the whole,
without the content. -/
def Server.answer (server : Server) (m : Moment) (s : Store) (r : Request) : Store × Response :=
  let resource := Resource.ofTarget? r.target
  if r.method = .options then (s, .permission (resource.map Resource.allow))
  else
    match resource with
    | none => (s, .notFound)
    | some resource =>
      if r.method ∉ resource.methods then (s, .methodNotAllowed resource.allow)
      else
        let (s, response) := server.fulfil m s r resource
        (s, { response with bodiless := r.method = .head })

end Flowboard.Http
