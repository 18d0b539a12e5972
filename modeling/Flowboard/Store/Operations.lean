import Flowboard.Table
import Flowboard.Workflow.Basic
import Flowboard.Workflow.Request

/-! The store of workflows: what it holds, and what clients do with it. Each operation gives the
next store and its answer, or an error, and then the store stays as it is. -/
namespace Flowboard

/-- All workflows, by their ids. -/
structure Store where
  workflows : Table Workflow
  deriving DecidableEq

/-- Why a store does not do what it is asked for. -/
inductive StoreError where
  | workflowNotFound (id : String)
  | nodeNotFound (workflow node : String)
  | missingFields (names : List String)
  | invalidProperties (type : String) (fault : Fault)
  deriving DecidableEq

def StoreError.message : StoreError → String
  | workflowNotFound id => "Workflow not found: " ++ id
  | nodeNotFound workflow node => "Node '" ++ node ++ "' not found in workflow '" ++ workflow ++ "'"
  | missingFields names => "Missing required fields: " ++ ", ".intercalate names
  | invalidProperties type fault =>
    "Invalid properties for '" ++ type ++ "' node: " ++ fault.message

namespace Store

def empty : Store :=
  ⟨[]⟩

instance : Inhabited Store := ⟨empty⟩

def size (s : Store) : Nat :=
  s.workflows.length

def isEmpty (s : Store) : Bool :=
  s.workflows.isEmpty

def contains (s : Store) (id : String) : Bool :=
  s.workflows.contains id

def get (s : Store) (id : String) : Except StoreError Workflow :=
  match s.workflows.get? id with
  | some w => .ok w
  | none => .error (.workflowNotFound id)

/-- Puts a workflow under an id, in place of an earlier one. -/
def put (s : Store) (id : String) (w : Workflow) : Store :=
  ⟨s.workflows.insert id w⟩

/-- Whether a workflow is listed before another one, or in the same place. -/
def listedBefore (a b : Workflow) : Bool :=
  a.createdAt.before b.createdAt || (a.createdAt == b.createdAt && (a.id < b.id || a.id == b.id))

/-- All workflows, the oldest first; of the same age, by their ids. -/
def list (s : Store) : List Workflow :=
  (s.workflows.map (·.2)).mergeSort listedBefore

/-- Changes a copy of one workflow and puts it back with the time of the change. If there is no
such workflow or the change fails, the store stays as it is. -/
def modify {α : Type} (s : Store) (id : String) (now : Timestamp)
    (change : Workflow → Except StoreError (Workflow × α)) : Except StoreError (Store × α) :=
  match s.get id with
  | .error e => .error e
  | .ok w =>
    match change { w with updatedAt := now } with
    | .error e => .error e
    | .ok (w, x) => .ok (s.put id w, x)

@[simp] theorem get_put_self (s : Store) (id : String) (w : Workflow) :
    (s.put id w).get id = .ok w := by
  simp [get, put, Table.get?_insert_self]

theorem get_put_of_ne (s : Store) {id other : String} (w : Workflow) (h : other ≠ id) :
    (s.put id w).get other = s.get other := by
  simp [get, put, Table.get?_insert_of_ne _ _ h]

def untitled : String := "Untitled Workflow"

/-- The first id of a supply under which nothing is stored. -/
def unusedId? (s : Store) (supply : List String) : Option String :=
  supply.find? fun id => !s.contains id

/-- The workflow that a request describes, under an id. -/
def newWorkflow (r : NewWorkflow) (id : String) (now : Timestamp) : Workflow :=
  { Workflow.empty id (r.name.getD untitled) now with description := r.description.getD "" }

/-- Creates a workflow under the id of the request, also in place of an earlier one, or else under
the first unused id of the supply. There is no answer only when the supply runs out. -/
def create? (s : Store) (now : Timestamp) (supply : List String) (r : NewWorkflow) :
    Option (Store × Workflow) :=
  match r.id.or (s.unusedId? supply) with
  | none => none
  | some id => let w := newWorkflow r id now; some (s.put id w, w)

/-- A workflow with the fields that a patch gives. -/
def applyPatch (p : WorkflowPatch) (w : Workflow) : Workflow :=
  { w with
    name := p.name.getD w.name
    description := p.description.getD w.description
    nodes := p.nodes.getD w.nodes
    connections := p.connections.getD w.connections }

/-- Replaces the fields of a workflow that the patch gives. -/
def update (s : Store) (now : Timestamp) (id : String) (p : WorkflowPatch) :
    Except StoreError (Store × Workflow) :=
  s.modify id now fun w => let w := applyPatch p w; .ok (w, w)

/-- The kind of a type with its properties, or the reason why they do not fit. -/
def kindOf (type : String) (properties : Option Json) : Except StoreError Kind :=
  match Kind.ofParts type properties with
  | .ok kind => .ok kind
  | .error fault => .error (.invalidProperties type fault)

/-- A workflow with a node more, which has a fresh id if none is given, and the node. -/
def addNode (kind : Kind) (spec : NodeSpec) (w : Workflow) : Workflow × Node :=
  let n : Node :=
    ⟨spec.id.getD w.nextNodeId, kind, spec.position.getD .origin, spec.inputs, spec.outputs⟩
  ({ w with nodes := w.nodes ++ [n] }, n)

/-- Appends a node. Its properties are looked at before the workflow. -/
def appendNode (s : Store) (now : Timestamp) (id : String) (spec : NodeSpec) :
    Except StoreError (Store × Node) :=
  match kindOf (spec.type.getD Node.defaultType) spec.properties with
  | .error e => .error e
  | .ok kind => s.modify id now fun w => .ok (addNode kind spec w)

/-- Edits the first node with an id. -/
def editFirst (id : String) (edit : Node → Except StoreError Node) (missing : StoreError) :
    List Node → Except StoreError (List Node × Node)
  | [] => .error missing
  | n :: rest =>
    if n.id = id then
      match edit n with
      | .error e => .error e
      | .ok m => .ok (m :: rest, m)
    else
      match editFirst id edit missing rest with
      | .error e => .error e
      | .ok (nodes, m) => .ok (n :: nodes, m)

/-- A node with the position and the properties that a patch gives. It keeps its type, and
properties that are not given go back to their defaults. -/
def patchNode (p : NodePatch) (n : Node) : Except StoreError Node :=
  let n := { n with position := p.position.getD n.position }
  match p.properties with
  | none => .ok n
  | some properties =>
    match kindOf n.kind.typeName (some properties) with
    | .error e => .error e
    | .ok kind => .ok { n with kind }

/-- The workflow `id` with a patch of the first node with an id, and that node. -/
def editNode (id node : String) (p : NodePatch) (w : Workflow) :
    Except StoreError (Workflow × Node) :=
  match editFirst node (patchNode p) (.nodeNotFound id node) w.nodes with
  | .error e => .error e
  | .ok (nodes, n) => .ok ({ w with nodes }, n)

/-- Moves the first node with an id, or replaces its properties. -/
def updateNode (s : Store) (now : Timestamp) (id node : String) (p : NodePatch) :
    Except StoreError (Store × Node) :=
  s.modify id now (editNode id node p)

/-- The names of the ends that a connection lacks. -/
def missingEnds (spec : ConnectionSpec) : List String :=
  [("source_node", spec.sourceNode), ("source_output", spec.sourceOutput),
   ("target_node", spec.targetNode), ("target_input", spec.targetInput)].filterMap
    fun (name, value) => if value.isNone then some name else none

/-- The ends of a connection, or the names of those that it lacks. -/
def endsOf (spec : ConnectionSpec) : Except StoreError (String × String × String × String) :=
  match spec.sourceNode, spec.sourceOutput, spec.targetNode, spec.targetInput with
  | some sourceNode, some sourceOutput, some targetNode, some targetInput =>
    .ok (sourceNode, sourceOutput, targetNode, targetInput)
  | _, _, _, _ => .error (.missingFields (missingEnds spec))

/-- A workflow with a connection more, which has a fresh id if none is given, and the connection. -/
def addConnection (id : Option String) (ends : String × String × String × String) (w : Workflow) :
    Workflow × Connection :=
  let (sourceNode, sourceOutput, targetNode, targetInput) := ends
  let c : Connection :=
    ⟨id.getD w.nextConnectionId, sourceNode, sourceOutput, targetNode, targetInput⟩
  ({ w with connections := w.connections ++ [c] }, c)

/-- Appends a connection. Whether its ends are given is looked at before the workflow. -/
def appendConnection (s : Store) (now : Timestamp) (id : String) (spec : ConnectionSpec) :
    Except StoreError (Store × Connection) :=
  match endsOf spec with
  | .error e => .error e
  | .ok ends => s.modify id now fun w => .ok (addConnection spec.id ends w)

end Store

end Flowboard
