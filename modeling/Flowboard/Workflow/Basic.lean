import Flowboard.Json.Record
import Flowboard.Time.Reader
import Flowboard.Time.Timestamp
import Flowboard.Workflow.Node

/-! Workflows: named graphs of nodes and connections between them. -/
namespace Flowboard

/-- A connection from an output slot of one node to an input slot of another one. The ends are ids,
and need not be those of nodes. -/
structure Connection where
  id : String
  sourceNode : String
  sourceOutput : String
  targetNode : String
  targetInput : String
  deriving DecidableEq

namespace Connection

/-- The fields of a connection as they have been read. -/
structure Draft where
  id : Option String
  sourceNode : Option String
  sourceOutput : Option String
  targetNode : Option String
  targetInput : Option String

def record : Record Draft Connection where
  name := "Connection"
  fields :=
    [.of "id" true Decoder.string (·.id) fun d v => { d with id := some v },
     .of "source_node" true Decoder.string (·.sourceNode)
      fun d v => { d with sourceNode := some v },
     .of "source_output" true Decoder.string (·.sourceOutput)
      fun d v => { d with sourceOutput := some v },
     .of "target_node" true Decoder.string (·.targetNode)
      fun d v => { d with targetNode := some v },
     .of "target_input" true Decoder.string (·.targetInput)
      fun d v => { d with targetInput := some v }]
  strict := false
  empty := ⟨none, none, none, none, none⟩
  build d := do
    let id ← Record.require "id" d.id
    let sourceNode ← Record.require "source_node" d.sourceNode
    let sourceOutput ← Record.require "source_output" d.sourceOutput
    let targetNode ← Record.require "target_node" d.targetNode
    let targetInput ← Record.require "target_input" d.targetInput
    .ok ⟨id, sourceNode, sourceOutput, targetNode, targetInput⟩

def json (c : Connection) : Json :=
  .object
    [("id", .string c.id), ("source_node", .string c.sourceNode),
     ("source_output", .string c.sourceOutput), ("target_node", .string c.targetNode),
     ("target_input", .string c.targetInput)]

end Connection

/-- The id made of a stem and a number. -/
def numberedId (stem : String) (n : Nat) : String :=
  stem ++ "_" ++ String.ofList (Nat.toDigits 10 n)

/-- The first of the ids numbered `n`, `n + 1`, … that is free, or the one after `fuel` of them. -/
def firstFreeId (stem : String) (taken : List String) : Nat → Nat → String
  | 0, n => numberedId stem n
  | fuel + 1, n =>
    if numberedId stem n ∈ taken then firstFreeId stem taken fuel (n + 1) else numberedId stem n

/-- The first free id, counting up from the number of ids that are taken. As many failures as there
are ids are the most there can be. -/
def freshId (stem : String) (taken : List String) : String :=
  firstFreeId stem taken taken.length (taken.length + 1)

/-- A point in time from its text. -/
def Decoder.timestamp : Decoder Timestamp := fun _ t =>
  match t with
  | .string (.ok s) =>
    match Timestamp.parse s with
    | .ok time => .ok time
    | .error fault => .error (.here (.refused fault.message))
  | t => .error (.here (mismatch "an RFC 3339 formatted date and time string" t))

/-- A workflow. Nodes stand in the order in which they were added. -/
structure Workflow where
  id : String
  name : String
  description : String
  nodes : List Node
  connections : List Connection
  createdAt : Timestamp
  updatedAt : Timestamp
  deriving DecidableEq

namespace Workflow

/-- A workflow without nodes. -/
def empty (id name : String) (now : Timestamp) : Workflow :=
  ⟨id, name, "", [], [], now, now⟩

/-- The first node with an id. -/
def node? (w : Workflow) (id : String) : Option Node :=
  w.nodes.find? (·.id == id)

def nextNodeId (w : Workflow) : String :=
  freshId "node" (w.nodes.map (·.id))

def nextConnectionId (w : Workflow) : String :=
  freshId "conn" (w.connections.map (·.id))

/-- The fields of a workflow as they have been read. -/
structure Draft where
  id : Option String
  name : Option String
  description : Option String
  nodes : Option (List Node)
  connections : Option (List Connection)
  createdAt : Option Timestamp
  updatedAt : Option Timestamp

def record : Record Draft Workflow where
  name := "Workflow"
  fields :=
    [.of "id" true Decoder.string (·.id) fun d v => { d with id := some v },
     .of "name" true Decoder.string (·.name) fun d v => { d with name := some v },
     .of "description" false Decoder.string (·.description)
      fun d v => { d with description := some v },
     .of "nodes" false (Decoder.list Node.record.decoder) (·.nodes)
      fun d v => { d with nodes := some v },
     .of "connections" false (Decoder.list Connection.record.decoder) (·.connections)
      fun d v => { d with connections := some v },
     .of "created_at" true Decoder.timestamp (·.createdAt)
      fun d v => { d with createdAt := some v },
     .of "updated_at" true Decoder.timestamp (·.updatedAt)
      fun d v => { d with updatedAt := some v }]
  strict := false
  empty := ⟨none, none, none, none, none, none, none⟩
  build d := do
    let id ← Record.require "id" d.id
    let name ← Record.require "name" d.name
    let createdAt ← Record.require "created_at" d.createdAt
    let updatedAt ← Record.require "updated_at" d.updatedAt
    .ok ⟨id, name, d.description.getD "", d.nodes.getD [], d.connections.getD [], createdAt,
      updatedAt⟩

def json (w : Workflow) : Json :=
  .object
    [("id", .string w.id), ("name", .string w.name), ("description", .string w.description),
     ("nodes", .array (w.nodes.map Node.json)),
     ("connections", .array (w.connections.map Connection.json)),
     ("created_at", .string w.createdAt.text), ("updated_at", .string w.updatedAt.text)]

end Workflow

end Flowboard
