import Flowboard.Workflow.Kind
import Flowboard.Workflow.Position

/-! Nodes of a workflow. -/
namespace Flowboard

/-- A node on the canvas. Its slots are anything that an editor puts there. -/
structure Node where
  id : String
  kind : Kind
  position : Position
  inputs : List Json
  outputs : List Json
  deriving DecidableEq

namespace Node

def defaultType : String := "default"

/-- The fields of a node as they have been read. -/
structure Draft where
  id : Option String
  type : Option String
  position : Option Position
  properties : Option (Option Json)
  inputs : Option (List Json)
  outputs : Option (List Json)

/-- Only the id has to be given. -/
def record : Record Draft Node where
  name := "NodeRecord"
  fields :=
    [.of "id" true Decoder.string (·.id) fun d v => { d with id := some v },
     .of "type" false Decoder.string (·.type) fun d v => { d with type := some v },
     .of "position" false Position.record.decoder (·.position)
      fun d v => { d with position := some v },
     .of "properties" false (Decoder.option Decoder.json) (·.properties)
      fun d v => { d with properties := some v },
     .of "inputs" false (Decoder.list Decoder.json) (·.inputs)
      fun d v => { d with inputs := some v },
     .of "outputs" false (Decoder.list Decoder.json) (·.outputs)
      fun d v => { d with outputs := some v }]
  strict := false
  empty := ⟨none, none, none, none, none, none⟩
  build d := do
    let id ← Record.require "id" d.id
    match Kind.ofParts (d.type.getD defaultType) (d.properties.getD none) with
    | .error fault => .error (.refused fault.message)
    | .ok kind =>
      .ok ⟨id, kind, d.position.getD .origin, d.inputs.getD [], d.outputs.getD []⟩

def json (n : Node) : Json :=
  .object
    [("id", .string n.id), ("type", .string n.kind.typeName), ("position", n.position.json),
     ("properties", .object n.kind.properties), ("inputs", .array n.inputs),
     ("outputs", .array n.outputs)]

end Node

end Flowboard
