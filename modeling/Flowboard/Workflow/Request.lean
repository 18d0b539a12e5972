import Flowboard.Workflow.Basic

/-! What a client asks for: new workflows, nodes and connections, and changes of what there is. -/
namespace Flowboard

/-- A field that may be left out or be `null`. -/
def Field.optional {σ α : Type} (name : String) (d : Decoder α) (get : σ → Option (Option α))
    (set : σ → Option α → σ) : Field σ :=
  .of name true (Decoder.option d) get set

/-- A workflow to create. -/
structure NewWorkflow where
  id : Option String := none
  name : Option String := none
  description : Option String := none
  deriving DecidableEq

namespace NewWorkflow

structure Draft where
  id : Option (Option String)
  name : Option (Option String)
  description : Option (Option String)

def record : Record Draft NewWorkflow where
  name := "CreateWorkflowRequest"
  fields :=
    [.optional "id" Decoder.string (·.id) fun d v => { d with id := some v },
     .optional "name" Decoder.string (·.name) fun d v => { d with name := some v },
     .optional "description" Decoder.string (·.description)
      fun d v => { d with description := some v }]
  strict := false
  empty := ⟨none, none, none⟩
  build d := .ok ⟨d.id.getD none, d.name.getD none, d.description.getD none⟩

end NewWorkflow

/-- New values for fields of a workflow; what is not given stays. -/
structure WorkflowPatch where
  name : Option String := none
  description : Option String := none
  nodes : Option (List Node) := none
  connections : Option (List Connection) := none
  deriving DecidableEq

namespace WorkflowPatch

structure Draft where
  name : Option (Option String)
  description : Option (Option String)
  nodes : Option (Option (List Node))
  connections : Option (Option (List Connection))

def record : Record Draft WorkflowPatch where
  name := "WorkflowPatch"
  fields :=
    [.optional "name" Decoder.string (·.name) fun d v => { d with name := some v },
     .optional "description" Decoder.string (·.description)
      fun d v => { d with description := some v },
     .optional "nodes" (Decoder.list Node.record.decoder) (·.nodes)
      fun d v => { d with nodes := some v },
     .optional "connections" (Decoder.list Connection.record.decoder) (·.connections)
      fun d v => { d with connections := some v }]
  strict := false
  empty := ⟨none, none, none, none⟩
  build d := .ok ⟨d.name.getD none, d.description.getD none, d.nodes.getD none,
    d.connections.getD none⟩

end WorkflowPatch

/-- A node to append. -/
structure NodeSpec where
  id : Option String := none
  type : Option String := none
  position : Option Position := none
  properties : Option Json := none
  inputs : List Json := []
  outputs : List Json := []
  deriving DecidableEq

namespace NodeSpec

structure Draft where
  id : Option (Option String)
  type : Option (Option String)
  position : Option (Option Position)
  properties : Option (Option Json)
  inputs : Option (List Json)
  outputs : Option (List Json)

def record : Record Draft NodeSpec where
  name := "NodeSpec"
  fields :=
    [.optional "id" Decoder.string (·.id) fun d v => { d with id := some v },
     .optional "type" Decoder.string (·.type) fun d v => { d with type := some v },
     .optional "position" Position.record.decoder (·.position)
      fun d v => { d with position := some v },
     .optional "properties" Decoder.json (·.properties) fun d v => { d with properties := some v },
     .of "inputs" false (Decoder.list Decoder.json) (·.inputs)
      fun d v => { d with inputs := some v },
     .of "outputs" false (Decoder.list Decoder.json) (·.outputs)
      fun d v => { d with outputs := some v }]
  strict := false
  empty := ⟨none, none, none, none, none, none⟩
  build d := .ok ⟨d.id.getD none, d.type.getD none, d.position.getD none, d.properties.getD none,
    d.inputs.getD [], d.outputs.getD []⟩

end NodeSpec

/-- A new position or new properties for a node. -/
structure NodePatch where
  position : Option Position := none
  properties : Option Json := none
  deriving DecidableEq

namespace NodePatch

structure Draft where
  position : Option (Option Position)
  properties : Option (Option Json)

def record : Record Draft NodePatch where
  name := "NodePatch"
  fields :=
    [.optional "position" Position.record.decoder (·.position)
      fun d v => { d with position := some v },
     .optional "properties" Decoder.json (·.properties) fun d v => { d with properties := some v }]
  strict := false
  empty := ⟨none, none⟩
  build d := .ok ⟨d.position.getD none, d.properties.getD none⟩

end NodePatch

/-- A connection to append. Its ends have to be given, which the store checks. -/
structure ConnectionSpec where
  id : Option String := none
  sourceNode : Option String := none
  sourceOutput : Option String := none
  targetNode : Option String := none
  targetInput : Option String := none
  deriving DecidableEq

namespace ConnectionSpec

structure Draft where
  id : Option (Option String)
  sourceNode : Option (Option String)
  sourceOutput : Option (Option String)
  targetNode : Option (Option String)
  targetInput : Option (Option String)

def record : Record Draft ConnectionSpec where
  name := "ConnectionSpec"
  fields :=
    [.optional "id" Decoder.string (·.id) fun d v => { d with id := some v },
     .optional "source_node" Decoder.string (·.sourceNode)
      fun d v => { d with sourceNode := some v },
     .optional "source_output" Decoder.string (·.sourceOutput)
      fun d v => { d with sourceOutput := some v },
     .optional "target_node" Decoder.string (·.targetNode)
      fun d v => { d with targetNode := some v },
     .optional "target_input" Decoder.string (·.targetInput)
      fun d v => { d with targetInput := some v }]
  strict := false
  empty := ⟨none, none, none, none, none⟩
  build d := .ok ⟨d.id.getD none, d.sourceNode.getD none, d.sourceOutput.getD none,
    d.targetNode.getD none, d.targetInput.getD none⟩

end ConnectionSpec

end Flowboard
