import Flowboard.Json.Record

/-! What nodes do. -/
namespace Flowboard

/-- What a node does. Types that are not known keep their properties as they are. -/
inductive Kind where
  /-- gives a variable a value -/
  | assign (name value : String)
  /-- prints a variable, or the message itself if no variable has that name -/
  | print (message : String)
  | other (type : String) (properties : Table Json)
  deriving DecidableEq

namespace Kind

def defaultName : String := "myVariable"

def defaultValue : String := "hello world"

/-- The properties of an assignment as they have been read. -/
structure AssignDraft where
  name : Option String
  value : Option String

def assignRecord : Record AssignDraft Kind where
  name := "VariableProperties"
  fields :=
    [.of "name" false Decoder.string (·.name) fun d v => { d with name := some v },
     .of "value" false Decoder.string (·.value) fun d v => { d with value := some v }]
  strict := true
  empty := ⟨none, none⟩
  build d := .ok (.assign (d.name.getD defaultName) (d.value.getD defaultValue))

/-- The properties of a print node as they have been read. -/
structure PrintDraft where
  message : Option String

def printRecord : Record PrintDraft Kind where
  name := "PrintProperties"
  fields := [.of "message" false Decoder.string (·.message) fun d v => { d with message := some v }]
  strict := true
  empty := ⟨none⟩
  build d := .ok (.print (d.message.getD defaultName))

/-- The part of a decoder's result that counts when the place of a fault does not. -/
def faultOnly {α : Type} : Except DecodeError α → Except Fault α
  | .ok x => .ok x
  | .error e => .error e.fault

/-- The kind of a type with its properties; none, or `null`, stand for an empty object. -/
def ofParts (type : String) (properties : Option Json) : Except Fault Kind :=
  let properties : Json := match properties with
    | none | some .null => .object []
    | some v => v
  if type = "variable" then faultOnly (assignRecord.decoder .value properties.tree)
  else if type = "print" then faultOnly (printRecord.decoder .value properties.tree)
  else
    match properties with
    | .object members => .ok (.other type members)
    | _ => .error (.refused "node properties must be a JSON object")

/-- The kind of a type with the properties it has by default. -/
def withDefaults (type : String) : Kind :=
  if type = "variable" then .assign defaultName defaultValue
  else if type = "print" then .print defaultName
  else .other type []

def typeName : Kind → String
  | .assign _ _ => "variable"
  | .print _ => "print"
  | .other type _ => type

/-- All properties, also those that were not given. -/
def properties : Kind → Table Json
  | .assign name value => [("name", .string name), ("value", .string value)]
  | .print message => [("message", .string message)]
  | .other _ properties => properties

end Kind

end Flowboard
