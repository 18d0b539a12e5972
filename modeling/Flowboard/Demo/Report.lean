import Flowboard.Demo.Arguments
import Flowboard.Program
import Flowboard.Runner
import Flowboard.Text.Blank
import Flowboard.Workflow.Document

/-! The demonstration: a workflow is compiled and run, and everything about it is printed. -/
namespace Flowboard.Demo

/-- What the demonstration leaves behind. -/
structure Report where
  exit : Nat
  output : String
  errors : String
  /-- the path and the text of the document that is written -/
  saved : Option (String × String)
  deriving DecidableEq, Repr

/-- A variable above a node that prints it. -/
def greeting (now : Timestamp) (variableId printId : String) : Workflow :=
  let place (x y : Nat) : Position := ⟨.ofDouble (.ofNat x), .ofDouble (.ofNat y)⟩
  { Workflow.empty "demo-workflow" "Demo Workflow" now with
    nodes :=
      [⟨variableId, .assign "greeting" "Hello, AgentBlocks!", place 100 100, [], []⟩,
       ⟨printId, .print "greeting", place 100 200, [], []⟩] }

/-- A text whose lines after the first one are moved in by four blanks. -/
def indented (s : String) : String :=
  s.replace "\n" "\n    "

/-- The message about a workflow that is not loaded or saved. -/
def failureText (f : Workflow.FileFailure) : String :=
  "Error: " ++ f.summary ++ "\n\nCaused by:\n    " ++ indented f.cause ++ "\n"

def heading (w : Workflow) : String :=
  "Workflow: " ++ w.name ++ " (" ++ String.ofList (Nat.toDigits 10 w.nodes.length) ++ " nodes)\n"

def rule : String :=
  String.ofList (List.replicate 40 '=') ++ "\n"

def programText (p : Program) : String :=
  "Generated Python Code:\n" ++ rule ++ p.source ++ rule

/-- The outcome of the run; blanks around the output do not count. -/
def outcomeText (o : Outcome) : String :=
  "Success: " ++ (if o.success then "true" else "false") ++ "\n" ++
    if o.success then "Output: " ++ String.ofList (Text.trim o.output.toList) ++ "\n"
    else "Error: " ++ o.error.getD "" ++ "\n"

def documentText (w : Workflow) : String :=
  "Workflow JSON:\n" ++ w.document ++ "\n"

/-- Compiles, runs and saves a workflow. -/
def present (host : Host) (files : Files) (a : Arguments) (w : Workflow) : Report :=
  match w.compile a.ordering with
  | .error e => ⟨1, heading w, "Error: " ++ e.message ++ "\n", none⟩
  | .ok p =>
    let outcome := Runner.run ⟨a.interpreter, .ofSeconds a.timeoutSecs⟩ host p.source
    let output := heading w ++ programText p ++ outcomeText outcome ++ documentText w
    match a.save with
    | none => ⟨0, output, "", none⟩
    | some path =>
      match Workflow.saveFailure? files path with
      | some f => ⟨1, output, failureText f, none⟩
      | none =>
        match files.outlet? path with
        | some .output => ⟨0, output ++ w.document, "", none⟩
        | some .errors => ⟨0, output, w.document, none⟩
        | none => ⟨0, output, "", some (path, w.document)⟩

/-- The whole demonstration, with the time and two ids for the workflow that is built in. -/
def report (host : Host) (files : Files) (now : Timestamp) (variableId printId : String)
    (args : List String) : Report :=
  match Request.parse args with
  | .error e => ⟨2, "", e.message ++ "\n", none⟩
  | .ok .help => ⟨0, helpText, "", none⟩
  | .ok (.present a) =>
    match a.workflow with
    | none => present host files a (greeting now variableId printId)
    | some path =>
      match Workflow.load files path with
      | .error f => ⟨1, "", failureText f, none⟩
      | .ok w => present host files a w

end Flowboard.Demo
