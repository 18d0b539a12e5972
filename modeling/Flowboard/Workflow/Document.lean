import Flowboard.Files.System
import Flowboard.Json.Text
import Flowboard.Text.Symbol
import Flowboard.Workflow.Basic

/-! Workflows as documents, and in files. -/
namespace Flowboard.Workflow

/-- The document of a workflow. -/
def document (w : Workflow) : String :=
  w.json.renderPretty

/-- The workflow of a document. -/
def ofDocument (text : String) : Except Fault Workflow :=
  match record.decoder.ofText text with
  | .ok w => .ok w
  | .error e => .error e.fault

/-- Whether the document of a workflow reads back as the workflow. -/
def readsBack (w : Workflow) : Bool :=
  match ofDocument w.document with
  | .ok v => v = w
  | .error _ => false

/-- Why a workflow is not loaded or saved. -/
inductive FileFailure where
  | reading (path : String) (e : FileError)
  | parsing (e : Fault)
  | writing (path : String) (e : FileError)
  deriving DecidableEq

/-- What could not be done. -/
def FileFailure.summary : FileFailure → String
  | reading path _ => "Failed to read workflow file " ++ path
  | parsing _ => "Failed to parse workflow"
  | writing path _ => "Failed to write workflow file " ++ path

/-- What was in the way. -/
def FileFailure.cause : FileFailure → String
  | reading _ e => e.message
  | parsing e => e.message
  | writing _ e => e.message

def FileFailure.message (f : FileFailure) : String :=
  f.summary ++ ": " ++ f.cause

/-- The workflow of a document. -/
def parse (text : String) : Except FileFailure Workflow :=
  match ofDocument text with
  | .ok w => .ok w
  | .error e => .error (.parsing e)

/-- The workflow of the document under a path. -/
def load (files : Files) (path : String) : Except FileFailure Workflow :=
  match files.read path with
  | .error e => .error (.reading path e)
  | .ok bytes =>
    match Text.decode? bytes with
    | none => .error (.reading path .notText)
    | some text => parse text

/-- Why a workflow cannot be saved under a path. -/
def saveFailure? (files : Files) (path : String) : Option FileFailure :=
  (files.refusal? path).map (.writing path)

/-- The files with the document of a workflow under a path. -/
def save (w : Workflow) (fs : FileSystem) (path : String) : Except FileFailure FileSystem :=
  match fs.write path (Text.encode w.document) with
  | .ok fs => .ok fs
  | .error e => .error (.writing path e)

end Flowboard.Workflow
