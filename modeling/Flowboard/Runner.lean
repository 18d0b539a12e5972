import Flowboard.Host.Basic
import Flowboard.Json.Basic
import Flowboard.Text.Symbol

/-! Scripts run by an interpreter within a time limit. -/
namespace Flowboard

/-- An interpreter and the longest time that a run may take. -/
structure Runner where
  interpreter : String
  limit : Span
  deriving DecidableEq, Repr

/-- What came out of a run. -/
structure Outcome where
  success : Bool
  output : String
  /-- what the program wrote about its failure, or why it did not run to its end -/
  error : Option String
  code : String
  exitStatus : Option Status
  deriving DecidableEq, Repr

namespace Outcome

/-- The outcome of a run that did not come to its end. -/
def failure (code error : String) : Outcome :=
  ⟨false, "", some error, code, none⟩

/-- The outcome of a run that came to its end. -/
def ended (code : String) (a : Activity) (status : Option Status) : Outcome :=
  let success := status == some Status.success
  ⟨success, Text.decodeLossy a.output,
    if success then none else some (Text.decodeLossy a.errors), code, status⟩

def json (o : Outcome) : Json :=
  .object
    [("success", .bool o.success), ("output", .string o.output),
     ("error", match o.error with | some e => .string e | none => .null), ("code", .string o.code),
     ("exit_status", match o.exitStatus with
      | some n => .number (.natural (n.castLE (by decide)))
      | none => .null)]

end Outcome

namespace Runner

/-- Runs a script. It comes to its end only before the time limit. -/
def run (r : Runner) (host : Host) (code : String) : Outcome :=
  match host.launch r.interpreter code with
  | .error e =>
    .failure code ("Failed to execute interpreter '" ++ r.interpreter ++ "': " ++ e.message)
  | .ok a =>
    let inTime : Bool := a.span.millis < r.limit.millis
    match a.ending, inTime with
    | .exit status, true => .ended code a (some status)
    | .killed, true => .ended code a none
    | _, _ => .failure code ("Execution timed out after " ++ r.limit.text)

end Runner

end Flowboard
