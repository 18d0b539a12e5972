import Flowboard.Demo.Report
import Flowboard.Host.Standard
import Std.Time.DateTime.Timestamp

/-! The demonstration on a command line. -/
namespace Flowboard.Main

/-- What keeps a file from being read or written. -/
def fileError : IO.Error → FileError
  | .noFileOrDirectory .. => .notFound
  | .inappropriateType .. => .isDirectory
  | _ => .notDirectory

/-- The bytes of a file. -/
def readBytes (path : String) : IO (Except FileError (List UInt8)) := do
  try
    let bytes ← IO.FS.readBinFile path
    return .ok bytes.data.toList
  catch e => return .error (fileError e)

/-- The files as the arguments ask for them: the workflow's file is read before everything else. -/
def filesFor (args : List String) : IO Files := do
  match Demo.Request.parse args with
  | .ok (.present { workflow := some path, .. }) =>
    let content ← readBytes path
    return ⟨fun _ => content, fun _ => none, fun _ => none⟩
  | _ => return ⟨fun _ => .error .notFound, fun _ => none, fun _ => none⟩

/-- The day from which time is counted. -/
def firstDay : Date :=
  ⟨1970, 1, 1, by decide⟩

/-- The present time, which the system gives in nanoseconds since the first day. -/
def presentTime : IO Timestamp := do
  let nanos := (← Std.Time.Timestamp.now).toNanosecondsSinceUnixEpoch.val.toNat
  let seconds := nanos / 1000000000
  let today := (firstDay.later? (seconds / 86400)).getD firstDay
  return (Timestamp.of? today (seconds % 86400) (nanos % 1000000000)).getD
    ⟨today, 0, 0, by decide⟩

/-- An id of random digits. -/
def randomId : IO String := do
  let n ← IO.rand 0 281474976710655
  let digits := Nat.toDigits 16 n
  return "00000000-0000-4000-8000-" ++
    String.ofList (List.replicate (12 - digits.length) '0' ++ digits)

end Flowboard.Main

open Flowboard in
/-- Runs the demonstration with the arguments of a command line. -/
def main (args : List String) : IO UInt32 := do
  let files ← Main.filesFor args
  let now ← Main.presentTime
  let report := Demo.report .standard files now (← Main.randomId) (← Main.randomId) args
  IO.print report.output
  IO.eprint report.errors
  if let some (path, document) := report.saved then
    try
      IO.FS.writeFile path document
    catch e =>
      IO.eprint (Demo.failureText (.writing path (Main.fileError e)))
      return 1
  return report.exit.toUInt32
