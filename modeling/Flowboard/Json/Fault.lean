import Flowboard.Double.Basic
import Flowboard.Json.Printer
import Flowboard.Json.Tree
import Flowboard.Text.Category

/-! What can be wrong with a tree that is read as a value of a certain shape, and where. -/
namespace Flowboard

/-- A value of another shape than the one that was wanted. -/
inductive Found where
  | null
  | boolean (b : Bool)
  | number (n : Number)
  | string (s : String)
  | sequence
  | map
  deriving DecidableEq

def Found.describe : Found → String
  | null => "null"
  | boolean b => "boolean `" ++ (if b then "true" else "false") ++ "`"
  | number (.double d) => "floating point `" ++ String.ofList (d.text .json) ++ "`"
  | number n => "integer `" ++ String.ofList n.text ++ "`"
  | string s => "string " ++ Text.displayQuoted s
  | sequence => "sequence"
  | map => "map"

/-- Why a tree is not read. Apart from faults of the text itself, the text is well formed and says
something else than it should. -/
inductive Fault where
  | text (fault : TextFault)
  | wrongType (found : Found) (wanted : String)
  | wrongValue (found : Found) (wanted : String)
  | wrongLength (length : Nat) (wanted : String)
  | missingField (name : String)
  | duplicateField (name : String)
  | unknownField (name : String) (known : List String)
  | unknownVariant (name : String) (known : List String)
  | refused (reason : String)
  deriving DecidableEq

namespace Fault

def ticked (s : String) : String :=
  "`" ++ s ++ "`"

/-- The names that would have been right. -/
def alternatives : List String → String
  | [a, b] => ticked a ++ " or " ++ ticked b
  | [a] => ticked a
  | names => "one of " ++ ", ".intercalate (names.map ticked)

def message : Fault → String
  | text fault => fault.message
  | wrongType found wanted => "invalid type: " ++ found.describe ++ ", expected " ++ wanted
  | wrongValue found wanted => "invalid value: " ++ found.describe ++ ", expected " ++ wanted
  | wrongLength n wanted =>
    "invalid length " ++ String.ofList (Nat.toDigits 10 n) ++ ", expected " ++ wanted
  | missingField name => "missing field " ++ ticked name
  | duplicateField name => "duplicate field " ++ ticked name
  | unknownField name known =>
    "unknown field " ++ ticked name ++ ", expected " ++ alternatives known
  | unknownVariant name known =>
    "unknown variant " ++ ticked name ++ ", expected " ++ alternatives known
  | refused reason => reason

end Fault

/-- A step from a value to a part of it. -/
inductive Step where
  | field (name : String)
  | index (i : Nat)
  /-- a member whose name is not known -/
  | unnamed
  deriving DecidableEq, Repr

/-- A fault and the way to it from the root. -/
structure DecodeError where
  path : List Step
  fault : Fault
  deriving DecidableEq

namespace DecodeError

/-- A fault of the value itself. -/
def here (fault : Fault) : DecodeError :=
  ⟨[], fault⟩

/-- The same fault, seen from the value around. -/
def under (step : Step) (e : DecodeError) : DecodeError :=
  ⟨step :: e.path, e.fault⟩

/-- The steps of a path, with a point before each name but the first step's. -/
def stepsText (first : Bool) : List Step → String
  | [] => ""
  | .index i :: rest => "[" ++ String.ofList (Nat.toDigits 10 i) ++ "]" ++ stepsText false rest
  | .field name :: rest => (if first then "" else ".") ++ name ++ stepsText false rest
  | .unnamed :: rest => (if first then "" else ".") ++ "?" ++ stepsText false rest

/-- The message after its path, which is left out if it says nothing. -/
def locatedMessage (e : DecodeError) : String :=
  if e.path.all (· == .unnamed) then e.fault.message
  else stepsText true e.path ++ ": " ++ e.fault.message

end DecodeError

end Flowboard
