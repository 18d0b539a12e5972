import Flowboard.Http.Message
import Flowboard.Text.Symbol

/-! The paths of requests: segments between slashes, in which bytes may be given by their
hexadecimal values, what they stand for, and what can be asked of it. -/
namespace Flowboard.Http

/-- The value of the byte that stands for a hexadecimal digit. -/
def hexByte? (b : UInt8) : Option UInt8 :=
  if 0x30 ≤ b ∧ b ≤ 0x39 then some (b - 0x30)
  else if 0x41 ≤ b ∧ b ≤ 0x46 then some (b - 0x41 + 10)
  else if 0x61 ≤ b ∧ b ≤ 0x66 then some (b - 0x61 + 10)
  else none

/-- Replaces each percent sign with two hexadecimal digits after it by the byte they stand for.
Other percent signs stay. -/
def percentDecode : List UInt8 → List UInt8
  | 0x25 :: a :: b :: rest =>
    match hexByte? a, hexByte? b with
    | some x, some y => (16 * x + y) :: percentDecode rest
    | _, _ => 0x25 :: percentDecode (a :: b :: rest)
  | b :: rest => b :: percentDecode rest
  | [] => []

/-- The text of a segment, unless its bytes are no text. -/
def segmentText? (segment : String) : Option String :=
  Text.decode? (percentDecode (Text.encode segment))

/-- The characters in the scheme of a target. -/
def isSchemeChar (c : Char) : Bool :=
  c.isAlphanum || c == '+' || c == '-' || c == '.' || c == '~'

/-- What follows the scheme of a target, if it has one. -/
def afterScheme? : List Char → Option (List Char)
  | ':' :: '/' :: '/' :: rest => some rest
  | c :: rest => if isSchemeChar c then afterScheme? rest else none
  | [] => none

/-- Whether a character starts the query or the fragment of a target. -/
def endsPath (c : Char) : Bool :=
  c == '?' || c == '#'

/-- The path of a target: what stands before the query and the fragment, after the scheme and the
host if there are any. A host alone has no path. -/
def pathOf (target : String) : List Char :=
  let path (s : List Char) := s.takeWhile fun c => !endsPath c
  match target.toList with
  | '/' :: s => path ('/' :: s)
  | ['*'] => ['*']
  | s =>
    match afterScheme? s with
    | some s =>
      match path (s.dropWhile fun c => c != '/' && !endsPath c) with
      | [] => ['/']
      | p => p
    | none => []

/-- The texts between slashes. -/
def splitSlashes : List Char → List (List Char)
  | [] => [[]]
  | c :: rest =>
    match c, splitSlashes rest with
    | '/', parts => [] :: parts
    | c, part :: parts => (c :: part) :: parts
    | c, [] => [[c]]

/-- The segments of a target's path. -/
def segments (target : String) : List String :=
  (splitSlashes (pathOf target)).map String.ofList

/-- Something that has a path. -/
inductive Resource where
  | health
  | workflows
  | workflow (id : String)
  | nodes (id : String)
  | node (id node : String)
  | connections (id : String)
  | compilation (id : String)
  | execution (id : String)
  | acknowledgement (id : String)
  deriving DecidableEq, Repr

namespace Resource

/-- The resource of a path, with its ids as they stand in the path. An id at the end of a path is
not empty. -/
def ofSegments? : List String → Option Resource
  | ["", "api", "health"] => some health
  | ["", "api", "workflows"] => some workflows
  | ["", "api", "workflows", id] => if id.isEmpty then none else some (workflow id)
  | ["", "api", "workflows", id, "nodes"] => some (nodes id)
  | ["", "api", "workflows", id, "connections"] => some (connections id)
  | ["", "api", "workflows", id, "compile"] => some (compilation id)
  | ["", "api", "workflows", id, "run"] => some (execution id)
  | ["", "api", "workflows", id, "nodes", n] => if n.isEmpty then none else some (node id n)
  | ["", "api", "execute", id] => if id.isEmpty then none else some (acknowledgement id)
  | _ => none

def ofTarget? (target : String) : Option Resource :=
  ofSegments? (segments target)

/-- The methods that a resource answers. -/
def methods : Resource → List Method
  | health => [.get, .head]
  | workflows => [.get, .head, .post]
  | workflow _ => [.get, .head, .put]
  | nodes _ => [.post]
  | node _ _ => [.patch]
  | connections _ => [.post]
  | compilation _ => [.post]
  | execution _ => [.post]
  | acknowledgement _ => [.post]

/-- The names of the methods that a resource answers. -/
def allow (r : Resource) : String :=
  ",".intercalate (r.methods.map Method.name)

/-- An id of a path as text, or else the name of the id. -/
def idText (name segment : String) : Except String String :=
  match segmentText? segment with
  | some s => .ok s
  | none => .error name

/-- The resource with its ids as text. -/
def decoded : Resource → Except String Resource
  | health => .ok health
  | workflows => .ok workflows
  | workflow id => (idText "id" id).map workflow
  | nodes id => (idText "id" id).map nodes
  | node id n =>
    match idText "id" id with
    | .error e => .error e
    | .ok id => (idText "node_id" n).map (node id)
  | connections id => (idText "id" id).map connections
  | compilation id => (idText "id" id).map compilation
  | execution id => (idText "id" id).map execution
  | acknowledgement id => (idText "id" id).map acknowledgement

end Resource

end Flowboard.Http
