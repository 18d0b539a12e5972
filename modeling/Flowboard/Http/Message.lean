import Flowboard.Json.Basic

/-! Requests and responses. -/
namespace Flowboard.Http

inductive Method where
  | get
  | head
  | post
  | put
  | patch
  | options
  | other
  deriving DecidableEq, Repr

def Method.ofName : String → Method
  | "GET" => get
  | "HEAD" => head
  | "POST" => post
  | "PUT" => put
  | "PATCH" => patch
  | "OPTIONS" => options
  | _ => other

def Method.name : Method → String
  | get => "GET"
  | head => "HEAD"
  | post => "POST"
  | put => "PUT"
  | patch => "PATCH"
  | options => "OPTIONS"
  | other => ""

structure Request where
  method : Method
  target : String
  headers : List (String × String)
  body : List UInt8

/-- The first header with a name, which is given in small letters. -/
def Request.header? (r : Request) (name : String) : Option String :=
  (r.headers.find? fun (n, _) => String.ofList (n.toList.map Char.toLower) == name).map (·.2)

/-- What a response carries. -/
inductive Content where
  | empty
  | text (s : String)
  | json (v : Json)
  deriving DecidableEq

structure Response where
  status : Nat
  /-- the names of the methods that are allowed, if the response tells them -/
  allow : Option String
  content : Content
  /-- the content is announced but left out -/
  bodiless : Bool := false
  /-- the response tells a browser what it may ask for -/
  preflight : Bool := false
  deriving DecidableEq

namespace Response

def json (status : Nat) (v : Json) : Response :=
  ⟨status, none, .json v, false, false⟩

/-- The response for an error. -/
def failure (status : Nat) (message : String) : Response :=
  json status (.object [("error", .string message)])

def text (status : Nat) (s : String) : Response :=
  ⟨status, none, .text s, false, false⟩

def notFound : Response :=
  ⟨404, none, .empty, false, false⟩

def methodNotAllowed (allow : String) : Response :=
  ⟨405, some allow, .empty, false, false⟩

/-- What a browser that asks before it sends a request from another site is told: everything is
allowed. -/
def permission (allow : Option String) : Response :=
  ⟨200, allow, .empty, false, true⟩

/-- The content as it is sent. -/
def sent (r : Response) : Content :=
  if r.bodiless then .empty else r.content

/-- The headers apart from the length, in alphabetical order of their names. -/
def headers (r : Response) : List (String × String) :=
  (if r.preflight then
    [("access-control-allow-headers", "*"), ("access-control-allow-methods", "*"),
     ("access-control-allow-origin", "*")]
  else [("access-control-allow-origin", "*"), ("access-control-expose-headers", "*")]) ++
  (match r.allow with
    | some methods => [("allow", methods)]
    | none => []) ++
  (match r.content with
    | .empty => []
    | .text _ => [("content-type", "text/plain; charset=utf-8")]
    | .json _ => [("content-type", "application/json")]) ++
  [("vary", "origin, access-control-request-method, access-control-request-headers")]

end Response

end Flowboard.Http
