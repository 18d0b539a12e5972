import Flowboard.Http.Message
import Flowboard.Json.Text

/-! The bodies of requests, and the media types that tell whether they are JSON. -/
namespace Flowboard.Http

namespace ContentType

/-- The characters of names in media types. -/
def isToken (c : Char) : Bool :=
  c.isAlphanum || "!#$%&'*+-.^_`|~".toList.contains c

/-- What may stand between quotes. -/
def isQuotable (c : Char) : Bool :=
  c.toNat > 31 && c.toNat < 127

/-- A character of a header that is text. -/
def isVisible (c : Char) : Bool :=
  c == '\t' || isQuotable c

/-- Where the parameters of a media type have got to. -/
inductive Place where
  /-- before a name, or after blanks -/
  | start
  | name
  /-- right after the equals sign -/
  | equals
  | value
  /-- right after an opening quote -/
  | opened
  | quoted
  /-- after a closing quote -/
  | closed
  deriving DecidableEq, Repr

/-- The place after one more character, if it may stand there. -/
def Place.step (p : Place) (c : Char) : Option Place :=
  match p with
  | .start => if c = ' ' then some .start else if isToken c then some .name else none
  | .name => if isToken c then some .name else if c = '=' then some .equals else none
  | .equals => if c = '"' then some .opened else if isToken c then some .value else none
  | .value => if isToken c then some .value else if c = ';' then some .start else none
  | .opened => if isQuotable c then some .quoted else none
  | .quoted => if c = '"' then some .closed else if isQuotable c then some .quoted else none
  | .closed => if c = ';' then some .start else if c = ' ' then some .closed else none

/-- Whether parameters may end in a place. -/
def Place.final : Place → Bool
  | .start | .equals | .value | .closed => true
  | .name | .opened | .quoted => false

/-- Whether a text is a list of well-formed parameters. -/
def wellFormed : Place → List Char → Bool
  | p, [] => p.final
  | p, c :: rest =>
    match p.step c with
    | some p => wellFormed p rest
    | none => false

/-- Splits a subtype at its last plus sign that is not its first character. -/
def suffixed (subtype : List Char) : List Char × Option (List Char) :=
  let after := (subtype.reverse.takeWhile (· != '+')).reverse
  let before := subtype.take (subtype.length - after.length - 1)
  if after.length < subtype.length ∧ before ≠ [] then (before, some after) else (subtype, none)

/-- Whether a media type is that of JSON or has its suffix. -/
def isJson (header : String) : Bool :=
  let s := header.toList
  let type := s.takeWhile (· != '/')
  let rest := s.drop (type.length + 1)
  let subtype := rest.takeWhile (· != ';')
  let parameters := rest.drop (subtype.length + 1)
  let (stem, suffix) := suffixed (subtype.map Char.toLower)
  s.all isVisible && type.map Char.toLower == "application".toList && subtype.all isToken &&
    wellFormed .start parameters && (stem == "json".toList || suffix == some "json".toList)

end ContentType

/-- Why a body is not read. -/
inductive BodyError where
  | wrongContentType
  | tooLong
  | unreadable (e : DecodeError)
  deriving DecidableEq

/-- Faults of the text are told apart from well-formed texts that say something else. -/
def BodyError.message : BodyError → String
  | wrongContentType => "Expected request with `Content-Type: application/json`"
  | tooLong => "Failed to buffer the request body: length limit exceeded"
  | unreadable e =>
    match e.fault with
    | .text _ => "Failed to parse the request body as JSON: " ++ e.locatedMessage
    | _ => "Failed to deserialize the JSON body into the target type: " ++ e.locatedMessage

/-- The greatest number of bytes in a body. -/
def bodyLimit : Nat := 2097152

/-- Whether a list is longer than `n`. -/
def longerThan {α : Type} : Nat → List α → Bool
  | _, [] => false
  | 0, _ :: _ => true
  | n + 1, _ :: rest => longerThan n rest

/-- The body of a request. -/
def Request.read {α : Type} (r : Request) (d : Decoder α) : Except BodyError α :=
  if ¬ ((r.header? "content-type").any ContentType.isJson) then .error .wrongContentType
  else if longerThan bodyLimit r.body then .error .tooLong
  else
    match d.ofSymbols (Text.symbols r.body) with
    | .ok x => .ok x
    | .error e => .error (.unreadable e)

end Flowboard.Http
