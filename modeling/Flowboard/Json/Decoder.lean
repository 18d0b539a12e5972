import Flowboard.Json.Fault

/-! Readers of trees as values of a certain shape: texts, numbers, lists and the like. -/
namespace Flowboard

/-- Where a tree comes from: a text, which may nest `room` levels deeper, or a value. -/
inductive Context where
  | text (room : Nat)
  | value
  deriving DecidableEq, Repr

/-- The context inside a list or an object. -/
def Context.enter : Context → Except DecodeError Context
  | .text 0 => .error (.here (.text .nestingTooDeep))
  | .text (room + 1) => .ok (.text room)
  | .value => .ok .value

/-- The context of a whole text. -/
def Context.document : Context :=
  .text 127

/-- A reader of trees. -/
abbrev Decoder (α : Type) := Context → Tree → Except DecodeError α

namespace Decoder

/-- What follows from a tree in whose place something else is wanted. -/
def mismatch (wanted : String) (t : Tree) : Fault :=
  match t with
  | .null => .wrongType .null wanted
  | .bool b => .wrongType (.boolean b) wanted
  | .number (.ok n) => .wrongType (.number n) wanted
  | .number (.error e) => .text e
  | .string (.ok s) => .wrongType (.string s) wanted
  | .string (.error e) => .text e
  | .array _ => .wrongType .sequence wanted
  | .object _ => .wrongType .map wanted
  | .missing => .text .eofValue
  | .brokenString read _ => .text read
  | .broken read _ => .text read

/-- Adds a step to the path of an error. -/
def under {α : Type} (step : Step) : Except DecodeError α → Except DecodeError α
  | .ok x => .ok x
  | .error e => .error (e.under step)

def string : Decoder String := fun _ t =>
  match t with
  | .string (.ok s) => .ok s
  | t => .error (.here (mismatch "a string" t))

/-- A number as a double; integers are rounded. -/
def double : Decoder Double := fun _ t =>
  match t with
  | .number (.ok (.double d)) => .ok d
  | .number (.ok (.natural n)) => .ok (Double.ofNat n.val)
  | .number (.ok (.negative n)) => .ok (Double.ofNat (n.val + 1)).neg
  | t => .error (.here (mismatch "f64" t))

/-- An integer below `bound`, called `wanted` in messages. -/
def unsigned (bound : Nat) (wanted : String) : Decoder (Fin bound) := fun _ t =>
  match t with
  | .number (.ok (.natural n)) =>
    if h : n.val < bound then .ok ⟨n.val, h⟩
    else .error (.here (.wrongValue (.number (.natural n)) wanted))
  | .number (.ok (.negative n)) => .error (.here (.wrongValue (.number (.negative n)) wanted))
  | t => .error (.here (mismatch wanted t))

/-- Nothing for `null`. -/
def option {α : Type} (d : Decoder α) : Decoder (Option α) := fun cx t =>
  match t with
  | .null => .ok none
  | t => (d cx t).map some

/-- Items one after the other, of which the first has the given index. -/
def items {α : Type} (d : Decoder α) (cx : Context) : Nat → Items → Except DecodeError (List α)
  | _, .done => .ok []
  | _, .cut how => .error (.here (.text how.readFault))
  | i, .cons t rest =>
    match d cx t with
    | .error e => .error (e.under (.index i))
    | .ok x =>
      match items d cx (i + 1) rest with
      | .error e => .error e
      | .ok xs => .ok (x :: xs)

def list {α : Type} (d : Decoder α) : Decoder (List α) := fun cx t =>
  match t with
  | .array xs =>
    match cx.enter with
    | .ok cx => items d cx 0 xs
    | .error e => .error e
  | t => .error (.here (mismatch "a sequence" t))

/-- The error where members break off, after the name of the last one, if it has one, has been
accepted. -/
def cutError : ObjectCut → DecodeError
  | .eof => ⟨[.unnamed], .text .eofObject⟩
  | .noSeparator => ⟨[.unnamed], .text .expectedObjectCommaOrEnd⟩
  | .trailingComma => ⟨[.unnamed], .text .trailingComma⟩
  | .eofAfterComma => ⟨[.unnamed], .text .eofValue⟩
  | .brokenKey read _ => ⟨[.unnamed], .text read⟩
  | .noColon (.error e) _ => ⟨[.unnamed], .text e⟩
  | .noColon (.ok _) true => .here (.text .eofObject)
  | .noColon (.ok _) false => .here (.text .expectedColon)

/-- The error for a member without a name. -/
def strangerError : DecodeError :=
  ⟨[.unnamed], .text .keyNotString⟩

mutual

/-- Any value. -/
def json (cx : Context) : Tree → Except DecodeError Json
  | .null => .ok .null
  | .bool b => .ok (.bool b)
  | .number (.ok n) => .ok (.number n)
  | .number (.error e) => .error (.here (.text e))
  | .string (.ok s) => .ok (.string s)
  | .string (.error e) => .error (.here (.text e))
  | .missing => .error (.here (.text .eofValue))
  | .brokenString read _ => .error (.here (.text read))
  | .broken read _ => .error (.here (.text read))
  | .array xs =>
    match cx.enter with
    | .error e => .error e
    | .ok cx => (jsonItems cx 0 xs).map .array
  | .object ms =>
    match cx.enter with
    | .error e => .error e
    | .ok cx => (jsonMembers cx [] ms).map .object

def jsonItems (cx : Context) (i : Nat) : Items → Except DecodeError (List Json)
  | .done => .ok []
  | .cut how => .error (.here (.text how.readFault))
  | .cons t rest =>
    match json cx t with
    | .error e => .error (e.under (.index i))
    | .ok x =>
      match jsonItems cx (i + 1) rest with
      | .error e => .error e
      | .ok xs => .ok (x :: xs)

/-- Members, put into the ones before them; of equal names the last one stays. -/
def jsonMembers (cx : Context) (known : Table Json) : Members → Except DecodeError (Table Json)
  | .done => .ok known
  | .cut how => .error (cutError how)
  | .stranger => .error strangerError
  | .cons (.error e) _ _ => .error ⟨[.unnamed], .text e⟩
  | .cons (.ok key) t rest =>
    match json cx t with
    | .error e => .error (e.under (.field key))
    | .ok x => jsonMembers cx (known.insert key x) rest

end

/-- One of several words. -/
def chosen {α : Type} (words : List (String × α)) (word : String) : Except DecodeError α :=
  match words.lookup word with
  | some x => .ok x
  | none => .error (.here (.unknownVariant word (words.map (·.1))))

/-- A choice by its word, or by an object with `null` under the word. What starts neither as a
string nor as an object is refused at its first character. -/
def choice {α : Type} (words : List (String × α)) : Decoder α := fun cx t =>
  match t with
  | .string (.ok word) => chosen words word
  | .string (.error e) => .error (.here (.text e))
  | .object ms =>
    match cx.enter with
    | .error e => .error e
    | .ok _ =>
      match ms with
      | .done => .error (.here (.text .expectedValue))
      | .cut (.brokenKey read _) => .error (.here (.text read))
      | .cut (.noColon (.error e) _) => .error (.here (.text e))
      | .cut (.noColon (.ok word) atEnd) =>
        match chosen words word with
        | .error e => .error e
        | .ok _ => .error (.here (.text (if atEnd then .eofObject else .expectedColon)))
      | .cut how => .error (.here (.text how.skipFault))
      | .stranger => .error (.here (.text .keyNotString))
      | .cons (.error e) _ _ => .error (.here (.text e))
      | .cons (.ok word) t rest =>
        match chosen words word, t, rest with
        | .error e, _, _ => .error e
        | .ok x, .null, .done => .ok x
        | .ok _, .null, .cut .eof => .error (.here (.text .eofObject))
        | .ok _, .null, _ => .error (.here (.text .expectedValue))
        | .ok _, t, _ => .error (.here (mismatch "unit" t))
  | .missing => .error (.here (.text .eofValue))
  | .brokenString read _ => .error (.here (.text read))
  | _ => .error (.here (.text .expectedValue))

end Decoder

end Flowboard
