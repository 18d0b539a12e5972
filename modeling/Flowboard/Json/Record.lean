import Flowboard.Json.Decoder

/-! Records: objects with certain fields, or lists of the fields in order. -/
namespace Flowboard

/-- A field of a record that is gathered in a draft of type `σ`. -/
structure Field (σ : Type) where
  name : String
  /-- a list that ends before the field is too short -/
  required : Bool
  /-- the draft holds the field already -/
  given : σ → Bool
  /-- puts the field into the draft -/
  read : σ → Decoder σ

/-- A field that is read by `d` and kept as one optional component of the draft. -/
def Field.of {σ α : Type} (name : String) (required : Bool) (d : Decoder α)
    (get : σ → Option α) (set : σ → α → σ) : Field σ :=
  ⟨name, required, fun s => (get s).isSome, fun s cx t => (d cx t).map (set s)⟩

/-- How a record is read. -/
structure Record (σ α : Type) where
  name : String
  fields : List (Field σ)
  /-- other names than those of the fields are refused, not skipped -/
  strict : Bool
  empty : σ
  /-- the record from what was gathered, unless something is missing -/
  build : σ → Except Fault α

namespace Record

variable {σ α : Type}

def field? (r : Record σ α) (name : String) : Option (Field σ) :=
  r.fields.find? (·.name == name)

/-- The error of a name, before its value is looked at. -/
def nameError? (r : Record σ α) (draft : σ) (name : String) : Option DecodeError :=
  match r.field? name with
  | some f => if f.given draft then some (.here (.duplicateField name)) else none
  | none =>
    if r.strict then some ⟨[.field name], .unknownField name (r.fields.map (·.name))⟩ else none

/-- The draft with the value under a name, which changes nothing if it is not that of a field. -/
def readMember (r : Record σ α) (cx : Context) (draft : σ) (name : String) (t : Tree) :
    Except DecodeError σ :=
  match r.field? name with
  | some f => Decoder.under (.field name) (f.read draft cx t)
  | none =>
    match t.skip with
    | .ok () => .ok draft
    | .error e => .error ⟨[.field name], .text e⟩

/-- Members in the order of the text, put into the draft. -/
def readMembers (r : Record σ α) (cx : Context) : σ → Members → Except DecodeError σ
  | draft, .done => .ok draft
  | _, .stranger => .error Decoder.strangerError
  | draft, .cut how =>
    match how with
    | .noColon (.ok name) _ => .error ((r.nameError? draft name).getD (Decoder.cutError how))
    | how => .error (Decoder.cutError how)
  | _, .cons (.error e) _ _ => .error ⟨[.unnamed], .text e⟩
  | draft, .cons (.ok name) t rest =>
    match r.nameError? draft name with
    | some e => .error e
    | none =>
      match r.readMember cx draft name t with
      | .error e => .error e
      | .ok draft => r.readMembers cx draft rest

/-- How many items there are. -/
def count : Items → Nat
  | .cons _ rest => count rest + 1
  | _ => 0

/-- The error of a list with more items than the `n` fields. -/
def excess (cx : Context) (n : Nat) (rest : Items) : Except DecodeError Unit :=
  match cx, rest with
  | _, .done => .ok ()
  | .value, rest => .error (.here (.wrongLength (n + count rest) "fewer elements in array"))
  | .text _, .cut how => .error (.here (.text how.endFault))
  | .text _, .cons _ _ => .error (.here (.text .trailingCharacters))

/-- The length that a list of the fields should have. -/
def lengthWanted (r : Record σ α) : String :=
  "struct " ++ r.name ++ " with " ++ String.ofList (Nat.toDigits 10 r.fields.length) ++
    (if r.fields.length = 1 then " element" else " elements")

/-- Items as the fields in order, put into the draft. -/
def readItems (r : Record σ α) (cx : Context) : List (Field σ) → Nat → σ → Items →
    Except DecodeError σ
  | [], i, draft, xs => (excess cx i xs).map fun _ => draft
  | f :: fields, i, draft, xs =>
    match xs with
    | .done =>
      if f.required then .error (.here (.wrongLength i r.lengthWanted))
      else r.readItems cx fields (i + 1) draft .done
    | .cut how => .error (.here (.text how.readFault))
    | .cons t rest =>
      match f.read draft cx t with
      | .error e => .error (e.under (.index i))
      | .ok draft => r.readItems cx fields (i + 1) draft rest

/-- The record from a draft. -/
def finish (r : Record σ α) (draft : σ) : Except DecodeError α :=
  match r.build draft with
  | .ok x => .ok x
  | .error fault => .error (.here fault)

/-- Reads a record in either form. -/
def decoder (r : Record σ α) : Decoder α := fun cx t =>
  match t with
  | .object ms =>
    match cx.enter with
    | .error e => .error e
    | .ok cx =>
      match r.readMembers cx r.empty ms with
      | .error e => .error e
      | .ok draft => r.finish draft
  | .array xs =>
    match cx.enter with
    | .error e => .error e
    | .ok cx =>
      match r.readItems cx r.fields 0 r.empty xs with
      | .error e => .error e
      | .ok draft => r.finish draft
  | t => .error (.here (Decoder.mismatch ("struct " ++ r.name) t))

/-- A component that has to be there. -/
def require {β : Type} (name : String) : Option β → Except Fault β
  | some x => .ok x
  | none => .error (.missingField name)

end Record

end Flowboard
