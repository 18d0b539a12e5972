/-! Texts for terminals without the sequences that control them. -/
namespace Flowboard.Text

/-- Where in a sequence that controls a terminal a byte stands. -/
inductive ControlState where
  | ground
  | escape
  | escapeIntermediate
  | csiEntry
  | csiParam
  | csiIntermediate
  | csiIgnore
  | dcsEntry
  | dcsParam
  | dcsIntermediate
  | dcsPassthrough
  | dcsIgnore
  | osc
  /-- a text for the terminal itself, which has no meaning here -/
  | message
  deriving DecidableEq, Repr

/-- What a byte does. -/
inductive ControlAction where
  | print
  | execute
  | other
  deriving DecidableEq, Repr

/-- The state after a byte in a sequence, and what the byte does. The first characters of a sequence
tell its kind, numbers and marks follow, and a letter ends it. -/
def ControlState.next (s : ControlState) (b : Nat) : ControlState × ControlAction :=
  let control : Bool := b < 0x20
  let between (low high : Nat) : Bool := low ≤ b && b ≤ high
  if b = 0x18 || b = 0x1A then (.ground, .execute)
  else if b = 0x1B then (.escape, .other)
  else
    match s with
    | .ground => (.ground, if control || 0x7F < b then .execute else .print)
    | .escape =>
      if control then (s, .execute)
      else if between 0x20 0x2F then (.escapeIntermediate, .other)
      else if b = 0x50 then (.dcsEntry, .other)
      else if b = 0x5B then (.csiEntry, .other)
      else if b = 0x5D then (.osc, .other)
      else if b = 0x58 || b = 0x5E || b = 0x5F then (.message, .other)
      else if between 0x30 0x7E then (.ground, .other)
      else (s, .other)
    | .escapeIntermediate =>
      if control then (s, .execute)
      else if between 0x30 0x7E then (.ground, .other)
      else (s, .other)
    | .csiEntry =>
      if control then (s, .execute)
      else if between 0x20 0x2F then (.csiIntermediate, .other)
      else if between 0x30 0x3F then (.csiParam, .other)
      else if between 0x40 0x7E then (.ground, .other)
      else (s, .other)
    | .csiParam =>
      if control then (s, .execute)
      else if between 0x20 0x2F then (.csiIntermediate, .other)
      else if between 0x3C 0x3F then (.csiIgnore, .other)
      else if between 0x40 0x7E then (.ground, .other)
      else (s, .other)
    | .csiIntermediate =>
      if control then (s, .execute)
      else if between 0x30 0x3F then (.csiIgnore, .other)
      else if between 0x40 0x7E then (.ground, .other)
      else (s, .other)
    | .csiIgnore =>
      if control then (s, .execute)
      else if between 0x40 0x7E then (.ground, .other)
      else (s, .other)
    | .dcsEntry =>
      if between 0x20 0x2F then (.dcsIntermediate, .other)
      else if b = 0x3A then (.dcsIgnore, .other)
      else if between 0x30 0x3F then (.dcsParam, .other)
      else if between 0x40 0x7E then (.dcsPassthrough, .other)
      else (s, .other)
    | .dcsParam =>
      if between 0x20 0x2F then (.dcsIntermediate, .other)
      else if b = 0x3A || between 0x3C 0x3F then (.dcsIgnore, .other)
      else if between 0x40 0x7E then (.dcsPassthrough, .other)
      else (s, .other)
    | .dcsIntermediate =>
      if between 0x30 0x3F then (.dcsIgnore, .other)
      else if between 0x40 0x7E then (.dcsPassthrough, .other)
      else (s, .other)
    | .dcsPassthrough => (if b = 0x9C then .ground else s, .other)
    | .dcsIgnore => (if b = 0x9C then .ground else s, .other)
    | .osc => (if b = 0x07 then .ground else s, .other)
    | .message => (if b = 0x9C then .ground else s, .other)

/-- Whether a byte that does something is shown: printed ones are, and blanks among the others. -/
def shows (a : ControlAction) (b : Nat) : Bool :=
  (a = .print && b ≠ 0x7F) ||
    (a = .execute && (b = 0x09 || b = 0x0A || b = 0x0C || b = 0x0D))

/-- What is known of a text up to a byte. While bytes are shown, each is looked at as if it stood
outside of sequences, and the state before them is kept for the first one that is not shown. -/
structure Plainness where
  state : ControlState := .ground
  showing : Bool := false
  /-- how many bytes of a character are still to come -/
  open_ : Nat := 0
  /-- the last byte first -/
  kept : List UInt8 := []

/-- How many bytes follow the first byte of a character. -/
def bytesAfter (b : Nat) : Nat :=
  if b < 0xC2 then 0 else if b < 0xE0 then 1 else if b < 0xF0 then 2 else if b < 0xF5 then 3 else 0

def Plainness.take (p : Plainness) (byte : UInt8) : Plainness :=
  let b := byte.toNat
  let keep (p : Plainness) : Plainness := { p with kept := byte :: p.kept, showing := true }
  if 0 < p.open_ then keep { p with open_ := p.open_ - 1 }
  else
    let state := if p.showing then .ground else p.state
    let long := state = .ground && 0 < bytesAfter b
    if long then keep { p with state := .ground, open_ := bytesAfter b }
    else
      let (next, action) := state.next b
      if shows action b then keep { p with state := if p.showing then p.state else next }
      else
        -- the byte is looked at again in the state before those that were shown
        { p with state := (p.state.next b).1, showing := false }

/-- A text without the sequences that control terminals, and without characters that do not show. -/
def plainBytes (bytes : List UInt8) : List UInt8 :=
  (bytes.foldl Plainness.take {}).kept.reverse

end Flowboard.Text
