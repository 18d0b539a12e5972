/-! Bytes read as UTF-8. Bytes that belong to no character are kept apart, one group for each
longest start of a character that is broken off. -/
namespace Flowboard.Text

/-- A character, or a group of `width` bytes that is part of no character. -/
inductive Symbol where
  | char (c : Char)
  | stray (width : Nat)
  deriving DecidableEq, Repr

namespace Symbol

/-- The number of bytes a symbol was read from. -/
def width : Symbol → Nat
  | .char c => c.utf8Size
  | .stray n => n

/-- The number of bytes that symbols were read from. -/
def totalWidth : List Symbol → Nat
  | [] => 0
  | s :: rest => s.width + totalWidth rest

end Symbol

/-- A character of which some bytes have been read: the value so far, how many bytes are read and
owed, and the range of the next byte. -/
structure Partial where
  value : Nat
  taken : Nat
  owed : Nat
  least : UInt8
  greatest : UInt8
  deriving Repr

/-- What a first byte announces: a character of its own, the start of a longer one, or nothing. -/
def lead (b : UInt8) : Symbol ⊕ Partial :=
  let start (bits owed : Nat) (least greatest : UInt8) : Symbol ⊕ Partial :=
    .inr ⟨b.toNat % bits, 1, owed, least, greatest⟩
  if b < 0x80 then .inl (.char (Char.ofNat b.toNat))
  else if b < 0xC2 then .inl (.stray 1)
  else if b < 0xE0 then start 0x20 1 0x80 0xBF
  else if b = 0xE0 then start 0x10 2 0xA0 0xBF
  else if b = 0xED then start 0x10 2 0x80 0x9F
  else if b < 0xF0 then start 0x10 2 0x80 0xBF
  else if b = 0xF0 then start 0x08 3 0x90 0xBF
  else if b < 0xF4 then start 0x08 3 0x80 0xBF
  else if b = 0xF4 then start 0x08 3 0x80 0x8F
  else .inl (.stray 1)

/-- Reads on with the symbols found so far, last first, and the character under way. -/
def symbolsFrom (found : List Symbol) : Option Partial → List UInt8 → List Symbol
  | none, [] => found.reverse
  | some p, [] => (Symbol.stray p.taken :: found).reverse
  | none, b :: rest =>
    match lead b with
    | .inl s => symbolsFrom (s :: found) none rest
    | .inr p => symbolsFrom found (some p) rest
  | some p, b :: rest =>
    if p.least ≤ b ∧ b ≤ p.greatest then
      let value := p.value * 64 + b.toNat % 64
      if p.owed = 1 then symbolsFrom (.char (Char.ofNat value) :: found) none rest
      else symbolsFrom found (some ⟨value, p.taken + 1, p.owed - 1, 0x80, 0xBF⟩) rest
    else
      let found := Symbol.stray p.taken :: found
      match lead b with
      | .inl s => symbolsFrom (s :: found) none rest
      | .inr p => symbolsFrom found (some p) rest

/-- The symbols of a byte sequence. -/
def symbols (bytes : List UInt8) : List Symbol :=
  symbolsFrom [] none bytes

/-- The symbols of a text, which has no stray bytes. -/
def ofString (s : String) : List Symbol :=
  s.toList.map .char

/-- The text of a byte sequence, with U+FFFD for each group of stray bytes. -/
def decodeLossy (bytes : List UInt8) : String :=
  String.ofList <| (symbols bytes).map fun
    | .char c => c
    | .stray _ => '\uFFFD'

/-- The text of a byte sequence that is UTF-8 throughout. -/
def decode? (bytes : List UInt8) : Option String :=
  let found := symbols bytes
  if found.all (fun | .char _ => true | .stray _ => false) then
    some (String.ofList (found.filterMap fun | .char c => some c | .stray _ => none))
  else
    none

/-- The UTF-8 bytes of a text. -/
def encode (s : String) : List UInt8 :=
  s.toUTF8.data.toList

end Flowboard.Text
