import Flowboard.Text.Octet

/-! What comes through a pipe. -/
namespace Flowboard

/-- What follows the text that has come through. -/
inductive Tail where
  | ends
  /-- the same text again and again -/
  | repeats (cycle : List Char)
  /-- nothing, but no end either -/
  | hangs
  deriving DecidableEq, Repr

/-- A text and what follows it. -/
structure Pipe where
  text : List Char
  tail : Tail := .ends
  /-- it comes from a file whose size is known -/
  sized : Bool := false
  /-- the time in milliseconds when all of it is there -/
  ready : Nat := 0
  deriving DecidableEq, Repr

namespace Pipe

def empty : Pipe :=
  { text := [] }

/-- A text and nothing after it. -/
def of (text : List Char) : Pipe :=
  { text }

def endless (p : Pipe) : Bool :=
  p.tail != .ends

/-- All of it, if it ends. -/
def all? (p : Pipe) : Option (List Char) :=
  if p.endless then none else some p.text

def unroll (cycle : List Char) (n : Nat) : List Char :=
  if cycle.isEmpty then []
  else ((List.replicate (n / cycle.length + 1) cycle).flatten).take n

/-- The first `n` characters, or as many as there are before the end. -/
def take? (p : Pipe) (n : Nat) : Option (List Char) :=
  if n ≤ p.text.length then some (p.text.take n)
  else
    match p.tail with
    | .ends => some p.text
    | .hangs => none
    | .repeats cycle => some (p.text ++ unroll cycle (n - p.text.length))

/-- The first `n` lines, or as many as there are before the end. -/
def takeLines? (p : Pipe) (n : Nat) : Option (List (List Char)) :=
  let complete := (Text.lines p.text).filter fun l => l.getLast? = some '\n'
  if n ≤ complete.length then some (complete.take n)
  else
    match p.tail with
    | .ends => some ((Text.lines p.text).take n)
    | .hangs => none
    | .repeats cycle =>
      if cycle.contains '\n' then
        some ((Text.lines (p.text ++ (List.replicate (n + 1) cycle).flatten)).take n)
      else none

/-- Replaces every character by a text. -/
def flatMap (f : Char → List Char) (p : Pipe) : Pipe :=
  { p with
    text := p.text.flatMap f
    tail := match p.tail with
      | .repeats cycle =>
        let cycle := cycle.flatMap f
        if cycle.isEmpty then .hangs else .repeats cycle
      | t => t }

/-- One after the other. -/
def append (a b : Pipe) : Pipe :=
  if a.endless then a else { b with text := a.text ++ b.text, sized := false }

end Pipe

end Flowboard
