import Flowboard.Script.Value

/-! Texts with fields in braces: their pieces, and the steps from a field's name to its value. -/
namespace Flowboard.Script

/-- A field in braces: a name with the steps after it, a conversion and a format. -/
structure BraceField where
  name : List Char
  conversion : Option Char := none
  spec : List Char := []
  deriving Repr, DecidableEq

/-- Why the braces of a text cannot be read. -/
inductive BraceFault where
  | lone (brace : Char)
  | braceInName
  | openField
  | openFormat
  | openConversion
  | afterConversion
  | afterBracket
  | openBracket
  | emptyStep
  | deepFormat
  | switched (manual : Bool)
  | numbered
  deriving Repr, DecidableEq

namespace BraceFault

/-- The words for a fault. -/
def message : BraceFault → String
  | lone b => "Single '" ++ b.toString ++ "' encountered in format string"
  | braceInName => "unexpected '\x7b' in field name"
  | openField => "expected '\x7d' before end of string"
  | openFormat => "unmatched '\x7b' in format spec"
  | openConversion => "end of string while looking for conversion specifier"
  | afterConversion => "expected ':' after conversion specifier"
  | afterBracket => "Only '.' or '[' may follow ']' in format field specifier"
  | openBracket => "Missing ']' in format string"
  | emptyStep => "Empty attribute in format string"
  | deepFormat => "Max string recursion exceeded"
  | switched true => "cannot switch from manual field specification to automatic field numbering"
  | switched false => "cannot switch from automatic field numbering to manual field specification"
  | numbered => "Format string contains positional fields"

end BraceFault

namespace BraceField

/-- The name of a field and what follows it; within brackets all characters belong to it. -/
def splitName : Bool → List Char → List Char → Except BraceFault (List Char × List Char)
  | _, _, [] => .error .openField
  | true, done, c :: s => splitName (c != ']') (c :: done) s
  | false, done, c :: s =>
    if c = '{' then .error .braceInName
    else if c = '}' ∨ c = ':' ∨ c = '!' then .ok (done.reverse, c :: s)
    else splitName (c = '[') (c :: done) s

/-- The format of a field up to the brace that closes it, and what follows it. -/
def splitFormat : Nat → List Char → List Char → Except BraceFault (List Char × List Char)
  | _, _, [] => .error .openFormat
  | depth, done, '{' :: s => splitFormat (depth + 1) ('{' :: done) s
  | 0, done, '}' :: s => .ok (done.reverse, s)
  | depth + 1, done, '}' :: s => splitFormat depth ('}' :: done) s
  | depth, done, c :: s => splitFormat depth (c :: done) s

/-- A field after the brace that opens it, and what follows it. -/
def read (s : List Char) : Except BraceFault (BraceField × List Char) := do
  let (name, rest) ← splitName false [] s
  let format (conversion : Option Char) (rest : List Char) := do
    let (spec, rest) ← splitFormat 0 [] rest
    .ok (⟨name, conversion, spec⟩, rest)
  match rest with
  | ':' :: rest => format none rest
  | ['!'] => .error .openConversion
  | '!' :: c :: '}' :: rest => .ok (⟨name, some c, []⟩, rest)
  | '!' :: c :: ':' :: rest => format (some c) rest
  | ['!', _] => .error .openFormat
  | '!' :: _ => .error .afterConversion
  | rest => .ok (⟨name, none, []⟩, rest.drop 1)

/-- The plain text up to a field or a doubled brace, the field, and what follows it. -/
def next (s : List Char) : Except BraceFault (List Char × Option BraceField × List Char) :=
  let plain := s.takeWhile fun c => c != '{' && c != '}'
  match s.drop plain.length with
  | [] => .ok (plain, none, [])
  | b :: rest =>
    if rest.head? = some b then .ok (plain ++ [b], none, rest.drop 1)
    else if b = '}' ∨ rest.isEmpty then .error (.lone b)
    else (read rest).map fun (field, rest) => (plain, some field, rest)

/-- Where the steps in the name of a field begin. -/
def splitSteps (name : List Char) : List Char × List Char :=
  let first := name.takeWhile fun c => c != '.' && c != '['
  (first, name.drop first.length)

end BraceField

/-- A step from a value to one in it. -/
inductive BraceStep where
  | attribute (name : String)
  | item (key : Value)

/-- A number if there are only digits, else the text. -/
def braceKey (s : List Char) : Value :=
  match Text.natural? s with
  | some n => .int n
  | none => .str (.ofList s)

/-- The first of some steps, and the ones after it. -/
def BraceStep.next (s : List Char) : Except BraceFault (BraceStep × List Char) :=
  match s with
  | '.' :: s =>
    let (name, rest) := BraceField.splitSteps s
    if name.isEmpty then .error .emptyStep else .ok (.attribute (.ofList name), rest)
  | '[' :: s =>
    let key := s.takeWhile (· != ']')
    match s.drop key.length with
    | [] => .error .openBracket
    | _ :: rest => if key.isEmpty then .error .emptyStep else .ok (.item (braceKey key), rest)
  | _ => .error .afterBracket

/-- How the fields without a name get their numbers. -/
inductive Numbering where
  | undecided
  | automatic (next : Nat)
  | manual
  deriving Repr, DecidableEq

/-- The number of a field for which the text gives one or none, and how it goes on. -/
def Numbering.assign : Numbering → Option Nat → Except BraceFault (Nat × Numbering)
  | undecided, none => .ok (0, automatic 1)
  | automatic n, none => .ok (n, automatic (n + 1))
  | manual, none => .error (.switched true)
  | automatic _, some _ => .error (.switched false)
  | _, some n => .ok (n, manual)

/-- Fails with the words for a fault. -/
def readBraces {α : Type} : Except BraceFault α → Action α
  | .ok a => return a
  | .error f => Action.valueError f.message

end Flowboard.Script
