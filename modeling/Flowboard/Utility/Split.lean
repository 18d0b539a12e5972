import Flowboard.Utility.Lines
import Flowboard.Utility.Place
import Flowboard.Utility.Regex

/-! Programs that write a text into several files. -/
namespace Flowboard.Utility

/-- A number in digits of an alphabet, with so many places. -/
def alphabetDigits (alphabet : List Char) : Nat → Nat → List Char
  | 0, _ => []
  | places + 1, n =>
    alphabetDigits alphabet places (n / alphabet.length) ++
      [alphabet.getD (n % alphabet.length) 'a']

/-- The name of a part. The last letter of the alphabet starts longer names, so that the names stay
in order. -/
def partName (alphabet : List Char) : Nat → Nat → Nat → List Char
  | 0, places, n => alphabetDigits alphabet places n
  | fuel + 1, places, n =>
    let k := alphabet.length
    let count := (k - 1) * Nat.pow k (places - 1)
    if n < count then alphabetDigits alphabet places n
    else (alphabet.getLastD 'z') :: partName alphabet fuel (places + 1) (n - count)

/-- The lines of a text, so many in each part. -/
def lineParts (count : Nat) (ls : List (List Char)) : List (List Char) :=
  let parts := (List.range (ls.length / count + 1)).map fun i => (ls.drop (i * count)).take count
  (parts.filter (!·.isEmpty)).map List.flatten

def splitTable : OptionTable :=
  { flags := "euv".toList, valued := "lbCantAF".toList, optional := "dxDX".toList
    long := [("lines", 'l'), ("bytes", 'b'), ("line-bytes", 'C'), ("number", 'n'),
      ("suffix-length", 'a'), ("numeric-suffixes", 'D'), ("hex-suffixes", 'X'),
      ("additional-suffix", 'A'), ("elide-empty-files", 'e'), ("verbose", 'v'),
      ("separator", 't'), ("filter", 'F')] }

/-- Letters of options without values may stand together. -/
def separateFlags (args : List String) : List String :=
  args.flatMap fun a => match a.toList with
    | '-' :: c :: d :: rest =>
      if (c == 'd' || c == 'x') && (d :: rest).all (fun c => c.isAlpha) then
        ["-" ++ c.toString, "-" ++ String.ofList (d :: rest)]
      else [a]
    | _ => [a]

/-- Writes a text into several files. -/
def split (call : Call) : Effect :=
  let c := call.withArgs (separateFlags call.args)
  c.withOptions splitTable fun o =>
    let source := o.operands.headD "-"
    let start := (o.operands.drop 1).headD "x"
    let wrong (what value : String) : Effect :=
      c.fails 1 ("invalid number of " ++ what ++ ": " ++ quotedName value)
    let positive (what : String) (value : String) : Except Effect Nat :=
      match count? value.toList with
      | some 0 => .error (wrong what value)
      | some n => .ok n
      | none => .error (wrong what value)
    let way : Except Effect (List Char → List (List Char) × Option Nat) :=
      let v := (o.value? 'l').getD "1000"
      (positive "lines" v).map fun n => fun text => (lineParts n (Text.lines text), none)
    match way with
    | .error e => e
    | .ok way =>
      match c.source source with
      | .error e => c.fails 1 ("cannot open " ++ quotedName source ++ " for reading: " ++ e.reason)
      | .ok p =>
        match p.all? with
        | none => .stuck
        | some text =>
          let (parts, shown) := way text
          match shown with
          | some k => .writing (parts.getD k [])
          | none =>
            let parts := if o.has 'e' then parts.filter (!·.isEmpty) else parts
            let numeric := o.has 'd' || o.has 'D'
            let alphabet := if numeric then "0123456789".toList
              else if o.has 'x' || o.has 'X' then "0123456789abcdef".toList
              else "abcdefghijklmnopqrstuvwxyz".toList
            let first := (((o.value? 'D').or (o.value? 'X')).bind fun s =>
              Text.natural? s.toList).getD 0
            let places := (o.value? 'a').bind fun s => Text.natural? s.toList
            let name (i : Nat) : String :=
              let letters := match places with
                | some k => alphabetDigits alphabet k (first + i)
                | none => if 0 < first then alphabetDigits alphabet 2 (first + i)
                  else partName alphabet 8 2 i
              start ++ String.ofList letters ++ (o.value? 'A').getD ""
            let (fs, told, _) := parts.foldl (fun (fs, told, i) part =>
              let written := FileSystem.write fs (name i) (Text.octetBytes part)
              (written.toOption.getD fs,
                told ++ (if o.has 'v' then
                  ("creating file " ++ quotedName (name i) ++ "\n").toList else []), i + 1))
              (c.files, ([] : List Char), 0)
            { files := some fs, output := .of told, waited := source == "-" }

/-- Where a text is divided. -/
inductive Division where
  /-- before the line with a number -/
  | line (n : Nat)
  /-- before a line that matches, moved by some lines; the part before it is left out if not
  `kept` -/
  | pattern (kept : Bool) (r : Regex) (offset : Int)

/-- A division with its text and how often it is done once more; `none` means as often as
possible. -/
structure Divider where
  text : String
  division : Division
  again : Option Nat := some 0

def readDividers : List String → Except String (List Divider)
  | [] => .ok []
  | a :: rest =>
    match a.toList with
    | '\x7b' :: _ => .error (plainName a ++ ": invalid pattern")
    | mark :: body =>
      if mark == '/' || mark == '%' then
        let inner := body.takeWhile (· != mark)
        match body.drop inner.length with
        | _ :: after =>
          let offset := match after with
            | '+' :: ds => ((Text.natural? ds).map fun n => (n : Int)).getD 0
            | ds => (Text.integer? ds).getD 0
          withAgain a (.pattern (mark == '/') (Regex.ofText false inner) offset) rest
        | [] => .error (plainName a ++ ": closing delimiter '" ++ mark.toString ++ "' missing")
      else
        match Text.natural? (mark :: body) with
        | some 0 => .error (plainName a ++ ": line number must be greater than zero")
        | some n => withAgain a (.line n) rest
        | none => .error (plainName a ++ ": invalid pattern")
    | [] => .error (plainName a ++ ": invalid pattern")
termination_by args => 2 * args.length
where
  withAgain (text : String) (d : Division) (rest : List String) : Except String (List Divider) :=
    match rest with
    | next :: rest =>
      (readDividers (next :: rest)).map (⟨text, d, some 0⟩ :: ·)
    | [] => .ok [⟨text, d, some 0⟩]
  termination_by 2 * rest.length + 1

/-- The parts of lines so far, and what is left. -/
structure Dividing where
  parts : List (List Char) := []
  /-- how many lines have been written -/
  done : Nat := 0
  /-- how many lines have been looked at -/
  seen : Nat := 0

/-- One division, or what is wrong with it. -/
def Dividing.step (ls : Array (List Char)) (d : Divider) (count : Nat) (s : Dividing) :
    Except String Dividing :=
  let part (a b : Nat) : List Char := (ls.extract a b).toList.flatten
  match d.division with
  | .line n =>
    let n := n * (count + 1)
    if n ≤ ls.size ∧ s.done < n then
      .ok { s with parts := part s.done (n - 1) :: s.parts, done := n - 1, seen := n - 1 }
    else .error (quotedName d.text ++ ": line number out of range" ++
      (if count = 0 then "" else " on repetition " ++ Text.naturalText count))
  | .pattern kept r offset =>
    let first := (List.range (ls.size - s.seen)).find? fun k =>
      (r.find? false (Text.chomp (ls.getD (s.seen + k) []))).isSome
    match first with
    | none => .error (quotedName d.text ++ ": match not found" ++
        (if count = 0 then "" else " on repetition " ++ Text.naturalText count))
    | some k =>
      let place := ((s.seen + k : Nat) : Int) + offset
      if place < s.done || (ls.size : Int) < place then
        .error (quotedName d.text ++ ": line number out of range")
      else
        let place := place.toNat
        .ok { parts := if kept then part s.done place :: s.parts else s.parts
              done := place, seen := s.seen + k + 1 }

/-- Repeats a division. Each time uses up one of the fuel. -/
def Dividing.run (ls : Array (List Char)) (d : Divider) : Nat → Nat → Dividing →
    Dividing × Option String
  | 0, _, s => (s, none)
  | fuel + 1, count, s =>
    match s.step ls d count with
    | .ok s =>
      if d.again.all (count < ·) then Dividing.run ls d fuel (count + 1) s else (s, none)
    | .error e => if d.again.isNone && (0 < count || true) then (s, none) else (s, some e)

/-- Writes the parts of a text between certain lines into files and tells their sizes. -/
def csplit (c : Call) : Effect :=
  let table : OptionTable :=
    { flags := "skzq".toList, valued := "fnb".toList
      long := [("silent", 's'), ("quiet", 's'), ("keep-files", 'k'), ("elide-empty-files", 'z'),
        ("prefix", 'f'), ("digits", 'n'), ("suffix-format", 'b')] }
  c.withOptions table fun o =>
    match o.operands with
    | [] => c.misused 1 "missing operand"
    | [only] => c.misused 1 ("missing operand after " ++ quotedName only)
    | source :: patterns =>
      match c.source source, readDividers patterns with
      | .error e, _ => c.fails 1 ("cannot open " ++ quotedName source ++ " for reading: " ++ e.reason)
      | _, .error e => c.fails 1 e
      | .ok p, .ok dividers =>
        match p.all? with
        | none => .stuck
        | some text =>
          let ls := (Text.lines text).toArray
          let (s, fault) := dividers.foldl (fun (s, fault) d =>
            match fault with
            | some e => (s, some e)
            | none => Dividing.run ls d (ls.size + 2) 0 s) (({} : Dividing), (none : Option String))
          let rest := (ls.extract s.done ls.size).toList.flatten
          let parts := (rest :: s.parts).reverse
          let parts := if o.has 'z' then parts.filter (!·.isEmpty) else parts
          let told := if o.has 's' then [] else
            parts.flatMap fun part => (Text.naturalText part.length ++ "\n").toList
          let places := ((o.value? 'n').bind fun s => Text.natural? s.toList).getD 2
          let name (i : Nat) : String := (o.value? 'f').getD "xx" ++
            String.ofList (alphabetDigits "0123456789".toList places i)
          let stays := fault.isNone || o.has 'k'
          let fs := if stays then
              (parts.zip (List.range parts.length)).foldl (fun fs (part, i) =>
                (FileSystem.write fs (name i) (Text.octetBytes part)).toOption.getD fs) c.files
            else c.files
          let errors := match fault with
            | some e => ("csplit: " ++ e ++ "\n").toList
            | none => []
          { files := some fs, output := .of told, errors
            status := if fault.isNone then .success else .failure }

end Flowboard.Utility
