import Flowboard.Utility.Format
import Flowboard.Utility.Regex

/-! Programs that evaluate conditions and expressions given as arguments. -/
namespace Flowboard.Utility

/-- The value of a condition, or what is wrong with it. -/
abbrev Verdict := Except String Bool

/-- An integer operand of a condition, around which blanks do not count. -/
def operand (s : String) : Except String Int :=
  let trimmed := (s.toList.dropWhile (· == ' ')).reverse.dropWhile (· == ' ') |>.reverse
  match Text.integer? trimmed with
  | some n => .ok n
  | none => .error ("Illegal number: " ++ s)

/-- What a test of one operand finds, if there is such a test. -/
def unary? (fs : FileSystem) (op arg : String) : Option Bool :=
  let entry := (fs.find arg).toOption
  match op with
  | "-n" => some (arg ≠ "")
  | "-z" => some (arg = "")
  | "-e" | "-a" | "-r" | "-w" | "-O" | "-G" => some entry.isSome
  | "-f" => some (match entry with
    | some (.file _) => true
    | some .program => true
    | _ => false)
  | "-d" => some (entry == some .directory)
  | "-x" => some (match fs.locate arg with
    | .ok s => entry.isSome && fs.isRunnable s.place
    | .error _ => false)
  | "-s" => some (match entry with
    | some (.file bytes) => !bytes.isEmpty
    | some .program => true
    | some .directory => true
    | _ => false)
  | "-c" => some (match entry with
    | some (.device _) => true
    | _ => false)
  | "-h" | "-L" => some (match fs.findOwn arg with
    | .ok (.link _) => true
    | _ => false)
  | "-u" | "-g" | "-k" => some (match op, fs.locate arg with
    | "-u", .ok s => Nat.land (fs.modeAt s.place) 0o4000 != 0
    | "-g", .ok s => Nat.land (fs.modeAt s.place) 0o2000 != 0
    | "-k", .ok s => Nat.land (fs.modeAt s.place) 0o1000 != 0
    | _, _ => false)
  | "-p" => some (match entry with
    | some (.pipe _) => true
    | _ => false)
  | "-S" | "-b" | "-t" => some false
  | _ => none

/-- Compares two integers, if there is such a comparison. -/
def integerTest? (op : String) : Option (Int → Int → Bool) :=
  match op with
  | "-eq" => some fun a b => a == b
  | "-ne" => some fun a b => a != b
  | "-lt" => some fun a b => a < b
  | "-le" => some fun a b => a ≤ b
  | "-gt" => some fun a b => b < a
  | "-ge" => some fun a b => b ≤ a
  | _ => none

/-- What a test of two operands finds, if there is such a test. -/
def binary? (a op b : String) : Option Verdict :=
  match op with
  | "=" | "==" => some (.ok (a == b))
  | "!=" => some (.ok (a != b))
  | "<" => some (.ok (a < b))
  | ">" => some (.ok (b < a))
  | "-nt" | "-ot" => some (.ok false)
  | "-ef" => some (.ok (a == b))
  | op =>
    (integerTest? op).map fun test =>
      match operand a, operand b with
      | .ok x, .ok y => .ok (test x y)
      | .error e, _ => .error e
      | _, .error e => .error e

mutual

def readAny (fs : FileSystem) : Nat → List String → Except String (Bool × List String)
  | 0, _ => .error "argument expected"
  | fuel + 1, args =>
    match readAll fs fuel args with
    | .error e => .error e
    | .ok (a, "-o" :: rest) =>
      match readAny fs fuel rest with
      | .ok (b, rest) => .ok (a || b, rest)
      | .error e => .error e
    | r => r

def readAll (fs : FileSystem) : Nat → List String → Except String (Bool × List String)
  | 0, _ => .error "argument expected"
  | fuel + 1, args =>
    match readNegated fs fuel args with
    | .error e => .error e
    | .ok (a, "-a" :: rest) =>
      match readAll fs fuel rest with
      | .ok (b, rest) => .ok (a && b, rest)
      | .error e => .error e
    | r => r

def readNegated (fs : FileSystem) : Nat → List String → Except String (Bool × List String)
  | 0, _ => .error "argument expected"
  | fuel + 1, args =>
    match args with
    | [] => .error "argument expected"
    | ["!"] => .ok (true, [])
    | "!" :: rest =>
      match readNegated fs fuel rest with
      | .ok (a, rest) => .ok (!a, rest)
      | .error e => .error e
    | a :: op :: b :: rest =>
      match binary? a op b with
      | some (.ok v) => .ok (v, rest)
      | some (.error e) => .error e
      | none => readSingle fs fuel args
    | _ => readSingle fs fuel args

/-- A condition in parentheses, a test of one operand, or an operand alone. -/
def readSingle (fs : FileSystem) : Nat → List String → Except String (Bool × List String)
  | 0, _ => .error "argument expected"
  | fuel + 1, args =>
    match args with
    | [] => .error "argument expected"
    | "(" :: rest =>
      match readAny fs fuel rest with
      | .ok (v, ")" :: rest) => .ok (v, rest)
      | .ok _ => .error "closing paren expected"
      | .error e => .error e
    | op :: a :: rest =>
      match unary? fs op a with
      | some v => .ok (v, rest)
      | none => .ok (op ≠ "", a :: rest)
    | [a] => .ok (a ≠ "", [])

end

/-- Whether the condition of some arguments holds. Up to four of them are read by their number. -/
def condition (fs : FileSystem) (args : List String) : Verdict :=
  let long (args : List String) : Verdict :=
    match readAny fs (8 * args.length + 8) args with
    | .ok (v, []) => .ok v
    | .ok (_, extra :: _) => .error (extra ++ ": unexpected operator")
    | .error e => .error e
  let two (op a : String) : Verdict :=
    if op = "!" then .ok (a = "")
    else
      match unary? fs op a with
      | some v => .ok v
      | none => .error (op ++ ": unexpected operator")
  let three (a op b : String) : Verdict :=
    match binary? a op b with
    | some v => v
    | none =>
      if a = "!" then (two op b).map (!·)
      else if a = "(" ∧ b = ")" then .ok (op ≠ "")
      else long [a, op, b]
  match args with
  | [] => .ok false
  | [a] => .ok (a ≠ "")
  | [op, a] => two op a
  | [a, op, b] => three a op b
  | ["!", a, op, b] => (three a op b).map (!·)
  | args => long args

/-- The status of a condition, with a message if it makes no sense. -/
def verdictEffect (c : Call) (v : Verdict) : Effect :=
  match v with
  | .ok true => {}
  | .ok false => { status := .failure }
  | .error e => c.fails 2 e

def test (c : Call) : Effect :=
  verdictEffect c (condition c.files c.args)

def bracket (c : Call) : Effect :=
  if c.args.getLast? = some "]" then verdictEffect c (condition c.files c.args.dropLast)
  else c.fails 2 "missing ']'"

/-- Whether an expression's value counts as true. -/
def counts (s : String) : Bool :=
  s ≠ "" && s ≠ "0" && (Text.integer? s.toList != some 0)

/-- The match of a pattern at the start of a text: the first group if there is one, or else how
long the match is. -/
def matchText (text pattern : String) : String :=
  let r := Regex.ofText false pattern.toList
  let grouped := pattern.toList.zip (pattern.toList.drop 1) |>.contains ('\\', '(')
  match r.matchAt? false ⟨[], text.toList, []⟩ with
  | some p =>
    if grouped then String.ofList ((p.groups.lookup 1).getD [])
    else Text.naturalText (text.length - p.ahead.length)
  | none => if grouped then "" else "0"

/-- Combines two values by an operator of a certain strength. -/
def combine? (level : Nat) (op a b : String) : Option (Except String String) :=
  let integers (f : Int → Int → Except String Int) : Option (Except String String) :=
    match Text.integer? a.toList, Text.integer? b.toList with
    | some x, some y => some ((f x y).map Text.integerText)
    | _, _ => some (.error "non-integer argument")
  let compared (f : Ordering → Bool) : Option (Except String String) :=
    let order := match Text.integer? a.toList, Text.integer? b.toList with
      | some x, some y => compare x y
      | _, _ => compare a b
    some (.ok (if f order then "1" else "0"))
  match level, op with
  | 0, "|" => some (.ok (if counts a then a else if counts b then b else "0"))
  | 1, "&" => some (.ok (if counts a && counts b then a else "0"))
  | 2, "=" | 2, "==" => compared (· == .eq)
  | 2, "!=" => compared (· != .eq)
  | 2, "<" => compared (· == .lt)
  | 2, "<=" => compared (· != .gt)
  | 2, ">" => compared (· == .gt)
  | 2, ">=" => compared (· != .lt)
  | 3, "+" => integers fun x y => .ok (x + y)
  | 3, "-" => integers fun x y => .ok (x - y)
  | 4, "*" => integers fun x y => .ok (x * y)
  | 4, "/" => integers fun x y =>
      if y = 0 then .error "division by zero" else .ok (Int.tdiv x y)
  | 4, "%" => integers fun x y =>
      if y = 0 then .error "division by zero" else .ok (Int.tmod x y)
  | 5, ":" => some (.ok (matchText a b))
  | _, _ => none

mutual

/-- An expression whose operators have at least a certain strength; six has none. -/
def readLevel : Nat → Nat → List String → Except String (String × List String)
  | 0, _, _ => .error "syntax error"
  | fuel + 1, level, args =>
    if 6 ≤ level then readTerm fuel args
    else
      match readLevel fuel (level + 1) args with
      | .ok (a, rest) => readMore fuel level a rest
      | .error e => .error e

/-- Operators of a certain strength after a value. -/
def readMore : Nat → Nat → String → List String → Except String (String × List String)
  | 0, _, _, _ => .error "syntax error"
  | fuel + 1, level, a, args =>
    match args with
    | op :: rest =>
      if (combine? level op "1" "1").isNone then .ok (a, args)
      else
        match readLevel fuel (level + 1) rest with
        | .error e => .error e
        | .ok (b, rest) =>
          match combine? level op a b with
          | some (.ok v) => readMore fuel level v rest
          | some (.error e) => .error e
          | none => .ok (a, args)
    | [] => .ok (a, [])

def readTerm : Nat → List String → Except String (String × List String)
  | 0, _ => .error "syntax error"
  | fuel + 1, args =>
    match args with
    | [] => .error "syntax error: missing argument"
    | "(" :: rest =>
      match readLevel fuel 0 rest with
      | .ok (v, ")" :: rest) => .ok (v, rest)
      | .ok _ => .error "syntax error: expecting ')'"
      | .error e => .error e
    | "length" :: s :: rest => .ok (Text.naturalText s.length, rest)
    | "match" :: s :: p :: rest => .ok (matchText s p, rest)
    | "index" :: s :: cs :: rest =>
      .ok (Text.naturalText ((s.toList.findIdx? cs.toList.contains).map (· + 1) |>.getD 0), rest)
    | "substr" :: s :: i :: n :: rest =>
      let value := match Text.integer? i.toList, Text.integer? n.toList with
        | some i, some n =>
          if 0 < i ∧ 0 < n then (s.toList.drop (i.toNat - 1)).take n.toNat else []
        | _, _ => []
      .ok (String.ofList value, rest)
    | "+" :: s :: rest => .ok (s, rest)
    | s :: rest => .ok (s, rest)

end

def expr (c : Call) : Effect :=
  if c.args.isEmpty then c.misused 2 "missing operand"
  else
    match readLevel (16 * c.args.length + 16) 0 c.args with
    | .ok (v, []) =>
      { output := .of (v.toList ++ ['\n']), status := if counts v then .success else .failure }
    | .ok (_, extra :: _) => c.fails 2 ("syntax error: unexpected argument '" ++ extra ++ "'")
    | .error e => c.fails 2 e

end Flowboard.Utility
