import Flowboard.Script.Number
import Flowboard.Utility.Regex

/-! How programs of rules are written. -/
namespace Flowboard.Rules

/-- Where what a statement prints goes. -/
inductive Outlet where
  | file
  | append
  | command
  deriving DecidableEq, Repr

/-- Two numbers become one. -/
inductive Arithmetic where
  | add
  | sub
  | mul
  | div
  | mod
  | pow
  deriving DecidableEq, Repr

inductive Comparison where
  | lt
  | le
  | eq
  | ne
  | gt
  | ge
  deriving DecidableEq, Repr

inductive Expr where
  | number (x : Float)
  | text (s : List Char)
  | variable (name : String)
  | field (e : Expr)
  | element (array : String) (keys : List Expr)
  | assign (target e : Expr)
  | update (op : Arithmetic) (target e : Expr)
  /-- adds to a variable; the value is the new one if `before` -/
  | step (before : Bool) (by_ : Float) (target : Expr)
  | choice (test a b : Expr)
  | either (a b : Expr)
  | both (a b : Expr)
  | matches_ (wanted : Bool) (e pattern : Expr)
  | compare (op : Comparison) (a b : Expr)
  | join (a b : Expr)
  | arithmetic (op : Arithmetic) (a b : Expr)
  | negative (e : Expr)
  | plus (e : Expr)
  | not (e : Expr)
  deriving Inhabited

inductive Statement where
  | value (e : Expr)
  | print (args : List Expr) (outlet : Option (Outlet × Expr))
  | block (ss : List Statement)
  deriving Inhabited

/-- When a rule applies. -/
inductive Pattern where
  | end_
  | always
  | when (e : Expr)
  | range (first last : Expr)
  deriving Inhabited

structure Rule where
  pattern : Pattern
  /-- the record is printed if there is no action -/
  action : Option Statement
  deriving Inhabited

structure Program where
  rules : List Rule := []
  deriving Inhabited

def builtinNames : List String :=
  ["length", "substr", "index", "split", "sub", "gsub", "match", "sprintf", "sin", "cos", "atan2",
   "exp", "log", "sqrt", "int", "rand", "srand", "tolower", "toupper", "system", "close", "fflush",
   "systime", "strftime", "mktime"]

inductive Token where
  | number (x : Float)
  | text (s : List Char)
  | pattern (s : List Char)
  | name (s : String)
  /-- a name with a parenthesis right behind it -/
  | called (s : String)
  | builtin (s : String)
  | keyword (s : String)
  | mark (s : String)
  | newline
  /-- something that is no token, and why -/
  | bad (message : String)
  deriving Inhabited

def keywords : List String :=
  ["BEGIN", "END", "function", "func", "if", "else", "while", "for", "do", "break", "continue",
   "next", "nextfile", "exit", "return", "delete", "in", "getline", "print", "printf"]

/-- The character that an escape in a text stands for, and the rest. -/
def readEscape (s : List Char) : List Char × List Char :=
  match s with
  | 'n' :: r => (['\n'], r)
  | 't' :: r => (['\t'], r)
  | 'r' :: r => (['\r'], r)
  | '\\' :: r => (['\\'], r)
  | '"' :: r => (['"'], r)
  | 'a' :: r => (['\x07'], r)
  | 'b' :: r => (['\x08'], r)
  | 'f' :: r => (['\x0c'], r)
  | 'v' :: r => (['\x0b'], r)
  | '\n' :: r => ([], r)
  | c :: r =>
    if '0' ≤ c ∧ c ≤ '7' then
      let ds := (s.take 3).takeWhile fun c => '0' ≤ c && c ≤ '7'
      let n := ds.foldl (fun n c => 8 * n + (c.toNat - 48)) 0
      ([Char.ofNat (n % 256)], s.drop ds.length)
    else (['\\', c], r)
  | [] => (['\\'], [])

/-- A text up to its closing quote. Each character uses up one of the fuel. -/
def readText : Nat → List Char → List Char → Option (List Char × List Char)
  | 0, _, _ => none
  | _, _, [] => none
  | _ + 1, done, '"' :: rest => some (done.reverse, rest)
  | fuel + 1, done, '\\' :: rest =>
    let (cs, rest) := readEscape rest
    readText fuel (cs.reverse ++ done) rest
  | fuel + 1, done, c :: rest => readText fuel (c :: done) rest

/-- An expression up to its closing slash; in a set, a slash closes nothing. -/
def readPattern : Nat → Bool → List Char → List Char → Option (List Char × List Char)
  | 0, _, _, _ => none
  | _, _, _, [] => none
  | fuel + 1, inside, done, c :: rest =>
    match c, rest, inside with
    | '/', _, false => some (done.reverse, rest)
    | '\n', _, _ => none
    | '\\', '/' :: rest, _ => readPattern fuel inside ('/' :: done) rest
    | '\\', d :: rest, _ => readPattern fuel inside (d :: '\\' :: done) rest
    | '[', ']' :: rest, false => readPattern fuel true (']' :: '[' :: done) rest
    | '[', '^' :: ']' :: rest, false => readPattern fuel true (']' :: '^' :: '[' :: done) rest
    | '[', _, false => readPattern fuel true (c :: done) rest
    | ']', _, true => readPattern fuel false (c :: done) rest
    | _, _, _ => readPattern fuel inside (c :: done) rest

/-- The number at the start of a text, as far as it goes. -/
def numberSpan (s : List Char) : List Char :=
  let whole := s.takeWhile Char.isDigit
  let rest := s.drop whole.length
  let fraction := match rest with
    | '.' :: r => '.' :: r.takeWhile Char.isDigit
    | _ => []
  let mantissa := whole ++ fraction
  if mantissa.all (· == '.') then []
  else
    match s.drop mantissa.length with
    | e :: r =>
      if e = 'e' ∨ e = 'E' then
        let (sign, ds) := match r with
          | '+' :: ds => (['+'], ds)
          | '-' :: ds => (['-'], ds)
          | ds => ([], ds)
        let digits := ds.takeWhile Char.isDigit
        if digits.isEmpty then mantissa else mantissa ++ e :: (sign ++ digits)
      else mantissa
    | [] => mantissa

def numberOf (s : List Char) : Float :=
  let s := s.filter (· != '+')
  (Script.floatOf? s).getD 0.0

/-- Whether an operand has just ended, so that a slash divides. -/
def endsOperand : Option Token → Bool
  | some (.number _) | some (.text _) | some (.name _) | some (.builtin _) => true
  | some (.mark m) => m = ")" || m = "]" || m = "$" || m = "++" || m = "--"
  | _ => false

def longMarks : List String :=
  ["&&", "||", "++", "--", "+=", "-=", "*=", "/=", "%=", "^=", "==", "<=", ">=", "!=", "!~", ">>"]

/-- The tokens of a program. Each one uses up one of the fuel. -/
def tokens : Nat → Option Token → List Char → List Token
  | 0, _, _ => []
  | _, _, [] => []
  | fuel + 1, last, c :: rest =>
    let more (t : Token) (rest : List Char) : List Token := t :: tokens fuel (some t) rest
    let runaway (what : String) (span : List Char) : List Token :=
      let shown := (c :: span).takeWhile (· != '\n')
      [.bad ("runaway " ++ what ++ " " ++ String.ofList (shown.take 11) ++ " ...")]
    if c = ' ' || c = '\t' || c = '\r' then tokens fuel last rest
    else if c = '\\' && rest.head? = some '\n' then tokens fuel last (rest.drop 1)
    else if c = '\n' then more .newline rest
    else if c = '#' then tokens fuel last (rest.dropWhile (· != '\n'))
    else if c = '"' then
      match readText (rest.length + 1) [] rest with
      | some (s, rest) => more (.text s) rest
      | none => runaway "string constant" rest
    else if c.isDigit || (c = '.' && rest.head?.any Char.isDigit) then
      let span := numberSpan (c :: rest)
      more (.number (numberOf span)) ((c :: rest).drop span.length)
    else if c.isAlpha || c = '_' then
      let word := (c :: rest).takeWhile fun c => c.isAlphanum || c == '_'
      let after := (c :: rest).drop word.length
      let s := String.ofList word
      if keywords.contains s then more (.keyword s) after
      else if builtinNames.contains s then more (.builtin s) after
      else if after.head? = some '(' then more (.called s) after
      else more (.name s) after
    else if c = '/' && !endsOperand last then
      match readPattern (rest.length + 1) false [] rest with
      | some (s, rest) => more (.pattern s) rest
      | none => runaway "regular expression" rest
    else
      let two := String.ofList (c :: rest.take 1)
      if longMarks.contains two then
        more (.mark two) (rest.drop 1)
      else more (.mark c.toString) rest

abbrev Reading := ExceptT String (StateM (List Token))

def peek : Reading (Option Token) := do
  return (← get).head?

def skip : Reading Unit :=
  modify (·.drop 1)

def isMark (t : Option Token) (s : String) : Bool :=
  match t with
  | some (.mark m) => m == s
  | _ => false

def takes (s : String) : Reading Bool := do
  if isMark (← peek) s then
    skip
    return true
  return false

def tokenText : Option Token → String
  | some (.number _) => "number"
  | some (.text s) => "\"" ++ String.ofList s ++ "\""
  | some (.pattern s) => "/" ++ String.ofList s ++ "/"
  | some (.name s) | some (.called s) | some (.builtin s) | some (.keyword s) | some (.mark s) => s
  | some .newline => "end of line"
  | some (.bad m) => m
  | none => "end of file"

def unexpected {α : Type} : Reading α := do
  match ← peek with
  | some (.bad m) => throw m
  | t => throw ("syntax error at or near " ++ tokenText t)

def expect (s : String) : Reading Unit := do
  unless ← takes s do unexpected

def skipLines : Reading Unit :=
  modify (·.dropWhile fun
    | .newline => true
    | _ => false)

/-- Whether something can be assigned to. -/
def isTarget : Expr → Bool
  | .variable _ | .field _ | .element _ _ => true
  | _ => false

/-- The expression of an expression text. Braces stand for themselves. -/
def patternOf (s : List Char) : Utility.Regex :=
  Utility.Regex.ofText true (plain (s.length + 1) s)
where
  plain : Nat → List Char → List Char
    | 0, s => s
    | _, [] => []
    | fuel + 1, '\\' :: c :: rest =>
      match c with
      | '"' | '/' | '&' => c :: plain fuel rest
      | 'n' | 't' | 'r' | 'a' | 'b' | 'f' | 'v' =>
        (readEscape (c :: rest)).1 ++ plain fuel rest
      | c =>
        if '0' ≤ c ∧ c ≤ '7' then
          let (cs, rest) := readEscape (c :: rest)
          cs.flatMap (fun c => if c.isAlphanum then [c] else ['\\', c]) ++ plain fuel rest
        else if c.isAlpha then c :: plain fuel rest
        else '\\' :: c :: plain fuel rest
    | fuel + 1, '[' :: rest =>
      let first := rest.takeWhile (· == '^')
      let rest := rest.drop first.length
      let (close, rest) := match rest with
        | ']' :: r => ([']'], r)
        | r => ([], r)
      let (body, rest) := set fuel rest
      '[' :: (first ++ close ++ body ++ plain fuel rest)
    | fuel + 1, c :: rest =>
      if c = '\x7b' ∨ c = '\x7d' then '\\' :: c :: plain fuel rest else c :: plain fuel rest
  /-- the rest of a set, in which escapes count -/
  set : Nat → List Char → List Char × List Char
    | 0, s => ([], s)
    | _, [] => ([], [])
    | _, ']' :: rest => ([']'], rest)
    | fuel + 1, '[' :: ':' :: rest =>
      let name := rest.takeWhile (· != ']')
      let (body, after) := set fuel (rest.drop (name.length + 1))
      ('[' :: ':' :: (name ++ ']' :: body), after)
    | fuel + 1, '\\' :: c :: rest =>
      let (cs, rest) := match readEscape (c :: rest) with
        | (['\\', c], rest) => ([c], rest)
        | r => r
      let (body, after) := set fuel rest
      -- a closing bracket or a hyphen keeps its own meaning at the start only
      (cs ++ body, after)
    | fuel + 1, c :: rest =>
      let (body, after) := set fuel rest
      (c :: body, after)

def startsOperand : Option Token → Bool
  | some (.number _) | some (.text _) | some (.pattern _) | some (.name _) | some (.called _)
  | some (.builtin _) => true
  | some (.mark m) => m = "$" || m = "!" || m = "(" || m = "-" || m = "+" || m = "++" || m = "--"
  | _ => false

def comparison? : String → Option Comparison
  | "<" => some .lt
  | "<=" => some .le
  | "==" => some .eq
  | "!=" => some .ne
  | ">" => some .gt
  | ">=" => some .ge
  | _ => none

def updateOf? : String → Option Arithmetic
  | "+=" => some .add
  | "-=" => some .sub
  | "*=" => some .mul
  | "/=" => some .div
  | "%=" => some .mod
  | "^=" => some .pow
  | _ => none

mutual

/-- An expression; `>` compares unless `printing`. Each level uses up one of the fuel. -/
def readExpr (printing : Bool) : Nat → Reading Expr
  | 0 => throw "syntax error"
  | fuel + 1 => do
    let a ← readChoice printing fuel
    if isTarget a then
      match ← peek with
      | some (.mark "=") =>
        skip
        skipLines
        return .assign a (← readExpr printing fuel)
      | some (.mark m) =>
        match updateOf? m with
        | some op =>
          skip
          skipLines
          return .update op a (← readExpr printing fuel)
        | none => return a
      | _ => return a
    else return a

def readChoice (printing : Bool) : Nat → Reading Expr
  | 0 => throw "syntax error"
  | fuel + 1 => do
    let test ← readEither printing fuel
    if ← takes "?" then
      skipLines
      let a ← readExpr printing fuel
      skipLines
      expect ":"
      skipLines
      return .choice test a (← readExpr printing fuel)
    else return test

def readEither (printing : Bool) : Nat → Reading Expr
  | 0 => throw "syntax error"
  | fuel + 1 => do
    let a ← readBoth printing fuel
    if ← takes "||" then
      skipLines
      return .either a (← readEither printing fuel)
    else return a

def readBoth (printing : Bool) : Nat → Reading Expr
  | 0 => throw "syntax error"
  | fuel + 1 => do
    let a ← readMatch printing fuel
    if ← takes "&&" then
      skipLines
      return .both a (← readBoth printing fuel)
    else return a

def readMatch (printing : Bool) : Nat → Reading Expr
  | 0 => throw "syntax error"
  | fuel + 1 => do
    let a ← readComparison printing fuel
    moreMatch printing fuel a

def moreMatch (printing : Bool) : Nat → Expr → Reading Expr
  | 0, a => return a
  | fuel + 1, a => do
    if ← takes "~" then
      moreMatch printing fuel (.matches_ true a (← readComparison printing fuel))
    else if ← takes "!~" then
      moreMatch printing fuel (.matches_ false a (← readComparison printing fuel))
    else return a

def readComparison (printing : Bool) : Nat → Reading Expr
  | 0 => throw "syntax error"
  | fuel + 1 => do
    let a ← readJoin fuel
    match ← peek with
    | some (.mark m) =>
      match comparison? m with
      | some op =>
        if printing && m = ">" then return a
        else if printing && m = ">=" then throw "syntax error at or near ="
        else
          skip
          let b ← readJoin fuel
          return .compare op a b
      | none => return a
    | _ => return a

def readJoin : Nat → Reading Expr
  | 0 => throw "syntax error"
  | fuel + 1 => do
    let a ← readSum fuel
    moreJoin fuel a

def moreJoin : Nat → Expr → Reading Expr
  | 0, a => return a
  | fuel + 1, a => do
    let t ← peek
    -- a sign between operands has been read as a sum
    if startsOperand t && !isMark t "+" && !isMark t "-" then
      moreJoin fuel (.join a (← readSum fuel))
    else return a

def readSum : Nat → Reading Expr
  | 0 => throw "syntax error"
  | fuel + 1 => do
    let a ← readProduct fuel
    moreSum fuel a

def moreSum : Nat → Expr → Reading Expr
  | 0, a => return a
  | fuel + 1, a => do
    if ← takes "+" then moreSum fuel (.arithmetic .add a (← readProduct fuel))
    else if ← takes "-" then moreSum fuel (.arithmetic .sub a (← readProduct fuel))
    else return a

def readProduct : Nat → Reading Expr
  | 0 => throw "syntax error"
  | fuel + 1 => do
    let a ← readSigned fuel
    moreProduct fuel a

def moreProduct : Nat → Expr → Reading Expr
  | 0, a => return a
  | fuel + 1, a => do
    if ← takes "*" then moreProduct fuel (.arithmetic .mul a (← readSigned fuel))
    else if ← takes "/" then moreProduct fuel (.arithmetic .div a (← readSigned fuel))
    else if ← takes "%" then moreProduct fuel (.arithmetic .mod a (← readSigned fuel))
    else return a

def readSigned : Nat → Reading Expr
  | 0 => throw "syntax error"
  | fuel + 1 => do
    if ← takes "!" then return .not (← readSigned fuel)
    else if ← takes "-" then return .negative (← readSigned fuel)
    else if ← takes "+" then return .plus (← readSigned fuel)
    else readPower fuel

def readPower : Nat → Reading Expr
  | 0 => throw "syntax error"
  | fuel + 1 => do
    let a ← readStep fuel
    if ← takes "^" then
      let b ← if ← takes "-" then pure (.negative (← readPower fuel))
        else if ← takes "+" then readPower fuel
        else if ← takes "!" then pure (.not (← readPower fuel))
        else readPower fuel
      return .arithmetic .pow a b
    else return a

def readStep : Nat → Reading Expr
  | 0 => throw "syntax error"
  | fuel + 1 => do
    if ← takes "++" then return .step true 1.0 (← readPrimary fuel)
    else if ← takes "--" then return .step true (-1.0) (← readPrimary fuel)
    else
      let a ← readPrimary fuel
      if isTarget a then
        if ← takes "++" then return .step false 1.0 a
        else if ← takes "--" then return .step false (-1.0) a
        else return a
      else return a

def readPrimary : Nat → Reading Expr
  | 0 => throw "syntax error"
  | fuel + 1 => do
    match ← peek with
    | some (.number x) => skip; return .number x
    | some (.text s) => skip; return .text s
    | some (.mark "$") =>
      skip
      if ← takes "++" then return .field (.step true 1.0 (← readPrimary fuel))
      else if ← takes "--" then return .field (.step true (-1.0) (← readPrimary fuel))
      else if ← takes "-" then return .field (.negative (← readPrimary fuel))
      else return .field (← readPrimary fuel)
    | some (.name n) =>
      skip
      if ← takes "[" then
        let keys ← readList false fuel
        expect "]"
        return .element n keys
      else return .variable n
    | _ => unexpected

/-- Expressions with commas between them. -/
def readList (printing : Bool) : Nat → Reading (List Expr)
  | 0 => throw "syntax error"
  | fuel + 1 => do
    let e ← readExpr printing fuel
    skipBeforeComma
    if ← takes "," then
      skipLines
      return e :: (← readList printing fuel)
    else return [e]

/-- Ends of lines before a comma do not count. -/
def skipBeforeComma : Reading Unit := do
  let rest := (← get).dropWhile fun
    | .newline => true
    | _ => false
  if isMark rest.head? "," then set rest

end

/-- Whether a statement ends here. -/
def atEnd : Option Token → Bool
  | none | some .newline => true
  | some (.mark m) => m = ";" || m = "\x7d"
  | _ => false

def endStatement : Reading Unit := do
  match ← peek with
  | some (.mark ";") => skip; skipLines
  | some .newline => skipLines
  | some (.mark "\x7d") => return
  | none => return
  | _ => unexpected

def skipEnds : Reading Unit :=
  modify (·.dropWhile fun
    | .newline => true
    | .mark m => m == ";"
    | _ => false)

/-- What is printed: a list that may stand in parentheses. -/
def readPrinted (fuel : Nat) : Reading (List Expr) := do
  let start ← get
  if atEnd start.head? || isMark start.head? ">" || isMark start.head? ">>" ||
      isMark start.head? "|" then return []
  let whole : Reading (List Expr) := readList true fuel
  if isMark start.head? "(" then
    let inside : Reading (List Expr) := do
      skip
      skipLines
      let es ← readList false fuel
      skipLines
      expect ")"
      let t ← peek
      if atEnd t || isMark t ">" || isMark t ">>" || isMark t "|" then return es else unexpected
    try inside
    catch _ =>
      set start
      whole
  else whole

def readOutlet (fuel : Nat) : Reading (Option (Outlet × Expr)) := do
  if ← takes ">" then return some (.file, ← readExpr false fuel)
  else if ← takes ">>" then return some (.append, ← readExpr false fuel)
  else if ← takes "|" then return some (.command, ← readExpr false fuel)
  else return none

/-- A statement without others in it, and without its end. -/
def readSimple (fuel : Nat) : Reading Statement := do
  match ← peek with
  | some (.keyword "print") =>
    skip
    let args ← readPrinted fuel
    return .print args (← readOutlet fuel)
  | _ => return .value (← readExpr false fuel)

mutual

def readStatement : Nat → Reading Statement
  | 0 => throw "syntax error"
  | fuel + 1 => do
    let s ← readSimple fuel
    endStatement
    return s

/-- Statements between braces. -/
def readBlock : Nat → Reading Statement
  | 0 => throw "syntax error"
  | fuel + 1 => do
    expect "\x7b"
    skipEnds
    let ss ← readStatements fuel
    expect "\x7d"
    match ← peek with
    | some (.mark ";") => skip; skipLines
    | some .newline => skipLines
    | _ => pure ()
    return .block ss

def readStatements : Nat → Reading (List Statement)
  | 0 => throw "syntax error"
  | fuel + 1 => do
    skipEnds
    if isMark (← peek) "\x7d" || (← peek).isNone then return []
    else
      let s ← readStatement fuel
      return s :: (← readStatements fuel)

end

def readProgram : Nat → Program → Reading Program
  | 0, _ => throw "syntax error"
  | fuel + 1, p => do
    skipEnds
    let action : Reading (Option Statement) := do
      if isMark (← peek) "\x7b" then
        let b ← readBlock fuel
        return some b
      else return none
    match ← peek with
    | none => return { p with rules := p.rules.reverse }
    | some (.keyword "END") =>
      skip
      let a ← action
      if a.isNone then unexpected
      readProgram fuel { p with rules := ⟨.end_, a⟩ :: p.rules }
    | some (.mark "\x7b") =>
      let a ← action
      readProgram fuel { p with rules := ⟨.always, a⟩ :: p.rules }
    | _ =>
      let first ← readExpr false fuel
      let pattern ← if ← takes "," then do
          skipLines
          let last ← readExpr false fuel
          pure (Pattern.range first last)
        else pure (Pattern.when first)
      let a ← action
      if a.isNone && !atEnd (← peek) then unexpected
      readProgram fuel { p with rules := ⟨pattern, a⟩ :: p.rules }

/-- How many marks of one kind are open after some tokens. -/
def openMarks (opening closing : String) (ts : List Token) : Nat :=
  ts.foldl (fun n t => if isMark (some t) opening then n + 1
    else if isMark (some t) closing then n - 1 else n) 0

/-- What is wrong, with the line at which it was noticed and a hint at what is missing. -/
def faultText (all rest : List Token) (message : String) : String :=
  let before := all.take (all.length - rest.length)
  let line := 1 + (before.filter fun t => t matches .newline).length
  let told (m : String) : String := "line " ++ Text.naturalText line ++ ": " ++ m
  let near := tokenText rest.head?
  let ends := rest.isEmpty || near = "end of line" || near = ";" || near = "\x7d"
  if ends && 0 < openMarks "(" ")" before then told ("missing ) near " ++ near)
  else if rest.isEmpty && 0 < openMarks "\x7b" "\x7d" before then
    told "missing \x7d near end of file"
  else if near = "\x7d" && openMarks "\x7b" "\x7d" before = 0 then
    told "extra '\x7d'" ++ "\nawk: " ++ told "syntax error at or near end of line"
  else told message

def Program.read (text : List Char) : Except String Program :=
  let text := text ++ ['\n']
  let ts := tokens (text.length + 1) none text
  let fuel := 40 * ts.length + 200
  match (readProgram fuel {}).run.run ts with
  | (.ok p, _) => .ok p
  | (.error e, rest) => .error (faultText ts rest e)

end Flowboard.Rules
