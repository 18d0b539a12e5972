import Flowboard.Script.Number
import Flowboard.Text.Octet

/-! How programs with prototypes are read. -/
namespace Flowboard.Prototype

/-- How a name is bound. -/
inductive Binding where
  /-- in the whole function -/
  | wide
  /-- in the block -/
  | narrow
  /-- in the block, and never changed -/
  | fixed
  deriving DecidableEq, Repr

/-- What a member of an object or a class is. -/
inductive MemberKind where
  | value
  | method
  | getter
  | setter
  | field
  /-- a block that runs when the class is made -/
  | block
  deriving DecidableEq, Repr

mutual

inductive Expr where
  | number (x : Float)
  | bigint (n : Int)
  | text (s : String)
  | regex (source flags : String)
  /-- texts with values between them -/
  | template (parts : List String) (values : List Expr)
  /-- a call with the texts, as meant and as written, and the values -/
  | tagged (tag : Expr) (parts raw : List String) (values : List Expr)
  | name (n : String)
  | constant (word : String)
  | this
  | newTarget
  | array (items : List Item)
  | object (members : List Member)
  | function (f : Function)
  | class_ (name : String) (parent : Option Expr) (members : List Member)
  | unary (op : String) (e : Expr)
  /-- adds one or takes it away; the value is the new one if `before` -/
  | update (op : String) (before : Bool) (target : Expr)
  | binary (op : String) (a b : Expr)
  /-- the second one counts only if the first one does not decide -/
  | logical (op : String) (a b : Expr)
  | assign (target : Pattern) (e : Expr)
  | assignWith (op : String) (target e : Expr)
  | choice (test a b : Expr)
  | call (f : Expr) (args : List Item) (optional : Bool)
  | new (f : Expr) (args : List Item)
  | member (e : Expr) (name : String) (optional : Bool)
  | index (e i : Expr) (optional : Bool)
  /-- where a chain of optional parts ends -/
  | chain (e : Expr)
  | sequence (a b : Expr)
  | yield (delegate : Bool) (e : Option Expr)
  | await (e : Expr)
  | group (e : Expr)

inductive Item where
  | one (e : Expr)
  | spread (e : Expr)
  | hole

inductive Key where
  | name (s : String)
  | computed (e : Expr)

inductive Member where
  | mk (key : Key) (kind : MemberKind) (value : Option Expr) (isStatic : Bool)
  | spread (e : Expr)

/-- What values are given to. -/
inductive Pattern where
  | name (n : String)
  | place (e : Expr)
  | array (items : List PatternItem)
  | object (parts : List PatternPart) (rest : Option Pattern)
  | withDefault (p : Pattern) (e : Expr)

inductive PatternItem where
  | one (p : Pattern)
  | rest (p : Pattern)
  | hole

inductive PatternPart where
  | mk (key : Key) (p : Pattern)

inductive Function where
  | mk (name : String) (params : List PatternItem) (body : List Statement) (arrow async : Bool)
      (generator : Bool) (method : Bool)

inductive Statement where
  | value (e : Expr)
  | declare (kind : Binding) (parts : List Declared)
  | function (name : String) (f : Function)
  | class_ (name : String) (e : Expr)
  | give (e : Option Expr)
  | guarded (body : List Statement) (catcher : Option Catcher) (last : Option (List Statement))
  | labelled (label : String) (s : Statement)

inductive Declared where
  | mk (p : Pattern) (e : Option Expr)

inductive Catcher where
  | mk (p : Option Pattern) (body : List Statement)

inductive Arm where
  | mk (test : Option Expr) (body : List Statement)

end

inductive Lexeme where
  | name (s : String)
  | privateName (s : String)
  | number (x : Float)
  | bigint (n : Int)
  | text (s : String)
  | regex (source flags : String)
  /-- texts, as meant and as written, and the programs between them -/
  | template (parts raw : List String) (values : List (List Char))
  | mark (s : String)
  | bad
  deriving Inhabited

/-- A word or mark, and whether a line ends before it. -/
structure Token where
  lexeme : Lexeme
  newline : Bool
  deriving Inhabited

/-- Marks, longer ones first. -/
def marks : List String :=
  [">>>=", "...", "===", "!==", "**=", "<<=", ">>=", ">>>", "&&=", "||=", "??=", "=>", "==", "!=",
   "<=", ">=", "&&", "||", "??", "?.", "++", "--", "+=", "-=", "*=", "/=", "%=", "&=", "|=", "^=",
   "<<", ">>", "**", "\x7b", "\x7d", "(", ")", "[", "]", ";", ",", "<", ">", "+", "-", "*", "/",
   "%", "&", "|", "^", "!", "~", "?", ":", "=", ".", "@"]

def isStart (c : Char) : Bool :=
  c.isAlpha || c == '_' || c == '$' || 128 ≤ c.toNat

def isPart (c : Char) : Bool :=
  isStart c || c.isDigit

/-- The words after which no operand has ended. -/
def operatorWords : List String :=
  ["return", "typeof", "case", "in", "of", "delete", "void", "throw", "new", "else", "do", "yield",
   "await", "instanceof"]

/-- Whether a slash starts a regular expression after a word or mark. -/
def startsRegex : Option Lexeme → Bool
  | none => true
  | some (.name s) => operatorWords.contains s
  | some (.mark m) => m != ")" && m != "]" && m != "\x7d" && m != "++" && m != "--"
  | some _ => false

/-- A regular expression after its first slash: its source and what follows. -/
def readRegex : Nat → Bool → List Char → List Char → Option (List Char × List Char)
  | 0, _, _, _ => none
  | _, _, _, [] => none
  | fuel + 1, inSet, done, c :: rest =>
    match c, rest with
    | '\n', _ => none
    | '\\', d :: rest => readRegex fuel inSet (d :: '\\' :: done) rest
    | '[', _ => readRegex fuel true (c :: done) rest
    | ']', _ => readRegex fuel false (c :: done) rest
    | '/', _ => if inSet then readRegex fuel inSet (c :: done) rest else some (done.reverse, rest)
    | _, _ => readRegex fuel inSet (c :: done) rest

/-- What an escape after a backslash stands for, and what follows it. -/
def readEscape (s : List Char) : List Char × List Char :=
  let hex (ds : List Char) : Nat := ds.foldl (fun n c => 16 * n + (Text.digitIn? 16 c).getD 0) 0
  let isHex (ds : List Char) : Bool := ds.all fun c => (Text.digitIn? 16 c).isSome
  match s with
  | 'n' :: r => (['\n'], r)
  | 't' :: r => (['\t'], r)
  | 'r' :: r => (['\r'], r)
  | 'b' :: r => (['\x08'], r)
  | 'f' :: r => (['\x0c'], r)
  | 'v' :: r => (['\x0b'], r)
  | '\r' :: '\n' :: r => ([], r)
  | '\n' :: r => ([], r)
  | 'x' :: a :: b :: r =>
    if isHex [a, b] then ([Char.ofNat (hex [a, b])], r) else (['x'], a :: b :: r)
  | 'u' :: '{' :: r =>
    let ds := r.takeWhile (· != '}')
    ([Char.ofNat (hex ds)], r.drop (ds.length + 1))
  | 'u' :: a :: b :: c :: d :: r =>
    let n := hex [a, b, c, d]
    if !isHex [a, b, c, d] then (['u'], a :: b :: c :: d :: r)
    else
    -- two halves of one character
    match r with
    | '\\' :: 'u' :: e :: f :: g :: h :: after =>
      let m := hex [e, f, g, h]
      if 0xD800 ≤ n && n < 0xDC00 && 0xDC00 ≤ m && m < 0xE000 then
        ([Char.ofNat (0x10000 + (n - 0xD800) * 1024 + (m - 0xDC00))], after)
      else ([Text.ofCodePoint n], r)
    | _ => ([Text.ofCodePoint n], r)
  | '0' :: r => (['\x00'], r)
  | c :: r => ([c], r)
  | [] => ([], [])

def readText (quote : Char) : Nat → List Char → List Char → Option (List Char × List Char)
  | 0, _, _ => none
  | _, _, [] => none
  | fuel + 1, done, c :: rest =>
    if c = quote then some (done.reverse, rest)
    else if c = '\\' then
      let (cs, rest) := readEscape rest
      readText quote fuel (cs.reverse ++ done) rest
    else if c = '\n' then none
    else readText quote fuel (c :: done) rest

mutual

/-- The program up to a closing brace, as it is written. -/
def untilBrace : Nat → Nat → List Char → List Char → Option (List Char × List Char)
  | 0, _, _, _ => none
  | _, _, _, [] => none
  | fuel + 1, depth, done, c :: rest =>
    match c with
    | '}' =>
      if depth = 0 then some (done.reverse, rest)
      else untilBrace fuel (depth - 1) (c :: done) rest
    | '{' => untilBrace fuel (depth + 1) (c :: done) rest
    | '\'' | '"' =>
      match readText c (rest.length + 1) [] rest with
      | some (_, after) =>
        let inside := rest.take (rest.length - after.length)
        untilBrace fuel depth (inside.reverse ++ c :: done) after
      | none => none
    | '`' =>
      match readTemplate fuel [] [] rest [] [] with
      | some (_, _, _, after) =>
        let inside := rest.take (rest.length - after.length)
        untilBrace fuel depth (inside.reverse ++ c :: done) after
      | none => none
    | c => untilBrace fuel depth (c :: done) rest

/-- A text with values in it: its parts, as meant and as written, and the programs between them. -/
def readTemplate : Nat → List Char → List Char → List Char → List (List Char × List Char) →
    List (List Char) → Option (List String × List String × List (List Char) × List Char)
  | 0, _, _, _, _, _ => none
  | _, _, _, [], _, _ => none
  | fuel + 1, done, raw, c :: rest, parts, values =>
    match c, rest with
    | '`', _ =>
      let all := ((done, raw) :: parts).reverse
      some (all.map fun p => .ofList p.1.reverse, all.map fun p => .ofList p.2.reverse,
        values.reverse, rest)
    | '\\', _ =>
      let (cs, after) := readEscape rest
      let written := rest.take (rest.length - after.length)
      readTemplate fuel (cs.reverse ++ done) (written.reverse ++ '\\' :: raw) after parts values
    | '$', '{' :: rest =>
      match untilBrace fuel 0 [] rest with
      | some (inside, after) =>
        readTemplate fuel [] [] after ((done, raw) :: parts) (inside :: values)
      | none => none
    | _, _ => readTemplate fuel (c :: done) (c :: raw) rest parts values

end

def readNumber (s : List Char) : Lexeme × List Char :=
  let inBase (base : Nat) (rest : List Char) : Lexeme × List Char :=
    let ds := rest.takeWhile fun c => c == '_' || (Text.digitIn? base c).isSome
    let n := (Text.naturalIn? base (ds.filter (· != '_'))).getD 0
    match rest.drop ds.length with
    | 'n' :: after => (.bigint n, after)
    | after => (.number ((Script.floatOfInt? n).getD (1.0 / 0.0)), after)
  match s with
  | '0' :: 'x' :: r | '0' :: 'X' :: r => inBase 16 r
  | '0' :: 'o' :: r | '0' :: 'O' :: r => inBase 8 r
  | '0' :: 'b' :: r | '0' :: 'B' :: r => inBase 2 r
  | s =>
    let digits (s : List Char) : List Char := s.takeWhile fun c => c.isDigit || c == '_'
    let whole := digits s
    let rest := s.drop whole.length
    match rest with
    | 'n' :: after => (.bigint ((Text.natural? (whole.filter (· != '_'))).getD 0), after)
    | _ =>
      let (fraction, rest) := match rest with
        | '.' :: r => (digits r, r.drop (digits r).length)
        | r => ([], r)
      let (exponent, rest) := match rest with
        | e :: r =>
          if e = 'e' || e = 'E' then
            let (sign, r') := match r with
              | '-' :: r => (['-'], r)
              | '+' :: r => ([], r)
              | r => ([], r)
            let ds := digits r'
            if ds.isEmpty then ([], rest) else (sign ++ ds, r'.drop ds.length)
          else ([], rest)
        | [] => ([], [])
      let plain := (whole ++ '.' :: fraction).filter (· != '_')
      let text := (if whole.isEmpty then '0' :: plain else plain) ++
        (if fraction.isEmpty then ['0'] else []) ++
        (if exponent.isEmpty then [] else 'e' :: exponent)
      (.number ((Script.floatOf? text).getD 0.0), rest)

/-- Passes over blanks and comments; whether a line has ended. -/
def skipBlanks : Nat → Bool → List Char → Bool × List Char
  | 0, newline, s => (newline, s)
  | _, newline, [] => (newline, [])
  | fuel + 1, newline, c :: rest =>
    match c, rest with
    | '\n', _ => skipBlanks fuel true rest
    | '/', '/' :: r => skipBlanks fuel newline (r.dropWhile (· != '\n'))
    | '/', '*' :: r =>
      let rec close : List Char → Bool → List Char × Bool
        | [], n => ([], n)
        | '*' :: '/' :: after, n => (after, n)
        | c :: after, n => close after (n || c == '\n')
      let (after, n) := close r false
      skipBlanks fuel (newline || n) after
    | _, _ =>
      if c == ' ' || c == '\t' || c == '\r' || c == '\x0b' || c == '\x0c' || c.toNat == 160 ||
          c.toNat == 0xFEFF then skipBlanks fuel newline rest
      else (newline, c :: rest)

/-- The tokens of a program, last first. -/
def tokensFrom : Nat → Option Lexeme → List Token → List Char → List Token
  | 0, _, done, _ => done
  | fuel + 1, last, done, s =>
    let (newline, s) := skipBlanks (s.length + 1) false s
    let more (l : Lexeme) (rest : List Char) : List Token :=
      tokensFrom fuel (some l) (⟨l, newline⟩ :: done) rest
    let stop : List Token := ⟨.bad, newline⟩ :: done
    match s with
    | [] => done
    | c :: rest =>
      if isStart c || (c = '\\' && rest.head? == some 'u') then
        let word := s.takeWhile isPart
        more (.name (.ofList word)) (s.drop word.length)
      else if c = '#' && rest.head?.any isStart then
        let word := rest.takeWhile isPart
        more (.privateName ("#" ++ .ofList word)) (rest.drop word.length)
      else if c.isDigit || (c = '.' && rest.head?.any Char.isDigit) then
        let (l, rest) := readNumber s
        more l rest
      else if c = '\'' || c = '"' then
        match readText c (rest.length + 1) [] rest with
        | some (t, rest) => more (.text (.ofList t)) rest
        | none => stop
      else if c = '`' then
        match readTemplate (rest.length + 1) [] [] rest [] [] with
        | some (parts, raw, values, rest) => more (.template parts raw values) rest
        | none => stop
      else if c = '/' && startsRegex last then
        match readRegex (rest.length + 1) false [] rest with
        | some (source, rest) =>
          let flags := rest.takeWhile Char.isAlpha
          more (.regex (.ofList source) (.ofList flags)) (rest.drop flags.length)
        | none => stop
      else
        -- a question mark before a fraction is not part of an optional chain
        let usable (m : String) : Bool :=
          m.toList.isPrefixOf s && !(m == "?." && (s.drop 2).head?.any Char.isDigit)
        match marks.find? usable with
        | some m => more (.mark m) (s.drop m.length)
        | none => stop

def tokens (s : List Char) : Array Token :=
  let s := match s with
    | '#' :: '!' :: rest => rest.dropWhile (· != '\n')
    | s => s
  (tokensFrom (s.length + 1) none [] s).reverse.toArray

/-- The place of the next token, and what holds there. -/
structure Place where
  at_ : Nat := 0
  /-- `in` is no operator -/
  noIn : Bool := false

abbrev Reading := ReaderT (Array Token) (StateT Place (Except String))

def peekAt (k : Nat) : Reading Lexeme := do
  let ts ← read
  return ((ts[(← get).at_ + k]?).map (·.lexeme)).getD .bad

def peek : Reading Lexeme :=
  peekAt 0

def skip : Reading Unit :=
  modify fun p => { p with at_ := p.at_ + 1 }

/-- Whether a line ends before a token. -/
def newlineAt (k : Nat) : Reading Bool := do
  let ts ← read
  return ((ts[(← get).at_ + k]?).map (·.newline)).getD true

def atEnd : Reading Bool := do
  return (← read).size ≤ (← get).at_

def unexpected {α : Type} : Reading α := do
  match ← peek with
  | .name s => throw ("Unexpected identifier '" ++ s ++ "'")
  | .mark m => throw ("Unexpected token '" ++ m ++ "'")
  | .number _ => throw "Unexpected number"
  | .text _ => throw "Unexpected string"
  | _ => if ← atEnd then throw "Unexpected end of input" else throw "Invalid or unexpected token"

def isMark (l : Lexeme) (m : String) : Bool :=
  match l with
  | .mark s => s == m
  | _ => false

def isName (l : Lexeme) (n : String) : Bool :=
  match l with
  | .name s => s == n
  | _ => false

def takesMark (m : String) : Reading Bool := do
  if isMark (← peek) m then
    skip
    return true
  return false

def takesName (n : String) : Reading Bool := do
  if isName (← peek) n then
    skip
    return true
  return false

def expectMark (m : String) : Reading Unit := do
  unless ← takesMark m do unexpected

/-- The words that no variable is called by. -/
def reserved : List String :=
  ["break", "case", "catch", "class", "const", "continue", "debugger", "default", "delete", "do",
   "else", "export", "extends", "finally", "for", "function", "if", "import", "in", "instanceof",
   "new", "return", "super", "switch", "this", "throw", "try", "typeof", "var", "void", "while",
   "with", "null", "true", "false"]

def readName : Reading String := do
  match ← peek with
  | .name s =>
    if reserved.contains s then unexpected
    skip
    return s
  | _ => unexpected

/-- Ends a statement: by a mark, or where a line or a block ends. -/
def endStatement : Reading Unit := do
  if ← takesMark ";" then return
  if isMark (← peek) "\x7d" || (← atEnd) || (← newlineAt 0) then return
  unexpected

/-- The place behind the parenthesis that closes the one at a place. -/
def closingPlace (ts : Array Token) : Nat → Nat → Nat → Nat
  | 0, i, _ => i
  | fuel + 1, i, depth =>
    match ((ts[i]? : Option Token).map (·.lexeme) : Option Lexeme) with
    | some (.mark m) =>
      if m == "(" || m == "[" || m == "\x7b" then closingPlace ts fuel (i + 1) (depth + 1)
      else if m == ")" || m == "]" || m == "\x7d" then
        if depth ≤ 1 then i + 1 else closingPlace ts fuel (i + 1) (depth - 1)
      else closingPlace ts fuel (i + 1) depth
    | some _ => closingPlace ts fuel (i + 1) depth
    | none => i

/-- Whether an arrow follows the parentheses that start some tokens ahead. -/
def arrowAfter (k : Nat) : Reading Bool := do
  let ts ← read
  let i := (← get).at_ + k
  let j := closingPlace ts (ts.size + 1) i 0
  return ((ts[j]? : Option Token).map fun t => isMark t.lexeme "=>").getD false

/-- How tightly an operator binds. -/
def bindingOf (noIn : Bool) : Lexeme → Option (String × Nat)
  | .mark m =>
    match m with
    | "??" => some (m, 1)
    | "||" => some (m, 2)
    | "&&" => some (m, 3)
    | "|" => some (m, 4)
    | "^" => some (m, 5)
    | "&" => some (m, 6)
    | "==" | "!=" | "===" | "!==" => some (m, 7)
    | "<" | ">" | "<=" | ">=" => some (m, 8)
    | "<<" | ">>" | ">>>" => some (m, 9)
    | "+" | "-" => some (m, 10)
    | "*" | "/" | "%" => some (m, 11)
    | "**" => some (m, 12)
    | _ => none
  | .name "instanceof" => some ("instanceof", 8)
  | .name "in" => if noIn then none else some ("in", 8)
  | _ => none

def assignOps : List String :=
  ["+=", "-=", "*=", "/=", "%=", "**=", "<<=", ">>=", ">>>=", "&=", "|=", "^=", "&&=", "||=", "??="]

/-- What an expression is as something that gets values. Each level uses up one of the fuel. -/
def patternOf : Nat → Expr → Option Pattern
  | 0, _ => none
  | fuel + 1, e =>
    match e with
    | .name n => some (.name n)
    | .member .. | .index .. => some (.place e)
    | .group e => patternOf fuel e
    | .assign p e => some (.withDefault p e)
    | .array items =>
      (items.mapM fun (i : Item) => match i with
        | .one e => (patternOf fuel e).map PatternItem.one
        | .spread e => (patternOf fuel e).map PatternItem.rest
        | .hole => some PatternItem.hole).map Pattern.array
    | .object members =>
      let parts := members.filterMap fun (m : Member) => match m with
        | .mk key _ value _ => some (value.bind (patternOf fuel) |>.map (PatternPart.mk key))
        | .spread _ => none
      let rest := members.findSome? fun (m : Member) => match m with
        | .spread e => some (patternOf fuel e)
        | _ => none
      match parts.mapM id, rest with
      | some parts, none => some (.object parts none)
      | some parts, some (some r) => some (.object parts (some r))
      | _, _ => none
    | _ => none

mutual

def readExpr : Nat → Reading Expr
  | 0 => throw "too deep"
  | fuel + 1 => do
    let a ← readAssign fuel
    if ← takesMark "," then return .sequence a (← readExpr fuel) else return a

def readAssign : Nat → Reading Expr
  | 0 => throw "too deep"
  | fuel + 1 => do
    let first ← peek
    let second ← peekAt 1
    if isName first "async" && !(← newlineAt 1) then
      match second with
      | .name n =>
        if !reserved.contains n && isMark (← peekAt 2) "=>" then
          skip
          skip
          expectMark "=>"
          return ← readArrow fuel true [.one (.name n)]
      | .mark "(" =>
        if ← arrowAfter 1 then
          skip
          let params ← readParams fuel
          expectMark "=>"
          return ← readArrow fuel true params
      | _ => pure ()
    match first with
    | .name n =>
      if !reserved.contains n && isMark second "=>" then
        skip
        skip
        return ← readArrow fuel false [.one (.name n)]
      if n == "yield" && !(isMark second "=" || isMark second "=>") then
        skip
        let stop ← newlineAt 0
        let delegate ← if stop then pure false else takesMark "*"
        let ends ← match ← peek with
          | .mark m => pure ([")", "]", "\x7d", ",", ";", ":"].contains m)
          | _ => atEnd
        if (stop || ends) && !delegate then return .yield false none
        else return .yield delegate (some (← readAssign fuel))
    | .mark "(" =>
      if ← arrowAfter 0 then
        let params ← readParams fuel
        expectMark "=>"
        return ← readArrow fuel false params
    | _ => pure ()
    let target ← readChoice fuel
    match ← peek with
    | .mark "=" =>
      match patternOf 100 target with
      | some p =>
        skip
        return .assign p (← readAssign fuel)
      | none => throw "Invalid left-hand side in assignment"
    | .mark m =>
      if assignOps.contains m then
        skip
        return .assignWith (String.ofList m.toList.dropLast) target (← readAssign fuel)
      else return target
    | _ => return target

def readArrow : Nat → Bool → List PatternItem → Reading Expr
  | 0, _, _ => throw "too deep"
  | fuel + 1, async, params => do
    if isMark (← peek) "\x7b" then
      let body ← readBlock fuel
      return .function (.mk "" params body true async false false)
    else
      let e ← readAssign fuel
      return .function (.mk "" params [.give (some e)] true async false false)

def readChoice : Nat → Reading Expr
  | 0 => throw "too deep"
  | fuel + 1 => do
    let test ← readBinary fuel 1
    if ← takesMark "?" then
      let noIn := (← get).noIn
      modify fun p => { p with noIn := false }
      let a ← readAssign fuel
      modify fun p => { p with noIn }
      expectMark ":"
      let b ← readAssign fuel
      return .choice test a b
    else return test

def readBinary : Nat → Nat → Reading Expr
  | 0, _ => throw "too deep"
  | fuel + 1, least => do
    let a ← readUnary fuel
    moreBinary fuel least a

def moreBinary : Nat → Nat → Expr → Reading Expr
  | 0, _, a => return a
  | fuel + 1, least, a => do
    match bindingOf (← get).noIn (← peek) with
    | some (op, level) =>
      if level < least then return a
      else
        skip
        let b ← readBinary fuel (if op == "**" then level else level + 1)
        let e := if op == "&&" || op == "||" || op == "??" then Expr.logical op a b
          else .binary op a b
        moreBinary fuel least e
    | none => return a

def readUnary : Nat → Reading Expr
  | 0 => throw "too deep"
  | fuel + 1 => do
    match ← peek with
    | .mark m =>
      if m == "+" || m == "-" || m == "!" || m == "~" then
        skip
        return .unary m (← readUnary fuel)
      else if m == "++" || m == "--" then
        skip
        return .update m true (← readUnary fuel)
      else readAfter fuel
    | .name n =>
      if n == "typeof" || n == "void" || n == "delete" then
        skip
        return .unary n (← readUnary fuel)
      else if n == "await" then
        match ← peekAt 1 with
        | .mark m =>
          if ["(", "[", "\x7b", "-", "+", "!"].contains m then
            skip
            return .await (← readUnary fuel)
          else readAfter fuel
        | _ =>
          skip
          return .await (← readUnary fuel)
      else readAfter fuel
    | _ => readAfter fuel

/-- An operand and what is added behind it. -/
def readAfter : Nat → Reading Expr
  | 0 => throw "too deep"
  | fuel + 1 => do
    let e ← readCalls fuel
    match ← peek with
    | .mark m =>
      if (m == "++" || m == "--") && !(← newlineAt 0) then
        skip
        return .update m false e
      else return e
    | _ => return e

def readCalls : Nat → Reading Expr
  | 0 => throw "too deep"
  | fuel + 1 => do
    let e ← readPrimary fuel
    let (e, optional) ← moreCalls fuel true e false
    return if optional then .chain e else e

/-- Members and calls behind an operand, and whether one of them is optional. -/
def moreCalls : Nat → Bool → Expr → Bool → Reading (Expr × Bool)
  | 0, _, e, o => return (e, o)
  | fuel + 1, calls, e, o => do
    match ← peek with
    | .mark "." =>
      skip
      moreCalls fuel calls (.member e (← readMemberName) false) o
    | .mark "?." =>
      if !calls then return (e, o)
      skip
      match ← peek with
      | .mark "(" =>
        let args ← readArgs fuel
        moreCalls fuel calls (.call e args true) true
      | .mark "[" =>
        skip
        let i ← readInside fuel
        expectMark "]"
        moreCalls fuel calls (.index e i true) true
      | _ => moreCalls fuel calls (.member e (← readMemberName) true) true
    | .mark "[" =>
      skip
      let i ← readInside fuel
      expectMark "]"
      moreCalls fuel calls (.index e i false) o
    | .mark "(" =>
      if !calls then return (e, o)
      let args ← readArgs fuel
      moreCalls fuel calls (.call e args false) o
    | .template parts raw values =>
      skip
      let values ← values.mapM (readInner fuel)
      moreCalls fuel calls (.tagged e parts raw values) o
    | _ => return (e, o)

def readInner : Nat → List Char → Reading Expr
  | 0, _ => throw "too deep"
  | fuel + 1, source =>
    fun _ p =>
      match (readExpr fuel).run (tokens source) {} with
      | .ok (e, _) => .ok (e, p)
      | .error m => .error m

/-- An expression in which `in` is an operator. -/
def readInside : Nat → Reading Expr
  | 0 => throw "too deep"
  | fuel + 1 => do
    let noIn := (← get).noIn
    modify fun p => { p with noIn := false }
    let e ← readExpr fuel
    modify fun p => { p with noIn }
    return e

def readMemberName : Reading String := do
  match ← peek with
  | .name s => skip; return s
  | .privateName s => skip; return s
  | _ => unexpected

def readArgs : Nat → Reading (List Item)
  | 0 => throw "too deep"
  | fuel + 1 => do
    expectMark "("
    let noIn := (← get).noIn
    modify fun p => { p with noIn := false }
    let items ← readItems fuel ")"
    modify fun p => { p with noIn }
    return items

def readItems : Nat → String → Reading (List Item)
  | 0, _ => throw "too deep"
  | fuel + 1, close => do
    if ← takesMark close then return []
    else if ← takesMark "," then return .hole :: (← readItems fuel close)
    else
      let spread ← takesMark "..."
      let e ← readAssign fuel
      let item := if spread then Item.spread e else .one e
      if ← takesMark "," then return item :: (← readItems fuel close)
      else
        expectMark close
        return [item]

def readPrimary : Nat → Reading Expr
  | 0 => throw "too deep"
  | fuel + 1 => do
    let first ← peek
    match first with
    | .number x => skip; return .number x
    | .bigint n => skip; return .bigint n
    | .text s => skip; return .text s
    | .regex s f => skip; return .regex s f
    | .template parts _ values =>
      skip
      let values ← values.mapM (readInner fuel)
      return .template parts values
    | .mark "(" =>
      skip
      let e ← readInside fuel
      expectMark ")"
      return .group e
    | .mark "[" =>
      skip
      let noIn := (← get).noIn
      modify fun p => { p with noIn := false }
      let items ← readItems fuel "]"
      modify fun p => { p with noIn }
      return .array items
    | .mark "\x7b" =>
      skip
      let noIn := (← get).noIn
      modify fun p => { p with noIn := false }
      let members ← readMembers fuel
      modify fun p => { p with noIn }
      return .object members
    | .name n =>
      match n with
      | "this" => skip; return .this
      | "null" | "true" | "false" => skip; return .constant n
      | "class" => skip; readClass fuel
      | "new" =>
        skip
        if ← takesMark "." then
          skip
          return .newTarget
        let e ← readPrimary fuel
        let (e, _) ← moreCalls fuel false e false
        let args ← if isMark (← peek) "(" then readArgs fuel else pure []
        return .new e args
      | _ =>
        if reserved.contains n then unexpected
        skip
        return .name n
    | _ => unexpected

/-- A function after its first word: its name, and itself. -/
def readFunction : Nat → Bool → Reading (String × Function)
  | 0, _ => throw "too deep"
  | fuel + 1, async => do
    let generator ← takesMark "*"
    let name ← match ← peek with
      | .name n => skip; pure n
      | _ => pure ""
    let params ← readParams fuel
    let body ← readBlock fuel
    return (name, .mk name params body false async generator false)

def readParams : Nat → Reading (List PatternItem)
  | 0 => throw "too deep"
  | fuel + 1 => do
    expectMark "("
    readPatterns fuel ")"

def readPatterns : Nat → String → Reading (List PatternItem)
  | 0, _ => throw "too deep"
  | fuel + 1, close => do
    if ← takesMark close then return []
    else if ← takesMark "," then return .hole :: (← readPatterns fuel close)
    else
      let rest ← takesMark "..."
      let p ← readPattern fuel
      let item := if rest then PatternItem.rest p else .one p
      if ← takesMark "," then return item :: (← readPatterns fuel close)
      else
        expectMark close
        return [item]

def readPattern : Nat → Reading Pattern
  | 0 => throw "too deep"
  | fuel + 1 => do
    let p ← readPlainPattern fuel
    if ← takesMark "=" then return .withDefault p (← readAssign fuel) else return p

def readPlainPattern : Nat → Reading Pattern
  | 0 => throw "too deep"
  | _ + 1 => do
    let _ ← peek
    return .name (← readName)

def readKey : Nat → Reading Key
  | 0 => throw "too deep"
  | fuel + 1 => do
    match ← peek with
    | .name s => skip; return .name s
    | .privateName s => skip; return .name s
    | .text s => skip; return .name s
    | .number x => skip; return .computed (.number x)
    | .bigint n => skip; return .name (Text.integerText n)
    | .mark "[" =>
      skip
      let e ← readInside fuel
      expectMark "]"
      return .computed e
    | _ => unexpected

/-- Whether the word before is a key itself and says nothing about the next one. -/
def wordIsKey : Reading Bool := do
  match ← peekAt 1 with
  | .mark m => return ["(", ",", ":", "\x7d", "=", ";"].contains m
  | _ => return false

def readMembers : Nat → Reading (List Member)
  | 0 => throw "too deep"
  | fuel + 1 => do
    if ← takesMark "\x7d" then return []
    let m ← if ← takesMark "..." then do
        let e ← readAssign fuel
        pure (Member.spread e)
      else readMember fuel
    if ← takesMark "," then return m :: (← readMembers fuel)
    else
      expectMark "\x7d"
      return [m]

def readMethod : Nat → String → Bool → Bool → Reading Expr
  | 0, _, _, _ => throw "too deep"
  | fuel + 1, name, async, generator => do
    let params ← readParams fuel
    let body ← readBlock fuel
    return .function (.mk name params body false async generator true)

def readMember : Nat → Reading Member
  | 0 => throw "too deep"
  | fuel + 1 => do
    let first ← peek
    let isKey ← wordIsKey
    let nameOf (k : Key) : String := match k with
      | .name s => s
      | .computed _ => ""
    if (isName first "get" || isName first "set") && !isKey then
      skip
      let key ← readKey fuel
      let f ← readMethod fuel (nameOf key) false false
      return .mk key (if isName first "get" then .getter else .setter) (some f) false
    let async ← if isName first "async" && !isKey then do
        skip
        pure true
      else pure false
    let generator ← takesMark "*"
    let key ← readKey fuel
    if isMark (← peek) "(" then
      let f ← readMethod fuel (nameOf key) async generator
      return .mk key .method (some f) false
    else if ← takesMark ":" then return .mk key .value (some (← readAssign fuel)) false
    else
      match key with
      | .name n =>
        if ← takesMark "=" then
          return .mk key .value (some (.assign (.name n) (← readAssign fuel))) false
        else return .mk key .value (some (.name n)) false
      | .computed _ => unexpected

def readClass : Nat → Reading Expr
  | 0 => throw "too deep"
  | fuel + 1 => do
    let name ← match ← peek with
      | .name "extends" => pure ""
      | .name n => skip; pure n
      | _ => pure ""
    let parent ← if ← takesName "extends" then do
        let e ← readCalls fuel
        pure (some e)
      else pure none
    expectMark "\x7b"
    let members ← readClassMembers fuel
    return .class_ name parent members

def readClassMembers : Nat → Reading (List Member)
  | 0 => throw "too deep"
  | fuel + 1 => do
    if ← takesMark "\x7d" then return []
    else if ← takesMark ";" then readClassMembers fuel
    else
      let isStatic ← if isName (← peek) "static" && !(← wordIsKey) then do
          skip
          pure true
        else pure false
      let m ← if isStatic && isMark (← peek) "\x7b" then do
          let body ← readBlock fuel
          pure (Member.mk (.name "") .block
            (some (.function (.mk "" [] body false false false true))) true)
        else readClassMember fuel isStatic
      return m :: (← readClassMembers fuel)

def readClassMember : Nat → Bool → Reading Member
  | 0, _ => throw "too deep"
  | fuel + 1, isStatic => do
    let first ← peek
    let isKey ← wordIsKey
    let nameOf (k : Key) : String := match k with
      | .name s => s
      | .computed _ => ""
    if (isName first "get" || isName first "set") && !isKey && !(← newlineAt 1) then
      skip
      let key ← readKey fuel
      let f ← readMethod fuel (nameOf key) false false
      return .mk key (if isName first "get" then .getter else .setter) (some f) isStatic
    let async ← if isName first "async" && !isKey && !(← newlineAt 1) then do
        skip
        pure true
      else pure false
    let generator ← takesMark "*"
    let key ← readKey fuel
    if isMark (← peek) "(" then
      let f ← readMethod fuel (nameOf key) async generator
      return .mk key .method (some f) isStatic
    else
      let value ← if ← takesMark "=" then do
          let e ← readAssign fuel
          pure (some e)
        else pure none
      endStatement
      return .mk key .field value isStatic

/-- Statements between braces. -/
def readBlock : Nat → Reading (List Statement)
  | 0 => throw "too deep"
  | fuel + 1 => do
    expectMark "\x7b"
    let noIn := (← get).noIn
    modify fun p => { p with noIn := false }
    let body ← readStatements fuel
    modify fun p => { p with noIn }
    expectMark "\x7d"
    return body

def readStatements : Nat → Reading (List Statement)
  | 0 => throw "too deep"
  | fuel + 1 => do
    match ← peek with
    | .mark "\x7d" => return []
    | .name "case" => return []
    | .name "default" => return []
    | _ =>
      if ← atEnd then return []
      else
        let s ← readStatement fuel
        return s :: (← readStatements fuel)

def readDeclared : Nat → Reading (List Declared)
  | 0 => throw "too deep"
  | fuel + 1 => do
    let p ← readPlainPattern fuel
    let e ← if ← takesMark "=" then do
        let e ← readAssign fuel
        pure (some e)
      else pure none
    if ← takesMark "," then return .mk p e :: (← readDeclared fuel) else return [.mk p e]

def bindingWord? (l : Lexeme) : Option Binding :=
  match l with
  | .name "var" => some .wide
  | .name "let" => some .narrow
  | .name "const" => some .fixed
  | _ => none

def readStatement : Nat → Reading Statement
  | 0 => throw "too deep"
  | fuel + 1 => do
    let first ← peek
    let second ← peekAt 1
    let declares := match second with
      | .name n => n != "in" && n != "of" && n != "instanceof"
      | .mark m => m == "[" || m == "\x7b"
      | _ => false
    match if declares then bindingWord? first else none with
    | some kind =>
      skip
      let parts ← readDeclared fuel
      endStatement
      return .declare kind parts
    | none =>
    match first with
    | .name "return" =>
      skip
      let stop ← newlineAt 0
      let ends ← do
        let _ ← peek
        atEnd
      if stop || ends then
        let _ ← takesMark ";"
        return .give none
      let e ← readExpr fuel
      endStatement
      return .give (some e)
    | .name "try" =>
      skip
      let body ← readBlock fuel
      let catcher ← if ← takesName "catch" then do
          let p ← if ← takesMark "(" then do
              let p ← readPlainPattern fuel
              expectMark ")"
              pure (some p)
            else pure none
          let body ← readBlock fuel
          pure (some (Catcher.mk p body))
        else pure none
      let last ← if ← takesName "finally" then do
          let body ← readBlock fuel
          pure (some body)
        else pure none
      return .guarded body catcher last
    | .name "function" =>
      skip
      let (name, f) ← readFunction fuel false
      return .function name f
    | .name "class" =>
      skip
      match ← readClass fuel with
      | .class_ name parent members => return .class_ name (.class_ name parent members)
      | e => return .value e
    | .name n =>
      if isMark second ":" && !reserved.contains n then
        skip
        skip
        return .labelled n (← readStatement fuel)
      else readValue fuel
    | _ => readValue fuel

def readValue : Nat → Reading Statement
  | 0 => throw "too deep"
  | fuel + 1 => do
    let e ← readExpr fuel
    endStatement
    return .value e

end

def readProgram (source : List Char) : Except String (List Statement) :=
  let ts := tokens source
  let body : Reading (List Statement) := do
    let ss ← readStatements (60 * ts.size + 400)
    if ← atEnd then return ss else unexpected
  match body.run ts {} with
  | .ok (ss, _) => .ok ss
  | .error m => .error m

end Flowboard.Prototype
