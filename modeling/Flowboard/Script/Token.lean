import Flowboard.Text.Integer

/-! Scripts as tokens. -/
namespace Flowboard.Script

/-- A text between quotes as it stands in a script. -/
structure Literal where
  /-- backslashes stand for themselves -/
  raw : Bool
  bytes : Bool
  /-- expressions stand between its braces -/
  formatted : Bool
  body : List Char
  deriving DecidableEq, Repr

inductive Token where
  | name (s : String)
  | number (s : String)
  | literal (l : Literal)
  | op (s : String)
  | newline
  | indent
  | dedent
  /-- what follows stands from a line of the script on -/
  | line (n : Nat)
  /-- what follows cannot be read -/
  | fault
  deriving DecidableEq, Repr

def isNameStart (c : Char) : Bool :=
  c.isAlpha || c == '_' || 127 < c.toNat

def isNamePart (c : Char) : Bool :=
  c.isAlphanum || c == '_' || 127 < c.toNat

/-- A script that is read so far: what is left of it, and the tokens of the rest, last first. -/
structure Lexer where
  rest : List Char
  tokens : List Token := []
  /-- the widths of the blocks that are open, the innermost first -/
  indents : List Nat := [0]
  /-- how many brackets are open -/
  depth : Nat := 0
  lineStart : Bool := true
  done : Bool := false
  /-- lines are told -/
  numbered : Bool := false
  /-- the line at which the rest starts -/
  line : Nat := 1

/-- The operators with two or three characters, the longest first. -/
def longOperators : List String :=
  ["**=", "//=", ">>=", "<<=", "...", "->", ":=", "**", "//", ">>", "<<", "<=", ">=", "==", "!=",
   "+=", "-=", "*=", "/=", "%=", "&=", "|=", "^=", "@="]

/-- The body of a literal up to its closing quotes, backwards, and what follows them. Between braces
of a formatted one other literals may stand, but the braces of a name of a character are not of that
kind. -/
def takeBody (quote : Char) (triple formatted raw : Bool) :
    Nat → List Char → List Char → Option (List Char × List Char)
  | depth, done, '\\' :: 'N' :: '{' :: rest =>
    takeBody quote triple formatted raw (if formatted && raw then depth + 1 else depth)
      ('{' :: 'N' :: '\\' :: done) rest
  | depth, done, '\\' :: c :: rest =>
    takeBody quote triple formatted raw depth (c :: '\\' :: done) rest
  | depth, done, c :: rest =>
    if c = quote ∧ depth = 0 then
      if triple then
        match rest with
        | d :: e :: more =>
          if d = quote ∧ e = quote then some (done.reverse, more)
          else takeBody quote triple formatted raw 0 (c :: done) rest
        | _ => takeBody quote triple formatted raw 0 (c :: done) rest
      else some (done.reverse, rest)
    else if c = '\n' ∧ ¬ triple then none
    else
      let depth := if ¬ formatted then 0
        else if c = '{' then depth + 1
        else if c = '}' then depth - 1
        else depth
      takeBody quote triple formatted raw depth (c :: done) rest
  | _, _, [] => none

/-- Whether a body can be one of a literal with braces: they are closed, or doubled. -/
def takeLiteral (formatted raw : Bool) : List Char → Option (List Char × List Char)
  | q :: s =>
    let triple := match s with
      | a :: b :: _ => a == q && b == q
      | _ => false
    let s := if triple then s.drop 2 else s
    match takeBody q triple formatted raw 0 [] s with
    | some r => some r
    | none => takeBody q triple false raw 0 [] s
  | [] => none

namespace Lexer

def push (l : Lexer) (t : Token) (rest : List Char) : Lexer :=
  { l with tokens := t :: l.tokens, rest }

/-- The lines of a literal go by. -/
def passing (l : Lexer) (body : List Char) : Lexer :=
  { l with line := l.line + body.count '\n' }

def fail (l : Lexer) : Lexer :=
  { l with tokens := .fault :: l.tokens, rest := [], done := true }

/-- The width of blanks at the start of a line, and what follows them. -/
def measure : Nat → List Char → Nat × List Char
  | w, ' ' :: s => measure (w + 1) s
  | w, '\t' :: s => measure (w / 8 * 8 + 8) s
  | _, '\x0c' :: s => measure 0 s
  | w, s => (w, s)

/-- Closes blocks down to a width. -/
def close (l : Lexer) (width : Nat) : List Nat → Lexer
  | w :: ws =>
    if width < w then ({ l with tokens := .dedent :: l.tokens }).close width ws
    else if w = width then { l with indents := w :: ws }
    else l.fail
  | [] => { l with indents := [0] }

/-- Passes over empty lines, and opens and closes blocks. -/
def startLine (l : Lexer) : Lexer :=
  let (width, rest) := measure 0 l.rest
  match rest with
  | [] => { l with rest := [], lineStart := false }
  | '\r' :: '\n' :: more => { l with rest := more, line := l.line + 1 }
  | '\n' :: more => { l with rest := more, line := l.line + 1 }
  | '#' :: _ => { l with rest := (rest.dropWhile (· != '\n')).drop 1, line := l.line + 1 }
  | _ =>
    let l := { l with rest, lineStart := false }
    let l := if l.indents.headD 0 < width then
        { l with indents := width :: l.indents, tokens := .indent :: l.tokens }
      else l.close width l.indents
    if l.numbered then { l with tokens := .line l.line :: l.tokens } else l

/-- Ends the last line and closes all blocks. -/
def finish (l : Lexer) : Lexer :=
  let l := match l.tokens with
    | [] => l
    | .newline :: _ => l
    | .dedent :: _ => l
    | _ => { l with tokens := .newline :: l.tokens }
  { l.close 0 l.indents with done := true }

def takeNumber (s : List Char) : List Char × List Char :=
  let digits (p : Char → Bool) (s : List Char) := (s.takeWhile p, s.dropWhile p)
  let isDigit (c : Char) : Bool := c.isDigit || c == '_'
  match s with
  | '0' :: c :: rest =>
    if "xXoObB".toList.contains c then
      let (ds, rest) := digits (fun c => c.isAlphanum || c == '_') rest
      ('0' :: c :: ds, rest)
    else decimal digits isDigit s
  | s => decimal digits isDigit s
where
  decimal (digits : (Char → Bool) → List Char → List Char × List Char) (isDigit : Char → Bool)
      (s : List Char) : List Char × List Char :=
    let (whole, s) := digits isDigit s
    let (fraction, s) := match s with
      | '.' :: rest => let (ds, rest) := digits isDigit rest; ('.' :: ds, rest)
      | s => ([], s)
    let (exponent, s) := match s with
      | e :: rest =>
        if e = 'e' ∨ e = 'E' then
          let (sign, more) := match rest with
            | '+' :: r => (['+'], r)
            | '-' :: r => (['-'], r)
            | r => ([], r)
          match digits isDigit more with
          | ([], _) => ([], s)
          | (ds, rest) => (e :: sign ++ ds, rest)
        else ([], s)
      | [] => ([], [])
    let (mark, s) := match s with
      | 'j' :: rest => (['j'], rest)
      | 'J' :: rest => (['j'], rest)
      | s => ([], s)
    (whole ++ fraction ++ exponent ++ mark, s)

/-- Reads a name, or a literal with letters in front of it. -/
def word (l : Lexer) (s : List Char) : Lexer :=
  let name := s.takeWhile isNamePart
  let rest := s.drop name.length
  let letters := name.map Char.toLower
  let marks := letters.all fun c => "rbuf".toList.contains c
  match rest with
  | q :: _ =>
    if (q == '\'' || q == '"') && marks && letters.length ≤ 2 then
      let formatted := letters.contains 'f'
      match takeLiteral formatted (letters.contains 'r') rest with
      | some (body, rest) =>
        (l.passing body).push
          (.literal ⟨letters.contains 'r', letters.contains 'b', formatted, body⟩) rest
      | none => l.fail
    else l.push (.name (.ofList name)) rest
  | [] => l.push (.name (.ofList name)) rest

/-- Reads one token, or passes over what is none. -/
def step (l : Lexer) : Lexer :=
  if l.lineStart && l.depth = 0 && !l.rest.isEmpty then l.startLine
  else
    match l.rest with
    | [] => l.finish
    | '\\' :: '\n' :: rest => { l with rest, line := l.line + 1 }
    | '\\' :: '\r' :: '\n' :: rest => { l with rest, line := l.line + 1 }
    | '\n' :: rest =>
      let l := { l with line := l.line + 1 }
      if l.depth = 0 then { l.push .newline rest with lineStart := true } else { l with rest }
    | '#' :: rest => { l with rest := rest.dropWhile (· != '\n') }
    | c :: rest =>
      if c == ' ' || c == '\t' || c == '\r' || c == '\x0c' then { l with rest }
      else if c == '\'' || c == '"' then
        match takeLiteral false false (c :: rest) with
        | some (body, rest) =>
          (l.passing body).push (.literal ⟨false, false, false, body⟩) rest
        | none => l.fail
      else if isNameStart c then l.word (c :: rest)
      else if c.isDigit || (c == '.' && rest.head?.any Char.isDigit) then
        let (number, rest) := takeNumber (c :: rest)
        l.push (.number (.ofList number)) rest
      else
        match longOperators.find? fun op => op.toList.isPrefixOf (c :: rest) with
        | some op => l.push (.op op) ((c :: rest).drop op.length)
        | none =>
          if "([\x7b".toList.contains c then
            { l.push (.op c.toString) rest with depth := l.depth + 1 }
          else if ")]\x7d".toList.contains c then
            { l.push (.op c.toString) rest with depth := l.depth - 1 }
          else if "+-*/%@&|^~<>=.,:;".toList.contains c then l.push (.op c.toString) rest
          else l.fail

/-- Reads tokens to the end. -/
def run : Nat → Lexer → Lexer
  | 0, l => l.fail
  | fuel + 1, l => if l.done then l else run fuel l.step

end Lexer

def tokens (source : List Char) : List Token :=
  ((Lexer.run (3 * source.length + 3) { rest := source }).tokens).reverse

/-- The words that go on with a statement which started on an earlier line. -/
def goesOn : Token → Bool
  | .name s => ["else", "elif", "except", "finally", "case"].contains s
  | _ => false

/-- Tokens without the lines of words that go on with a statement. -/
def withoutInnerLines : List Token → List Token
  | .line n :: t :: ts =>
    if goesOn t then t :: withoutInnerLines ts else .line n :: withoutInnerLines (t :: ts)
  | t :: ts => t :: withoutInnerLines ts
  | [] => []

def numberedTokens (source : List Char) : List Token :=
  withoutInnerLines
    ((Lexer.run (3 * source.length + 3) { rest := source, numbered := true }).tokens).reverse

end Flowboard.Script
