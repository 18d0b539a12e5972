import Flowboard.Shell.Word

/-! Shell scripts as tokens. -/
namespace Flowboard.Shell

/-- What a redirection does with a descriptor. -/
inductive RedirectKind where
  | input
  | output
  | append
  /-- makes it the same as another descriptor, or closes it -/
  | same
  /-- reads a word as a line -/
  | line
  /-- sends both the output and the errors to a file -/
  | both (appends : Bool)
  deriving DecidableEq, Repr

inductive Token where
  | word (line : Nat) (w : Word)
  | mark (s : String)
  /-- a redirection, which the word after it completes -/
  | redirect (descriptor : Nat) (kind : RedirectKind)
  /-- the name of a variable for the descriptor of the redirection that follows -/
  | held (name : String)
  /-- an assignment of several values -/
  | array (line : Nat) (name : String) (appends : Bool) (values : List Word)
  | arithmetic (source : List Char)
  /-- what follows cannot be read -/
  | fault
  deriving DecidableEq, Repr

/-- A text that follows after the line. -/
structure Pending where
  number : Nat
  delimiter : List Char
  quoted : Bool
  /-- tabs in front of its lines do not count -/
  indented : Bool
  deriving DecidableEq, Repr

/-- A script that is read so far: what is left of it, and the tokens of the rest, last first. -/
structure Lexer where
  extended : Bool
  /-- more than the length of the script -/
  fuel : Nat
  rest : List Char
  line : Nat := 1
  tokens : List Token := []
  /-- the next word may be the name of a command -/
  atStart : Bool := true
  /-- between double brackets -/
  inTest : Bool := false
  /-- patterns may have groups -/
  groups : Bool := false
  pending : List Pending := []
  documents : List (Nat × Word) := []
  done : Bool := false

namespace Lexer

def push (l : Lexer) (t : Token) (rest : List Char) (atStart : Bool) : Lexer :=
  { l with tokens := t :: l.tokens, rest, atStart }

def fail (l : Lexer) : Lexer :=
  { l with tokens := .fault :: l.tokens, rest := [], done := true }

/-- The text up to a delimiter on a line of its own, and what follows that line. -/
def takeDocument (p : Pending) : Nat → List Char → List (List Char) → List Char × List Char
  | 0, s, body => (body.reverse.flatten, s)
  | _, [], body => (body.reverse.flatten, [])
  | fuel + 1, s, body =>
    let line := s.takeWhile (· != '\n')
    let rest := (s.drop line.length).drop 1
    let line := if p.indented then line.dropWhile (· == '\t') else line
    if line = p.delimiter then (body.reverse.flatten, rest)
    else takeDocument p fuel rest ((line ++ ['\n']) :: body)

def takeDocuments (l : Lexer) : List Pending → Lexer
  | [] => { l with pending := [] }
  | p :: ps =>
    let (body, rest) := takeDocument p l.fuel l.rest []
    let w := if p.quoted then [.text true body] else
      (readQuoted l.extended documentEscapes (body.length + 1) body).getD [.text true body]
    takeDocuments
      { l with
        rest
        line := l.line + (body.filter (· == '\n')).length + 1
        documents := (p.number, w) :: l.documents } ps

/-- The plain words of the line that is being read, last first. -/
def lineWords (l : Lexer) : List String :=
  (l.tokens.takeWhile (· != .mark "\n")).filterMap fun
    | .word _ w => (plain? w).map String.ofList
    | _ => none

/-- Whether groups are allowed after the line: a command for it changes that. -/
def groupsAfter (l : Lexer) : Bool :=
  let words := l.lineWords
  if l.extended && words.contains "shopt" && words.contains "extglob" then words.contains "-s"
  else l.groups

def newline (l : Lexer) (rest : List Char) : Lexer :=
  let groups := l.groupsAfter
  let l := { l.push (.mark "\n") rest true with line := l.line + 1, groups }
  l.takeDocuments l.pending.reverse

/-- The words after which a command starts. -/
def startWords : List String :=
  ["if", "then", "else", "elif", "do", "while", "until", "for", "\x7b", "!", "time"]

def lineFeeds (w : Word) : Nat :=
  w.foldl (fun n p => match p with
    | .text _ s => n + (s.filter (· == '\n')).length
    | .command _ s => n + (s.filter (· == '\n')).length
    | _ => n) 0

/-- The name of an assignment that ends a text, and whether it adds to what is there. -/
def openAssignment? (s : List Char) : Option (String × Bool) :=
  match s.reverse with
  | '=' :: '+' :: name => if isName name.reverse then some (.ofList name.reverse, true) else none
  | '=' :: name => if isName name.reverse then some (.ofList name.reverse, false) else none
  | _ => none

/-- The words of a list up to its closing parenthesis. -/
def takeValues (l : Lexer) : Nat → List Char → List Word → Option (List Word × List Char)
  | 0, _, _ => none
  | _, [], _ => none
  | _, ')' :: rest, values => some (values.reverse, rest)
  | fuel + 1, '#' :: rest, values => takeValues l fuel (rest.dropWhile (· != '\n')) values
  | fuel + 1, c :: rest, values =>
    if isBlank c || c == '\n' then takeValues l fuel rest values
    else
      match readWordIn l.extended l.groups isMeta 0 l.fuel (c :: rest) with
      | some (w, rest') =>
        if w.isEmpty then none else takeValues l fuel rest' (w :: values)
      | none => none

def startsAssignment (w : Word) : Bool :=
  let rec go (name : List Char) : Word → Bool
    | .text false ['='] :: _ => isName name.reverse
    | .text false [c] :: rest => go (c :: name) rest
    | _ => false
  go [] w

def afterMatch (l : Lexer) : Bool :=
  match l.tokens with
  | .word _ w :: _ => l.inTest && plain? w == some ['=', '~']
  | _ => false

/-- A word that starts with a name and an index between brackets in which blanks stand for
themselves, if an assignment starts so. -/
def indexed? (l : Lexer) : Option (Word × List Char) :=
  let name := l.rest.takeWhile isNameChar
  match l.rest.drop name.length with
  | '[' :: rest =>
    let index := rest.takeWhile fun c => c != ']' && c != '\n' && c != '\'' && c != '"'
    let after := rest.drop index.length
    let assigns := "]=".toList.isPrefixOf after || "]+=".toList.isPrefixOf after
    if l.extended && l.atStart && isName name && assigns && index.any isBlank then
      match readWordIn true l.groups isMeta 0 l.fuel (after.drop 1) with
      | some (value, rest) =>
        let letters := (name ++ ['[']).map fun c => Part.text false [c]
        some (letters ++ wordOf true true index ++ .text false [']'] :: value, rest)
      | none => none
    else none
  | _ => none

def word (l : Lexer) : Lexer :=
  let afterMatch := l.afterMatch
  let stops : Char → Bool := if afterMatch then fun c => isBlank c || c == '\n' else isMeta
  let groups := l.extended && (l.groups || l.inTest) && !afterMatch
  match l.indexed?.or (readWordIn l.extended groups stops 0 l.fuel l.rest) with
  | none => l.fail
  | some (w, rest) =>
    let text := plain? w
    match text.bind openAssignment?, rest with
    | some (name, appends), '(' :: after =>
      if l.extended then
        match takeValues l l.fuel after [] with
        | some (values, rest) =>
          { l.push (.array l.line name appends values) rest l.atStart with
            line := l.line + values.foldl (fun n w => n + lineFeeds w) 0 }
        | none => l.fail
      else l.push (.word l.line w) rest false
    | _, _ =>
      let plainText := (text.map String.ofList).getD ""
      let opens := l.extended && l.atStart && plainText == "[["
      let closes := l.inTest && plainText == "]]"
      { l.push (.word l.line w) rest
          (l.atStart && (startWords.contains plainText || startsAssignment w)) with
        inTest := (l.inTest || opens) && !closes
        line := l.line + lineFeeds w }

/-- Reads a redirection that starts with `<`. -/
def less (l : Lexer) (descriptor : Nat) (s : List Char) : Lexer :=
  match s with
  | '<' :: '<' :: rest =>
    if l.extended then l.push (.redirect descriptor .line) rest false else l.fail
  | '&' :: rest => l.push (.redirect descriptor .same) rest false
  | '(' :: rest =>
    if l.extended then
      match untilParen l.fuel 0 0 rest with
      | some (body, rest) => l.push (.word l.line [.process body]) rest false
      | none => l.fail
    else l.push (.redirect descriptor .input) s false
  | s => l.push (.redirect descriptor .input) s false

/-- Reads a redirection that starts with `>`. -/
def greater (l : Lexer) (descriptor : Nat) (s : List Char) : Lexer :=
  match s with
  | '>' :: rest => l.push (.redirect descriptor .append) rest false
  | '&' :: rest => l.push (.redirect descriptor .same) rest false
  | '|' :: rest => l.push (.redirect descriptor .output) rest false
  | '(' :: rest =>
    if l.extended then
      match untilParen l.fuel 0 0 rest with
      | some (body, rest) => l.push (.word l.line [.sink body]) rest false
      | none => l.fail
    else l.push (.redirect descriptor .output) s false
  | s => l.push (.redirect descriptor .output) s false

def doubleParens? (l : Lexer) (s : List Char) : Option (List Char × List Char) :=
  match untilParen l.fuel 1 0 s with
  | some (body, rest) => if body.getLast? = some ')' then some (body.dropLast, rest) else none
  | none => none

/-- Reads one token, or passes over what is none. -/
def step (l : Lexer) : Lexer :=
  match l.rest with
  | [] => { l with done := true }
  | '\\' :: '\n' :: rest => { l with rest, line := l.line + 1 }
  | '\n' :: rest => l.newline rest
  | '#' :: rest =>
    if l.inTest then l.word else { l with rest := rest.dropWhile (· != '\n') }
  | '<' :: rest =>
    if l.inTest then l.push (.word l.line [.text false ['<']]) rest false else l.less 0 rest
  | '>' :: rest =>
    if l.inTest then l.push (.word l.line [.text false ['>']]) rest false else l.greater 1 rest
  | '&' :: '&' :: rest => l.push (.mark "&&") rest true
  | '&' :: '>' :: '>' :: rest =>
    if l.extended then l.push (.redirect 1 (.both true)) rest false
    else l.push (.mark "&") ('>' :: '>' :: rest) true
  | '&' :: '>' :: rest =>
    if l.extended then l.push (.redirect 1 (.both false)) rest false
    else l.push (.mark "&") ('>' :: rest) true
  | '&' :: rest => l.push (.mark "&") rest true
  | '|' :: '|' :: rest => l.push (.mark "||") rest true
  | '|' :: '&' :: rest =>
    if l.extended then
      let l := l.push (.redirect 2 .same) rest false
      let l := l.push (.word l.line [.text false ['1']]) rest false
      l.push (.mark "|") rest true
    else l.push (.mark "|") ('&' :: rest) true
  | '|' :: rest => l.push (.mark "|") rest true
  | ';' :: ';' :: '&' :: rest =>
    if l.extended then l.push (.mark ";;&") rest true else l.push (.mark ";;") ('&' :: rest) true
  | ';' :: ';' :: rest => l.push (.mark ";;") rest true
  | ';' :: '&' :: rest =>
    if l.extended then l.push (.mark ";&") rest true else l.push (.mark ";") ('&' :: rest) true
  | ';' :: rest => l.push (.mark ";") rest true
  | '(' :: '(' :: rest =>
    if l.afterMatch then l.word
    else
    match if l.extended && l.atStart then l.doubleParens? rest else none with
    | some (body, rest) => l.push (.arithmetic body) rest true
    | none => l.push (.mark "(") ('(' :: rest) true
  | '(' :: rest => if l.afterMatch then l.word else l.push (.mark "(") rest true
  | ')' :: rest => l.push (.mark ")") rest true
  | c :: rest =>
    if isBlank c then { l with rest := rest.dropWhile isBlank }
    else if c.isDigit then
      let digits := c :: rest.takeWhile Char.isDigit
      let number := digits.foldl (fun n d => 10 * n + (d.toNat - '0'.toNat)) 0
      match rest.drop (digits.length - 1) with
      | '<' :: after => if l.inTest then l.word else l.less number after
      | '>' :: after => if l.inTest then l.word else l.greater number after
      | _ => l.word
    else l.word

/-- Reads tokens to the end. -/
def run : Nat → Lexer → Lexer
  | 0, l => l.fail
  | fuel + 1, l => if l.done then l else run fuel l.step

end Lexer

/-- The tokens of a script that starts on a line, with the texts for redirections put in. Its patterns
may have groups if `groups`. -/
def tokens (extended groups : Bool) (line : Nat) (source : List Char) : List Token :=
  let fuel := source.length + 2
  let l := Lexer.run (2 * fuel) { extended, groups, fuel, rest := source, line }
  l.tokens.reverse.flatMap fun
    | t => [t]

end Flowboard.Shell
