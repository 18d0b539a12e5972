import Flowboard.Shell.Token

/-! Commands of shell scripts. -/
namespace Flowboard.Shell

/-- A redirection of a descriptor. -/
structure Redirect where
  descriptor : Nat
  kind : RedirectKind
  word : Word
  /-- the variable that gets the number of a new descriptor -/
  held : Option String := none
  deriving DecidableEq, Repr

/-- What a name gets. -/
inductive Given where
  | one (w : Word)
  | many (ws : List Word)
  deriving DecidableEq, Repr

structure Assignment where
  name : String
  index : Option (List Char) := none
  /-- adds to what is there -/
  appends : Bool := false
  value : Given
  deriving DecidableEq, Repr

/-- What double brackets test. -/
inductive Test where
  | one (op : String) (w : Word)
  | two (a : Word) (op : String) (b : Word)
  | negation (t : Test)
  | both (a b : Test)
  | either (a b : Test)
  deriving DecidableEq, Repr

/-- What follows the command of an arm. -/
inductive ArmEnding where
  | stop
  /-- the command of the next arm -/
  | fall
  /-- the next arm with a pattern that fits -/
  | more
  deriving DecidableEq, Repr

mutual

inductive Command where
  | skip
  | simple (line : Nat) (assignments : List Assignment) (words : List Word)
      (redirects : List Redirect)
  | sequence (first second : Command)
  /-- does not wait for the end of the command -/
  | background (c : Command)
  /-- runs beside the script, which writes what it reads and reads what it writes -/
  | beside (name : String) (c : Command)
  | both (first second : Command)
  | either (first second : Command)
  | negation (c : Command)
  /-- what the first writes is what the second reads -/
  | pipe (first second : Command)
  | choice (condition yes no : Command)
  /-- goes on as long as the condition has the wanted outcome -/
  | loop (wanted : Bool) (condition body : Command)
  /-- runs once for each field of words, or of the arguments -/
  | each (name : String) (words : Option (List Word)) (body : Command)
  | counted (first condition next : List Char) (body : Command)
  | cases (subject : Word) (arms : Arms)
  /-- runs apart: neither its variables nor its end concern the script around -/
  | apart (body : Command)
  | redirected (body : Command) (redirects : List Redirect)
  | define (name : String) (body : Command)
  | test (t : Test)
  | arithmetic (source : List Char)

inductive Arms where
  | done
  | arm (patterns : List Word) (body : Command) (ending : ArmEnding) (rest : Arms)

end

def Token.plain? : Token → Option String
  | .word _ w => (Shell.plain? w).map String.ofList
  | _ => none

def closingWords : List String :=
  ["then", "do", "done", "fi", "else", "elif", "esac", "\x7d"]

/-- Whether a list of commands ends before a token. -/
def Token.closes (t : Token) : Bool :=
  match t with
  | .mark s => s == ")" || s == ";;" || s == ";&" || s == ";;&"
  | .word _ _ => t.plain?.any closingWords.contains
  | _ => false

def Token.opens (t : Token) : Bool :=
  match t with
  | .mark s => s == "("
  | .arithmetic _ => true
  | t => t.plain?.any ["if", "while", "until", "for", "case", "select", "[[", "\x7b"].contains

def skipNewlines (ts : List Token) : List Token :=
  ts.dropWhile (· == .mark "\n")

/-- The tokens after a certain word. -/
def expect (word : String) : List Token → Option (List Token)
  | t :: ts => if t.plain? = some word then some ts else none
  | [] => none

def assignment? (w : Word) : Option Assignment :=
  let rec value (name : List Char) (index : Option (List Char)) : Word → Option Assignment
    | .text false ['='] :: rest =>
      some { name := .ofList name.reverse, index, value := .one rest }
    | .text false ['+'] :: .text false ['='] :: rest =>
      some { name := .ofList name.reverse, index, appends := true, value := .one rest }
    | _ => none
  let rec bracket (name index : List Char) : Word → Option Assignment
    | .text false [']'] :: rest => value name (some index.reverse) rest
    | .text _ s :: rest => bracket name (s.reverse ++ index) rest
    | .parameter _ p :: rest => bracket name (p.name.toList.reverse ++ '$' :: index) rest
    | .arithmetic _ s :: rest =>
      bracket name (')' :: ')' :: (s.reverse ++ '(' :: '(' :: '$' :: index)) rest
    | _ => none
  let rec go (name : List Char) : Word → Option Assignment
    | .text false ['['] :: rest => if isName name.reverse then bracket name [] rest else none
    | .text false [c] :: rest =>
      if isNameChar c then go (c :: name) rest
      else if isName name.reverse then value name none (.text false [c] :: rest) else none
    | _ => none
  go [] w

/-- The parts of a simple command. -/
structure Simple where
  line : Nat := 0
  assignments : List Assignment := []
  words : List Word := []
  redirects : List Redirect := []

/-- The parts of a simple command, last first, and the tokens after it. -/
def readSimpleFrom (extended : Bool) : List Token → Simple → Simple × List Token
  | .word line w :: ts, c =>
    let c := if c.line = 0 then { c with line } else c
    match if c.words.isEmpty then assignment? w else none with
    | some a => readSimpleFrom extended ts { c with assignments := a :: c.assignments }
    | none => readSimpleFrom extended ts { c with words := w :: c.words }
  | .array line name appends values :: ts, c =>
    let a : Assignment := { name, appends, value := .many values }
    readSimpleFrom extended ts
      { c with line := if c.line = 0 then line else c.line, assignments := a :: c.assignments }
  | .redirect descriptor kind :: .word _ word :: ts, c =>
    readSimpleFrom extended ts { c with redirects := { descriptor, kind, word } :: c.redirects }
  | .held name :: .redirect descriptor kind :: .word _ word :: ts, c =>
    readSimpleFrom extended ts
      { c with redirects := { descriptor, kind, word, held := some name } :: c.redirects }
  | ts, c => (c, ts)

def readRedirects : List Token → List Redirect × List Token
  | .redirect descriptor kind :: .word _ word :: ts =>
    let (rs, ts) := readRedirects ts
    ({ descriptor, kind, word } :: rs, ts)
  | .held name :: .redirect descriptor kind :: .word _ word :: ts =>
    let (rs, ts) := readRedirects ts
    ({ descriptor, kind, word, held := some name } :: rs, ts)
  | ts => ([], ts)

def readWords : List Token → List Word × List Token
  | .word _ w :: ts => let (ws, rest) := readWords ts; (w :: ws, rest)
  | ts => ([], ts)

def readPatterns : List Token → Option (List Word × List Token)
  | .word _ w :: .mark "|" :: ts => (readPatterns ts).map fun (ws, ts) => (w :: ws, ts)
  | .word _ w :: .mark ")" :: ts => some ([w], ts)
  | .mark "(" :: ts => readPatterns ts
  | _ => none

/-- The operators of double brackets that stand between two words. -/
def testOperators : List String :=
  ["=", "==", "!=", "=~", "<", ">", "-eq", "-ne", "-lt", "-le", "-gt", "-ge", "-nt", "-ot", "-ef"]

mutual

def readTestAny : Nat → List Token → Option (Test × List Token)
  | 0, _ => none
  | fuel + 1, ts =>
    match readTestAll fuel ts with
    | some (a, .mark "||" :: ts) =>
      (readTestAny fuel (skipNewlines ts)).map fun (b, ts) => (.either a b, ts)
    | r => r

def readTestAll : Nat → List Token → Option (Test × List Token)
  | 0, _ => none
  | fuel + 1, ts =>
    match readTestOne fuel ts with
    | some (a, .mark "&&" :: ts) =>
      (readTestAll fuel (skipNewlines ts)).map fun (b, ts) => (.both a b, ts)
    | r => r

def readTestOne : Nat → List Token → Option (Test × List Token)
  | 0, _ => none
  | fuel + 1, .mark "(" :: ts =>
    match readTestAny fuel ts with
    | some (t, .mark ")" :: ts) => some (t, ts)
    | _ => none
  | fuel + 1, .word line w :: ts =>
    let plain := ((Token.word line w).plain?).getD ""
    if plain = "!" then (readTestOne fuel ts).map fun (t, ts) => (.negation t, ts)
    else
      let alone : Option (Test × List Token) :=
        match ts with
        | t :: rest =>
          match t with
          | .word _ x =>
            if plain.startsWith "-" && t.plain? != some "]]" then some (.one plain x, rest)
            else some (.one "-n" w, ts)
          | _ => some (.one "-n" w, ts)
        | [] => none
      match ts with
      | t :: .word _ b :: rest =>
        match t.plain? with
        | some op => if testOperators.contains op then some (.two w op b, rest) else alone
        | none => alone
      | _ => alone
  | _, _ => none

end

def countedParts (s : List Char) : List (List Char) :=
  let rec go (current : List Char) : List Char → List (List Char)
    | [] => [current.reverse]
    | ';' :: rest => current.reverse :: go [] rest
    | c :: rest => go (c :: current) rest
  go [] s

mutual

/-- Commands one after the other, up to a token that closes them. -/
def readList (extended : Bool) : Nat → List Token → Option (Command × List Token)
  | 0, _ => none
  | fuel + 1, ts =>
    match skipNewlines ts with
    | [] => some (.skip, [])
    | t :: ts =>
      if t.closes then some (.skip, t :: ts)
      else
        match readAndOr extended fuel (t :: ts) with
        | some (c, .mark "&" :: ts) =>
          (readList extended fuel ts).map fun (d, ts) => (.sequence (.background c) d, ts)
        | some (c, .mark ";" :: ts) =>
          (readList extended fuel ts).map fun (d, ts) => (.sequence c d, ts)
        | some (c, .mark "\n" :: ts) =>
          (readList extended fuel ts).map fun (d, ts) => (.sequence c d, ts)
        | some (c, ts) => some (c, ts)
        | none => none

/-- Commands of which later ones depend on the outcome of earlier ones. -/
def readAndOr (extended : Bool) : Nat → List Token → Option (Command × List Token)
  | 0, _ => none
  | fuel + 1, ts =>
    match readPipe extended fuel ts with
    | some (c, ts) => readRest extended fuel c ts
    | none => none

def readRest (extended : Bool) : Nat → Command → List Token → Option (Command × List Token)
  | 0, _, _ => none
  | fuel + 1, c, ts =>
    match ts with
    | .mark "&&" :: ts =>
      match readPipe extended fuel (skipNewlines ts) with
      | some (d, ts) => readRest extended fuel (.both c d) ts
      | none => none
    | .mark "||" :: ts =>
      match readPipe extended fuel (skipNewlines ts) with
      | some (d, ts) => readRest extended fuel (.either c d) ts
      | none => none
    | ts => some (c, ts)

/-- Commands of which each reads what the one before writes. -/
def readPipe (extended : Bool) : Nat → List Token → Option (Command × List Token)
  | 0, _ => none
  | _, [] => none
  | fuel + 1, t :: ts =>
    if t.plain? = some "!" then
      (readPipe extended fuel ts).map fun (c, ts) => (.negation c, ts)
    else
      match readCommand extended fuel (t :: ts) with
      | some (c, .mark "|" :: ts) =>
        (readPipe extended fuel (skipNewlines ts)).map fun (d, ts) => (.pipe c d, ts)
      | r => r

def readCommand (extended : Bool) : Nat → List Token → Option (Command × List Token)
  | 0, _ => none
  | _, [] => none
  | fuel + 1, t :: ts =>
    let redirected (r : Option (Command × List Token)) : Option (Command × List Token) :=
      match r with
      | some (c, ts) =>
        match readRedirects ts with
        | ([], ts) => some (c, ts)
        | (rs, ts) => some (.redirected c rs, ts)
      | none => none
    match t with
    | .mark "(" =>
      match readList extended fuel ts with
      | some (c, .mark ")" :: ts) => redirected (some (.apart c, ts))
      | _ => none
    | .arithmetic source => redirected (some (.arithmetic source, ts))
    | _ =>
      match t.plain? with
      | some "if" => redirected (readChoice extended fuel ts)
      | some "while" => redirected (readLoop extended fuel true ts)
      | some "until" => redirected (readLoop extended fuel false ts)
      | some "for" => redirected (readFor extended fuel ts)
      | some "case" =>
        match ts with
        | .word _ subject :: ts => redirected do
          let ts ← expect "in" (skipNewlines ts)
          let (arms, ts) ← readArms extended fuel ts
          some (.cases subject arms, ts)
        | _ => none
      | some "\x7b" => redirected do
        let (c, ts) ← readList extended fuel ts
        let ts ← expect "\x7d" ts
        some (c, ts)
      | some name =>
        if extended && name == "[[" then
          match readTestAny (ts.length + ts.length + 8) ts with
          | some (test, ts) => redirected ((expect "]]" ts).map fun ts => (.test test, ts))
          | none => none
        else if extended && name == "time" then readPipe extended fuel ts
        else if extended && name == "select" then
          redirected ((readFor extended fuel ts).bind fun
            | _ => none)
        else if extended && name == "coproc" then
          match ts with
          | t :: u :: rest =>
            if isName (t.plain?.getD "").toList && u.opens && !t.opens then
              (readCommand extended fuel (u :: rest)).map fun (c, ts) =>
                (.beside (t.plain?.getD "") c, ts)
            else (readCommand extended fuel ts).map fun (c, ts) => (.beside "COPROC" c, ts)
          | ts => (readCommand extended fuel ts).map fun (c, ts) => (.beside "COPROC" c, ts)
        else if extended && name == "function" then
          match ts with
          | t :: .mark "(" :: .mark ")" :: ts => readDefinition extended fuel t ts
          | t :: ts => readDefinition extended fuel t ts
          | [] => none
        else
          match ts with
          | .mark "(" :: .mark ")" :: ts => readDefinition extended fuel t ts
          | ts => if closingWords.contains name then none else readSimple extended fuel (t :: ts)
      | none => readSimple extended fuel (t :: ts)

def readDefinition (extended : Bool) : Nat → Token → List Token → Option (Command × List Token)
  | 0, _, _ => none
  | fuel + 1, name, ts => do
    let name ← name.plain?
    let (body, ts) ← readCommand extended fuel (skipNewlines ts)
    some (.define name body, ts)

def readSimple (extended : Bool) : Nat → List Token → Option (Command × List Token)
  | 0, _ => none
  | _ + 1, ts =>
    let (c, rest) := readSimpleFrom extended ts {}
    if rest.length = ts.length then none
    else
      some (.simple c.line c.assignments.reverse c.words.reverse c.redirects.reverse, rest)

/-- A loop over fields, or one that counts, after its first word. -/
def readFor (extended : Bool) : Nat → List Token → Option (Command × List Token)
  | 0, _ => none
  | fuel + 1, ts =>
    let body (ts : List Token) : Option (Command × List Token) :=
      match skipNewlines (ts.dropWhile (· == .mark ";")) with
      | t :: ts => do
        let close ← match t.plain? with
          | some "do" => some "done"
          | some "\x7b" => some "\x7d"
          | _ => none
        let (body, ts) ← readList extended fuel ts
        let ts ← expect close ts
        some (body, ts)
      | [] => none
    match ts with
    | .arithmetic source :: ts =>
      match countedParts source with
      | [a, b, c] => (body ts).map fun (d, ts) => (.counted a b c d, ts)
      | _ => none
    | t :: ts =>
      match t.plain? with
      | none => none
      | some name =>
        match expect "in" (skipNewlines ts) with
        | some ts =>
          let (words, ts) := readWords ts
          (body ts).map fun (c, ts) => (.each name (some words) c, ts)
        | none => (body ts).map fun (c, ts) => (.each name none c, ts)
    | [] => none

def readChoice (extended : Bool) : Nat → List Token → Option (Command × List Token)
  | 0, _ => none
  | fuel + 1, ts => do
    let (condition, ts) ← readList extended fuel ts
    let ts ← expect "then" ts
    let (yes, ts) ← readList extended fuel ts
    match ts with
    | t :: ts =>
      match t.plain? with
      | some "fi" => some (.choice condition yes .skip, ts)
      | some "elif" =>
        (readChoice extended fuel ts).map fun (no, ts) => (.choice condition yes no, ts)
      | some "else" => do
        let (no, ts) ← readList extended fuel ts
        let ts ← expect "fi" ts
        some (.choice condition yes no, ts)
      | _ => none
    | [] => none

def readLoop (extended : Bool) : Nat → Bool → List Token → Option (Command × List Token)
  | 0, _, _ => none
  | fuel + 1, wanted, ts => do
    let (condition, ts) ← readList extended fuel ts
    let ts ← expect "do" ts
    let (body, ts) ← readList extended fuel ts
    let ts ← expect "done" ts
    some (.loop wanted condition body, ts)

/-- The arms of a case up to its last word. -/
def readArms (extended : Bool) : Nat → List Token → Option (Arms × List Token)
  | 0, _ => none
  | fuel + 1, ts =>
    match expect "esac" (skipNewlines ts) with
    | some ts => some (.done, ts)
    | none => do
      let (patterns, ts) ← readPatterns (skipNewlines ts)
      let (body, ts) ← readList extended fuel ts
      let (ending, ts) := match ts with
        | .mark ";;" :: ts => (ArmEnding.stop, ts)
        | .mark ";&" :: ts => (.fall, ts)
        | .mark ";;&" :: ts => (.more, ts)
        | ts => (.stop, ts)
      let (arms, ts) ← readArms extended fuel ts
      some (.arm patterns body ending arms, ts)

end

/-- The commands of a line, of which each one runs when the one before has ended. -/
def readLine (extended : Bool) : Nat → List Token → Option (Command × List Token)
  | 0, _ => none
  | fuel + 1, ts =>
    let after (c : Command) (ts : List Token) : Option (Command × List Token) :=
      match ts with
      | [] => some (c, [])
      | .mark "\n" :: ts => some (c, ts)
      | ts => (readLine extended fuel ts).map fun (d, ts) => (.sequence c d, ts)
    match readAndOr extended (8 * ts.length + 8) ts with
    | none => none
    | some (c, .mark "&" :: ts) => after (.background c) ts
    | some (c, .mark ";" :: ts) => after c ts
    | some (c, []) => some (c, [])
    | some (c, .mark "\n" :: ts) => some (c, ts)
    | some _ => none

/-- The commands of tokens, a line at a time. A command that cannot be read is `none`, and nothing
follows it. -/
def readLines (extended : Bool) : Nat → List Token → List (Option Command)
  | 0, _ => []
  | fuel + 1, ts =>
    match skipNewlines ts with
    | [] => []
    | ts =>
      match readLine extended (ts.length + 1) ts with
      | some (c, ts) => some c :: readLines extended fuel ts
      | none => [none]

/-- The commands of a script that starts on a line. Its patterns may have groups if `groups`. -/
def read (extended groups : Bool) (line : Nat) (source : List Char) : List (Option Command) :=
  let ts := tokens extended groups line source
  readLines extended (ts.length + 1) ts

end Flowboard.Shell
