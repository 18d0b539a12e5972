import Flowboard.Text.Integer

/-! Words of shell scripts. -/
namespace Flowboard.Shell

/-- What is done to the value of a parameter. Texts that are words themselves stand as they are
written. -/
inductive Operation where
  | plain
  | length
  /-- another value if there is none; an empty one counts as none if `empty` -/
  | orElse (empty : Bool) (word : List Char)
  | orAssign (empty : Bool) (word : List Char)
  | orFail (empty : Bool) (word : List Char)
  | andThen (empty : Bool) (word : List Char)
  | trimEnd (longest : Bool) (pattern : List Char)
  | trimStart (longest : Bool) (pattern : List Char)
  | slice (offset : List Char) (length : Option (List Char))
  | replace (all : Bool) (pattern text : List Char)
  /-- changes the case of the first character, or of all, of those that a pattern fits -/
  | upper (all : Bool) (pattern : List Char)
  | lower (all : Bool) (pattern : List Char)
  | keys
  /-- the names of variables that start so -/
  | names
  | indirect
  /-- another form of the value, by its letter -/
  | form (letter : Char)
  | bad
  deriving DecidableEq, Repr

/-- A parameter by its name, with the index of an element if it has several. -/
structure Parameter where
  name : String
  index : Option (List Char) := none
  operation : Operation := .plain
  deriving DecidableEq, Repr

/-- A part of a word. What stands between quotes is not split. -/
inductive Part where
  | text (quoted : Bool) (s : List Char)
  | parameter (quoted : Bool) (p : Parameter)
  /-- what a script writes -/
  | command (quoted : Bool) (source : List Char)
  /-- an integer expression -/
  | arithmetic (quoted : Bool) (source : List Char)
  /-- the path of a file with what a script writes -/
  | process (source : List Char)
  /-- the path of a file that a script reads -/
  | sink (source : List Char)
  deriving DecidableEq, Repr

abbrev Word := List Part

def isBlank (c : Char) : Bool :=
  c == ' ' || c == '\t'

/-- The characters that end a word unless they are quoted. -/
def isMeta (c : Char) : Bool :=
  isBlank c || ";&|<>()\n".toList.contains c

def isNameStart (c : Char) : Bool :=
  c.isAlpha || c == '_'

def isNameChar (c : Char) : Bool :=
  c.isAlphanum || c == '_'

def isName (s : List Char) : Bool :=
  match s with
  | c :: cs => isNameStart c && cs.all isNameChar
  | [] => false

/-- Puts text in front of what was read. -/
def before (s : List Char) (r : Option (List Char × List Char)) :
    Option (List Char × List Char) :=
  r.map fun (t, rest) => (s ++ t, rest)

/-- The text before a single quote, and what follows it. -/
def untilQuote (s : List Char) : Option (List Char × List Char) :=
  match s.dropWhile (· != '\'') with
  | _ :: rest => some (s.takeWhile (· != '\''), rest)
  | [] => none

/-- The text before a backquote, and what follows it. A backslash keeps the next character. -/
def untilBackquote : List Char → Option (List Char × List Char)
  | [] => none
  | '`' :: rest => some ([], rest)
  | '\\' :: c :: s => before ['\\', c] (untilBackquote s)
  | c :: s => before [c] (untilBackquote s)

mutual

/-- The text before a closing double quote, and what follows it. -/
def untilDoubleQuote : Nat → List Char → Option (List Char × List Char)
  | 0, _ => none
  | _, [] => none
  | _, '"' :: rest => some ([], rest)
  | fuel + 1, '\\' :: c :: s => before ['\\', c] (untilDoubleQuote fuel s)
  | fuel + 1, '$' :: '(' :: s =>
    match untilParen fuel 0 0 s with
    | some (t, rest) => before ('$' :: '(' :: t ++ [')']) (untilDoubleQuote fuel rest)
    | none => none
  | fuel + 1, '$' :: '{' :: s =>
    match untilBrace fuel true s with
    | some (t, rest) => before ('$' :: '{' :: t ++ ['}']) (untilDoubleQuote fuel rest)
    | none => none
  | fuel + 1, '`' :: s =>
    match untilBackquote s with
    | some (t, rest) => before ('`' :: t ++ ['`']) (untilDoubleQuote fuel rest)
    | none => none
  | fuel + 1, c :: s => before [c] (untilDoubleQuote fuel s)

/-- The text before a closing brace, and what follows it. Between double quotes a single quote
stands for itself. -/
def untilBrace : Nat → Bool → List Char → Option (List Char × List Char)
  | 0, _, _ => none
  | _, _, [] => none
  | _, _, '}' :: rest => some ([], rest)
  | fuel + 1, inside, '\\' :: c :: s => before ['\\', c] (untilBrace fuel inside s)
  | fuel + 1, inside, '"' :: s =>
    match untilDoubleQuote fuel s with
    | some (t, rest) => before ('"' :: t ++ ['"']) (untilBrace fuel inside rest)
    | none => none
  | fuel + 1, inside, '\'' :: s =>
    if inside then before ['\''] (untilBrace fuel inside s)
    else
      match untilQuote s with
      | some (t, rest) => before ('\'' :: t ++ ['\'']) (untilBrace fuel inside rest)
      | none => none
  | fuel + 1, inside, '$' :: '(' :: s =>
    match untilParen fuel 0 0 s with
    | some (t, rest) => before ('$' :: '(' :: t ++ [')']) (untilBrace fuel inside rest)
    | none => none
  | fuel + 1, inside, '$' :: '{' :: s =>
    match untilBrace fuel inside s with
    | some (t, rest) => before ('$' :: '{' :: t ++ ['}']) (untilBrace fuel inside rest)
    | none => none
  | fuel + 1, inside, '`' :: s =>
    match untilBackquote s with
    | some (t, rest) => before ('`' :: t ++ ['`']) (untilBrace fuel inside rest)
    | none => none
  | fuel + 1, inside, c :: s => before [c] (untilBrace fuel inside s)

/-- The text before a closing parenthesis, and what follows it. A parenthesis after the pattern of
a case closes nothing. -/
def untilParen : Nat → Nat → Nat → List Char → Option (List Char × List Char)
  | 0, _, _, _ => none
  | _, _, _, [] => none
  | fuel + 1, depth, cases, ')' :: rest =>
    if depth = 0 then
      if cases = 0 then some ([], rest) else before [')'] (untilParen fuel 0 cases rest)
    else before [')'] (untilParen fuel (depth - 1) cases rest)
  | fuel + 1, depth, cases, '(' :: s => before ['('] (untilParen fuel (depth + 1) cases s)
  | fuel + 1, depth, cases, '\\' :: c :: s => before ['\\', c] (untilParen fuel depth cases s)
  | fuel + 1, depth, cases, '"' :: s =>
    match untilDoubleQuote fuel s with
    | some (t, rest) => before ('"' :: t ++ ['"']) (untilParen fuel depth cases rest)
    | none => none
  | fuel + 1, depth, cases, '\'' :: s =>
    match untilQuote s with
    | some (t, rest) => before ('\'' :: t ++ ['\'']) (untilParen fuel depth cases rest)
    | none => none
  | fuel + 1, depth, cases, '$' :: '{' :: s =>
    match untilBrace fuel false s with
    | some (t, rest) => before ('$' :: '{' :: t ++ ['}']) (untilParen fuel depth cases rest)
    | none => none
  | fuel + 1, depth, cases, '`' :: s =>
    match untilBackquote s with
    | some (t, rest) => before ('`' :: t ++ ['`']) (untilParen fuel depth cases rest)
    | none => none
  | fuel + 1, depth, cases, c :: s =>
    if isNameStart c then
      let word := c :: s.takeWhile isNameChar
      let cases :=
        if word = "case".toList then cases + 1
        else if word = "esac".toList then cases - 1
        else cases
      before word (untilParen fuel depth cases (s.dropWhile isNameChar))
    else if isBlank c || c == '\n' || c == ';' then
      match s with
      | '#' :: t =>
        let comment := '#' :: t.takeWhile (· != '\n')
        before (c :: comment) (untilParen fuel depth cases (t.dropWhile (· != '\n')))
      | s => before [c] (untilParen fuel depth cases s)
    else before [c] (untilParen fuel depth cases s)

end

def readParameterName : List Char → Option (String × List Char)
  | [] => none
  | c :: s =>
    if isNameStart c then
      some (String.ofList (c :: s.takeWhile isNameChar), s.dropWhile isNameChar)
    else if c.isDigit then
      some (String.ofList (c :: s.takeWhile Char.isDigit), s.dropWhile Char.isDigit)
    else if "$?#!@*-".toList.contains c then some (String.ofList [c], s)
    else none

/-- The texts before and after a slash that no backslash stands before. -/
def splitSlash : List Char → List Char × Option (List Char)
  | [] => ([], none)
  | '\\' :: c :: s => let (a, b) := splitSlash s; ('\\' :: c :: a, b)
  | '/' :: s => ([], some s)
  | c :: s => let (a, b) := splitSlash s; (c :: a, b)

def splitColon (s : List Char) : List Char × Option (List Char) :=
  match s.dropWhile (· != ':') with
  | _ :: rest => (s.takeWhile (· != ':'), some rest)
  | [] => (s, none)

def readOperation (extended : Bool) : List Char → Operation
  | [] => .plain
  | ':' :: '-' :: w => .orElse true w
  | ':' :: '=' :: w => .orAssign true w
  | ':' :: '?' :: w => .orFail true w
  | ':' :: '+' :: w => .andThen true w
  | '-' :: w => .orElse false w
  | '=' :: w => .orAssign false w
  | '?' :: w => .orFail false w
  | '+' :: w => .andThen false w
  | '%' :: '%' :: w => .trimEnd true w
  | '%' :: w => .trimEnd false w
  | '#' :: '#' :: w => .trimStart true w
  | '#' :: w => .trimStart false w
  | s =>
    if !extended then .bad
    else
      match s with
      | ':' :: s => let (offset, length) := splitColon s; .slice offset length
      | '/' :: '/' :: s =>
        let (pattern, text) := splitSlash s
        .replace true pattern (text.getD [])
      | '/' :: s =>
        let (pattern, text) := splitSlash s
        .replace false pattern (text.getD [])
      | '^' :: '^' :: p => .upper true p
      | '^' :: p => .upper false p
      | ',' :: ',' :: p => .lower true p
      | ',' :: p => .lower false p
      | ['@', letter] => .form letter
      | _ => .bad

def readIndexed (extended : Bool) (s : List Char) : Option (Parameter × List Char) :=
  match readParameterName s with
  | none => none
  | some (name, '[' :: rest) =>
    if extended && isName name.toList then
      let index := rest.takeWhile (· != ']')
      some ({ name, index := some index }, (rest.drop index.length).drop 1)
    else some ({ name }, '[' :: rest)
  | some (name, rest) => some ({ name }, rest)

def readBraced (extended : Bool) (s : List Char) : Parameter :=
  let whole (s : List Char) : Parameter :=
    match readIndexed extended s with
    | some (p, rest) => { p with operation := readOperation extended rest }
    | none => { name := "", operation := .bad }
  match s with
  | ['#'] => { name := "#" }
  | '#' :: t =>
    match readIndexed extended t with
    | some (p, []) => { p with operation := .length }
    | _ => whole s
  | '!' :: c :: t =>
    if extended && isNameStart c then
      match readIndexed extended (c :: t) with
      | some (p, []) =>
        let several := p.index == some ['@'] || p.index == some ['*']
        { p with operation := if several then .keys else .indirect }
      | some (p, ['*']) => { p with operation := .names }
      | some (p, ['@']) => { p with operation := .names }
      | _ => whole s
    else if extended && t.isEmpty && (c.isDigit || c == '#' || c == '@' || c == '*') then
      { name := c.toString, operation := .indirect }
    else whole s
  | s => whole s

def backquoted (inside : Bool) : List Char → List Char
  | [] => []
  | '\\' :: c :: s =>
    if c = '`' ∨ c = '\\' ∨ c = '$' ∨ (inside ∧ c = '"') then c :: backquoted inside s
    else '\\' :: c :: backquoted inside s
  | c :: s => c :: backquoted inside s

def readDollar (extended quoted : Bool) (s : List Char) : Option (Part × List Char) :=
  let fuel := s.length + 2
  match s with
  | '(' :: '(' :: t =>
    match untilParen fuel 1 0 t with
    | some (body, rest) =>
      -- two parentheses at the end belong together only if nothing stands between them
      if body.getLast? = some ')' then some (.arithmetic quoted body.dropLast, rest)
      else some (.command quoted ('(' :: body), rest)
    | none => none
  | '(' :: t => (untilParen fuel 0 0 t).map fun (body, rest) => (.command quoted body, rest)
  | '{' :: t =>
    (untilBrace fuel quoted t).map fun (body, rest) =>
      (.parameter quoted (readBraced extended body), rest)
  | c :: t =>
    if isNameStart c then
      some (.parameter quoted { name := String.ofList (c :: t.takeWhile isNameChar) },
        t.dropWhile isNameChar)
    else if c.isDigit || "$?#!@*-".toList.contains c then
      some (.parameter quoted { name := String.ofList [c] }, t)
    else some (.text quoted ['$'], s)
  | [] => some (.text quoted ['$'], [])

/-- Reads text in which dollar signs, backquotes and backslashes count, such as that between double
quotes. -/
def readQuoted (extended : Bool) (escapes : List Char) : Nat → List Char → Option Word
  | 0, _ => none
  | _, [] => some []
  | fuel + 1, '\\' :: c :: s =>
    let kept := if c = '\n' then [] else if escapes.contains c then [c] else ['\\', c]
    (readQuoted extended escapes fuel s).map (.text true kept :: ·)
  | fuel + 1, '$' :: s =>
    match readDollar extended true s with
    | some (part, rest) => (readQuoted extended escapes fuel rest).map (part :: ·)
    | none => none
  | fuel + 1, '`' :: s =>
    match untilBackquote s with
    | some (body, rest) =>
      (readQuoted extended escapes fuel rest).map (.command true (backquoted true body) :: ·)
    | none => none
  | fuel + 1, c :: s =>
    -- quotes inside of braces inside of quotes change nothing
    let kept := if c = '"' ∧ escapes.contains '}' then [] else [c]
    (readQuoted extended escapes fuel s).map (.text true kept :: ·)

/-- The characters that a backslash protects between double quotes. -/
def quoteEscapes : List Char := ['$', '`', '"', '\\']

/-- The characters that a backslash protects in a document inside a script. -/
def documentEscapes : List Char := ['$', '`', '\\']

/-- What an escape after a backslash stands for, and what follows it. -/
def readAnsiEscape (c : Char) (s : List Char) : List Char × List Char :=
  let plain (d : Char) : List Char × List Char := ([d], s)
  match c with
  | 'n' => plain '\n'
  | c =>
    if '0' ≤ c ∧ c ≤ '7' then
      let ds := c :: (s.take 2).takeWhile fun c => '0' ≤ c && c ≤ '7'
      let n := ds.foldl (fun n c => 8 * n + (c.toNat - 48)) 0
      ([Char.ofNat (n % 256)], s.drop (ds.length - 1))
    else (['\\', c], s)

/-- A text between `$'` and `'`, in which escapes count. Each character uses up one of the fuel. -/
def readAnsi : Nat → List Char → Option (List Char × List Char)
  | 0, _ => none
  | _, [] => none
  | _, '\'' :: rest => some ([], rest)
  | fuel + 1, '\\' :: c :: s =>
    let (text, rest) := readAnsiEscape c s
    before text (readAnsi fuel rest)
  | fuel + 1, c :: s => before [c] (readAnsi fuel s)

/-- A word up to the first character for which `stops` holds outside of groups of patterns. There
are groups only if `groups`. -/
def readWordIn (extended groups : Bool) (stops : Char → Bool) :
    Nat → Nat → List Char → Option (Word × List Char)
  | _, 0, _ => none
  | _, _, [] => some ([], [])
  | depth, fuel + 1, '\'' :: s =>
    match untilQuote s with
    | some (t, rest) =>
      (readWordIn extended groups stops depth fuel rest).map fun (w, rest) => (.text true t :: w, rest)
    | none => none
  | depth, fuel + 1, '"' :: s =>
    match untilDoubleQuote fuel s with
    | some (body, rest) =>
      match readQuoted extended quoteEscapes (body.length + 1) body,
          readWordIn extended groups stops depth fuel rest with
      | some w, some (v, rest) => some (.text true [] :: (w ++ v), rest)
      | _, _ => none
    | none => none
  | depth, fuel + 1, '\\' :: '\n' :: s => readWordIn extended groups stops depth fuel s
  | depth, fuel + 1, '\\' :: c :: s =>
    (readWordIn extended groups stops depth fuel s).map fun (w, rest) => (.text true [c] :: w, rest)
  | depth, fuel + 1, '$' :: '\'' :: s =>
    if extended then
      match readAnsi (fuel + 1) s with
      | some (t, rest) =>
        (readWordIn extended groups stops depth fuel rest).map fun (w, rest) => (.text true t :: w, rest)
      | none => none
    else (readWordIn extended groups stops depth fuel ('\'' :: s)).map fun (w, rest) =>
      (.text true ['$'] :: w, rest)
  | depth, fuel + 1, '$' :: s =>
    match readDollar extended false s with
    | some (part, rest) =>
      (readWordIn extended groups stops depth fuel rest).map fun (w, rest) => (part :: w, rest)
    | none => none
  | depth, fuel + 1, '`' :: s =>
    match untilBackquote s with
    | some (body, rest) =>
      (readWordIn extended groups stops depth fuel rest).map fun (w, rest) =>
        (.command false (backquoted false body) :: w, rest)
    | none => none
  | depth, fuel + 1, c :: s =>
    let put (depth : Nat) : Option (Word × List Char) :=
      (readWordIn extended groups stops depth fuel s).map fun (w, rest) =>
        (.text false [c] :: w, rest)
    if depth = 0 then
      if groups && "?*+@!".toList.contains c && s.head? == some '(' then
        (readWordIn extended groups stops 1 fuel (s.drop 1)).map fun (w, rest) =>
          (.text false [c] :: .text false ['('] :: w, rest)
      else if stops c then some ([], c :: s)
      else put 0
    else if c = '(' then put (depth + 1)
    else if c = ')' then put (depth - 1)
    else put depth

def readWord (extended : Bool) (stops : Char → Bool) (fuel : Nat) (s : List Char) :
    Option (Word × List Char) :=
  readWordIn extended false stops 0 fuel s

def wordOf (extended quoted : Bool) (s : List Char) : Word :=
  if quoted then
    (readQuoted extended ('}' :: quoteEscapes) (s.length + 1) s).getD [.text true s]
  else ((readWord extended (fun _ => false) (s.length + 1) s).map (·.1)).getD [.text false s]

/-- The text of a word that has no quotes and stands for itself. -/
def plain? : Word → Option (List Char)
  | [] => some []
  | .text false s :: rest => (plain? rest).map (s ++ ·)
  | _ => none

end Flowboard.Shell
