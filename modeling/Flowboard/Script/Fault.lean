import Flowboard.Script.Number
import Flowboard.Script.Parser
import Flowboard.Text.Category

/-! What is wrong with the characters of a script: texts, numbers and brackets. -/
namespace Flowboard.Script

/-- What is wrong with a script, and where. -/
structure Fault where
  kind : String := "SyntaxError"
  message : String
  line : Nat
  column : Nat
  deriving DecidableEq, Repr

/-- A token with its place and the number of brackets around it. -/
structure Mark where
  token : Token
  line : Nat
  column : Nat
  depth : Nat
  deriving DecidableEq, Repr

/-- The line and the column of what is left of a source. -/
def placeIn (source rest : List Char) : Nat × Nat :=
  let before := source.take (source.length - rest.length)
  let line := before.count '\n' + 1
  (line, (before.reverse.takeWhile (· != '\n')).length + 1)

/-- Digits with single underscores between them; `none` if an underscore stands alone. -/
def digitRun (isDigit : Char → Bool) : Nat → List Char → Option (List Char)
  | 0, s => some s
  | fuel + 1, s =>
    let s := s.dropWhile isDigit
    match s with
    | '_' :: c :: rest => if isDigit c then digitRun isDigit fuel (c :: rest) else none
    | ['_'] => none
    | s => some s

/-- Whether a word may follow a number directly. -/
def followsNumber (s : List Char) : Bool :=
  ["and", "else", "for", "if", "in", "is", "not", "or"].contains
    (.ofList (s.takeWhile isNamePart))

def numberFault? (s : List Char) : Option String :=
  let after (name : String) (rest : List Char) : Option String :=
    match rest with
    | c :: _ =>
      if isNamePart c && !followsNumber rest then some ("invalid " ++ name ++ " literal") else none
    | [] => none
  match digitRun Char.isDigit s.length s with
  | none => some "invalid decimal literal"
  | some rest =>
    let whole := s.take (s.length - rest.length)
    let fraction : Option (List Char × Bool) := match rest with
      | '.' :: more =>
        if more.head? = some '_' then none
        else (digitRun Char.isDigit more.length more).map fun r => (r, true)
      | rest => some (rest, false)
    match fraction with
    | none => some "invalid decimal literal"
    | some (rest, pointed) =>
      let (rest, raised) := match rest with
        | e :: more =>
          if e = 'e' || e = 'E' then
            if more.head?.any Char.isDigit then
              ((digitRun Char.isDigit more.length more).getD more, true)
            else (rest, false)
          else (rest, false)
        | [] => ([], false)
      if !pointed && !raised && whole.head? = some '0' &&
          whole.any (fun c => c != '0' && c != '_') then
        some ("leading zeros in decimal integer literals are not permitted; " ++
          "use an 0o prefix for octal integers")
      else after "decimal" rest

/-- The bracket that closes another one. -/
def closing (c : Char) : Char :=
  match c with
  | '(' => ')'
  | '[' => ']'
  | _ => '\x7d'

def codeName (c : Char) : String :=
  let ds := (Nat.toDigits 16 c.toNat).map Char.toUpper
  "U+" ++ .ofList (List.replicate (4 - ds.length) '0' ++ ds)

def nameFault? (s : List Char) : Option (String × List Char) :=
  let bad := s.zipIdx.find? fun (c, i) =>
    127 < c.toNat && !(if i = 0 then startsName c else continuesName c)
  bad.map fun (c, i) =>
    (if Text.isPrintable c then
      "invalid character '" ++ c.toString ++ "' (" ++ codeName c ++ ")"
    else "invalid non-printable character " ++ codeName c, s.drop i)

/-- A script that is searched for faults of its characters. -/
structure Scan where
  lexer : Lexer
  /-- the brackets that are open with their lines and columns -/
  brackets : List (Char × Nat × Nat) := []
  marks : List Mark := []

/-- The tokens of a script with their places, or what is wrong with one of them. -/
def examine (source : List Char) : Nat → Scan → Except Fault (List Mark)
  | 0, _ => .error ⟨"SyntaxError", "invalid syntax", 1, 1⟩
  | fuel + 1, st => do
    let l := st.lexer
    let (line, column) := placeIn source l.rest
    let fault {α : Type} (message : String) : Except Fault α :=
      .error ⟨"SyntaxError", message, line, column⟩
    let keep (next : Lexer) (brackets : List (Char × Nat × Nat)) : Except Fault (List Mark) :=
      let fresh := (next.tokens.take (next.tokens.length - l.tokens.length)).map fun t =>
        (⟨t, line, column, st.brackets.length⟩ : Mark)
      examine source fuel ⟨next, brackets, fresh ++ st.marks⟩
    if l.done then
      match st.brackets with
      | (c, line, column) :: _ =>
        .error ⟨"SyntaxError", "'" ++ c.toString ++ "' was never closed", line, column⟩
      | [] => return st.marks.reverse
    else if l.lineStart && l.depth = 0 && !l.rest.isEmpty then
      let next := l.startLine
      if next.done then
        .error ⟨"IndentationError", "unindent does not match any outer indentation level",
          line, column⟩
      else
        let (line, column) := placeIn source next.rest
        let fresh := (next.tokens.take (next.tokens.length - l.tokens.length)).map fun t =>
          (⟨t, line, column, 0⟩ : Mark)
        examine source fuel ⟨next, st.brackets, fresh ++ st.marks⟩
    else
      match l.rest with
      | [] => keep l.step st.brackets
      | ['\\'] => fault "unexpected EOF while parsing"
      | ['\\', '\n'] => fault "unexpected EOF while parsing"
      | '\\' :: c :: _ =>
        if c = '\n' || c = '\r' then keep l.step st.brackets
        else fault "unexpected character after line continuation character"
      | c :: rest =>
        if c = '\'' || c = '"' then
          let next := l.step
          if next.done && !next.rest.isEmpty || next.tokens.head? = some .fault then
            fault ("unterminated string literal (detected at line " ++ Text.naturalText line ++ ")")
          else keep next st.brackets
        else if isNameStart c then
          let name := (c :: rest).takeWhile isNamePart
          match nameFault? name with
          | some (message, bad) =>
            let (line, column) := placeIn source (bad ++ rest.drop (name.length - 1))
            .error ⟨"SyntaxError", message, line, column⟩
          | none =>
            let next := l.step
            match next.tokens.head? with
            | some (.literal t) =>
              if t.bytes && t.body.any fun c => 127 < c.toNat then
                fault "bytes can only contain ASCII literal characters"
              else keep next st.brackets
            | _ => keep next st.brackets
        else if c.isDigit || (c == '.' && rest.head?.any Char.isDigit) then
          match numberFault? (if c = '.' then '0' :: c :: rest else c :: rest) with
          | some message => fault message
          | none => keep l.step st.brackets
        else if c = '(' || c = '[' || c = '\x7b' then
          keep l.step ((c, line, column) :: st.brackets)
        else if c = ')' || c = ']' || c = '\x7d' then
          match st.brackets with
          | [] => fault ("unmatched '" ++ c.toString ++ "'")
          | (o, first, _) :: more =>
            if closing o = c then
              let next := l.step
              let fresh := (next.tokens.take 1).map fun t =>
                (⟨t, line, column, more.length⟩ : Mark)
              examine source fuel ⟨next, more, fresh ++ st.marks⟩
            else
              fault ("closing parenthesis '" ++ c.toString ++
                "' does not match opening parenthesis '" ++ o.toString ++ "'" ++
                (if first = line then "" else " on line " ++ Text.naturalText first))
        else
          let next := l.step
          if next.tokens.head? = some .fault then fault "invalid syntax"
          else keep next st.brackets

end Flowboard.Script
