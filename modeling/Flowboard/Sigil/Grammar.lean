import Flowboard.Sigil.Reader

/-! The grammar of programs whose variables have sigils. -/
namespace Flowboard.Sigil

/-- What stands behind a sigil: a name, or what leads to the variable. -/
inductive Base where
  | named (name : String)
  | special (name : String)
  | reached (e : Expr)

def elementsOf : Expr → List Expr
  | .list es => es
  | e => [e]

def Base.variable (kind : Shape) : Base → Reading Expr
  | .named n => resolve kind n
  | .special n =>
    return match kind, n with
      | .scalar, n => Sigil.special n
      | .array, "-" => .builtin "match starts" []
      | .array, "+" => .builtin "match ends" []
      | kind, n => .var kind (.shared ("main::" ++ n))
  | .reached e => return .deref kind e

/-- A test of a loop that goes on as long as something is read. -/
def loopTest : Expr → Expr
  | .readLine h => .builtin "defined" [.assign topic (.readLine h)]
  | .builtin "glob" es => .builtin "defined" [.assign topic (.builtin "glob" es)]
  | .builtin "readdir" es => .builtin "defined" [.assign topic (.builtin "readdir" es)]
  | .assign t (.readLine h) => .builtin "defined" [.assign t (.readLine h)]
  | .assign t (.builtin "readdir" es) => .builtin "defined" [.assign t (.builtin "readdir" es)]
  | .assign t (.builtin "glob" es) => .builtin "defined" [.assign t (.builtin "glob" es)]
  | .assign t (.builtin "each" es) => .builtin "defined" [.assign t (.builtin "each" es)]
  | e => e

def call (full : String) (args : List Expr) (plain : Bool) : Expr :=
  if isModuleFunction full then .builtin full args else .call full args plain

def joinPieces : List Expr → Expr
  | [] => .constant (.text "")
  | [.constant v] => .constant v
  | es => .pieces es

/-- Puts what has been read as plain letters before other pieces. -/
def pushLetters (letters : List Char) (done : List Expr) : List Expr :=
  if letters.isEmpty then done else textExpr letters.reverse :: done

def changeFirst (first : Option Char) (e : Expr) : Expr :=
  match first with
  | some 'u' => .builtin "ucfirst" [e]
  | some _ => .builtin "lcfirst" [e]
  | none => e

def changeLetter (first : Option Char) (c : Char) : Char :=
  match first with
  | some 'u' => c.toUpper
  | some _ => c.toLower
  | none => c

/-- Whether braces hold the bounds of a repetition. -/
def boundsHere : Reading Bool := fun s =>
  let rest := (s.text.extract (s.place + 1) (s.place + 24)).toList
  let a := rest.takeWhile Char.isDigit
  let rest := rest.drop a.length
  let rest := match rest with
    | ',' :: t => t.dropWhile Char.isDigit
    | t => t
  .ok (!a.isEmpty && rest.head? == some '}', s)

/-- Whether brackets in a pattern hold the place of an item and no set of characters. -/
def indexHere : Reading Bool := fun s =>
  let inner := (s.text.extract (s.place + 1) (s.place + 40)).toList.takeWhile (· != ']')
  let plain := match inner with
    | '-' :: ds => !ds.isEmpty && ds.all Char.isDigit
    | '$' :: w => !w.isEmpty && w.all isWordPart
    | ds => !ds.isEmpty && ds.all Char.isDigit
  .ok (plain, s)

/-- Whether what stands in parentheses after the name of a routine declares variables. -/
def isSignature (cs : List Char) : Bool :=
  cs.any fun c => isWordStart c && c != '_' || c == ','

def isHandleWord (w : String) : Bool :=
  !w.isEmpty && w.toList.all fun c => c.isUpper || c.isDigit || c == '_'

/-- What a pattern is applied to. -/
def bound (negated : Bool) (a b : Expr) : Expr :=
  let e := match b with
    | .match_ none p flags => .match_ (some a) p flags
    | .substitute none p r flags => .substitute (some a) p r flags
    | .transliterate none x y flags => .transliterate (some a) x y flags
    | b => .match_ (some a) b []
  if negated then .unary .not e else e

/-- The second part of something with two parts, after the first one. -/
def readSecond (c : Char) : Reading (Char × List Char) := do
  if closing c == c then return (c, ← readDelimited c)
  skipBlank
  let d ← cur 0
  skip 1
  return (d, ← readDelimited d)

def readVariable (w : String) : Reading Expr := do
  skipBlank
  if ← takesWord "undef" then return .builtin "undef" []
  let kind ← match ← cur 0 with
    | '$' => pure Shape.scalar
    | '@' => pure Shape.array
    | '%' => pure Shape.hash
    | _ => syntaxFault
  skip 1
  let name ← readName
  if name.isEmpty then syntaxFault
  if w == "our" then
    let s ← get
    let full := fullName s.package name
    set { s with visible := (sigilOf kind ++ name, .shared full) :: s.visible }
    return .var kind (.shared full)
  else
    let id ← declareOwn kind name
    return .declare (if w == "state" then .state else .my) kind id

mutual

def readExpr : Nat → Reading Expr
  | 0 => syntaxFault
  | fuel + 1 => do
    let a ← readAnd fuel
    readOrMore fuel a
termination_by structural n => n

def readOrMore : Nat → Expr → Reading Expr
  | 0, _ => syntaxFault
  | fuel + 1, a => do
    if ← takesWord "or" then
      let b ← readAnd fuel
      readOrMore fuel (.lazy .or a b)
    else if ← takesWord "xor" then
      let b ← readAnd fuel
      readOrMore fuel (.xor a b)
    else return a
termination_by structural n => n

def readAnd : Nat → Reading Expr
  | 0 => syntaxFault
  | fuel + 1 => do
    let a ← readNot fuel
    readAndMore fuel a
termination_by structural n => n

def readAndMore : Nat → Expr → Reading Expr
  | 0, _ => syntaxFault
  | fuel + 1, a => do
    if ← takesWord "and" then
      let b ← readNot fuel
      readAndMore fuel (.lazy .and a b)
    else return a
termination_by structural n => n

def readNot : Nat → Reading Expr
  | 0 => syntaxFault
  | fuel + 1 => do
    if ← takesWord "not" then
      let e ← readNot fuel
      return .unary .not e
    else readComma fuel
termination_by structural n => n

/-- Expressions between commas; one alone stands for itself. -/
def readComma : Nat → Reading Expr
  | 0 => syntaxFault
  | fuel + 1 => do
    let e ← readAssign fuel
    skipBlank
    if (← cur 0) == ',' || (← startsWith "=>") then
      let es ← readCommaMore fuel [e]
      return .list es.reverse
    else return e
termination_by structural n => n

def readCommaMore : Nat → List Expr → Reading (List Expr)
  | 0, _ => syntaxFault
  | fuel + 1, done => do
    skipBlank
    if (← cur 0) == ',' then
      skip 1
      readCommaNext fuel done
    else if ← startsWith "=>" then
      skip 2
      readCommaNext fuel done
    else return done
termination_by structural n => n

def readCommaNext : Nat → List Expr → Reading (List Expr)
  | 0, _ => syntaxFault
  | fuel + 1, done => do
    skipBlank
    if (← cur 0) == ',' || (← startsWith "=>") then readCommaMore fuel done
    else if (← atEnd) || [')', ']', '}', ';', ':'].contains (← cur 0) then return done
    else
      let w ← peekWord
      if endingWords.contains w && !(← fatCommaAfter w.length) then return done
      let e ← readAssign fuel
      readCommaMore fuel (e :: done)
termination_by structural n => n

def readAssign : Nat → Reading Expr
  | 0 => syntaxFault
  | fuel + 1 => do
    let target ← readChoice fuel
    skipBlank
    match ← assignmentHere with
    | none => return target
    | some op =>
      let value ← readAssign fuel
      if op == "" then
        return if isListTarget target then .assignList target value else .assign target value
      match lazyOf? op, binaryOf? op with
      | some l, _ => return .updateLazy l target value
      | none, some b => return .update b target value
      | none, none => syntaxFault
termination_by structural n => n

def readChoice : Nat → Reading Expr
  | 0 => syntaxFault
  | fuel + 1 => do
    let c ← readBinary fuel 8
    skipBlank
    if (← cur 0) == '?' then
      skip 1
      let a ← readAssign fuel
      expect ":"
      let b ← readAssign fuel
      return .choice c a b
    else return c
termination_by structural n => n

/-- Operations that bind at least as strongly as a level. -/
def readBinary : Nat → Nat → Reading Expr
  | 0, _ => syntaxFault
  | fuel + 1, least => do
    let a ← readUnary fuel
    readBinaryMore fuel least a
termination_by structural n => n

def readBinaryMore : Nat → Nat → Expr → Reading Expr
  | 0, _, _ => syntaxFault
  | fuel + 1, least, a => do
    skipBlank
    match ← operatorHere with
    | none => return a
    | some (op, level) =>
      if level < least then return a
      skip op.length
      let b ← readBinary fuel (if op == "**" then 21 else level + 1)
      let e ← match op with
        | "=~" => pure (bound false a b)
        | "!~" => pure (bound true a b)
        | ".." | "..." => do
          let s ← get
          set { s with next := s.next + 1 }
          pure (.range s.next a b)
        | "isa" => pure (.builtin "isa" [a, b])
        | op =>
          match lazyOf? op, binaryOf? op with
          | some l, _ => pure (.lazy l a b)
          | none, some .repeated =>
            match a with
            | .list _ => pure (.repeatList a b)
            | a => pure (.binary .repeated a b)
          | none, some o => pure (.binary o a b)
          | none, none => syntaxFault
      readBinaryMore fuel least e
termination_by structural n => n

def readUnary : Nat → Reading Expr
  | 0 => syntaxFault
  | fuel + 1 => do
    skipBlank
    let e ← readPrimary fuel
    readPostfix fuel e
termination_by structural n => n

/-- What stands after a term: more places, calls, steps. -/
def readPostfix : Nat → Expr → Reading Expr
  | 0, _ => syntaxFault
  | fuel + 1, e => do
    let chained := match e with
      | .item _ _ | .entry _ _ | .callRef _ _ => true
      | _ => false
    let c ← cur 0
    if chained && c == '[' then
      skip 1
      let i ← readExpr fuel
      expect "]"
      readPostfix fuel (.item (.deref .array e) i)
    else if chained && c == '{' then
      skip 1
      let k ← readKey fuel
      readPostfix fuel (.entry (.deref .hash e) k)
    else if chained && c == '(' then
      let args ← readParens fuel
      readPostfix fuel (.callRef e args)
    else
      let before := (← get).place
      skipBlank
      if ← startsWith "->" then
        skip 2
        skipBlank
        let name ← readName
        if name.isEmpty then syntaxFault
        let package := (← get).package
        let name := if name.startsWith "SUPER::" then package ++ "::" ++ name else name
        let args ← if (← cur 0) == '(' then readParens fuel else pure []
        let called := Expr.method e name args
        -- what a method gives can be called or looked into at once
        if (← cur 0) == '[' || (← cur 0) == '{' then return called
        readPostfix fuel called
      else if ← startsWith "++" then
        skip 2
        return .step false true e
      else if ← startsWith "--" then
        skip 2
        return .step false false e
      else
        modify fun s => { s with place := before }
        return e
termination_by structural n => n

/-- The key of a hash up to its brace; a word stands for itself. -/
def readKey : Nat → Reading Expr
  | 0 => syntaxFault
  | fuel + 1 => do
    let s ← get
    skipBlank
    let minus := (← cur 0) == '-'
    if minus then skip 1
    let w ← takeWhile isWordPart
    skipBlank
    if !w.isEmpty && (← cur 0) == '}' && (isWordStart (w.headD '0') || minus) then
      skip 1
      return textExpr (if minus then '-' :: w else w)
    else
      set s
      let e ← readExpr fuel
      expect "\x7d"
      match e with
      | .list (a :: b :: rest) =>
        return .builtin "join" (.var .scalar (.shared "main::;") :: a :: b :: rest)
      | e => return e
termination_by structural n => n

def readParens : Nat → Reading (List Expr)
  | 0 => syntaxFault
  | fuel + 1 => do
    expect "("
    if ← takes ")" then return []
    let e ← readExpr fuel
    expect ")"
    return elementsOf e
termination_by structural n => n

def readArguments : Nat → Reading (List Expr)
  | 0 => syntaxFault
  | fuel + 1 => do
    skipBlank
    if (← cur 0) == '(' then readParens fuel
    else if ← termHere then
      let e ← readComma fuel
      return elementsOf e
    else return []
termination_by structural n => n

def readBase : Nat → Reading Base
  | 0 => syntaxFault
  | fuel + 1 => do
    let c ← cur 0
    if c == '{' then
      let s ← get
      skip 1
      skipBlank
      let w ← if (← cur 0) == '^' then do
          skip 1
          let w ← takeWhile isWordPart
          pure ("^" ++ String.ofList w)
        else readName
      skipBlank
      if !w.isEmpty && (← cur 0) == '}' then
        skip 1
        return if isWordStart (w.toList.headD '0') then .named w else .special w
      else
        set s
        skip 1
        if !w.isEmpty then pure () else
          match ← specialName? with
          | some n =>
            if (← cur 0) == '}' && n != "$" then
              skip 1
              return .special n
            else set { s with place := s.place + 1 }
          | none => set { s with place := s.place + 1 }
        let e ← readBlockRest fuel
        return .reached (match e with
          | [.expr _ e] => e
          | body => .do_ body)
    else if c == '$' then
      let d ← cur 1
      if isWordStart d || d == '{' || d == '$' || (d == ':' && (← cur 2) == ':') then
        skip 1
        let inner ← readBase fuel
        return .reached (← inner.variable .scalar)
      else
        skip 1
        return .special "$"
    else if isWordStart c || (c == ':' && (← cur 1) == ':' && isWordStart (← cur 2)) then
      return .named (← readName)
    else
      match ← specialName? with
      | some n => return .special n
      | none => syntaxFault
termination_by structural n => n

/-- Statements after an opening brace. -/
def readBlockRest : Nat → Reading (List Statement)
  | 0 => syntaxFault
  | fuel + 1 => do
    let coming := (← get).coming
    modify fun s => { s with coming := [] }
    let body ← inScope (readStatements fuel)
    modify fun s => { s with coming }
    expect "\x7d"
    return body
termination_by structural n => n

def readBlock : Nat → Reading (List Statement)
  | 0 => syntaxFault
  | fuel + 1 => do
    expect "\x7b"
    readBlockRest fuel
termination_by structural n => n

def readStatements : Nat → Reading (List Statement)
  | 0 => syntaxFault
  | fuel + 1 => do
    skipBlank
    if (← atEnd) || (← cur 0) == '}' then return []
    let s ← readStatement fuel
    introduce
    match s with
    | .nothing => readStatements fuel
    | s => return s :: (← readStatements fuel)
termination_by structural n => n

/-- A scalar variable with what follows it in a text or outside of one. -/
def readScalar : Nat → Reading Expr
  | 0 => syntaxFault
  | fuel + 1 => do
    skip 1
    if (← cur 0) == '#' then
      let d ← cur 1
      if d == '{' || d == '$' || isWordStart d then
        skip 1
        let base ← readBase fuel
        return .lastIndex (← base.variable .array)
    let base ← readBase fuel
    match ← cur 0 with
    | '[' =>
      match base with
      | .special "-" | .special "+" =>
        skip 1
        let i ← readExpr fuel
        expect "]"
        return .builtin (if (base matches .special "-") then "match start" else "match end") [i]
      | _ =>
        skip 1
        let i ← readExpr fuel
        expect "]"
        return .item (← base.variable .array) i
    | '{' =>
      skip 1
      let k ← readKey fuel
      return .entry (← base.variable .hash) k
    | _ => base.variable .scalar
termination_by structural n => n

/-- The pieces of a text or of a pattern: letters and variables. -/
def readPieces : Nat → Bool → Bool → List Char → List Expr → Option Char → Reading (List Expr)
  | 0, _, _, _, _, _ => syntaxFault
  | fuel + 1, pat, inner, letters, done, first => do
    if ← atEnd then return (pushLetters letters done).reverse
    let c ← cur 0
    let d ← cur 1
    match c with
    | '\\' =>
      if pat then
        skip 2
        readPieces fuel pat inner (d :: '\\' :: letters) done none
      else
        skip 1
        let cs ← readTextEscape
        let cs := match cs with
          | c :: rest => changeLetter first c :: rest
          | [] => []
        readPieces fuel pat inner (cs.reverse ++ letters) done none
    | '$' =>
      let starts := isWordStart d || d == '{' || d.isDigit || d == '$' || d == '&' ||
        (d == ':' && isWordStart (← cur 3)) || (d == '#' && ((← cur 2) == '{' || (← cur 2) == '$' ||
          isWordStart (← cur 2)))
      let punctuation := if pat then "&@!,;".toList else "&`'+!@/\\,;.0".toList
      if starts || (punctuation.contains d && !(pat && (d == '!' || d == '@' || d == ','))) then
        let e ← readInText fuel pat
        readPieces fuel pat inner [] (changeFirst first e :: pushLetters letters done) none
      else
        skip 1
        readPieces fuel pat inner ('$' :: letters) done none
    | '@' =>
      if isWordStart d || d == '{' || d == '$' || (d == ':' && (← cur 2) == ':') ||
          (!pat && (d == '-' || d == '+')) then
        skip 1
        let base ← readBase fuel
        let e ← match ← cur 0 with
          | '[' =>
            skip 1
            let is ← readExpr fuel
            expect "]"
            let a ← base.variable .array
            pure (Expr.items a is)
          | _ => base.variable .array
        readPieces fuel pat inner [] (.woven e :: pushLetters letters done) none
      else
        skip 1
        readPieces fuel pat inner ('@' :: letters) done none
    | c =>
      skip 1
      readPieces fuel pat inner (changeLetter first c :: letters) done none
termination_by structural n => n

/-- A scalar variable inside of a text, with the places behind it. -/
def readInText : Nat → Bool → Reading Expr
  | 0, _ => syntaxFault
  | fuel + 1, pat => do
    skip 1
    if (← cur 0) == '#' then
      skip 1
      let base ← readBase fuel
      return .lastIndex (← base.variable .array)
    let base ← readBase fuel
    let c ← cur 0
    let index ← if c == '[' then (if pat then indexHere else do
        let d ← cur 1
        pure (d == '$' || d == '-' || d == '#' || isWordPart d)) else pure false
    let key ← if c == '{' then (if pat then do return !(← boundsHere) else pure true)
      else pure false
    if index then
      skip 1
      let i ← readExpr fuel
      expect "]"
      match base with
      | .special "-" => return .builtin "match start" [i]
      | .special "+" => return .builtin "match end" [i]
      | base => readTextPlaces fuel pat (.item (← base.variable .array) i)
    else if key then
      skip 1
      let k ← readKey fuel
      readTextPlaces fuel pat (.entry (← base.variable .hash) k)
    else
      let e ← base.variable .scalar
      if (← startsWith "->[") || (← startsWith "->\x7b") || (← startsWith "->@*") then
        readTextPlaces fuel pat e
      else return e
termination_by structural n => n

def readTextPlaces : Nat → Bool → Expr → Reading Expr
  | 0, _, _ => syntaxFault
  | fuel + 1, pat, e => do
    if ← startsWith "->@*" then
      skip 4
      return .woven (.deref .array e)
    let arrow := (← startsWith "->[") || (← startsWith "->\x7b")
    if arrow then skip 2
    let chained := arrow || (e matches .item _ _) || (e matches .entry _ _)
    let c ← cur 0
    let index ← if c == '[' then (if pat && !arrow then indexHere else pure true) else pure false
    let key ← if c == '{' then (if pat then do return !(← boundsHere) else pure true)
      else pure false
    if chained && index then
      skip 1
      let i ← readExpr fuel
      expect "]"
      readTextPlaces fuel pat (.item (.deref .array e) i)
    else if chained && key then
      skip 1
      let k ← readKey fuel
      readTextPlaces fuel pat (.entry (.deref .hash e) k)
    else return e
termination_by structural n => n

/-- A text with variables in it. -/
def readFilled : Nat → Bool → List Char → Reading Expr
  | 0, _, _ => syntaxFault
  | fuel + 1, pat, cs => do
    let es ← within cs (readPieces fuel pat false [] [] none)
    return joinPieces es
termination_by structural n => n

/-- A text that is written with a word in front. -/
def readQuote : Nat → String → Reading Expr
  | 0, _ => syntaxFault
  | fuel + 1, word => do
    skip word.length
    if isSpaceChar (← cur 0) then skipBlank
    let c ← cur 0
    skip 1
    let body ← readDelimited c
    match word with
    | "qw" =>
      let e := quotedWords body
      if (← cur 0) == '[' then
        skip 1
        let i ← readExpr fuel
        expect "]"
        return .picked e i
      else return e
    | "s" =>
      let (d, put) ← readSecond c
      let flags ← takeWhile Char.isAlpha
      let p ← if c == '\'' then pure (textExpr body) else readFilled fuel true body
      let r ← if flags.contains 'e' then do
          let body ← within put (readStatements fuel)
          pure (Expr.do_ body)
        else if d == '\'' then pure (textExpr put)
        else readFilled fuel false put
      let r ← if (flags.filter (· == 'e')).length > 1 then do
          let s ← get
          pure (Expr.tryText r s.visible s.package)
        else pure r
      return .substitute none p r flags
    | _ =>
      let (_, new) ← readSecond c
      let flags ← takeWhile Char.isAlpha
      return .transliterate none (spelled body) (spelled new) flags
termination_by structural n => n

/-- A text, a line that is read, or the names of files: what starts with an angle. -/
def readAngle : Nat → Reading Expr
  | 0 => syntaxFault
  | fuel + 1 => do
    let b ← cur 1
    if b == '<' then
      let indented := (← cur 2) == '~'
      let k := if indented then 3 else 2
      let q ← cur k
      if q == '"' || q == '\'' then
        skip (k + 1)
        let mark ← readDelimited q
        let body ← takeHere mark indented
        if q == '\'' then return textExpr body else readFilled fuel false body
      else if isWordStart q then
        skip k
        let mark ← takeWhile isWordPart
        let body ← takeHere mark indented
        readFilled fuel false body
      else if q == '>' then
        skip 4
        return .readLine (.handleNamed "main::ARGV")
      else syntaxFault
    else
      skip 1
      let body ← readDelimited '<'
      match body with
      | [] => return .readLine (.handleNamed "main::ARGV")
      | '$' :: name =>
        if name.all isWordPart then
          let e ← resolve .scalar (String.ofList name)
          return .readLine e
        else return .builtin "glob" [← readFilled fuel false body]
      | body =>
        if body.all fun c => isWordPart c || c == ':' then
          let s ← get
          let name := String.ofList body
          return .readLine (.handleNamed (fullName s.package name))
        else return .builtin "glob" [← readFilled fuel false body]
termination_by structural n => n

/-- A term. -/
def readPrimary : Nat → Reading Expr
  | 0 => syntaxFault
  | fuel + 1 => do
    let c ← cur 0
    let d ← cur 1
    match c with
    | '$' => readScalar fuel
    | '@' =>
      skip 1
      let base ← readBase fuel
      let _ ← cur 0
      base.variable .array
    | '%' =>
      skip 1
      let base ← readBase fuel
      let _ ← cur 0
      base.variable .hash
    | '(' =>
      skip 1
      let e ← if ← takes ")" then pure (Expr.list []) else do
        let e ← readExpr fuel
        expect ")"
        pure e
      let e := Expr.list (elementsOf e)
      skipBlank
      if (← cur 0) == '[' then
        skip 1
        let is ← readExpr fuel
        expect "]"
        return .picked e is
      else return e
    | '[' =>
      skip 1
      if ← takes "]" then return .newArray []
      let e ← readExpr fuel
      expect "]"
      return .newArray (elementsOf e)
    | '{' =>
      skip 1
      if ← takes "\x7d" then return .newHash []
      let e ← readExpr fuel
      expect "\x7d"
      return .newHash (elementsOf e)
    | '<' => readAngle fuel
    | '"' =>
      skip 1
      let body ← readDelimited '"'
      readFilled fuel false body
    | '/' =>
      skip 1
      let body ← readDelimited '/'
      let flags ← takeWhile Char.isAlpha
      return .match_ none (← readFilled fuel true body) flags
    | c =>
      if c.isDigit then readNumber
      else if isWordStart c || (c == ':' && d == ':') then readWordTerm fuel
      else syntaxFault
termination_by structural n => n

def readWordTerm : Nat → Reading Expr
  | 0 => syntaxFault
  | fuel + 1 => do
    let w ← peekWord
    let n := w.length
    if ← fatCommaAfter n then
      skip n
      return .constant (.text w)
    if quoteWords.contains w && (← delimiterAfter n) then return ← readQuote fuel w
    -- routines of the program go before functions of the same name that may be replaced
    match w with
    | "my" | "our" | "state" => readDeclaration fuel
    | "local" =>
      skip n
      let e ← readBinary fuel 20
      return .localized e
    | "return" =>
      skip n
      skipBlank
      if ← termHere then return .return_ (some (← readComma fuel)) else return .return_ none
    | "print" | "printf" | "say" =>
      skip n
      readWrite fuel w
    | "sort" =>
      skip n
      readSorted fuel
    | "map" | "grep" =>
      skip n
      readMapped fuel (w == "map")
    | _ => readFunction fuel w
termination_by structural n => n

def readFunction : Nat → String → Reading Expr
  | 0, _ => syntaxFault
  | fuel + 1, w => do
    let n := w.length
    let s ← get
    let own := fullName s.package w
    let replaced := (s.known.lookup own).isSome
    let imported := (s.imports.lookup own).isSome
    if !replaced && !imported && nullary.contains w then
      skip n
      let _ ← attempt (do
        expect "("
        expect ")")
      return .builtin w []
    if !replaced && !imported && unaryNames.contains w then
      skip n
      skipBlank
      let args ← if (← cur 0) == '(' then readParens fuel
        else if w == "require" && isWordStart (← cur 0) then do
          let m ← readName
          pure [Expr.constant (.text m)]
        else if ← termHere then do
          let e ← readBinary fuel 16
          pure [e]
        else pure []
      let args := if args.isEmpty then
          if worksOnTopic.contains w then [topic]
          else if w == "shift" || w == "pop" then
            [if s.inside == 0 then .var .array (.shared "main::ARGV") else arguments]
          else []
        else args
      return .builtin w args
    if !replaced && !imported && listNames.contains w then
      skip n
      let args ← readArguments fuel
      let args := if args.isEmpty && worksOnTopic.contains w then [topic] else args
      let args := if w == "bless" && args.length == 1 then
          args ++ [.constant (.text s.package)]
        else args
      return .builtin w args
    skip n
    let full ← calledName w
    let after ← cur 0
    let before := (← get).place
    skipBlank
    let c ← cur 0
    let d ← cur 1
    -- a class
    if c == '-' && d == '>' && !replaced && !(imported && takesNothing full) then
      let w := if w.endsWith "::" then String.ofList (w.toList.take (n - 2)) else w
      return .constant (.text w)
    if w.endsWith "::" then return .constant (.text (String.ofList (w.toList.take (n - 2))))
    let form := match s.known.lookup full with
      | some f => f
      | none => if takesBlock full then "&@" else if takesNothing full then "" else "@"
    let known := replaced || imported || isModuleFunction full
    if w == "new" && isWordStart c && !replaced then
      let cls ← readName
      let args ← if (← cur 0) == '(' then readParens fuel else pure []
      return .method (.constant (.text cls)) "new" args
    if known && form == "" then
      if c == '(' && (← cur 1) == ')' then skip 2 else modify fun s => { s with place := before }
      return call full [] true
    if c == '(' then
      let args ← if form.startsWith "&" && (d == '{') then do
          skip 1
          let es ← readBlockFirst fuel
          expect ")"
          pure es
        else readParens fuel
      return call full args true
    if known && form.startsWith "&" && c == '{' then
      let es ← readBlockFirst fuel
      return call full es true
    if known && (← termHere) then
      if form == "$" || form == "_" || form == ";$" then
        let e ← readBinary fuel 16
        return call full [e] true
      let e ← readComma fuel
      return call full (elementsOf e) true
    if !known && !(isHandleWord w) && (c == '$' || c == '"' || c == '\'') && isSpaceChar after &&
        !((w.toList.headD ' ').isUpper) then
      let e ← readComma fuel
      return call full (elementsOf e) true
    modify fun s => { s with place := before }
    return if known then call full [] true else .call full [.constant (.text w)] false
termination_by structural n => n

def readBlockFirst : Nat → Reading (List Expr)
  | 0 => syntaxFault
  | fuel + 1 => do
    let s ← get
    modify fun s => { s with inside := s.inside + 1 }
    let body ← readBlock fuel
    modify fun t => { t with inside := s.inside }
    let f := Expr.closure (s.package ++ "::__ANON__") body
    let _ ← takes ","
    skipBlank
    if ← termHere then
      let e ← readComma fuel
      return f :: elementsOf e
    else return [f]
termination_by structural n => n

def readDeclaration : Nat → Reading Expr
  | 0 => syntaxFault
  | fuel + 1 => do
    let w ← readName
    skipBlank
    if (← peekWord) == "sub" then
      -- a routine of the block
      let s ← readStatement fuel
      return match s with
        | .expr _ e => e
        | _ => .list []
    if (← cur 0) == '(' then
      skip 1
      return .list (← readDeclared fuel w)
    else readVariable w
termination_by structural n => n

def readDeclared : Nat → String → Reading (List Expr)
  | 0, _ => syntaxFault
  | fuel + 1, w => do
    if ← takes ")" then return []
    let e ← readVariable w
    let _ ← takes ","
    return e :: (← readDeclared fuel w)
termination_by structural n => n

def readWrite : Nat → String → Reading Expr
  | 0, _ => syntaxFault
  | fuel + 1, how => do
    skipBlank
    if (← cur 0) == '(' then
      skip 1
      let e ← readWriteInner fuel how
      expect ")"
      return e
    else readWriteInner fuel how
termination_by structural n => n

def readWriteInner : Nat → String → Reading Expr
  | 0, _ => syntaxFault
  | fuel + 1, how => do
    skipBlank
    let s ← get
    let handle ← match ← cur 0 with
      | '$' => do
        skip 1
        let w ← takeWhile isWordPart
        let blank := isSpaceChar (← cur 0)
        skipBlank
        let c ← cur 0
        let d ← cur 1
        let word ← peekWord
        let term := c == '"' || c == '\'' || c == '$' || c == '@' || c.isDigit ||
          (c == '<' && d == '<' && !(isSpaceChar (← cur 2))) ||
          (isWordStart c && !(endingWords.contains word)) || (c == '\\')
        if !w.isEmpty && blank && term then
          let e ← resolve .scalar (String.ofList w)
          pure (some e)
        else
          set s
          pure none
      | c =>
        let w ← peekWord
        let known := (s.known.lookup (fullName s.package w)).isSome ||
          (s.imports.lookup (fullName s.package w)).isSome
        if c.isUpper && !known && !(w.startsWith "__") && !(← fatCommaAfter w.length) then do
          skip w.length
          let direct ← cur 0
          skipBlank
          let d ← cur 0
          let plain := !([',', '.', '(', '-', '=', '?', '+', '*', '/', '>', '|', ':'].contains d) &&
            direct != '('
          if plain then pure (some (Expr.handleNamed (fullName s.package w)))
          else
            set s
            pure none
        else pure none
    skipBlank
    let args ← if ← termHere then do
        let e ← readComma fuel
        pure (elementsOf e)
      else pure []
    return .write how handle (if args.isEmpty && how != "printf" then [topic] else args)
termination_by structural n => n

def readSorted : Nat → Reading Expr
  | 0 => syntaxFault
  | fuel + 1 => do
    skipBlank
    let paren := (← cur 0) == '('
    if paren then
      skip 1
      skipBlank
    let s ← get
    let by_ ← match ← cur 0 with
      | '{' => do
        let body ← readBlock fuel
        let _ ← takes ","
        pure (some (Expr.do_ body))
      | c =>
        let w ← peekWord
        let isFunction := nullary.contains w || unaryNames.contains w || listNames.contains w ||
          ["map", "grep", "sort", "reverse", "do", "eval", "my", "qw", "uniq"].contains w ||
          (s.imports.lookup (fullName s.package w)).isSome
        if isWordStart c && !isFunction then do
          skip w.length
          let direct ← cur 0
          skipBlank
          let d ← cur 0
          if direct != '(' && direct != ':' && (d == '@' || d == '(' || d == '$' || isWordStart d)
          then
            pure (some (Expr.call (fullName s.package w) [] true))
          else
            set s
            pure none
        else pure none
    skipBlank
    let e ← if paren then
        if ← takes ")" then pure (Expr.list []) else do
          let e ← readExpr fuel
          expect ")"
          pure e
      else if ← termHere then readComma fuel
      else pure (.list [])
    return .sorted by_ e
termination_by structural n => n

/-- A list of which each value is changed or tested. -/
def readMapped : Nat → Bool → Reading Expr
  | 0, _ => syntaxFault
  | fuel + 1, map => do
    skipBlank
    let paren := (← cur 0) == '('
    if paren then
      skip 1
      skipBlank
    let block ← if (← cur 0) == '{' then attempt (do
        let body ← readBlock fuel
        skipBlank
        if (← cur 0) == ',' then syntaxFault else pure (Expr.do_ body))
      else pure none
    let f ← match block with
      | some f => pure f
      | none => do
        let e ← readAssign fuel
        expect ","
        pure e
    skipBlank
    let e ← if (← termHere) then readComma fuel else pure (.list [])
    if paren then expect ")"
    return if map then .mapped f e else .filtered f e
termination_by structural n => n

/-- What a routine takes and does, from its parentheses or its brace on. -/
def readRoutine : Nat → Reading (List Statement)
  | 0 => syntaxFault
  | fuel + 1 => do
    let s ← get
    modify fun s => { s with inside := s.inside + 1, coming := [] }
    let result ← inScope do
      skipBlank
      let start ← if (← cur 0) == '(' then do
          let t ← get
          skip 1
          let inner ← readDelimited '('
          if isSignature inner then
            set t
            skip 1
            syntaxFault
          else pure []
        else pure []
      skipBlank
      -- properties of the routine
      if (← cur 0) == ':' then
        let _ ← takeWhile (· != '{')
      introduce
      let body ← readBlock fuel
      pure (start ++ body)
    modify fun t => { t with inside := s.inside, coming := s.coming }
    return result
termination_by structural n => n

def readStatement : Nat → Reading Statement
  | 0 => syntaxFault
  | fuel + 1 => do
    skipBlank
    let line ← lineHere
    let c ← cur 0
    if c == ';' then
      skip 1
      return .nothing
    if c == '{' then
      skip 1
      let hash ← looksLikeHash
      modify fun s => { s with place := s.place - 1 }
      if !hash then return .block none (← readBlock fuel)
    let w ← peekWord
    let fat ← fatCommaAfter w.length
    if w.isEmpty || fat then readSimple fuel line
    else
      match w with
      | "sub" =>
        let s ← get
        skip 3
        skipBlank
        if isWordStart (← cur 0) then
          let name ← readName
          let full := fullName (← get).package name
          skipBlank
          let t ← get
          let form ← if (← cur 0) == '(' then do
              skip 1
              let inner ← readDelimited '('
              set t
              pure (if isSignature inner then "@"
                else String.ofList (inner.filter fun c => !(isSpaceChar c)))
            else pure "@"
          modify fun s => { s with known := (full, form) :: s.known }
          skipBlank
          if (← cur 0) == ';' then return .nothing
          let body ← readRoutine fuel
          let r : Routine := ⟨full, (← get).package, body⟩
          modify fun s => { s with routines := s.routines.push r }
          return .nothing
        else
          set s
          readSimple fuel line
      | "package" =>
        skip w.length
        skipBlank
        let name ← readName
        skipBlank
        -- a version
        let _ ← takeWhile fun c => c.isDigit || c == '.' || c == 'v'
        skipBlank
        if (← cur 0) == '{' then
          let old := (← get).package
          modify fun s => { s with package := name }
          let body ← readBlock fuel
          modify fun s => { s with package := old }
          return .block none (.package name :: body)
        else
          modify fun s => { s with package := name }
          let _ ← takes ";"
          return .package name
      | "use" | "no" => readUse fuel (w == "use")
      | _ =>
        let s ← get
        skip w.length
        skipBlank
        if (← cur 0) == ':' && (← cur 1) != ':' && isHandleWord w then
          skip 1
          skipBlank
          readLabelled fuel line (some w)
        else
          set s
          readSimple fuel line
termination_by structural n => n

def readLabelled : Nat → Nat → Option String → Reading Statement
  | 0, _, _ => syntaxFault
  | fuel + 1, line, label => do
    let w ← peekWord
    match w with
    | "while" | "until" =>
      skip w.length
      inScope do
        expect "("
        let c ← if ← takes ")" then pure none else do
          let e ← readExpr fuel
          expect ")"
          pure (some (loopTest e))
        introduce
        let b ← readBlock fuel
        let after ← if ← takesWord "continue" then readBlock fuel else pure []
        return .while_ line label (w == "until") c b after
    | _ =>
      skipBlank
      if (← cur 0) == '{' then return .block label (← readBlock fuel)
      else readStatement fuel
termination_by structural n => n

/-- An expression with what may stand behind it. -/
def readSimple : Nat → Nat → Reading Statement
  | 0, _ => syntaxFault
  | fuel + 1, line => do
    let e ← readExpr fuel
    let s ← readModified fuel line e
    skipBlank
    if (← cur 0) == ';' then skip 1
    else if !((← atEnd) || (← cur 0) == '}') then syntaxFault
    return s
termination_by structural n => n

def readModified : Nat → Nat → Expr → Reading Statement
  | 0, _, _ => syntaxFault
  | fuel + 1, line, e => do
    skipBlank
    let w ← peekWord
    match w with
    | "if" =>
      skip 2
      let c ← readExpr fuel
      return .expr line (.lazy .and c e)
    | "unless" =>
      skip 6
      let c ← readExpr fuel
      return .expr line (.lazy .or c e)
    | "while" | "until" =>
      skip w.length
      let c ← readExpr fuel
      match e with
      | .do_ body => return .doWhile line (w == "until") body c
      | e => return .while_ line none (w == "until") (some (loopTest c)) [.expr line e] []
    | "for" | "foreach" =>
      skip w.length
      let es ← readExpr fuel
      return .each line none topic es [.expr line e]
    | _ => return .expr line e
termination_by structural n => n

def readUse : Nat → Bool → Reading Statement
  | 0, _ => syntaxFault
  | fuel + 1, on => do
    let line ← lineHere
    skip (if on then 3 else 2)
    skipBlank
    if (← cur 0).isDigit || ((← cur 0) == 'v' && (← cur 1).isDigit) then
      let v ← takeWhile fun c => c.isDigit || c == '.' || c == 'v' || c == '_'
      let _ ← takes ";"
      let parts := Text.splitWhere (· == '.') (v.filter (· != 'v'))
      let minor := match parts with
        | [_] => 0
        | _ :: m :: _ => if v.head? == some 'v' || parts.length > 2 then (Text.natural? m).getD 0
          else (Text.natural? (m.take 3)).getD 0
        | [] => 0
      if on && 12 ≤ minor then modify fun s => { s with strict := true }
      return .nothing
    let module ← readName
    skipBlank
    -- a version
    if (← cur 0).isDigit then
      let _ ← takeWhile fun c => c.isDigit || c == '.' || c == '_'
    skipBlank
    let given := (← cur 0) != ';' && !(← atEnd)
    let e ← if given then readExpr fuel else pure (.list [])
    let _ ← takes ";"
    let words := constantTexts e
    let early (e : Expr) : Reading Statement := do
      modify fun s => { s with first := s.first.push (s.package, [.expr line e]) }
      return .nothing
    match module with
    | "strict" =>
      if words.isEmpty || words.contains "vars" then modify fun s => { s with strict := on }
      return .nothing
    | m =>
      if !on then return .nothing
      match moduleFunctions.lookup m with
      | some names =>
        let wanted := if given then
            words.flatMap fun w => if w.startsWith ":" then names else [w]
          else if generousModules.contains m then names.filter fun n =>
            !(m == "POSIX" && ["round", "trunc", "time", "abs"].contains n)
          else []
        let wanted := wanted.filter names.contains
        modify fun s => { s with imports := (wanted.map fun n =>
          (fullName s.package n, m ++ "::" ++ n)) ++ s.imports }
        if m == "Test::More" && !words.isEmpty then
          early (.builtin "Test::More::plan" (elementsOf e))
        else return .nothing
      | none =>
        if plainModules.contains m then return .nothing
        else early (.builtin "use" [.constant (.text m), .list (elementsOf e)])
termination_by structural n => n

end

def Program.read (file : String) (text : List Char) (visible : Visible) (package : String)
    (next : Nat) (known : List (String × String)) (imports : List (String × String)) :
    Except String (Program × ReadState) := do
  let start : ReadState :=
    { file, text := text.toArray, visible, package, next, known, imports }
  let body : Reading (List Statement) := do
    -- documentation may stand at the very start
    if (← cur 0) == '=' && (← cur 1).isAlpha then
      modify fun s => { s with place := documentEnd s.text s.text.size 0 }
    let body ← readStatements (40 * text.length + 1000)
    if !(← atEnd) then
      throw ("Unmatched right curly bracket" ++ (← whereText) ++ ", at end of line\n" ++
        "syntax error" ++ (← whereText) ++ ", near \"\x7d\"\nExecution of " ++ file ++
        " aborted due to compilation errors.\n")
    return body
  let (body, s) ← body start
  return (⟨s.routines.toList, s.first.toList, body, s.last.toList, s.data, s.next, s.wide⟩, s)

end Flowboard.Sigil
