import Flowboard.Search.Match
import Flowboard.Text.CharacterName
import Flowboard.Text.Integer
import Flowboard.Text.Octet

/-! How patterns are written. -/
namespace Flowboard.Search

/-- What a pattern is read as. -/
structure Options where
  /-- case does not count -/
  fold : Bool := false
  /-- lines start and end like texts -/
  lines : Bool := false
  /-- a point also stands for a line feed -/
  all : Bool := false
  /-- blanks and comments do not count -/
  spaced : Bool := false
  /-- classes hold only characters of ASCII -/
  ascii : Bool := false
  deriving DecidableEq, Repr

/-- Who writes a pattern. -/
inductive Dialect where
  /-- a script; letters behind backslashes that mean nothing are refused -/
  | strict
  /-- a command that works on streams -/
  | relaxed
  deriving DecidableEq, Repr

/-- Why a pattern cannot be read, and where. -/
structure Fault where
  what : String
  place : Option Nat
  deriving DecidableEq, Repr

structure ReadState where
  place : Nat := 0
  /-- the number of groups so far -/
  groups : Nat := 0
  names : List (String × Nat) := []
  /-- the groups that are not closed yet -/
  inside : List Nat := []
  /-- how many characters closed groups take -/
  widths : List (Nat × Nat × Option Nat) := []
  options : Options := {}
  /-- the groups on which something depends, and where -/
  asked : List (Nat × Nat) := []
  /-- letters are to be taken as bytes -/
  bytes : Bool := false

abbrev Reading := StateT ReadState (Except Fault)

/-- A pattern with what is known about it. -/
structure Compiled where
  pattern : Pattern
  groups : Nat
  names : List (String × Nat)
  options : Options
  deriving Repr

section
variable (text : Array Char) (dialect : Dialect)

def peek : Reading (Option Char) := do
  return text[(← get).place]?

def skip (n : Nat) : Reading Unit :=
  modify fun s => { s with place := s.place + n }

def takes (c : Char) : Reading Bool := do
  if text[(← get).place]? == some c then
    skip 1
    return true
  else return false

def here : Reading Nat := do
  return (← get).place

def faultAt {α : Type} (what : String) (place : Nat) : Reading α :=
  throw ⟨what, some place⟩

/-- The characters from here on that pass a test, at most some. -/
def takeWhile (ok : Char → Bool) : Nat → Reading (List Char)
  | 0 => return []
  | n + 1 => do
    match text[(← get).place]? with
    | some c =>
      if ok c then
        skip 1
        return c :: (← takeWhile ok n)
      else return []
    | none => return []

def takeUntil (mark : Char) (what : String) : Reading String := do
  let start ← here
  let cs ← takeWhile text (· != mark) text.size
  if ← takes text mark then
    if cs.isEmpty then faultAt ("missing " ++ what) start
    return .ofList cs
  else if cs.isEmpty then faultAt ("missing " ++ what) start
  else faultAt ("missing " ++ mark.toString ++ ", unterminated name") start

def isName (s : String) : Bool :=
  match s.toList with
  | c :: cs => Script.startsName c && cs.all Script.continuesName
  | [] => false

def quotedName (s : String) : String :=
  "'" ++ s ++ "'"

def isOctal (c : Char) : Bool :=
  '0' ≤ c && c ≤ '7'

def isHex (c : Char) : Bool :=
  (Text.digitIn? 16 c).isSome

/-- The character for a number in hexadecimal digits of a given count. -/
def hexEscape (letter : Char) (count start : Nat) : Reading Char := do
  let ds ← takeWhile text isHex count
  if ds.length < count then
    faultAt ("incomplete escape \\" ++ letter.toString ++ .ofList ds) start
  else
    let n := (Text.naturalIn? 16 ds).getD 0
    if 0x10FFFF < n then faultAt ("bad escape \\" ++ letter.toString ++ .ofList ds) start
    else return Text.ofCodePoint n

/-- The classes behind backslashes. -/
def category? (c : Char) : Option (Category × Bool) :=
  match c with
  | 'd' => some (.digit, false)
  | 's' => some (.space, false)
  | 'w' => some (.word, false)
  | 'W' => some (.word, true)
  | _ =>
    if dialect = .relaxed && c = 'h' then some (.blank, false)
    else if dialect = .relaxed && c = 'H' then some (.blank, true)
    else none

/-- The characters with a letter behind a backslash. -/
def letterEscape? (c : Char) : Option Char :=
  match c with
  | 'f' => some '\x0c'
  | 'n' => some '\n'
  | 'r' => some '\r'
  | 't' => some '\t'
  | _ => none

/-- A character that is written with digits or letters behind a backslash at `start`. -/
def codeEscape? (c : Char) (start : Nat) : Reading (Option Char) := do
  let bytes := (← get).bytes
  match c with
  | 'x' =>
    if dialect = .relaxed then
      if ← takes text '\x7b' then
        let ds ← takeWhile text isHex 8
        let _ ← takes text '\x7d'
        return some (Char.ofNat ((Text.naturalIn? 16 ds).getD 0))
      else
        let ds ← takeWhile text isHex 2
        return some (Char.ofNat ((Text.naturalIn? 16 ds).getD 0))
    else return some (← hexEscape text 'x' 2 start)
  | 'u' =>
    if bytes || dialect = .relaxed then return none
    else return some (← hexEscape text 'u' 4 start)
  | 'U' =>
    if bytes || dialect = .relaxed then return none
    else return some (← hexEscape text 'U' 8 start)
  | 'N' =>
    if bytes || dialect = .relaxed then return none
    else if ← takes text '\x7b' then
      let name ← takeUntil text '\x7d' "character name"
      match Text.characterNamed? name with
      | some c => return some c
      | none =>
        faultAt ("undefined character name " ++ quotedName name) start
    else faultAt "missing \x7b" (start + 2)
  | _ => return none

/-- An element of a set behind a backslash. -/
def classEscape (c : Char) (start : Nat) : Reading Item := do
  let ascii := (← get).options.ascii
  match category? dialect c, letterEscape? c with
  | some (kind, negated), _ => return .category kind negated ascii
  | none, some d => return .char d
  | none, none =>
    if c = 'b' then return .char '\x08'
    else
      match ← codeEscape? text dialect c start with
      | some d => return .char d
      | none =>
        if isOctal c then
          let ds ← takeWhile text isOctal 2
          let n := (Text.naturalIn? 8 (c :: ds)).getD 0
          if 255 < n then
            faultAt ("octal escape value \\" ++ .ofList (c :: ds) ++
              " outside of range 0-0o377") start
          else return .char (Char.ofNat n)
        else if dialect = .strict && (c.isAlpha || c.isDigit) then
          faultAt ("bad escape \\" ++ c.toString) start
        else return .char c

/-- One element of a set as it is written, if it can be an end of a range. -/
def Item.end? : Item → Option Char
  | .char c => some c
  | _ => none

/-- The elements of a set up to its closing bracket; `start` is where it was opened. -/
def readItems (start : Nat) : Nat → Bool → Reading (List Item)
  | 0, _ => faultAt "unterminated character set" start
  | fuel + 1, first => do
    let place ← here
    let element : Reading Item := do
      let at_ ← here
      match ← peek text with
      | none => faultAt "unterminated character set" start
      | some '\\' =>
        skip 1
        match ← peek text with
        | none => faultAt "bad escape (end of pattern)" at_
        | some c =>
          skip 1
          classEscape text dialect c at_
      | some c =>
        skip 1
        return .char c
    match ← peek text with
    | none => faultAt "unterminated character set" start
    | some ']' =>
      if first then ranged place element fuel
      else
        skip 1
        return []
    | some '[' =>
      if dialect = .relaxed && text[place + 1]? == some ':' then
        skip 2
        let negated ← takes text '^'
        let name ← takeWhile text Char.isAlpha 10
        let _ ← takes text ':'
        let _ ← takes text ']'
        return .named (.ofList name) negated :: (← readItems start fuel false)
      else ranged place element fuel
    | some _ => ranged place element fuel
termination_by fuel => 2 * fuel
where
  ranged (place : Nat) (element : Reading Item) (fuel : Nat) : Reading (List Item) := do
    let a ← element
    let after ← here
    if (← peek text) == some '-' then
      skip 1
      match ← peek text with
      | none => faultAt "unterminated character set" start
      | some ']' =>
        skip 1
        return [a, .char '-']
      | some _ =>
        let b ← element
        let stop ← here
        let shown (i j : Nat) : String := .ofList ((text.extract i j).toList)
        let bad : Reading (List Item) :=
          faultAt ("bad character range " ++ shown place after ++ "-" ++ shown (after + 1) stop)
            place
        match a.end?, b.end? with
        | some c, some d =>
          if Text.codePoint d < Text.codePoint c then bad
          else return .range c d :: (← readItems start fuel false)
        | _, _ =>
          if dialect = .relaxed then return a :: .char '-' :: b :: (← readItems start fuel false)
          else bad
    else return a :: (← readItems start fuel false)
  termination_by 2 * fuel + 1

def reference (n start : Nat) : Reading Pattern := do
  let s ← get
  if dialect = .strict && s.groups < n then
    faultAt ("invalid group reference " ++ Text.naturalText n) (start + 1)
  else if s.inside.contains n then faultAt "cannot refer to an open group" start
  else return .again n s.options.fold

def namedReference (name : String) (start : Nat) : Reading Pattern := do
  match (← get).names.lookup name with
  | some n =>
    if (← get).inside.contains n then faultAt "cannot refer to an open group" start
    else return .again n (← get).options.fold
  | none =>
    match Text.natural? name.toList with
    | some n => if dialect = .relaxed then reference dialect n start else unknown
    | none => unknown
where
  unknown : Reading Pattern := faultAt ("unknown group name " ++ quotedName name) start

/-- A digit behind a backslash: a character in octal digits or a reference to a group. -/
def numbered (start : Nat) (c : Char) : Reading Pattern := do
  let fold := (← get).options.fold
  let next ← peek text
  if next.any Char.isDigit then
    let d := next.getD '0'
    skip 1
    let third ← peek text
    if isOctal c && isOctal d && third.any isOctal then
      skip 1
      let ds := [c, d, third.getD '0']
      let n := (Text.naturalIn? 8 ds).getD 0
      if 255 < n then
        faultAt ("octal escape value \\" ++ .ofList ds ++ " outside of range 0-0o377") start
      else return .char (Char.ofNat n) fold
    else reference dialect ((Text.natural? [c, d]).getD 0) start
  else reference dialect ((Text.natural? [c]).getD 0) start

/-- What stands behind a backslash outside of sets. -/
def readEscape (start : Nat) : Reading Pattern := do
  let options := (← get).options
  match ← peek text with
  | none => faultAt "bad escape (end of pattern)" start
  | some c =>
    skip 1
    match category? dialect c, letterEscape? c with
    | some (kind, negated), _ => return .set false [.category kind negated options.ascii] false
    | none, some d => return .char d options.fold
    | none, none =>
      match c with
      | 'A' => return .start false
      | 'Z' => return if dialect = .strict then .last else .finish false
      | c =>
        if c.isDigit then numbered text dialect start c
        else
          match ← codeEscape? text dialect c start with
          | some d => return .char d options.fold
          | none =>
            if dialect = .strict && c.isAlpha then
              faultAt ("bad escape \\" ++ c.toString) start
            else return .char c options.fold

def Options.with? (o : Options) (c : Char) (value : Bool) : Option Options :=
  match c with
  | 'i' => some { o with fold := value }
  | 'm' => some { o with lines := value }
  | 's' => some { o with all := value }
  | 'a' => some { o with ascii := value }
  | _ => none

/-- Letters for options, after one that has been read; `on` holds those before a hyphen. -/
def readOptions (start : Nat) :
    Nat → Options → List Char → Bool → Char → Reading (Options × Char)
  | 0, _, _, _, _ => faultAt "missing -, : or )" start
  | fuel + 1, o, on, value, c => do
    let after ← here
    let sets := ['a', 'u', 'L']
    if c = '-' && value then
      match ← peek text with
      | none => faultAt "missing flag" after
      | some d =>
        skip 1
        if (o.with? d false).isNone then
          faultAt (if d.isAlpha then "unknown flag" else "missing flag") after
        readOptions start fuel o on false d
    else if c = ':' || c = ')' && (value || dialect = .relaxed) then return (o, c)
    else if c = ')' then faultAt "missing :" (after - 1)
    else
      match o.with? c value with
      | none =>
        faultAt (if c.isAlpha then "unknown flag"
          else if value then "missing -, : or )" else "missing :") (after - 1)
      | some o =>
        if dialect = .strict then
          if c = 'L' && !(← get).bytes then
            faultAt "bad inline flags: cannot use 'L' flag with a str pattern" after
          if !value && sets.contains c then
            faultAt "bad inline flags: cannot turn off flags 'a', 'u' and 'L'" after
          if value && sets.contains c && on.any fun d => d ≠ c && sets.contains d then
            faultAt "bad inline flags: flags 'a', 'u' and 'L' are incompatible" after
          if !value && on.contains c then
            faultAt "bad inline flags: flag turned on and off" after
        match ← peek text with
        | none =>
          faultAt (if value then "missing -, : or )" else "missing :") after
        | some d =>
          skip 1
          readOptions start fuel o (if value then c :: on else on) value d

/-- Whether a part stands for a place only. -/
def Pattern.isPlace : Pattern → Bool
  | .start _ => true
  | .finish _ => true
  | .last => true
  | _ => false

/-- What a part of a pattern is while it is read. -/
inductive Part where
  | plain (p : Pattern)
  | repeated (p : Pattern)

def Part.pattern : Part → Pattern
  | .plain p => p
  | .repeated p => p

/-- The parts of a pattern, last one first, as one. -/
def joined (parts : List Part) : Pattern :=
  match parts with
  | [] => .nothing
  | p :: rest => rest.foldl (fun acc q => .both q.pattern acc) p.pattern

/-- Two numbers between braces, if they are there. -/
def readBounds : Reading (Option (Option Nat × Option Nat)) := do
  let start ← here
  let low ← takeWhile text Char.isDigit text.size
  let comma ← takes text ','
  let high ← if comma then takeWhile text Char.isDigit text.size else pure low
  if (← takes text '\x7d') && (dialect = .strict || !low.isEmpty) then
    return some (Text.natural? low, Text.natural? high)
  else
    modify fun s => { s with place := start }
    return none

/-- Each alternative as a match that ends here with its own width. -/
def Pattern.branchesBehind (wanted : Bool) : Pattern → Pattern
  | .either a b =>
    if wanted then .either (.behind true (a.width []).1 a) (b.branchesBehind wanted)
    else .both (.behind false (a.width []).1 a) (b.branchesBehind wanted)
  | p => .behind wanted (p.width []).1 p

/-- Characters that stand for themselves up to a mark. -/
def readLiteral : Nat → Reading (List Pattern)
  | 0 => return []
  | fuel + 1 => do
    let i ← here
    match text[i]?, text[i + 1]? with
    | none, _ => return []
    | some '\\', some 'E' =>
      skip 2
      return []
    | some c, _ =>
      skip 1
      return .char c (← get).options.fold :: (← readLiteral fuel)

mutual

/-- Alternatives up to the end or a closing parenthesis. -/
def readEither (outermost : Bool) : Nat → Reading Pattern
  | 0 => faultAt "too deep" 0
  | fuel + 1 => do
    let a ← readParts outermost fuel []
    if ← takes text '|' then return .either a (← readEither outermost fuel) else return a
termination_by structural fuel => fuel

def readParts (outermost : Bool) : Nat → List Part → Reading Pattern
  | 0, _ => faultAt "too deep" 0
  | fuel + 1, done => do
    let s ← get
    let start := s.place
    let o := s.options
    let more (p : Pattern) : Reading Pattern := readParts outermost fuel (.plain p :: done)
    match text[start]? with
    | none => return joined done
    | some '|' => return joined done
    | some ')' => return joined done
    | some c =>
      skip 1
      if o.spaced && (Category.space.contains true c) then readParts outermost fuel done
      else if o.spaced && c = '#' then
        let _ ← takeWhile text (· != '\n') text.size
        readParts outermost fuel done
      else
        match c with
        | '\\' =>
          if dialect = .relaxed && (← peek text) == some 'Q' then
            skip 1
            let parts ← readLiteral text fuel
            readParts outermost fuel (parts.foldl (fun acc p => .plain p :: acc) done)
          else if dialect = .relaxed && (← peek text) == some 'E' then
            skip 1
            readParts outermost fuel done
          else more (← readEscape text dialect start)
        | '[' =>
          let negated ← takes text '^'
          let items ← readItems text dialect start (text.size + 1) true
          more (.set negated items o.fold)
        | '.' => more (.any o.all)
        | '^' => more (.start o.lines)
        | '$' => more (.finish o.lines)
        | '(' =>
          match ← readGroup (outermost && done.isEmpty) fuel start with
          | some p => more p
          | none => readParts outermost fuel done
        | '*' => readRepeat outermost fuel done start 0 none
        | '+' => readRepeat outermost fuel done start 1 none
        | '?' => readRepeat outermost fuel done start 0 (some 1)
        | '\x7b' =>
          if (← peek text) == some '\x7d' then more (.char '\x7b' o.fold)
          else
            match ← readBounds text dialect with
            | none => more (.char '\x7b' o.fold)
            | some (low, high) =>
              let least := low.getD 0
              if high.any (· < least) then
                faultAt "min repeat greater than max repeat" (start + 1)
              readRepeat outermost fuel done start least high
        | c => more (.char c o.fold)
termination_by structural fuel => fuel

def readRepeat (outermost : Bool) : Nat → List Part → Nat → Nat → Option Nat → Reading Pattern
  | 0, _, _, _, _ => faultAt "too deep" 0
  | fuel + 1, done, start, least, most => do
    match done with
    | [] => faultAt "nothing to repeat" start
    | .repeated _ :: _ => faultAt "multiple repeat" start
    | .plain p :: rest =>
      if p.isPlace then faultAt "nothing to repeat" start
      let greed ← do
        if ← takes text '?' then pure Greed.lazy
        else if ← takes text '+' then pure Greed.possessive
        else pure Greed.greedy
      readParts outermost fuel (.repeated (.repeated least most greed p) :: rest)
termination_by structural fuel => fuel

/-- What stands between parentheses, unless it only sets options. -/
def readGroup (first : Bool) : Nat → Nat → Reading (Option Pattern)
  | 0, _ => faultAt "too deep" 0
  | fuel + 1, start => do
    let unexpected : Reading (Option Pattern) := do
      faultAt "unexpected end of pattern" (← here)
    if !(← takes text '?') then
      return some (← readKept fuel start none)
    else
      match ← peek text with
      | none => unexpected
      | some c =>
        skip 1
        match c with
        | ':' =>
          let p ← readScoped fuel start (← get).options
          return some p
        | 'P' =>
          if ← takes text '<' then readNamed '>' fuel start
          else if ← takes text '=' then
            let place ← here
            let name ← takeUntil text ')' "group name"
            if !isName name then
              faultAt ("bad character in group name " ++ quotedName name) place
            return some (← namedReference dialect name place)
          else
            match ← peek text with
            | none => unexpected
            | some d => faultAt ("unknown extension ?P" ++ d.toString) ((← here) - 2)
        | '=' => return some (.ahead true (← readInner fuel start))
        | '!' => return some (.ahead false (← readInner fuel start))
        | '<' =>
          match ← peek text with
          | some '=' =>
            skip 1
            readBehind true fuel start
          | some d =>
            if dialect = .relaxed then readNamed '>' fuel start
            else faultAt ("unknown extension ?<" ++ d.toString) ((← here) - 2)
          | _ => unexpected
        | c =>
          if c = '-' || (c = '^' && dialect = .relaxed) ||
              (({} : Options).with? c true).isSome then
            let outer := (← get).options
            -- a roof takes back all options first
            let (outer, c) ← if c = '^' then do
                let d := (← peek text).getD ':'
                skip 1
                pure ({ ascii := outer.ascii : Options }, d)
              else pure (outer, c)
            let (o, mark) ← readOptions text dialect start (text.size + 2) outer [] true c
            if mark = ')' then
              if dialect = .strict && !first then
                faultAt "global flags not at the start of the expression" start
              modify fun s => { s with options := o }
              return none
            else return some (← readScoped fuel start o)
          else faultAt ("unknown extension ?" ++ c.toString) ((← here) - 2)
def readNamed (close : Char) : Nat → Nat → Reading (Option Pattern)
  | 0, _ => faultAt "too deep" 0
  | fuel + 1, start => do
    let place ← here
    let name ← takeUntil text close "group name"
    if !isName name then faultAt ("bad character in group name " ++ quotedName name) place
    match (← get).names.lookup name with
    | some n =>
      faultAt ("redefinition of group name " ++ quotedName name ++ " as group " ++
        Text.naturalText ((← get).groups + 1) ++ "; was group " ++ Text.naturalText n) place
    | none => return some (← readKept fuel start (some name))
termination_by structural fuel => fuel

/-- A match that ends here. -/
def readBehind (wanted : Bool) : Nat → Nat → Reading (Option Pattern)
  | 0, _ => faultAt "too deep" 0
  | fuel + 1, start => do
    let p ← readInner fuel start
    match p.width (← get).widths with
    | (low, some high) =>
      if low = high then return some (.behind wanted low p)
      else if dialect = .relaxed then return some (p.branchesBehind wanted)
      else throw ⟨"look-behind requires fixed-width pattern", none⟩
    | _ => throw ⟨"look-behind requires fixed-width pattern", none⟩
termination_by structural fuel => fuel

def readInner : Nat → Nat → Reading Pattern
  | 0, _ => faultAt "too deep" 0
  | fuel + 1, start => do
    let p ← readEither false fuel
    if ← takes text ')' then return p
    else faultAt "missing ), unterminated subpattern" start
termination_by structural fuel => fuel

/-- The inside of parentheses with options of its own. -/
def readScoped : Nat → Nat → Options → Reading Pattern
  | 0, _, _ => faultAt "too deep" 0
  | fuel + 1, start, o => do
    let outer := (← get).options
    modify fun s => { s with options := o }
    let p ← readInner fuel start
    modify fun s => { s with options := outer }
    return p
termination_by structural fuel => fuel

def readKept : Nat → Nat → Option String → Reading Pattern
  | 0, _, _ => faultAt "too deep" 0
  | fuel + 1, start, name => do
    let n := (← get).groups + 1
    let outer := (← get).options
    modify fun s =>
      { s with
        groups := n
        inside := n :: s.inside
        names := s.names ++ (name.map fun name => (name, n)).toList }
    let p ← readInner fuel start
    modify fun s =>
      { s with
        inside := s.inside.filter (· ≠ n)
        options := outer
        widths := (n, p.width s.widths) :: s.widths }
    return .group n p
termination_by structural fuel => fuel

end

end

def compile (dialect : Dialect) (bytes : Bool) (options : Options) (text : List Char) :
    Except Fault Compiled := do
  let text := text.toArray
  let start : ReadState := { options := { options with ascii := options.ascii || bytes }, bytes }
  let (p, s) ← (readEither text dialect true (4 * text.size + 8)).run start
  if s.place < text.size then throw ⟨"unbalanced parenthesis", some s.place⟩
  match s.asked.find? fun (n, _) => s.groups < n with
  | some (n, place) =>
    throw ⟨"invalid group reference " ++ Text.naturalText n, some place⟩
  | none => return ⟨p, s.groups, s.names, s.options⟩

end Flowboard.Search
