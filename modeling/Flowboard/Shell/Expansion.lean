import Flowboard.Shell.Arithmetic
import Flowboard.Shell.Pattern
import Flowboard.Shell.State

/-! The fields that words stand for. -/
namespace Flowboard.Shell

/-- What keeps a word from standing for fields. -/
structure Fault where
  message : String
  status : Int
  /-- only the command fails -/
  mild : Bool := false

/-- Works on a script and may fail. -/
abbrev Expanding := EStateM Fault State

/-- What a script writes. -/
abbrev Substitute := List Char → State → List Char × State

/-- A character that a word stands for. -/
structure Glyph where
  char : Char
  quoted : Bool
  /-- it may divide fields -/
  splits : Bool

/-- A piece of what a word stands for. -/
inductive Piece where
  | glyphs (gs : List Glyph)
  /-- a field ends here -/
  | boundary
  /-- there is a field, even an empty one -/
  | present
  /-- quoted arguments of which there are none -/
  | nothing

/-- What a parameter stands for. -/
inductive Value where
  | absent
  | one (s : List Char)
  /-- several texts, which quotes make one if `joined` -/
  | many (values : List (List Char)) (joined : Bool)

def glyphs (quoted splits : Bool) (s : List Char) : List Glyph :=
  s.map fun c => ⟨c, quoted, splits⟩

def State.dividers (s : State) : List Char :=
  match s.get? "IFS" with
  | some t => t.toList
  | none => [' ', '\t', '\n']

def isDividingBlank (c : Char) : Bool :=
  c == ' ' || c == '\t' || c == '\n'

/-- Fields that are being divided: those that are complete, last first, the one that is open, and
whether a blank has closed the last one. -/
structure Division where
  closed : List (List Glyph) := []
  current : Option (List Glyph) := none
  afterBlank : Bool := false

namespace Division

def close (d : Division) (afterBlank : Bool) : Division :=
  match d.current with
  | some gs => { closed := gs.reverse :: d.closed, current := none, afterBlank }
  | none => { d with afterBlank := d.afterBlank && afterBlank }

def add (d : Division) (dividers : List Char) (g : Glyph) : Division :=
  if g.splits && dividers.contains g.char then
    if isDividingBlank g.char then
      if d.current.isSome then d.close true else d
    else if d.current.isSome then d.close false
    else if d.afterBlank then { d with afterBlank := false }
    else { d with closed := [] :: d.closed }
  else { d with current := some (g :: d.current.getD []), afterBlank := false }

def addPiece (dividers : List Char) (d : Division) : Piece → Division
  | .glyphs gs => gs.foldl (fun d g => d.add dividers g) d
  | .boundary => { d.close false with afterBlank := false }
  | .present => { d with current := some (d.current.getD []), afterBlank := false }
  | .nothing => d

def fields (d : Division) : List (List Glyph) :=
  (d.close false).closed.reverse

end Division

def divide (dividers : List Char) (ps : List Piece) : List (List Glyph) :=
  let empty := ps.any (fun | .nothing => true | _ => false) &&
    ps.all fun | .glyphs gs => gs.isEmpty | _ => true
  if empty then [] else (ps.foldl (Division.addPiece dividers) {}).fields

def textOfGlyphs (gs : List Glyph) : List Char :=
  gs.map (·.char)

def textOfPieces (ps : List Piece) : List Glyph :=
  ps.flatMap fun
    | .glyphs gs => gs
    | .boundary => [⟨' ', true, false⟩]
    | _ => []

/-- The text of a pattern, with a backslash before each quoted character. -/
def patternText (gs : List Glyph) : List Char :=
  gs.flatMap fun g => if g.quoted then ['\\', g.char] else [g.char]

/-- How paths are looked for. -/
structure Finding where
  groups : Bool := false
  /-- names that start with a dot count too -/
  hidden : Bool := false
  /-- two stars stand for any directories -/
  deep : Bool := false
  /-- small and capital letters are the same -/
  fold : Bool := false

def isPattern (groups : Bool) (s : List Char) : Bool :=
  match s with
  | [] => false
  | '\\' :: _ :: rest => isPattern groups rest
  | c :: rest =>
    c == '*' || c == '?' || c == '[' ||
      (groups && (GroupKind.ofChar? c).isSome && rest.head? == some '(') || isPattern groups rest

/-- A directory and all those in it. Each level uses up one of the fuel. -/
def directoriesFrom (fs : FileSystem) (hidden : Bool) : Nat → String → List String
  | 0, path => [path]
  | fuel + 1, path =>
    match fs.locate (if path = "" then "." else path) with
    | .error _ => [path]
    | .ok spot =>
      let inner := (fs.names spot.place).filter fun name => hidden || !name.startsWith "."
      path :: inner.flatMap fun name =>
        let next := if path = "" || path.endsWith "/" then path ++ name else path ++ "/" ++ name
        match fs.findOwn next with
        | .ok .directory => directoriesFrom fs hidden fuel next
        | _ => []

/-- The paths that a pattern fits, part by part from a directory. -/
def pathsFrom (how : Finding) (fs : FileSystem) : Nat → String → List (List Char) → List String
  | 0, _, _ => []
  | _, path, [] => [path]
  | fuel + 1, path, part :: parts =>
    let sep := if path = "" || path.endsWith "/" then "" else "/"
    if part.isEmpty then
      if parts.isEmpty then [path ++ "/"] else pathsFrom how fs fuel path parts
    else if how.deep && part == ['*', '*'] then
      let directories := directoriesFrom fs how.hidden 40 path
      if parts.isEmpty then
        let all := directories.flatMap fun d =>
          let own := if d = path then (if d = "" then [] else [d ++ sep]) else [d]
          own ++ (pathsFrom how fs fuel d [['*']]).filter fun p =>
            !(fs.findOwn p matches .ok .directory)
        all.mergeSort fun a b => a ≤ b
      else directories.flatMap fun d => pathsFrom how fs fuel d parts
    else if isPattern how.groups part then
      let directory := if path = "" then "." else path
      match fs.locate directory with
      | .error _ => []
      | .ok spot =>
        let folded (s : List Char) : List Char := if how.fold then s.map Char.toLower else s
        let glob := Glob.ofText how.groups (folded part)
        let hidden := how.hidden || part.head? == some '.'
        let found := (fs.names spot.place).filter fun name =>
          Glob.fits glob (folded name.toList) && (hidden || !name.startsWith ".")
        found.flatMap fun name =>
          let next := path ++ sep ++ name
          if parts.isEmpty then [next]
          else
            match fs.find next with
            | .ok .directory => pathsFrom how fs fuel next parts
            | _ => []
    else
      let name := String.ofList ((Glob.ofText false part).filterMap fun
        | .char c => some c
        | _ => none)
      let next := path ++ sep ++ name
      match fs.find next with
      | .ok _ => pathsFrom how fs fuel next parts
      | .error _ => []

/-- The texts of a field: the paths that it fits if it is a pattern, or else itself. A pattern that
fits no path may stand for nothing, or be an error. -/
def State.pathsOf (s : State) (field : List Glyph) : Except String (List String) :=
  let groups := s.has "extglob"
  let plain := String.ofList (textOfGlyphs field)
  let text := patternText field
  if !isPattern groups text || s.has "noglob" then .ok [plain]
  else
    let how : Finding :=
      { groups, hidden := s.has "dotglob", deep := s.has "globstar", fold := s.has "nocaseglob" }
    let parts := Text.splitWhere (· == '/') text
    let found := match parts with
      | [] :: rest => pathsFrom how s.files (parts.length + 1) "/" rest
      | parts => pathsFrom how s.files (parts.length + 1) "" parts
    if !found.isEmpty then .ok found
    else if s.has "failglob" then .error plain
    else if s.has "nullglob" then .ok []
    else .ok [plain]

/-- The alternatives between braces after the opening one, and what follows the closing one. -/
def alternatives : Nat → Nat → Word → List Word → Word → Option (List Word × Word)
  | 0, _, _, _, _ => none
  | _, _, _, _, [] => none
  | fuel + 1, depth, current, done, part :: rest =>
    let go (depth : Nat) := alternatives fuel depth (part :: current) done rest
    match part with
    | .text false ['{'] => go (depth + 1)
    | .text false ['}'] =>
      if depth = 0 then some ((current.reverse :: done).reverse, rest) else go (depth - 1)
    | .text false [','] =>
      if depth = 0 then alternatives fuel 0 [] (current.reverse :: done) rest else go depth
    | _ => go depth

def countFrom (a b step : Int) : List Int :=
  let step := if step = 0 then 1 else step.natAbs
  let n := (b - a).natAbs / step
  (List.range (n + 1)).map fun (i : Nat) => if a ≤ b then a + (i * step : Nat) else a - (i * step : Nat)

/-- The words of a range such as `1..3` or `a..e`. -/
def rangeWords? (w : Word) : Option (List Word) :=
  match plain? w with
  | none => none
  | some text =>
    let (first, last, step) := match (String.ofList text).splitOn ".." with
      | [a, b] => (a, b, some 1)
      | [a, b, c] => (a, b, Text.integer? c.toList)
      | _ => ("", "", none)
    match step, Text.integer? first.toList, Text.integer? last.toList with
    | none, _, _ => none
    | some step, some a, some b =>
      let padded (s : String) : Bool :=
        match s.toList with
        | '0' :: _ :: _ => true
        | '-' :: '0' :: _ :: _ => true
        | _ => false
      let width := if padded first || padded last then max first.length last.length else 0
      let written (n : Int) : List Char :=
        let digits := Nat.toDigits 10 n.natAbs
        let sign := if n < 0 then ['-'] else []
        sign ++ List.replicate (width - digits.length - sign.length) '0' ++ digits
      some ((countFrom a b step).map fun n => [.text false (written n)])
    | some step, _, _ =>
      match first.toList, last.toList with
      | [a], [b] =>
        if a.isAlpha && b.isAlpha then
          some ((countFrom a.toNat b.toNat step).map fun n =>
            [.text true [Char.ofNat n.toNat]])
        else none
      | _, _ => none

def braceWords : Nat → Word → List Word
  | 0, w => [w]
  | _, [] => [[]]
  | fuel + 1, part :: rest =>
    let literally := (braceWords fuel rest).map (part :: ·)
    match part with
    | .text false ['{'] =>
      match alternatives (rest.length + 1) 0 [] [] rest with
      | none => literally
      | some (alts, after) =>
        let choices? := match alts with
          | [w] => rangeWords? w
          | alts => some (alts.flatMap (braceWords fuel))
        match choices? with
        | none => literally
        | some choices =>
          let ends := braceWords fuel after
          choices.flatMap fun a => ends.map fun b => a ++ b
    | _ => literally

def flagLetters : List (String × Char) :=
  [("errexit", 'e'), ("noglob", 'f'), ("monitor", 'm'), ("noexec", 'n'), ("xtrace", 'x'),
   ("verbose", 'v'), ("noclobber", 'C'), ("allexport", 'a'), ("notify", 'b'), ("nounset", 'u')]

/-- The letters of the options that are on. The extended shell has two more that are always on. -/
def State.flags (s : State) : List Char :=
  let on := flagLetters.filterMap fun (option, letter) =>
    if s.has option then some letter else none
  if s.process.extended then
    "abefhmnuvxBC".toList.filter fun c => c == 'h' || c == 'B' || on.contains c
  else on

/-- The next random number, and the state after it: each is a fixed multiple of the one before,
modulo a prime. -/
def State.random (s : State) : Nat × State :=
  let seed := if s.process.seed = 0 then 123459876 else s.process.seed
  let next : Int := 16807 * (seed % 127773 : Nat) - 2836 * (seed / 127773 : Nat)
  let next := (if next < 0 then next + 2147483647 else next).toNat
  (Nat.xor (next / 65536) (next % 65536) % 32768, { s with process.seed := next })

/-- A parameter that is no variable. -/
def State.special? (s : State) (name : String) : Option Value :=
  let number (n : Nat) : Option Value := some (.one (Nat.toDigits 10 n))
  match name with
  | "@" => some (.many (s.process.args.map String.toList) false)
  | "*" => some (.many (s.process.args.map String.toList) true)
  | "#" => number s.process.args.length
  | "?" => number s.process.status.val
  | "$" => number s.process.scriptPid
  | "!" => some (match s.process.lastJob with
    | some n => .one (Nat.toDigits 10 n)
    | none => .absent)
  | "-" => some (.one s.flags)
  | "0" => some (.one s.process.name.toList)
  | "LINENO" => if s.process.extended then number s.process.line else none
  | "SECONDS" =>
    if s.process.extended then number ((s.process.clock - s.process.started) / 1000) else none
  | "BASH_SUBSHELL" => if s.process.extended then number s.process.level else none
  | "BASHPID" => if s.process.extended then number s.process.pid else none
  | "RANDOM" => if s.process.extended then number s.random.1 else none
  | "_" => if s.process.extended then some (.one s.process.lastField.toList) else none
  | _ =>
    match Text.natural? name.toList with
    | some n => some (match s.process.args.drop (n - 1) with
      | a :: _ => .one a.toList
      | [] => .absent)
    | none => none

/-- A list that is no variable. -/
def State.specialList? (s : State) (name : String) : Option Held :=
  let numbered (values : List String) : Option Held :=
    some (.list ((List.range values.length).zip values))
  if !s.process.extended then none
  else
    match name with
    | "PIPESTATUS" => numbered (s.process.statuses.map fun n => Text.naturalText n.val)
    | "FUNCNAME" =>
      if s.process.callers.isEmpty then none else numbered (s.process.callers ++ ["main"])
    | "BASH_SOURCE" => numbered (List.replicate (s.process.callers.length + 1) s.process.name)
    | "DIRSTACK" => numbered (FileSystem.pathOf s.world.files.here :: s.process.directories)
    | _ => none

/-- How expressions see the variables of a script. -/
def scopeOf (extended : Bool) : Scope State where
  extended
  keyed s name := ((s.binding? name).bind (·.held)) matches some (.table _)
  get s cell :=
    match cell.index with
    | some i =>
      (((s.binding? cell.name).bind (·.held)).bind (·.element? i)).getD ""
    | none =>
      match s.special? cell.name with
      | some (.one t) => .ofList t
      | _ => s.get cell.name
  set s cell value :=
    match cell.index with
    | some i => s.setElement cell.name i value
    | none => s.set cell.name value

def fail {α : Type} (status : Int) (message : String) : Expanding α :=
  throw { message, status }

/-- The value of an expression. -/
def evaluated (source : List Char) : Expanding Int := do
  let s ← get
  match evaluate (scopeOf s.process.extended) source s with
  | .ok (n, s) => set s; pure n
  | .error e =>
    throw { message := e.message, status := if s.process.extended then 1 else 2,
            mild := s.process.extended }

/-- Changes the case of the first character, or of all. -/
def recase (f : Char → Char) (all : Bool) (s : List Char) : List Char :=
  if all then s.map f
  else
    match s with
    | c :: cs => f c :: cs
    | [] => []

/-- A part of a list from a place on, up to a length; negative numbers count from the end. -/
def sliceOf {α : Type} (s : List α) (offset : Int) (length : Option Int) : List α :=
  let n : Int := s.length
  let start := if offset < 0 then n + offset else offset
  if start < 0 || n < start then []
  else
    let rest := s.drop start.toNat
    match length with
    | none => rest
    | some l => if l < 0 then rest.take ((rest.length : Int) + l).toNat else rest.take l.toNat

def Value.map (f : List Char → List Char) : Value → Value
  | absent => .absent
  | one s => .one (f s)
  | many vs joined => .many (vs.map f) joined

/-- Whether a value counts as none; an empty one does if `empty`. -/
def Value.lacks (empty : Bool) : Value → Bool
  | absent => true
  | one s => empty && s.isEmpty
  | many vs _ => vs.isEmpty || (empty && vs.all List.isEmpty)

def State.show (s : State) (quoted : Bool) : Value → List Piece
  | .absent => []
  | .one t => [.glyphs (glyphs quoted (!quoted) t)]
  | .many vs joined =>
    if quoted && joined then
      let sep := match s.get? "IFS" with
        | some t => t.toList.take 1
        | none => [' ']
      [.glyphs (glyphs true false (sep.intercalate vs))]
    else if vs.isEmpty then (if quoted then [.nothing] else [])
    else
      let each := vs.map fun v =>
        if quoted then [.present, .glyphs (glyphs true false v)]
        else [Piece.glyphs (glyphs false true v)]
      (each.intersperse [.boundary]).flatten

/-- Replaces what a pattern fits, which may have to stand at the start or the end. -/
def replaced (groups everywhere : Bool) (pattern : List Char) (put : List Char → List Char)
    (s : List Char) : List Char :=
  match pattern with
  | '#' :: p =>
    match (Glob.rests (Glob.ofText groups p) s).getLast? with
    | some rest => put (s.take (s.length - rest.length)) ++ rest
    | none => s
  | '%' :: p =>
    match Glob.beforeEnd? true (Glob.ofText groups p) s with
    | some first => first ++ put (s.drop first.length)
    | none => s
  | [] => s
  | p => Glob.replace everywhere (Glob.ofText groups p) put (s.length + 1) s

/-- Changes the case of the characters that a pattern fits, all of them or the first one. -/
def recasedWhere (groups : Bool) (f : Char → Char) (all : Bool) (pattern s : List Char) :
    List Char :=
  let glob := Glob.ofText groups pattern
  let changed (c : Char) : Char :=
    if pattern.isEmpty || Glob.fits glob [c] then f c else c
  recase changed all s

def Variable.letters (v : Variable) : String :=
  (if v.held matches some (.list _) then "a" else "") ++
  (if v.held matches some (.table _) then "A" else "") ++
  (if v.integer then "i" else "") ++ (if v.lower then "l" else "") ++
  (if v.refers then "n" else "") ++ (if v.constant then "r" else "") ++
  (if v.upper then "u" else "") ++ (if v.exported then "x" else "")

/-- A text between single quotes, which a script reads as it is. -/
def quotedText (t : String) : String :=
  "'" ++ (t.replace "'" "'\\''") ++ "'"

def State.homeOf? (s : State) (name : List Char) : Option String :=
  match String.ofList name with
  | "" => some (s.get "HOME")
  | "root" => some "/root"
  | "+" => some (s.get "PWD")
  | "-" => s.get? "OLDPWD"
  | _ => none

/-- A directory in the place of a tilde and a name at the start of a word. -/
def State.tilde (s : State) : Word → Word
  | .text false ['~'] :: rest =>
    let letter? : Part → Option Char
      | .text false [c] => if c = '/' then none else some c
      | _ => none
    let name := (rest.map letter?).takeWhile Option.isSome
    let after := rest.drop name.length
    let whole : Bool := match after with
      | [] => true
      | p :: _ => p == .text false ['/']
    match if whole then s.homeOf? (name.filterMap id) else none with
    | some home => .text true home.toList :: after
    | none => .text false ['~'] :: rest
  | w => w

/-- The pieces that the parts of a word stand for. A text without quotes divides fields only inside
of a parameter. Each level of words in words uses up one of the fuel. -/
def piecesOf (run : Substitute) : Nat → Bool → Word → Expanding (List Piece)
  | 0, _, _ => fail 2 "Bad substitution"
  | fuel + 1, nested, w => do
    let extended := (← get).process.extended
    let textOf (quoted : Bool) (source : List Char) : Expanding (List Char) := do
      let ps ← piecesOf run fuel false (wordOf extended quoted source)
      pure (textOfGlyphs (textOfPieces ps))
    let groups := (← get).has "extglob"
    let patternOf (source : List Char) : Expanding (List Char) := do
      let ps ← piecesOf run fuel false (wordOf extended false source)
      pure (patternText (textOfPieces ps))
    let number (source : List Char) : Expanding Int := do
      evaluated (← textOf true source)
    let valueOf (p : Parameter) : Expanding Value := do
      let s ← get
      match p.index with
      | none =>
        if extended && p.name = "RANDOM" then
          let (n, s) := s.random
          set s
          pure (.one (Nat.toDigits 10 n))
        else
        match s.special? p.name with
        | some v => pure v
        | none => pure (match ((s.specialList? p.name).bind Held.value?).or (s.get? p.name) with
          | some t => .one t.toList
          | none => .absent)
      | some index =>
        let held := (s.specialList? p.name).or ((s.binding? p.name).bind (·.held))
        match index with
        | ['@'] => pure (.many ((held.map Held.values).getD [] |>.map String.toList) false)
        | ['*'] => pure (.many ((held.map Held.values).getD [] |>.map String.toList) true)
        | index =>
          let key ← match held with
            | some (.table _) => pure (String.ofList (← textOf true index))
            | _ =>
              let n ← number index
              let size := ((State.listOf held).getLast?.map fun e => (e.1 : Int) + 1).getD 0
              pure (Text.integerText (if n < 0 then size + n else n))
          pure (match held.bind (·.element? key) with
            | some t => .one t.toList
            | none => .absent)
    let parts ← w.mapM fun part => do
      match part with
      | .text quoted t =>
        pure (if quoted then [.present, .glyphs (glyphs true false t)]
          else [Piece.glyphs (glyphs false nested t)])
      | .command quoted source =>
        let (text, s) := run source (← get)
        set s
        let text := (text.filter (· != '\x00')).reverse.dropWhile (· == '\n')
        pure [.glyphs (glyphs quoted (!quoted) text.reverse)]
      | .process source =>
        let (text, s) := run source (← get)
        let (n, s) := s.fresh
        let path := "/dev/fd/" ++ Text.naturalText n
        let place : Place := ["proc", "self", "fd", Text.naturalText n]
        let files := s.world.files.put place (.file (Text.octetBytes text))
        set { s with world.files := files }
        pure [.glyphs (glyphs true false path.toList)]
      | .sink source =>
        let (n, s) := (← get).fresh
        let path := "/dev/fd/" ++ Text.naturalText n
        let place : Place := ["proc", "self", "fd", Text.naturalText n]
        set { s with
          world.files := s.world.files.put place (.file [])
          world.sinks := s.world.sinks ++ [(path, source)] }
        pure [.glyphs (glyphs true false path.toList)]
      | .arithmetic quoted source =>
        let n ← number source
        pure [.glyphs (glyphs quoted (!quoted) (Text.integerText n).toList)]
      | .parameter quoted p =>
        let v ← valueOf p
        let s ← get
        let shown (v : Value) : Expanding (List Piece) := do pure ((← get).show quoted v)
        let inner (word : List Char) : Expanding (List Piece) :=
          piecesOf run fuel true (wordOf extended quoted word)
        match p.operation with
        | .bad =>
          throw { message := "Bad substitution", status := if extended then 1 else 2,
                  mild := extended }
        | .plain =>
          match v with
          | .absent =>
            if s.has "nounset" then
              if extended then fail 1 (p.name ++ ": unbound variable")
              else fail 2 (p.name ++ ": parameter not set")
            else pure []
          | v => shown v
        | .length =>
          match v with
          | .many vs _ => shown (.one (Nat.toDigits 10 vs.length))
          | .one t => shown (.one (Nat.toDigits 10 t.length))
          | .absent =>
            if s.has "nounset" then fail (if extended then 1 else 2) (p.name ++ ": parameter not set")
            else shown (.one ['0'])
        | .orElse empty word => if v.lacks empty then inner word else shown v
        | .andThen empty word => if v.lacks empty then pure [] else inner word
        | .orAssign empty word =>
          if v.lacks empty then do
            let text ← textOf quoted word
            let s ← get
            set (s.set p.name (.ofList text))
            shown (.one text)
          else shown v
        | .orFail empty word =>
          if v.lacks empty then do
            let text ← textOf quoted word
            let text := if text.isEmpty then
                (if empty then "parameter null or not set" else "parameter not set") else .ofList text
            fail (if extended then 1 else 2) (p.name ++ ": " ++ text)
          else shown v
        | .trimEnd longest pattern => do
          let glob := Glob.ofText groups (← patternOf pattern)
          shown (v.map (Glob.trimEnd longest glob))
        | .trimStart longest pattern => do
          let glob := Glob.ofText groups (← patternOf pattern)
          shown (v.map (Glob.trimStart longest glob))
        | .slice offset length => do
          let start ← number offset
          let size ← length.mapM number
          match v with
          | .absent => pure []
          | .one t => shown (.one (sliceOf t start size))
          | .many vs joined =>
            let all := if p.index.isNone then s.process.name.toList :: vs else vs
            shown (.many (sliceOf all start size) joined)
        | .replace everywhere pattern text => do
          let pattern ← patternOf pattern
          let text := textOfPieces (← piecesOf run fuel false (wordOf extended false text))
          -- an ampersand stands for what the pattern fits
          let put (found : List Char) : List Char :=
            text.flatMap fun g => if g.char == '&' && !g.quoted then found else [g.char]
          shown (v.map (replaced groups everywhere pattern put))
        | .upper all pattern => do
          let pattern ← patternOf pattern
          shown (v.map (recasedWhere groups Char.toUpper all pattern))
        | .lower all pattern => do
          let pattern ← patternOf pattern
          shown (v.map (recasedWhere groups Char.toLower all pattern))
        | .keys =>
          let held := (s.specialList? p.name).or ((s.binding? p.name).bind (·.held))
          let keys := ((held.map Held.keys).getD []).map String.toList
          shown (.many keys (p.index == some ['*']))
        | .names =>
          let names := (s.process.bindings.map (·.1)).filter fun n => n.startsWith p.name
          let names := names.mergeSort fun a b => a ≤ b
          shown (.many (names.map String.toList) true)
        | .form letter =>
          match letter with
          | 'Q' => shown (v.map fun t => (quotedText (.ofList t)).toList)
          | _ => shown v
        | .indirect =>
          match v with
          | .one name =>
            match readIndexed true name with
            | some (q, []) => do shown (← valueOf q)
            | _ => pure []
          | _ => pure []
    pure parts.flatten

/-- How deep words may stand in words. -/
def wordDepth : Nat := 100

def fieldsOf (run : Substitute) (w : Word) : Expanding (List String) := do
  let s ← get
  let words := if s.process.extended then braceWords (w.length + 1) w else [w]
  let fields ← words.mapM fun w => do
    let ps ← piecesOf run wordDepth false (s.tilde w)
    let s ← get
    let found ← (divide s.dividers ps).mapM fun field =>
      match s.pathsOf field with
      | .ok paths => pure paths
      | .error pattern =>
        throw { message := "no match: " ++ pattern, status := 1, mild := true }
    pure found.flatten
  pure fields.flatten

def glyphsOf (run : Substitute) (w : Word) : Expanding (List Glyph) := do
  let s ← get
  let ps ← piecesOf run wordDepth false (s.tilde w)
  pure (textOfPieces ps)

def textOf (run : Substitute) (w : Word) : Expanding (List Char) := do
  pure (textOfGlyphs (← glyphsOf run w))

def fitsWord (run : Substitute) (groups : Bool) (w : Word) (s : List Char) : Expanding Bool := do
  let pattern := patternText (← glyphsOf run w)
  let fold := (← get).has "nocasematch"
  let folded (s : List Char) : List Char := if fold then s.map Char.toLower else s
  pure (Glob.fits (Glob.ofText groups (folded pattern)) (folded s))

end Flowboard.Shell
