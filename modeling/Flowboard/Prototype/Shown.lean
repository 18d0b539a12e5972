import Flowboard.Prototype.Object
import Flowboard.Time.Calendar

/-! How values are shown. -/
namespace Flowboard.Prototype

def shownChar (c : Char) : List Char :=
  let n := Text.codePoint c
  let hex (w : Nat) : List Char :=
    let ds := (Nat.toDigits 16 n).map Char.toUpper
    List.replicate (w - ds.length) '0' ++ ds
  if c == '\n' then ['\\', 'n']
  else if c == '\t' then ['\\', 't']
  else if c == '\r' then ['\\', 'r']
  else if c == '\x08' then ['\\', 'b']
  else if c == '\x0c' then ['\\', 'f']
  else if c == '\x0b' then ['\\', 'v']
  else if c == '\\' then ['\\', '\\']
  else if n < 32 || (127 ≤ n && n < 160) then '\\' :: 'x' :: hex 2
  else if Text.isHalf c then '\\' :: 'u' :: hex 4
  else [c]

/-- A text in quotes: those that it does not hold itself, if there are some. -/
def quotedText (s : String) : String :=
  let q := if !s.contains '\'' then '\''
    else if !s.contains '"' then '"'
    else if !s.contains '`' && !(s.contains "$\x7b") then '`'
    else '\''
  let body := s.toList.flatMap fun c =>
    if c == '\'' && q == '\'' then ['\\', '\''] else shownChar c
  String.ofList (q :: (body ++ [q]))

def isPlainName (s : String) : Bool :=
  match s.toList with
  | c :: rest => (c.isAlpha || c == '_') && rest.all fun c => c.isAlphanum || c == '_'
  | [] => false

/-- The parts of a time in thousandths of seconds: a moment and what is left. -/
def momentOf (t : Float) : Moment × Nat :=
  let n := (Script.truncated? t).getD 0
  (.ofSeconds (Int.fdiv n 1000), (Int.fmod n 1000).toNat)

def twoDigits (n : Nat) : String :=
  String.ofList (Text.padded 2 n)

/-- A time in the form that sorts. -/
def isoText (t : Float) : String :=
  let (m, ms) := momentOf t
  let year := if 0 ≤ m.year && m.year ≤ 9999 then String.ofList (Text.padded 4 m.year.toNat)
    else (if m.year < 0 then "-" else "+") ++ String.ofList (Text.padded 6 m.year.natAbs)
  year ++ "-" ++ twoDigits m.month ++ "-" ++ twoDigits m.day ++ "T" ++ twoDigits m.hour ++ ":" ++
    twoDigits m.minute ++ ":" ++ twoDigits m.second ++ "." ++ String.ofList (Text.padded 3 ms) ++ "Z"

def functionName (ref : Nat) : Action String := do
  match ← ownProperty? ref (.text "name") with
  | some { value := .text s, access := none, .. } => return s
  | _ => return ""

def className : Nat → Nat → Action (Option String)
  | 0, _ => return none
  | fuel + 1, ref => do
    let o ← objectAt ref
    match o.members.get? (.text "constructor") with
    | some { value := .object f, access := none, .. } =>
      if ← isCallable (.object f) then
        let name ← functionName f
        if name != "" then return some name
    | _ => pure ()
    match o.proto with
    | .object p => className fuel p
    | _ => return none

structure ShowOptions where
  depth : Option Nat := some 2
  width : Nat := 80
  compact : Nat := 3
  hidden : Bool := false
  items : Nat := 100
  sorted : Bool := false

structure ShowState where
  seen : List Nat := []
  /-- objects that hold themselves, with their numbers -/
  rings : List (Nat × Nat) := []
  indent : Nat := 0
  current : Nat := 0

abbrev Showing := StateT ShowState Action

def spaces (n : Nat) : String :=
  String.ofList (List.replicate n ' ')

/-- The pieces in columns, if they are many and short. -/
def inColumns (o : ShowOptions) (indent : Nat) (numbers : Bool) (more : Bool)
    (pieces : List String) : List String :=
  let all := pieces.toArray
  let count := if more then all.size - 1 else all.size
  let lengths := (all.extract 0 count).map String.length
  let total := lengths.foldl (fun n l => n + l + 2) 0
  let longest := lengths.foldl Nat.max 0
  let actual := longest + 2
  if actual * 3 + indent < o.width &&
      (5.0 < Float.ofNat total / Float.ofNat actual || longest ≤ 6) then
    let bias := (Float.ofNat actual - Float.ofNat total / Float.ofNat all.size).sqrt
    let biased := max (Float.ofNat actual - 3.0 - bias) 1.0
    let wanted := ((2.5 * biased * Float.ofNat count).sqrt / biased + 0.5).floor.toUInt64.toNat
    let columns := min (min wanted ((o.width - indent) / actual)) (min (o.compact * 4) 15)
    if columns ≤ 1 then pieces
    else
      let widths := (List.range columns).map fun i =>
        2 + (((List.range count).filter (· % columns == i)).foldl
          (fun n j => Nat.max n (lengths.getD j 0)) 0)
      let rows := (List.range ((count + columns - 1) / columns)).map fun r =>
        let first := r * columns
        let last := min (first + columns) count
        String.join ((List.range (last - first)).map fun k =>
          let s := all.getD (first + k) ""
          let w := widths.getD k 0
          if first + k + 1 < last then
            let s := s ++ ", "
            if numbers then spaces (w - s.length) ++ s else s ++ spaces (w - s.length)
          else if numbers then spaces (w - 2 - s.length) ++ s
          else s)
      rows ++ (if more then [all.getD count ""] else [])
  else pieces

/-- Pieces between braces, on one line if they fit. -/
def layout (o : ShowOptions) (level : Nat) (base opening closing : String) (isArray numbers more : Bool)
    (pieces : List String) : Showing String := do
  let s ← get
  let start := if base == "" then opening else base ++ " " ++ opening
  let entries := pieces.length
  let grouped := if isArray && 6 < entries then inColumns o s.indent numbers more pieces else pieces
  let total := pieces.foldl (fun n p => n + p.length) 0
  let fits := 2 * entries + s.indent + opening.length + base.length + 10 + total ≤ o.width &&
    !(pieces.any fun p => p.contains '\n') && !base.contains '\n'
  if o.compact ≠ 0 && s.current < level + o.compact && entries == grouped.length && fits then
    return start ++ " " ++ ", ".intercalate pieces ++ " " ++ closing
  let gap := "\n" ++ spaces s.indent
  return start ++ gap ++ "  " ++ (("," ++ gap ++ "  ").intercalate grouped) ++ gap ++ closing

/-- What stands before the braces. -/
def classPrefix (name : Option String) (tag fallback size : String) : String :=
  match name with
  | none =>
    if tag != "" && tag != fallback then
      "[" ++ fallback ++ size ++ ": null prototype] [" ++ tag ++ "] "
    else "[" ++ fallback ++ size ++ ": null prototype] "
  | some n =>
    if tag != "" && tag != n then n ++ size ++ " [" ++ tag ++ "] " else n ++ size ++ " "

def functionBase (ref : Nat) (name : Option String) (tag : String) : Action String := do
  let own ← functionName ref
  let o ← objectAt ref
  let code? ← match o.kind with
    | .closure c => do pure (some ((← get).codes.getD c.code default))
    | _ => pure none
  match code? with
  | some c =>
    if c.constructs then
      let parent ← match o.proto with
        | .object p =>
          if p = functionProto then pure "" else do
            let n ← functionName p
            pure (if n == "" then "" else " extends " ++ n)
        | _ => pure " extends null"
      return "[class " ++ (if own == "" then "(anonymous)" else own) ++ parent ++ "]"
    let kind := (if c.async then "Async" else "") ++ (if c.generator then "Generator" else "") ++
      "Function"
    let base := "[" ++ kind ++ (if own == "" then " (anonymous)" else ": " ++ own) ++ "]"
    let base := if name.isNone then base ++ " [null prototype]" else base
    return if tag != "" && some tag != name && tag != kind then base ++ " [" ++ tag ++ "]" else base
  | none => return "[Function" ++ (if own == "" then " (anonymous)" else ": " ++ own) ++ "]"

mutual

/-- A value as it is shown inside of others. Each level uses up one of the fuel. -/
def showValue (o : ShowOptions) : Nat → Nat → Value → Showing String
  | 0, _, _ => return "..."
  | fuel + 1, level, v => do
    match v with
    | .undefined | .hole => return "undefined"
    | .null => return "null"
    | .bool b => return if b then "true" else "false"
    | .number x => return if x == 0.0 && Script.isNegative x then "-0" else numberText x
    | .bigint n => return Text.integerText n ++ "n"
    | .symbol n => symbolText n
    | .text s =>
      let indent := (← get).indent
      if 16 < s.length && o.width - indent - 4 < s.length && s.contains '\n' then
        let lines := Text.lines s.toList
        return (" +\n" ++ spaces (indent + 2)).intercalate
          (lines.map fun l => quotedText (String.ofList l))
      else return quotedText s
    | .object r =>
      let state ← get
      if state.seen.contains r then
        let number ← match state.rings.lookup r with
          | some n => pure n
          | none => do
            let n := state.rings.length + 1
            modify fun s => { s with rings := s.rings ++ [(r, n)] }
            pure n
        return "[Circular *" ++ Text.naturalText number ++ "]"
      -- an object may say itself how it is shown
      let own ← match (← getThe World).shared.lookup "nodejs.util.inspect.custom" with
        | some n => getNamed v (.symbol n)
        | none => pure .undefined
      if ← isCallable own then
        let depth : Value := match o.depth with
          | some d => natValue (d - level)
          | none => .number infinity
        match ← call own v [depth, .undefined, ← getNamed (.object globalRef) (.hidden "show")] with
        | .text s => return s
        | x => showValue o fuel level x
      else showObject o fuel level r

def showMember (o : ShowOptions) : Nat → Nat → Nat → Name → Showing String
  | 0, _, _, _ => return "..."
  | fuel + 1, level, ref, n => do
    let p ← ownProperty? ref n
    let p := p.getD default
    let value ← match p.access with
      | none => do
        modify fun s => { s with indent := s.indent + 2 }
        let t ← showValue o fuel level p.value
        modify fun s => { s with indent := s.indent - 2 }
        pure t
      | some (g, s) =>
        pure (if g.isMissing then if s.isMissing then "undefined" else "[Setter]"
          else if s.isMissing then "[Getter]" else "[Getter/Setter]")
    let key ← match n with
      | .symbol i => do
        let t ← symbolText i
        pure ("[" ++ t ++ "]")
      | .text s | .hidden s =>
        pure (if s == "__proto__" then "['__proto__']"
          else if !p.shown then "[" ++ s ++ "]"
          else if isPlainName s then s else quotedText s)
    return key ++ ": " ++ value

def showObject (o : ShowOptions) : Nat → Nat → Nat → Showing String
  | 0, _, _ => return "..."
  | fuel + 1, level, ref => do
    let obj ← objectAt ref
    let v := Value.object ref
    let name ← className 1000 ref
    let tag ← match ← getNamed v (knownSymbol "toStringTag") with
      | .text s => pure (if some s == name then "" else s)
      | _ => pure ""
    let isRow := obj.kind.items?.isSome
    let names ← ownNames ref
    let keys ← names.filterM fun n => do
      match n with
      | .text s =>
        if isRow && (placeOfText? s).isSome then return false
        pure ()
        let p ← ownProperty? ref n
        return (p.map (·.shown)).getD false ||
          (o.hidden && !(obj.kind matches .closure _ | .native .. | .error))
      | _ =>
        let p ← ownProperty? ref n
        return (p.map (·.shown)).getD false
    let keys := if o.sorted then keys.mergeSort fun _ _ => true
      else keys
    -- what the object is besides its members
    let mut base := ""
    let mut opening := "\x7b"
    let mut closing := "\x7d"
    let mut isArray := false
    let mut whole : Option String := none
    let sizeText (n : Nat) : String := "(" ++ Text.naturalText n ++ ")"
    match obj.kind with
    | .array items =>
      let p := if name == some "Array" && tag == "" then ""
        else classPrefix name tag "Array" (sizeText items.size)
      opening := p ++ "["
      closing := "]"
      isArray := true
      if items.isEmpty && keys.isEmpty then whole := some (p ++ "[]")
    | .map m weak =>
      let kind := if weak then "WeakMap" else "Map"
      let p := classPrefix name tag kind (if weak then "" else sizeText m.size)
      opening := p ++ "\x7b"
      if !weak && m.size = 0 && keys.isEmpty then whole := some (p ++ "\x7b\x7d")
    | .set m weak =>
      let kind := if weak then "WeakSet" else "Set"
      let p := classPrefix name tag kind (if weak then "" else sizeText m.size)
      opening := p ++ "\x7b"
      if !weak && m.size = 0 && keys.isEmpty then whole := some (p ++ "\x7b\x7d")
    | .closure _ | .native .. =>
      base ← functionBase ref name tag
      if keys.isEmpty then whole := some base
    | _ =>
      let p := if name == some "Object" && tag == "" then "" else classPrefix name tag "Object" ""
      opening := p ++ "\x7b"
      if keys.isEmpty then whole := some (p ++ "\x7b\x7d")
    match whole with
    | some s => return s
    | none => pure ()
    if o.depth.any (· < level) then
      let n := classPrefix name tag "Object" ""
      return "[" ++ String.ofList n.toList.dropLast ++ "]"
    modify fun s => { s with seen := ref :: s.seen, current := level }
    let mut pieces : List String := []
    let mut more := false
    let mut numbers := false
    let deeper (v : Value) : Showing String := do
      modify fun s => { s with indent := s.indent + 2 }
      let t ← showValue o fuel (level + 1) v
      modify fun s => { s with indent := s.indent - 2 }
      return t
    match obj.kind with
    | .array items | .typed _ items =>
      let (ps, m) ← showItems o fuel level items.toList 0 []
      pieces := ps.reverse
      more := m
      numbers := items.toList.all fun v => (v matches .number _ | .bigint _)
    | .map m weak =>
      if weak then pieces := ["<items unknown>"]
      else
        for (k, x) in m.toList do
          let a ← deeper k
          let b ← deeper x
          pieces := pieces ++ [a ++ " => " ++ b]
    | .set m weak =>
      if weak then pieces := ["<items unknown>"]
      else
        for (k, _) in m.toList do
          pieces := pieces ++ [← deeper k]
    | _ => pure ()
    for n in keys do
      let t ← showMember o fuel (level + 1) ref n
      pieces := pieces ++ [t]
    let s ← get
    set { s with seen := s.seen.tail }
    let mark := match s.rings.lookup ref with
      | some n => "<ref *" ++ Text.naturalText n ++ "> "
      | none => ""
    if base == "" then opening := mark ++ opening else base := mark ++ base
    if pieces.isEmpty then
      return (if base == "" then "" else base ++ " ") ++ opening ++ closing
    layout o level base opening closing isArray numbers more pieces

/-- Items of an array; missing ones are counted. The last piece comes first. -/
def showItems (o : ShowOptions) :
    Nat → Nat → List Value → Nat → List String → Showing (List String × Bool)
  | 0, _, _, _, done => return (done, false)
  | fuel + 1, level, items, count, done => do
    match items with
    | [] => return (done, false)
    | v :: rest =>
      if o.items ≤ count then
        let n := items.length
        return (("... " ++ Text.naturalText n ++ " more item" ++ (if n = 1 then "" else "s")) :: done,
          true)
      match v with
      | .hole =>
        let holes := (items.takeWhile (· matches .hole)).length
        let text := "<" ++ Text.naturalText holes ++ " empty item" ++
          (if holes = 1 then "" else "s") ++ ">"
        showItems o fuel level (items.drop holes) (count + 1) (text :: done)
      | v =>
        modify fun s => { s with indent := s.indent + 2 }
        let t ← showValue o fuel (level + 1) v
        modify fun s => { s with indent := s.indent - 2 }
        showItems o fuel level rest (count + 1) (t :: done)

end

/-- How deep values are looked into at most. -/
def showDepth : Nat := 2000

def inspect (o : ShowOptions) (v : Value) : Action String := do
  let (s, _) ← (showValue o showDepth 0 v).run {}
  return s

/-- A value in a line of output: texts stand there as they are. -/
def inLine (v : Value) : Action String :=
  match v with
  | .text s => return s
  | v => inspect {} v

/-- Puts values at the places that a format marks. What is left of them is told too. -/
def fillFormat (json : Value → Action String) :
    Nat → List Char → List Value → String → Action (String × List Value)
  | 0, _, args, done => return (done, args)
  | fuel + 1, s, args, done => do
    match s with
    | [] => return (done, args)
    | '%' :: '%' :: rest => fillFormat json fuel rest args (done.push '%')
    | '%' :: c :: rest =>
      match args with
      | [] => fillFormat json fuel (c :: rest) args (done.push '%')
      | _ :: more =>
        let text? ← pure none
        match text? with
        | some t => fillFormat json fuel rest more (done ++ t)
        | none => fillFormat json fuel (c :: rest) args (done.push '%')
    | c :: rest => fillFormat json fuel rest args (done.push c)

def formatLine (json : Value → Action String) (args : List Value) : Action String := do
  match args with
  | [] => return ""
  | .text s :: rest =>
    let (start, left) ← if rest.isEmpty then pure (s, rest)
      else fillFormat json (s.length + 1) s.toList rest ""
    let texts ← left.mapM inLine
    return " ".intercalate (start :: texts)
  | args =>
    let texts ← args.mapM inLine
    return " ".intercalate texts

end Flowboard.Prototype
