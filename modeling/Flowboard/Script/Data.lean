import Flowboard.Script.System
import Flowboard.Utility.Digest

/-! Values as data for other programs. -/
namespace Flowboard.Script

/-- How values are written. -/
structure DataStyle where
  /-- what stands before the values of each level -/
  indent : Option String := none
  comma : String := ", "
  colon : String := ": "
  ascii : Bool := true
  sorted : Bool := false
  /-- keys of other kinds are left out -/
  skipping : Bool := false
  /-- numbers that are not finite may be written -/
  infinite : Bool := true
  /-- makes something that can be written of another value -/
  standard : Option Value := none

/-- Two numbers of four digits for a character with a greater number. -/
def dataEscape (n : Nat) : List Char :=
  let one (n : Nat) : List Char := '\\' :: 'u' :: Text.paddedIn 16 4 n
  if n < 65536 then one n
  else one (0xD800 + (n - 65536) / 1024) ++ one (0xDC00 + (n - 65536) % 1024)

def dataChar (ascii : Bool) (c : Char) : List Char :=
  match c with
  | '"' => ['\\', '"']
  | '\\' => ['\\', '\\']
  | '\n' => ['\\', 'n']
  | '\r' => ['\\', 'r']
  | '\t' => ['\\', 't']
  | '\x08' => ['\\', 'b']
  | '\x0c' => ['\\', 'f']
  | c =>
    if c.toNat < 32 || (ascii && 126 < c.toNat) then dataEscape (Text.codePoint c) else [c]

def dataText (ascii : Bool) (s : String) : String :=
  .ofList ('"' :: (s.toList.flatMap (dataChar ascii) ++ ['"']))

def dataFloat (x : Float) : String :=
  if x.isNaN then "NaN"
  else if x.isInf then (if x < 0.0 then "-Infinity" else "Infinity")
  else floatText x

/-- Parts between brackets, on lines of their own if there is an indent. -/
def DataStyle.enclose (style : DataStyle) (level : Nat) (left right : String)
    (parts : List String) : String :=
  if parts.isEmpty then left ++ right
  else
    match style.indent with
    | none => left ++ style.comma.intercalate parts ++ right
    | some unit =>
      let line (n : Nat) : String := "\n" ++ String.join (List.replicate n unit)
      left ++ line (level + 1) ++ (style.comma ++ line (level + 1)).intercalate parts ++
        line level ++ right

/-- The text of a number, unless such a number cannot be written. -/
def DataStyle.float (style : DataStyle) (x : Float) : Action String := do
  if !style.infinite && (x.isNaN || x.isInf) then
    Action.valueError ("Out of range float values are not JSON compliant: " ++ floatText x)
  else return dataFloat x

def dataKey (style : DataStyle) (v : Value) : Action (Option String) := do
  match ← plain v with
  | .str s => return some s
  | .bool b => return some (if b then "true" else "false")
  | .none => return some "null"
  | .int n => return some (← intText n)
  | .float x => return some (← style.float x)
  | _ =>
    if style.skipping then return none
    else
      Action.typeError ("keys must be str, int, float, bool or None, not " ++ (← typeName v))

/-- A value as data; `outer` are the collections around it. -/
def written (k : Calls) (style : DataStyle) : Nat → Nat → List Nat → Value → Action String
  | 0, _, _, _ => Action.raise "RecursionError" "maximum recursion depth exceeded"
  | fuel + 1, level, outer, v => do
    let own ← plain v
    let place := match v with
      | .ref i => i
      | _ => 0
    match v with
    | .ref i => if outer.contains i then Action.valueError "Circular reference detected"
    | _ => pure ()
    match own with
    | .none => return "null"
    | .bool b => return if b then "true" else "false"
    | .int n => intText n
    | .float x => style.float x
    | .str s => return dataText style.ascii s
    | .tuple xs =>
      return style.enclose level "[" "]" (← xs.mapM (written k style fuel (level + 1) (place :: outer)))
    | own =>
      match ← Action.object? own with
      | some (.list xs false) =>
        return style.enclose level "[" "]"
          (← xs.toList.mapM (written k style fuel (level + 1) (place :: outer)))
      | some (.dict d _) =>
        let pairs := d.toList
        let pairs ← if style.sorted then do
            let inOrder ← sortedBy k false (pairs.map fun (a, b) => (a, .tuple [a, b]))
            pure (inOrder.filterMap fun
              | .tuple [a, b] => some (a, b)
              | _ => none)
          else pure pairs
        let parts ← pairs.filterMapM fun (a, b) => do
          match ← dataKey style a with
          | none => return none
          | some key =>
            return some (dataText style.ascii key ++ style.colon ++
              (← written k style fuel (level + 1) (place :: outer) b))
        return style.enclose level "\x7b" "\x7d" parts
      | _ =>
        match style.standard with
        | some f =>
          let other ← k.call f [v] []
          written k style fuel level (place :: outer) other
        | none =>
          Action.typeError ("Object of type " ++ (← typeName v) ++ " is not JSON serializable")

def DataStyle.ofArguments? : List Value → Option DataStyle
  | [indent, .str comma, .str colon, .bool ascii, .bool sorted, .bool skipping, .bool infinite,
      standard] =>
    let indent := match indent with
      | .int n => some (String.ofList (List.replicate n.toNat ' '))
      | .str s => some s
      | _ => none
    some { indent, comma, colon, ascii, sorted, skipping, infinite, standard := some standard }
  | _ => none

/-- What is done with values while they are read. -/
structure DataHooks where
  object : Value
  pairs : Value
  float : Value
  int : Value
  constant : Value
  /-- control characters cannot stand in texts -/
  strict : Bool

/-- Raises the exception for a fault at a place of a text. -/
def dataFault {α : Type} (k : Calls) (all rest : List Char) (what : String) : Action α := do
  let n := all.length - rest.length
  match ← preludeValue? "json" "JSONDecodeError" with
  | some kind => throw (.raise (← k.call kind [.str what, .str (.ofList all), .int n] []))
  | none => Action.valueError what

def skipBlank (s : List Char) : List Char :=
  s.dropWhile fun c => c == ' ' || c == '\n' || c == '\r' || c == '\t'

def readDataText (k : Calls) (all start : List Char) (strict : Bool) :
    Nat → List Char → List Char → Action (String × List Char)
  | 0, _, _ => dataFault k all start "Unterminated string starting at"
  | _, _, [] => dataFault k all start "Unterminated string starting at"
  | _, _, ['\\'] => dataFault k all start "Unterminated string starting at"
  | _, done, '"' :: s => return (.ofList done.reverse, s)
  | fuel + 1, done, '\\' :: c :: s => do
    let more (c : Char) (s : List Char) : Action (String × List Char) :=
      readDataText k all start strict fuel (c :: done) s
    match c with
    | 'n' => more '\n' s
    | 't' => more '\t' s
    | 'r' => more '\r' s
    | 'b' => more '\x08' s
    | 'f' => more '\x0c' s
    | '"' => more '"' s
    | '\\' => more '\\' s
    | '/' => more '/' s
    | 'u' =>
      let four (s : List Char) : Action Nat := do
        match Text.naturalIn? 16 (s.take 4), (s.drop 3) with
        | some n, _ :: _ => return n
        | _, _ => dataFault k all ('u' :: s) "Invalid \\uXXXX escape"
      let n ← four s
      match s.drop 4 with
      | '\\' :: 'u' :: rest =>
        if 0xD800 ≤ n ∧ n < 0xDC00 then
          let m ← four rest
          if 0xDC00 ≤ m ∧ m < 0xE000 then
            more (Char.ofNat (65536 + (n - 0xD800) * 1024 + (m - 0xDC00))) (rest.drop 4)
          else more (Text.ofCodePoint n) (s.drop 4)
        else more (Text.ofCodePoint n) (s.drop 4)
      | rest => more (Text.ofCodePoint n) rest
    | c => dataFault k all ('\\' :: c :: s) "Invalid \\escape"
  | fuel + 1, done, c :: s =>
    if strict && c.toNat < 32 then dataFault k all (c :: s) "Invalid control character at"
    else readDataText k all start strict fuel (c :: done) s

def readDataNumber (k : Calls) (hooks : DataHooks) (s : List Char) :
    Action (Option (Value × List Char)) := do
  let (sign, rest) := match s with
    | '-' :: r => (['-'], r)
    | r => ([], r)
  let whole := rest.takeWhile Char.isDigit
  let whole := if whole.head? = some '0' then ['0'] else whole
  let rest := rest.drop whole.length
  if whole.isEmpty then return none
  else
    let (fraction, rest) := match rest with
      | '.' :: r =>
        match r.takeWhile Char.isDigit with
        | [] => ([], '.' :: r)
        | ds => ('.' :: ds, r.drop ds.length)
      | r => ([], r)
    let (exponent, rest) := match rest with
      | e :: r =>
        if e = 'e' ∨ e = 'E' then
          let (sg, t) := match r with
            | '-' :: t => (['-'], t)
            | '+' :: t => (['+'], t)
            | t => ([], t)
          match t.takeWhile Char.isDigit with
          | [] => ([], e :: r)
          | ds => (e :: (sg ++ ds), t.drop ds.length)
        else ([], e :: r)
      | [] => ([], [])
    let exact := fraction.isEmpty && exponent.isEmpty
    match if exact then hooks.int else hooks.float with
    | .none =>
      if exact then return (readInteger? 10 (sign ++ whole)).map fun n => (.int n, rest)
      else
        return (readFloat? (sign ++ whole ++ fraction ++ exponent)).map fun x => (.float x, rest)
    | f =>
      return some (← k.call f [.str (.ofList (sign ++ whole ++ fraction ++ exponent))] [], rest)

def dataObject (k : Calls) (hooks : DataHooks) (pairs : List (String × Value)) :
    Action Value := do
  match hooks.pairs with
  | .none =>
    let d := pairs.foldl (fun d (n, v) => Dict.set d n v) Dict.empty
    let made ← Action.allocate (.dict d .plain)
    match hooks.object with
    | .none => return made
    | f => k.call f [made] []
  | f => k.call f [← Action.list (pairs.map fun (n, v) => .tuple [.str n, v])] []

mutual

/-- A value at the start of a text, and what follows it. -/
def readData (k : Calls) (hooks : DataHooks) (all : List Char) :
    Nat → List Char → Action (Value × List Char)
  | 0, _ => Action.raise "RecursionError" "maximum recursion depth exceeded"
  | fuel + 1, s => do
    let word (w : String) (v : Value) : Action (Value × List Char) :=
      if w.toList.isPrefixOf s then return (v, s.drop w.length)
      else dataFault k all s "Expecting value"
    let constant (w : String) (x : Float) : Action (Value × List Char) := do
      if w.toList.isPrefixOf s then
        match hooks.constant with
        | .none => return (.float x, s.drop w.length)
        | f => return (← k.call f [.str w] [], s.drop w.length)
      else dataFault k all s "Expecting value"
    match s with
    | '"' :: rest =>
      let (t, rest) ← readDataText k all s hooks.strict (rest.length + 1) [] rest
      return (.str t, rest)
    | '[' :: rest =>
      match skipBlank rest with
      | ']' :: rest => return (← Action.list [], rest)
      | rest =>
        let (xs, rest) ← readDataItems k hooks all fuel [] rest
        return (← Action.list xs, rest)
    | '\x7b' :: rest =>
      match skipBlank rest with
      | '\x7d' :: rest => return (← dataObject k hooks [], rest)
      | rest =>
        let (pairs, rest) ← readDataPairs k hooks all fuel [] rest
        return (← dataObject k hooks pairs, rest)
    | 't' :: _ => word "true" (.bool true)
    | 'f' :: _ => word "false" (.bool false)
    | 'n' :: _ => word "null" .none
    | 'N' :: _ => constant "NaN" (0.0 / 0.0)
    | 'I' :: _ => constant "Infinity" (1.0 / 0.0)
    | '-' :: 'I' :: _ => constant "-Infinity" (-1.0 / 0.0)
    | s =>
      match ← readDataNumber k hooks s with
      | some r => return r
      | none => dataFault k all s "Expecting value"

def readDataItems (k : Calls) (hooks : DataHooks) (all : List Char) :
    Nat → List Value → List Char → Action (List Value × List Char)
  | 0, _, s => dataFault k all s "Expecting value"
  | fuel + 1, done, s => do
    let (v, rest) ← readData k hooks all fuel (skipBlank s)
    match skipBlank rest with
    | ',' :: rest => readDataItems k hooks all fuel (v :: done) rest
    | ']' :: rest => return ((v :: done).reverse, rest)
    | rest => dataFault k all rest "Expecting ',' delimiter"

def readDataPairs (k : Calls) (hooks : DataHooks) (all : List Char) :
    Nat → List (String × Value) → List Char → Action (List (String × Value) × List Char)
  | 0, _, s => dataFault k all s "Expecting value"
  | fuel + 1, done, s => do
    let s := skipBlank s
    match s with
    | '"' :: rest =>
      let (key, rest) ← readDataText k all s hooks.strict (rest.length + 1) [] rest
      match skipBlank rest with
      | ':' :: rest =>
        let (v, rest) ← readData k hooks all fuel (skipBlank rest)
        match skipBlank rest with
        | ',' :: rest => readDataPairs k hooks all fuel ((key, v) :: done) rest
        | '\x7d' :: rest => return (((key, v) :: done).reverse, rest)
        | rest => dataFault k all rest "Expecting ',' delimiter"
      | rest => dataFault k all rest "Expecting ':' delimiter"
    | rest => dataFault k all rest "Expecting property name enclosed in double quotes"

end

/-- How deep data may stand in data. -/
def dataNesting : Nat := 990

def dataFunction (k : Calls) (name : String) (args : List Value) : Action Value := do
  match name, args with
  | "encode", v :: options =>
    match DataStyle.ofArguments? options with
    | some style => return .str (← written k style dataNesting 0 [] v)
    | none => Action.typeError "encode() takes other arguments"
  | "decode", [.str s, .int first, object, pairs, float, int, constant, .bool strict] =>
    let all := s.toList
    let hooks : DataHooks := { object, pairs, float, int, constant, strict }
    let (v, rest) ← readData k hooks all (2 * all.length + 2) (all.drop first.toNat)
    return .tuple [v, .int (all.length - rest.length : Nat)]
  | "quote", [.str s, .bool ascii] => return .str (dataText ascii s)
  | name, _ => noMember (.module "_json") name

def bytesArgument (v : Value) : Action (List UInt8) := do
  match ← bytesOf? v with
  | some b => return b
  | none =>
    Action.typeError ("a bytes-like object is required, not '" ++ (← typeName v) ++ "'")

def bytesOfHex : List Char → Option (List UInt8)
  | [] => some []
  | a :: b :: rest =>
    match Text.naturalIn? 16 [a, b], bytesOfHex rest with
    | some n, some bs => some (UInt8.ofNat n :: bs)
    | _, _ => none
  | _ => none

/-- The bytes of pairs of hexadecimal digits with blanks between them, or else the place at which
there is none. -/
def spacedHex : Nat → List Char → Except Nat (List UInt8)
  | _, [] => .ok []
  | n, c :: s =>
    if c == ' ' || (9 ≤ c.toNat && c.toNat ≤ 13) then spacedHex (n + 1) s
    else
      match Text.naturalIn? 16 [c], s with
      | none, _ => .error n
      | some _, [] => .error (n + 1)
      | some a, d :: s =>
        match Text.naturalIn? 16 [d] with
        | none => .error (n + 1)
        | some b => (spacedHex (n + 2) s).map (UInt8.ofNat (16 * a + b) :: ·)

def digestText (name : String) (data : List UInt8) : List Char :=
  let s := Text.octets data
  match name with
  | "md5" => Utility.md5 s
  | "sha1" => Utility.sha1 s
  | "sha224" => Utility.sha224 s
  | "sha384" => Utility.sha384 s
  | "sha512" => Utility.sha512 s
  | _ => Utility.sha256 s

end Flowboard.Script
