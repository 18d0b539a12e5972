import Flowboard.Double.Basic
import Flowboard.Script.Format
import Flowboard.Script.Kind

/-! Values as text. -/
namespace Flowboard.Script

/-- A table of slots, each empty or with a number and its place among the elements. -/
abbrev Slots := Array (Option (Nat × Nat))

namespace Slots

/-- The number of slots right behind the first one that are tried before a jump. -/
def neighbours : Nat := 9

def isFree (s : Slots) (i : Nat) : Bool :=
  (s[i]?.join).isNone

/-- The first free slot among some that follow each other. -/
def freeFrom (s : Slots) : Nat → Nat → Option Nat
  | 0, i => if s.isFree i then some i else none
  | n + 1, i => if s.isFree i then some i else s.freeFrom n (i + 1)

def place (s : Slots) : Nat → Nat → Nat → Nat
  | 0, _, i => i
  | fuel + 1, rest, i =>
    let n := if i + neighbours < s.size then neighbours else 0
    match s.freeFrom n i with
    | some j => j
    | none =>
      let rest := rest / 32
      s.place fuel rest ((i * 5 + 1 + rest) % s.size)

def put (s : Slots) (e : Nat × Nat) : Slots :=
  let i := s.place (s.size + 70) e.1 (e.1 % s.size)
  s.set! i (some e)

def empty (size : Nat) : Slots :=
  Array.replicate size none

/-- The least table with more slots than a number. -/
def sizeAbove : Nat → Nat → Nat → Nat
  | 0, size, _ => size
  | fuel + 1, size, n => if size ≤ n then sizeAbove fuel (2 * size) n else size

/-- Puts a number into a table, which grows when three fifths of it are taken. -/
def insert (s : Slots) (count : Nat) (e : Nat × Nat) : Slots :=
  let s := s.put e
  if count * 5 < (s.size - 1) * 3 then s
  else
    let size := sizeAbove 64 8 (if 50000 < count then 2 * count else 4 * count)
    s.foldl (fun t e => match e with
      | some e => t.put e
      | none => t) (empty size)

end Slots

def slotNumber (n : Int) : Nat :=
  let m := twoTo 61 - 1
  let r := n.natAbs % m
  if n < 0 then (if r = 1 then twoTo 64 - 2 else if r = 0 then 0 else twoTo 64 - r) else r

def slotOrder (numbers : List Int) : List Nat :=
  let (table, _) := numbers.foldl (fun (t, i) n =>
    (Slots.insert t (i + 1) (slotNumber n, i), i + 1)) (Slots.empty 8, 0)
  table.toList.filterMap fun e => e.map (·.2)

/-- The greatest number of digits of an integer that is written. -/
def digitLimit : Nat := 4300

/-- The decimal digits of an integer, unless there are too many. -/
def intText (n : Int) : Action String := do
  let s := Text.integerText n
  if n.natAbs.log2 < 3 * digitLimit ∨ s.length - (if n < 0 then 1 else 0) ≤ digitLimit then return s
  else
    Action.valueError
      ("Exceeds the limit (4300 digits) for integer string conversion; " ++
        "use sys.set_int_max_str_digits() to increase the limit")

/-- The elements of a set, numbers in the order of their slots. -/
def setElements (d : Dict) : List Value :=
  let keys := d.keys
  let numbers := keys.filterMap fun
    | .int n => some n
    | .bool b => some (if b then 1 else 0)
    | .float x => integral? x
    | _ => none
  if numbers.length = keys.length then
    let all := keys.toArray
    (slotOrder numbers).filterMap (all[·]?)
  else keys

/-- A place in memory, as it is shown. -/
def addressText (i : Nat) : String :=
  "0x" ++ String.ofList (Text.paddedIn 16 12 (0x7f0000000000 + 64 * i))

/-- The pairs of a counting mapping, the greatest counts first. -/
def mostCommon (d : Dict) : List (Value × Value) :=
  d.toList.mergeSort fun a b =>
    match a.2, b.2 with
    | .int m, .int n => n ≤ m
    | _, _ => true

/-- The names for the places of tuples of a class, if they have some. -/
def recordFields? (type : Value) : Action (Option (List String)) := do
  match ← findIn "_fields" (← lineage type) with
  | some (.tuple names) =>
    return some (names.filterMap fun
      | .str s => some s
      | _ => none)
  | _ => return none

def exceptionArgs (attributes : Dict) : List Value :=
  match attributes.named? "args" with
  | some (.tuple xs) => xs
  | _ => []

/-- How a class is called where it is shown. -/
def qualifiedName (type : Value) : Action String := do
  match type with
  | .builtin name => return name
  | v =>
    match ← Action.object? v with
    | some (.type c) =>
      return if c.module = "builtins" then c.title else c.module ++ "." ++ c.title
    | _ => return "object"

/-- A number of a part of a number with an imaginary part. -/
def partText (x : Float) : String :=
  let s := floatText x
  if s.endsWith ".0" then String.ofList (s.toList.dropLast.dropLast) else s

def complexText (x y : Float) : String :=
  let imaginary := partText y ++ "j"
  if x == 0.0 && !isNegative x then imaginary
  else
    "(" ++ partText x ++ (if imaginary.startsWith "-" then "" else "+") ++ imaginary ++ ")"

def attributeText (d : Dict) (name : String) : String :=
  match d.named? name with
  | some (.str s) => s
  | _ => ""

/-- The name of a type without the module whose names need none. -/
def typeText? (v : Value) : Action (Option String) := do
  match v with
  | .none => return some "None"
  | .ellipsis => return some "..."
  | .builtin name =>
    if name = "NoneType" then return some "None"
    else if isType name then return some name
    else return none
  | v =>
    match ← Action.object? v with
    | some (.type _) => return some (← qualifiedName v)
    | _ => return none

/-- A value as it is written in a script; `active` are the values around it. -/
def reprWithin (k : Calls) : Nat → List Nat → Value → Action String
  | 0, _, _ => return "..."
  | fuel + 1, active, v => do
    let all (active : List Nat) (vs : List Value) : Action String := do
      return ", ".intercalate (← vs.mapM (reprWithin k fuel active))
    let pairs (active : List Nat) (ps : List (Value × Value)) : Action String := do
      let texts ← ps.mapM fun (a, b) => do
        return (← reprWithin k fuel active a) ++ ": " ++ (← reprWithin k fuel active b)
      return "\x7b" ++ ", ".intercalate texts ++ "\x7d"
    let typed (active : List Nat) (v : Value) : Action String := do
      match ← typeText? v with
      | some s => return s
      | none => reprWithin k fuel active v
    match v with
    | .none => return "None"
    | .ellipsis => return "Ellipsis"
    | .unsupported => return "NotImplemented"
    | .bool b => return if b then "True" else "False"
    | .int n => intText n
    | .float x => return floatText x
    | .complex x y => return complexText x y
    | .str s => return .ofList (quoted false s.toList)
    | .bytes b => return .ofList (quotedBytes b)
    | .tuple [x] => return "(" ++ (← reprWithin k fuel active x) ++ ",)"
    | .tuple xs => return "(" ++ (← all active xs) ++ ")"
    | .range a b c =>
      return "range(" ++ Text.integerText a ++ ", " ++ Text.integerText b ++
        (if c = 1 then "" else ", " ++ Text.integerText c) ++ ")"
    | .slice a b c => return "slice(" ++ (← all active [a, b, c]) ++ ")"
    | .builtin name =>
      if isType name then return "<class '" ++ name ++ "'>"
      else
        let last := lastPart name
        let type := ".".intercalate (name.splitOn ".").dropLast
        if isType type && last ≠ "__new__" then
          return (if last.startsWith "__" then "<slot wrapper '" else "<method '") ++ last ++
            "' of '" ++ type ++ "' objects>"
        else return "<built-in function " ++ last ++ ">"
    | .method self name =>
      return "<built-in method " ++ name ++ " of " ++ (← typeName self) ++ " object at " ++
        addressText 0 ++ ">"
    | .bound self f =>
      let title := match ← Action.object? f with
        | some (.function g) => g.title
        | _ => "?"
      return "<bound method " ++ title ++ " of " ++ (← reprWithin k fuel active self) ++ ">"
    | .module name => return "<module '" ++ name ++ "' (built-in)>"
    | .ref i =>
      if active.contains i then
        match (← get).heap[i]? with
        | some (.list _ _) => return "[...]"
        | some (.dict _ _) => return "\x7b...\x7d"
        | _ => return "..."
      else
        let inside := i :: active
        match (← get).heap[i]? with
        | none => return ""
        | some (.list xs ends) =>
          let s := "[" ++ (← all inside xs.toList) ++ "]"
          if !ends then return s
          else
            match (← get).limits.get? i with
            | some n => return "deque(" ++ s ++ ", maxlen=" ++ Text.naturalText n ++ ")"
            | none => return "deque(" ++ s ++ ")"
        | some (.octets b) =>
          return "bytearray(" ++ String.ofList (quotedBytes b.data.toList) ++ ")"
        | some (.window w) =>
          return (if w.released then "<released memory at " else "<memory at ") ++ addressText i ++ ">"
        | some (.dict d .plain) => pairs inside d.toList
        | some (.dict d .ordered) =>
          if d.size = 0 then return "OrderedDict()"
          else
            let items ← d.toList.mapM fun (a, b) => reprWithin k fuel inside (.tuple [a, b])
            return "OrderedDict([" ++ ", ".intercalate items ++ "])"
        | some (.dict d .counting) =>
          if d.size = 0 then return "Counter()"
          else return "Counter(" ++ (← pairs inside (mostCommon d)) ++ ")"
        | some (.dict d (.supplied f)) =>
          return "defaultdict(" ++ (← reprWithin k fuel inside f) ++ ", " ++
            (← pairs inside d.toList) ++ ")"
        | some (.set d frozen) =>
          if d.size = 0 then return if frozen then "frozenset()" else "set()"
          else
            let s := "\x7b" ++ (← all inside (setElements d)) ++ "\x7d"
            return if frozen then "frozenset(" ++ s ++ ")" else s
        | some (.function f) => return "<function " ++ f.title ++ " at " ++ addressText i ++ ">"
        | some (.type _) =>
          match ← special? v "__repr__" with
          | some f =>
            let _ ← k.call f [] []
            Action.typeError "__repr__ returned non-string"
          | none => return "<class '" ++ (← qualifiedName v) ++ "'>"
        | some (.iterator it) =>
          return "<" ++ it.typeName ++ " object at " ++ addressText i ++ ">"
        | some (.file f) =>
          return "<" ++ f.kindName ++ " name=None" ++
            (if f.binary then (if f.bare then " mode='" ++ f.mode ++ "' closefd=True" else "")
             else " mode='" ++ f.mode ++ "' encoding='" ++ f.shownEncoding ++ "'") ++ ">"
        | some (.object (.builtin "types.GenericAlias") attributes _) =>
          let origin := (attributes.named? "__origin__").getD .none
          let args := match attributes.named? "__args__" with
            | some (.tuple xs) => xs
            | _ => []
          return (← typed inside origin) ++ "[" ++
            ", ".intercalate (← args.mapM (typed inside)) ++ "]"
        | some (.object (.builtin "types.UnionType") attributes _) =>
          let args := match attributes.named? "__args__" with
            | some (.tuple xs) => xs
            | _ => []
          return " | ".intercalate (← args.mapM (typed inside))
        | some (.object type attributes base) =>
          match ← special? v "__repr__" with
          | some f =>
            match ← k.call f [] [] with
            | .str s => return s
            | other =>
              Action.typeError ("__repr__ returned non-string (type " ++ (← typeName other) ++ ")")
          | none =>
            let name ← nameOfType type
            match ← recordFields? type, base with
            | some fields, .tuple values =>
              let parts ← (fields.zip values).mapM fun (f, x) => do
                return f ++ "=" ++ (← reprWithin k fuel inside x)
              return name ++ "(" ++ ", ".intercalate parts ++ ")"
            | _, base =>
              if ← isSubclass type (.builtin "BaseException") then
                match exceptionArgs attributes with
                | [x] => return name ++ "(" ++ (← reprWithin k fuel inside x) ++ ")"
                | xs => return name ++ "(" ++ (← all inside xs) ++ ")"
              else
                reprWithin k fuel inside base
        | some (.view "members" d) => pairs inside (← dictAt d).toList
        | some (.view "variables" d) =>
          let names := ((← get).scopes[d]?.map Scope.pairs).getD []
          pairs inside (names.map fun (n, v) => (.str n, v))
        | some (.view which d) =>
          return "dict_" ++ which ++ "([" ++ (← all inside (viewed which (← dictAt d))) ++ "])"
        | some o =>
          return "<" ++ (← nameOfType o.kind) ++ " object at " ++ addressText i ++ ">"

/-- A value as it is written in a script. -/
def repr (k : Calls) (v : Value) : Action String :=
  reprWithin k nesting [] v

/-- What an exception about an encoding tells. -/
def codecText? (args : List Value) : Option String :=
  let place (first last : Int) (one many : String) : String :=
    if last - first = 1 then one ++ " in position " ++ Text.integerText first
    else many ++ " in position " ++ Text.integerText first ++ "-" ++ Text.integerText (last - 1)
  match args with
  | [.str codec, .bytes b, .int first, .int last, .str reason] =>
    let byte := (b[first.toNat]?).getD 0
    some ("'" ++ codec ++ "' codec can't decode " ++
      place first last ("byte 0x" ++ String.ofList (Text.paddedIn 16 2 byte.toNat)) "bytes" ++ ": " ++
      reason)
  | _ => none

def exceptionText (k : Calls) (type : Value) (attributes : Dict) : Action String := do
  match attributes.named? "errno", exceptionArgs attributes with
  | some (.int n), _ =>
    let head := "[Errno " ++ Text.integerText n ++ "] " ++ attributeText attributes "strerror"
    match attributes.named? "filename", attributes.named? "filename2" with
    | some .none, _ | none, _ => return head
    | some file, some other =>
      return head ++ ": " ++ (← repr k file) ++ " -> " ++ (← repr k other)
    | some file, none => return head ++ ": " ++ (← repr k file)
  | _, [] => return ""
  | _, [x] =>
    if ← isSubclass type (.builtin "KeyError") then repr k x
    else
      match x with
      | .str s => return s
      | x => repr k x
  | _, xs =>
    if ← isSubclass type (.builtin "UnicodeError") then
      match codecText? xs with
      | some s => return s
      | none => repr k (.tuple xs)
    else if ← isSubclass type (.builtin "SyntaxError") then
      match attributes.named? "msg", attributes.named? "filename", attributes.named? "lineno" with
      | some (.str m), some (.str f), some (.int n) =>
        return m ++ " (" ++ lastName f ++ ", line " ++ Text.integerText n ++ ")"
      | some (.str m), _, some (.int n) => return m ++ " (line " ++ Text.integerText n ++ ")"
      | some (.str m), some (.str f), _ => return m ++ " (" ++ lastName f ++ ")"
      | some (.str m), _, _ => return m
      | _, _, _ => repr k (.tuple xs)
    else repr k (.tuple xs)
where
  lastName (path : String) : String := (path.splitOn "/").getLastD ""

def textOf (k : Calls) (v : Value) : Action String := do
  match v with
  | .str s => return s
  | .int n => intText n
  | .ref _ =>
    match ← Action.object? v with
    | some (.type _) =>
      match ← special? v "__str__" with
      | some f =>
        match ← k.call f [] [] with
        | .str s => return s
        | _ => Action.typeError "__str__ returned non-string"
      | none => repr k v
    | some (.object type attributes base) =>
      match ← special? v "__str__" with
      | some f =>
        match ← k.call f [] [] with
        | .str s => return s
        | other =>
          Action.typeError ("__str__ returned non-string (type " ++ (← typeName other) ++ ")")
      | none =>
        if ← isSubclass type (.builtin "BaseException") then
          match exceptionArgs attributes with
          | [x] =>
            if ← isSubclass type (.builtin "KeyError") then repr k x
            else
              match x with
              | .str s => return s
              | .ref _ =>
                match ← special? x "__str__" with
                | some f =>
                  match ← k.call f [] [] with
                  | .str s => return s
                  | _ => repr k x
                | none => repr k x
              | x => repr k x
          | _ => exceptionText k type attributes
        else if (← special? v "__repr__").isSome then repr k v
        else
          match base with
          | .str s => return s
          | _ => repr k v
    | _ => repr k v
  | v => repr k v

def formattedByType (k : Calls) (v : Value) (spec : String) : Action String := do
  if spec = "" then textOf k v
  else
    let name ← typeName v
    match Spec.ofText? spec.toList with
    | none =>
      Action.valueError ("Invalid format specifier '" ++ spec ++ "' for object of type '" ++
        name ++ "'")
    | some f =>
      let result : Except String (List Char) ← match v with
        | .int n => pure (f.int n)
        | .bool b =>
          pure (f.int (if b then 1 else 0))
        | .float x => pure (f.float x)
        | .str s => pure (f.text s.toList)
        | _ => Action.typeError ("unsupported format string passed to " ++ name ++ ".__format__")
      match result with
      | .ok s => return .ofList s
      | .error e => Action.valueError e

def formatted (k : Calls) (v : Value) (spec : String) : Action String := do
  match ← special? v "__format__" with
  | some f =>
    match ← k.call f [.str spec] [] with
    | .str s => return s
    | other =>
      Action.typeError ("__format__ must return a str, not " ++ (← typeName other))
  | none => if spec = "" then textOf k v else formattedByType k (← plain v) spec

end Flowboard.Script
