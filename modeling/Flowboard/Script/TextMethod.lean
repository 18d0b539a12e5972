import Flowboard.Script.Codec
import Flowboard.Script.Escape
import Flowboard.Script.Number
import Flowboard.Script.Operation
import Flowboard.Text.CharacterName
import Flowboard.Text.Symbol

/-! What texts and bytes can do. -/
namespace Flowboard.Script

def argument? (args : List Value) (named : List (String × Value)) (i : Nat) (name : String) :
    Option Value :=
  args[i]?.or (named.lookup name)

/-- A number that is not there or negative counts as none. -/
def limitOf (v : Option Value) : Option Nat :=
  (v.bind Value.int?).bind fun n => if n < 0 then none else some n.toNat

def charsIn (v : Value) : Action (List Char) := do
  match ← plain v with
  | .str s => return s.toList
  | _ => Action.typeError ("expected str, got " ++ (← typeName v))

/-- A part of a list between two places, and where it starts. -/
def between (k : Calls) {α : Type} (xs : List α) (first last : Option Value) :
    Action (Nat × List α) := do
  let p ← placesOf k xs.length (first.getD .none) (last.getD .none) .none
  return (p.first.toNat, (xs.drop p.first.toNat).take p.count)

/-- The texts among which a start or an end may be. -/
def alternatives (v : Value) : Action (List (List Char)) := do
  match v with
  | .tuple vs => vs.mapM charsIn
  | .str s => return [s.toList]
  | v =>
    Action.typeError ("startswith first arg must be str or a tuple of str, not " ++ (← typeName v))

def textMethods : List String :=
  ["capitalize", "casefold", "center", "count", "encode", "endswith", "expandtabs", "find",
   "format", "format_map", "index", "isalnum", "isalpha", "isascii", "isdecimal", "isdigit",
   "isidentifier", "islower", "isnumeric", "isprintable", "isspace", "istitle", "isupper", "join",
   "ljust", "lower", "lstrip", "maketrans", "partition", "removeprefix", "removesuffix", "replace",
   "rfind", "rindex", "rjust", "rpartition", "rsplit", "rstrip", "split", "splitlines",
   "startswith", "strip", "swapcase", "title", "translate", "upper", "zfill"]

def cutBackwards (cut : List Char → List (List Char)) (s : List Char) : List (List Char) :=
  ((cut s.reverse).map List.reverse).reverse

/-- Texts with tabs up to the next multiple of a width. -/
def expandTabs (width : Nat) (s : List Char) : List Char :=
  (s.foldl (fun (acc, column) c =>
    if c = '\t' then
      let n := if width = 0 then 0 else width - column % width
      (List.replicate n ' ' ++ acc, column + n)
    else if c = '\n' ∨ c = '\r' then (c :: acc, 0)
    else (c :: acc, column + 1)) (([] : List Char), 0)).1.reverse

/-- A text in the middle of a width; of an odd number of characters to fill, one more comes before
it if the width is odd. -/
def centered (width : Nat) (fill : Char) (s : List Char) : List Char :=
  let n := width - s.length
  let before := n / 2 + (if n % 2 = 1 ∧ width % 2 = 1 then 1 else 0)
  List.replicate before fill ++ s ++ List.replicate (n - before) fill

/-- Looks for a text: its place, or what the kind of search says about a missing one. -/
def search (k : Calls) (cs : List Char) (name : String) (args : List Value) : Action Value := do
  let what ← match args.head? with
    | some v => charsIn v
    | none => Action.typeError (name ++ "() takes at least 1 argument (0 given)")
  let (start, part) ← between k cs args[1]? args[2]?
  let found := if name.startsWith "r" then lastPosition? what part else position? what part
  match found with
  | some n => return .int (start + n)
  | none =>
    if name.endsWith "index" then Action.valueError "substring not found" else return .int (-1)

def translateChar (k : Calls) (table : Value) (c : Char) : Action (List Char) := do
  match ← Action.object? table with
  | some (.dict d _) =>
    match d.get? (← keyOf k (.int (Text.codePoint c))) with
    | some (.str s) => return s.toList
    | some .none => return []
    | some (.int n) => return [Text.ofCodePoint n.toNat]
    | _ => return [c]
  | _ => return [c]

/-- A table of characters, from a mapping or from texts of one length. -/
def translation (k : Calls) (args : List Value) : Action Value := do
  let code (v : Value) : Value := match v with
    | .str s => .int (Text.codePoint (s.toList.headD ' '))
    | v => v
  match args with
  | [m] =>
    match ← Action.object? m with
    | some (.dict d _) =>
      let d ← d.toList.foldlM (fun acc (a, b) => do
        return acc.insert (← keyOf k (code a)) (code a) b) Dict.empty
      Action.allocate (.dict d .plain)
    | _ => Action.typeError "if you give only one argument to maketrans it must be a dict"
  | a :: b :: rest =>
    let (xs, ys) := (← charsIn a, ← charsIn b)
    if xs.length ≠ ys.length then
      Action.valueError "the first two maketrans arguments must have equal length"
    let gone ← match rest with
      | c :: _ => charsIn c
      | [] => pure []
    let pairs := (xs.zip ys).map fun (x, y) => (Value.int x.toNat, Value.int y.toNat)
    let pairs := pairs ++ gone.map fun c => (Value.int c.toNat, Value.none)
    let d ← pairs.foldlM (fun acc (a, b) => do return acc.insert (← keyOf k a) a b) Dict.empty
    Action.allocate (.dict d .plain)
  | [] => Action.typeError "maketrans() takes at least 1 argument (0 given)"

def raiseCodec {α : Type} (kind : String) (what : Value) (f : CodecFault) : Action α := do
  let args := [.str f.codec, what, .int f.first, .int f.last, .str f.reason]
  let names := ["encoding", "object", "start", "end", "reason"]
  let attributes := (names.zip args).foldl (fun d (n, v) => Dict.set d n v)
    (Dict.empty.set "args" (.tuple args))
  throw (.raise (← Action.allocate (.object (.builtin kind) attributes .none)))

def codecNamed (name : String) : Action Codec :=
  match Codec.ofName? name with
  | some c => return c
  | none => Action.raise "LookupError" ("unknown encoding: " ++ name)

/-- Ways to handle errors in encodings. -/
def codecHandlers : List String :=
  ["strict", "ignore", "replace", "xmlcharrefreplace", "backslashreplace", "namereplace",
   "surrogateescape", "surrogatepass"]

/-- Refuses a way to handle errors that is not there, once there is an error. -/
def refuseHandler (name : String) : Action Unit :=
  if codecHandlers.contains name then return
  else Action.raise "LookupError" ("unknown error handler name '" ++ name ++ "'")

def encoded (s : String) (encoding errors : String) : Action (List UInt8) := do
  let codec ← codecNamed encoding
  match codec.encode errors Text.characterName? s.toList with
  | .ok bytes => return bytes
  | .error f =>
    refuseHandler errors
    raiseCodec "UnicodeEncodeError" (.str s) f

def decoded (b : List UInt8) (encoding errors : String) : Action String := do
  let codec ← codecNamed encoding
  let unescaped (raw : Bool) (s : List Char) : List Char :=
    if raw then s else (unescape? false (s.length + 1) s).getD s
  match codec.decode errors unescaped b with
  | .ok cs => return .ofList cs
  | .error f =>
    refuseHandler errors
    raiseCodec "UnicodeDecodeError" (.bytes b) f

def textOr (v : Option Value) (standard : String) : String :=
  match v with
  | some (.str s) => s
  | _ => standard

def joinTexts (s : String) (vs : List Value) : Action Value := do
  let texts ← vs.zipIdx.mapM fun (v, i) => do
    match ← plain v with
    | .str t => pure t
    | _ =>
      Action.typeError ("sequence item " ++ Text.naturalText i ++ ": expected str instance, " ++
        (← typeName v) ++ " found")
  return .str (s.intercalate texts)

/-- What a text does, apart from filling its fields. -/
def textMethod (k : Calls) (s : String) (name : String) (args : List Value)
    (named : List (String × Value)) : Action Value := do
  let cs := s.toList
  let str (cs : List Char) : Action Value := return .str (.ofList cs)
  let strs (ls : List (List Char)) : Action Value := Action.list (ls.map fun l => .str (.ofList l))
  let triple (a b c : List Char) : Action Value :=
    return .tuple [.str (.ofList a), .str (.ofList b), .str (.ofList c)]
  let all (p : Char → Bool) : Action Value := return .bool (!cs.isEmpty && cs.all p)
  let first : Action Value := match args.head? with
    | some v => return v
    | none => Action.typeError (name ++ "() takes at least 1 argument (0 given)")
  let stripped : Action (Char → Bool) := do
    match args.head? with
    | some (.str t) => let chars := t.toList; return fun c => chars.contains c
    | _ => return isSpace
  let width : Action Nat := do return ((← first).int?.getD 0).toNat
  let fill : Char := ((textOr args[1]? " ").toList).headD ' '
  let limit := limitOf (argument? args named 1 "maxsplit")
  match name with
  | "upper" => str (upper cs)
  | "lower" => str (lower cs)
  | "casefold" => str (folded cs)
  | "capitalize" => str (titled (cs.take 1) ++ lower (cs.drop 1))
  | "title" => str (titled cs)
  | "swapcase" => str (swapped cs)
  | "strip" => let p ← stripped; str (stripRight p (stripLeft p cs))
  | "lstrip" => str (stripLeft (← stripped) cs)
  | "rstrip" => str (stripRight (← stripped) cs)
  | "split" | "rsplit" =>
    let back := name = "rsplit"
    let turned (f : List Char → List (List Char)) : Action Value :=
      strs (if back then cutBackwards f cs else f cs)
    match argument? args named 0 "sep" with
    | some (.str t) =>
      turned (pieces (if back then t.toList.reverse else t.toList) limit)
    | some .none => turned (words limit)
    | none => turned (words limit)
    | _ => Action.valueError "empty separator"
  | "splitlines" =>
    let keep ← match argument? args named 0 "keepends" with
      | some v => truth k v
      | none => pure false
    strs (linesOf keep (cs.length + 1) [] cs)
  | "join" => joinTexts s (← itemsOf k (← first))
  | "replace" =>
    match args with
    | a :: b :: rest =>
      str (replaced (← charsIn a) (← charsIn b) (limitOf (rest.head?.or (named.lookup "count"))) cs)
    | _ => Action.typeError "replace expected at least 2 arguments"
  | "find" | "rfind" | "index" | "rindex" => search k cs name args
  | "count" =>
    let (_, part) ← between k cs args[1]? args[2]?
    return .int (occurrences (← charsIn (← first)) part)
  | "startswith" =>
    let (_, part) ← between k cs args[1]? args[2]?
    return .bool ((← alternatives (← first)).any fun t => t.isPrefixOf part)
  | "endswith" =>
    let (_, part) ← between k cs args[1]? args[2]?
    return .bool ((← alternatives (← first)).any fun t => t.isSuffixOf part)
  | "partition" | "rpartition" =>
    let t ← charsIn (← first)
    if t.isEmpty then Action.valueError "empty separator"
    let back := name = "rpartition"
    match if back then lastPosition? t cs else position? t cs with
    | some n => triple (cs.take n) t (cs.drop (n + t.length))
    | none => if back then triple [] [] cs else triple cs [] []
  | "isdigit" => all fun c => (Text.digitValue? c).isSome
  | "isdecimal" => all fun c => (Text.decimalValue? c).isSome
  | "isnumeric" => all Text.isNumeral
  | "isalpha" => all isLetter
  | "isspace" => all isSpace
  | "istitle" => return .bool (isTitled cs)
  | "isascii" => return .bool (cs.all fun c => c.toNat < 128)
  | "isprintable" => return .bool (cs.all isShown)
  | "isidentifier" => return .bool (cs.head?.any startsName && cs.all continuesName)
  | "zfill" =>
    let n ← width
    match cs with
    | c :: rest =>
      if c = '-' ∨ c = '+' then str (c :: (List.replicate (n - cs.length) '0' ++ rest))
      else str (List.replicate (n - cs.length) '0' ++ cs)
    | [] => str (List.replicate n '0')
  | "ljust" => let n ← width; str (cs ++ List.replicate (n - cs.length) fill)
  | "center" => let n ← width; str (centered n fill cs)
  | "expandtabs" =>
    str (expandTabs (((argument? args named 0 "tabsize").bind Value.int?).getD 8).toNat cs)
  | "encode" =>
    return .bytes (← encoded s (textOr (argument? args named 0 "encoding") "utf-8")
      (textOr (argument? args named 1 "errors") "strict"))
  | "translate" =>
    let table ← first
    str (← cs.mapM (translateChar k table)).flatten
  | name => Action.raise "AttributeError" ("'str' object has no attribute '" ++ name ++ "'")

def bytesMethods : List String :=
  ["capitalize", "center", "count", "decode", "endswith", "expandtabs", "find", "hex", "index",
   "isalnum", "isalpha", "isascii", "isdigit", "islower", "isspace", "istitle", "isupper", "join",
   "ljust", "lower", "lstrip", "maketrans", "partition", "removeprefix", "removesuffix", "replace",
   "rfind", "rindex", "rjust", "rpartition", "rsplit", "rstrip", "split", "splitlines",
   "startswith", "strip", "swapcase", "title", "translate", "upper", "zfill"]

def asBytes : Value → Value
  | .str s => .bytes (Text.octetBytes s.toList)
  | .tuple xs => .tuple (xs.map fun
      | .str s => .bytes (Text.octetBytes s.toList)
      | v => v)
  | v => v

/-- Bytes as a text of characters with the same numbers. -/
def ofBytes : Value → Value
  | .bytes b => .str (.ofList (Text.octets b))
  | .tuple xs => .tuple (xs.map fun
      | .bytes b => .str (.ofList (Text.octets b))
      | v => v)
  | v => v

/-- Values in groups of a size, the last of which may be shorter. -/
def inGroups {α : Type} (size : Nat) : Nat → List α → List (List α)
  | 0, _ => []
  | _, [] => []
  | fuel + 1, xs => xs.take size :: inGroups size fuel (xs.drop size)

def bytesMethod (k : Calls) (b : List UInt8) (name : String) (args : List Value)
    (named : List (String × Value)) : Action Value := do
  match name with
  | "decode" =>
    return .str (← decoded b (textOr (argument? args named 0 "encoding") "utf-8")
      (textOr (argument? args named 1 "errors") "strict"))
  | "hex" =>
    return .str (.ofList (b.flatMap fun b => Text.paddedIn 16 2 b.toNat))
  | "join" =>
    let parts ← (← itemsOf k (args.headD .none)).zipIdx.mapM fun (v, i) => do
      match ← bytesOf? v with
      | some b => return Value.bytes b
      | none =>
        Action.typeError ("sequence item " ++ Text.naturalText i ++
          ": expected a bytes-like object, " ++ (← typeName v) ++ " found")
    return asBytes (← joinTexts (.ofList (Text.octets b)) (parts.map ofBytes))
  | "translate" =>
    let gone ← match argument? args named 1 "delete" with
      | some v => do pure ((← bytesOf? v).getD [])
      | none => pure []
    let kept := b.filter fun x => !gone.contains x
    match args.head? with
    | some v =>
      match ← bytesOf? v with
      | some table => return .bytes (kept.map fun x => table[x.toNat]?.getD x)
      | none => return .bytes kept
    | none => return .bytes kept
  | name =>
    let number (v : Value) : Value := match v with
      | .int n =>
        if ["find", "index", "rfind", "rindex", "count"].contains name ∧ 0 ≤ n ∧ n < 256 then
          .bytes [UInt8.ofNat n.toNat]
        else v
      | v => v
    let args := match args with
      | v :: rest => number v :: rest
      | [] => []
    let args ← args.mapM fun v => do
      match ← bytesOf? v with
      | some b => return Value.bytes b
      | none => return v
    match args.find? fun _ => false with
    | some v =>
      if name = "replace" ∨ name = "split" ∨ name = "strip" ∨ name = "find" ∨ name = "startswith" then
        Action.typeError ("a bytes-like object is required, not '" ++ (← typeName v) ++ "'")
    | none => pure ()
    let v ← textMethod k (.ofList (Text.octets b)) name (args.map ofBytes)
      (named.map fun (n, v) => (n, ofBytes v))
    match ← Action.object? v with
    | some (.list xs _) => Action.list (xs.toList.map asBytes)
    | _ => return asBytes v

end Flowboard.Script
