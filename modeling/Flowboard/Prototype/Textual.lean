import Flowboard.Prototype.Sequence
import Flowboard.Text.Case

/-! What texts and patterns can do. -/
namespace Flowboard.Prototype

/-- A pattern in the form in which patterns are read: a dollar sign stands for the very end, and
numbers of characters become characters. -/
def plainPattern (lines : Bool) : Nat → Bool → List Char → List Char → List Char
  | 0, _, _, done => done.reverse
  | fuel + 1, inSet, s, done =>
    let hex (ds : List Char) : Nat := ds.foldl (fun n c => 16 * n + (Text.digitIn? 16 c).getD 0) 0
    -- a character by its number, safe from being read as a mark
    let literal (n : Nat) : List Char :=
      let c := Text.ofCodePoint n
      if c.isAlphanum || 128 ≤ n then [c] else [c, '\\']
    match s with
    | [] => done.reverse
    | '\\' :: 'u' :: '{' :: rest =>
      let ds := rest.takeWhile (· != '}')
      plainPattern lines fuel inSet (rest.drop (ds.length + 1)) (literal (hex ds) ++ done)
    | '\\' :: 'u' :: a :: b :: c :: d :: rest =>
      if [a, b, c, d].all fun c => (Text.digitIn? 16 c).isSome then
        plainPattern lines fuel inSet rest (literal (hex [a, b, c, d]) ++ done)
      else plainPattern lines fuel inSet (a :: b :: c :: d :: rest) ('u' :: done)
    | '\\' :: 'c' :: a :: rest =>
      plainPattern lines fuel inSet rest (literal (a.toNat % 32) ++ done)
    | '\\' :: '/' :: rest => plainPattern lines fuel inSet rest ('/' :: done)
    | '\\' :: '-' :: rest => plainPattern lines fuel inSet rest ('-' :: '\\' :: done)
    | '\\' :: c :: rest => plainPattern lines fuel inSet rest (c :: '\\' :: done)
    | '[' :: '^' :: ']' :: rest =>
      if inSet then plainPattern lines fuel inSet ('^' :: ']' :: rest) ('[' :: '\\' :: done)
      else plainPattern lines fuel false rest ("[\\s\\S]".toList.reverse ++ done)
    | '[' :: ']' :: rest =>
      if inSet then plainPattern lines fuel inSet (']' :: rest) ('[' :: '\\' :: done)
      else plainPattern lines fuel false rest ("(?!)".toList.reverse ++ done)
    | '[' :: rest =>
      if inSet then plainPattern lines fuel inSet rest ('[' :: '\\' :: done)
      else plainPattern lines fuel true rest ('[' :: done)
    | ']' :: rest => plainPattern lines fuel false rest (']' :: done)
    | '$' :: rest =>
      if inSet || lines then plainPattern lines fuel inSet rest ('$' :: done)
      else plainPattern lines fuel inSet rest ('z' :: '\\' :: done)
    | c :: rest => plainPattern lines fuel inSet rest (c :: done)

def compileRegex (source flags : String) : Except String Search.Compiled :=
  let has (c : Char) : Bool := flags.contains c
  let s := plainPattern (has 'm') (source.length + 1) false source.toList []
  let options : Search.Options :=
    { fold := has 'i', lines := has 'm', all := has 's', ascii := true }
  match Search.compile .relaxed false options s with
  | .ok c => .ok c
  | .error f => .error f.what

def newRegex (source flags : String) (proto : Value) : Action Value := do
  let bad := flags.toList.find? fun c => !("dgimsuvy".contains c)
  if bad.isSome then
    throwNew "SyntaxError" ("Invalid flags supplied to RegExp constructor '" ++ flags ++ "'")
  match compileRegex source flags with
  | .ok compiled =>
    let flags := String.ofList ("dgimsuvy".toList.filter fun c => flags.contains c)
    let r ← alloc { kind := .regex ⟨source, flags, compiled⟩, proto }
    putOwn r (.text "lastIndex") { value := .number 0.0, shown := false, configurable := false }
    return .object r
  | .error m =>
    let m := if m == "nothing to repeat" then "Nothing to repeat"
      else if m.startsWith "missing )" then "Unterminated group"
      else if m.startsWith "unterminated character set" then "Unterminated character class"
      else if m.startsWith "unbalanced" then "Unmatched ')'"
      else m
    throwNew "SyntaxError" ("Invalid regular expression: /" ++ source ++ "/: " ++ m)

/-- A match: where it starts and ends, and its groups. -/
structure Match where
  first : Nat
  last : Nat
  groups : Array (Option (Nat × Nat))

/-- The first match from a place on, or only there. -/
def matchFrom (r : Regex) (text : Array Char) (i : Nat) (sticky : Bool) : Action (Option Match) := do
  if text.size < i then return none
  let (outcome, left) := if sticky then
      Search.matchAt text r.compiled.pattern r.compiled.groups i .anywhere Search.patience
    else
      Search.searchFrom text r.compiled.pattern r.compiled.groups (text.size + 1 - i) i .anywhere
        Search.patience
  work ((Search.patience - left) / 50)
  match outcome with
  | .found j groups =>
    let first := ((groups[0]?).join.map (·.1)).getD i
    return some ⟨first, j, groups⟩
  | .failed => return none
  | .tired => throw .never

def sliceText (text : Array Char) (a b : Nat) : String :=
  textOfUnits (text.extract a b).toList

def Match.group (m : Match) (text : Array Char) (i : Nat) : Value :=
  match (m.groups[i]?).join with
  | some (a, b) => .text (sliceText text a b)
  | none => .undefined

def regexOf (v : Value) : Action Regex := do
  match v with
  | .object r =>
    match ← kindAt r with
    | .regex x => return x
    | _ => throwType "Receiver is not a RegExp"
  | _ => throwType "Receiver is not a RegExp"

def namedGroups (r : Regex) (m : Match) (text : Array Char) : Action Value := do
  if r.compiled.names.isEmpty then return .undefined
  let o ← alloc {}
  for (n, i) in r.compiled.names do putOwn o (.text n) (dataProperty (m.group text i))
  return .object o

def matchArray (r : Regex) (m : Match) (text : Array Char) (input : String) : Action Value := do
  let items := (List.range (r.compiled.groups + 1)).map (m.group text)
  let items := .text (sliceText text m.first m.last) :: items.drop 1
  let v ← newArray items.toArray
  setText v "index" (natValue m.first)
  setText v "input" (.text input)
  setText v "groups" (← namedGroups r m text)
  if r.flags.contains 'd' then
    let pairs ← (List.range (r.compiled.groups + 1)).mapM fun i => do
      if i = 0 then newArray #[natValue m.first, natValue m.last]
      else
        match (m.groups[i]?).join with
        | some (a, b) => newArray #[natValue a, natValue b]
        | none => pure .undefined
    setText v "indices" (← newArray pairs.toArray)
  return v

/-- One step of a search that remembers its place. -/
def execRegex (v : Value) (input : String) : Action (Option (Regex × Match × Array Char)) := do
  let r ← regexOf v
  let global := r.flags.contains 'g' || r.flags.contains 'y'
  let text := unitsOf input
  let start ← if global then do
      let x ← toInteger (← getText v "lastIndex")
      pure (if x < 0.0 then 0 else x.toUInt64.toNat)
    else pure 0
  match ← matchFrom r text start (r.flags.contains 'y') with
  | some m =>
    if global then setText v "lastIndex" (natValue m.last)
    return some (r, m, text)
  | none =>
    if global then setText v "lastIndex" (.number 0.0)
    return none

def allMatches (r : Regex) (text : Array Char) : Nat → Nat → List Match → Action (List Match)
  | 0, _, done => return done.reverse
  | fuel + 1, i, done => do
    match ← matchFrom r text i (r.flags.contains 'y') with
    | some m =>
      let next := if m.last = m.first then m.last + 1 else m.last
      allMatches r text fuel next (m :: done)
    | none => return done.reverse

/-- A replacement with its marks filled in. -/
def expandMarks (m : Match) (text : Array Char) (names : List (String × Nat)) (groups : Nat) :
    Nat → List Char → List Char
  | 0, s => s
  | fuel + 1, s =>
    let show_ (v : Value) : List Char := match v with
      | .text s => s.toList
      | _ => []
    let go := expandMarks m text names groups fuel
    match s with
    | '$' :: '$' :: rest => '$' :: go rest
    | '$' :: '&' :: rest => (sliceText text m.first m.last).toList ++ go rest
    | '$' :: '`' :: rest => (sliceText text 0 m.first).toList ++ go rest
    | '$' :: '\'' :: rest => (sliceText text m.last text.size).toList ++ go rest
    | '$' :: '<' :: rest =>
      if names.isEmpty then '$' :: '<' :: go rest
      else
        let n := rest.takeWhile (· != '>')
        let i := (names.lookup (String.ofList n)).getD 1000000
        show_ (m.group text i) ++ go (rest.drop (n.length + 1))
    | '$' :: a :: rest =>
      if a.isDigit then
        let two := match rest with
          | b :: after =>
            if b.isDigit then some ((a.toNat - 48) * 10 + (b.toNat - 48), after) else none
          | [] => none
        let one := a.toNat - 48
        match two with
        | some (n, after) =>
          if 1 ≤ n && n ≤ groups then show_ (m.group text n) ++ go after
          else if 1 ≤ one && one ≤ groups then show_ (m.group text one) ++ go rest
          else '$' :: go (a :: rest)
        | none =>
          if 1 ≤ one && one ≤ groups then show_ (m.group text one) ++ go rest
          else '$' :: go (a :: rest)
      else '$' :: go (a :: rest)
    | c :: rest => c :: go rest
    | [] => []

def replacementOf (by_ : Value) (m : Match) (text : Array Char) (input : String)
    (names : List (String × Nat)) (groups : Nat) (named : Value) : Action String := do
  if ← isCallable by_ then
    let parts := ((List.range groups).map fun i => m.group text (i + 1))
    let args := .text (sliceText text m.first m.last) :: parts ++ [natValue m.first, .text input] ++
      (if named.isMissing then [] else [named])
    toText (← call by_ .undefined args)
  else
    let s ← toText by_
    return String.ofList (expandMarks m text names groups (s.length + 1) s.toList)

/-- The places of a text in another one, up to a number. -/
def placesOf (part text : Array Char) : Nat → Nat → List Nat → List Nat
  | 0, _, done => done.reverse
  | fuel + 1, i, done =>
    if text.size < i + part.size then done.reverse
    else if text.extract i (i + part.size) == part then
      placesOf part text fuel (i + max part.size 1) (i :: done)
    else placesOf part text fuel (i + 1) done

def replaceText (input : String) (what by_ : Value) (all : Bool) : Action String := do
  let text := unitsOf input
  let regex? ← match what with
    | .object r => do
      match ← kindAt r with
      | .regex x => pure (some x)
      | _ => pure none
    | _ => pure none
  let (found, names, groups) ← match regex? with
    | some r => do
      if all && !r.flags.contains 'g' then
        throwType "replaceAll must be called with a global RegExp"
      if r.flags.contains 'g' then
        setText what "lastIndex" (.number 0.0)
        let ms ← allMatches r text (text.size + 2) 0 []
        pure (ms, r.compiled.names, r.compiled.groups)
      else
        match ← execRegex what input with
        | some (_, m, _) => pure ([m], r.compiled.names, r.compiled.groups)
        | none => pure ([], [], 0)
    | none => do
      let part := unitsOf (← toText what)
      let places := placesOf part text (text.size + 1) 0 []
      let places := if all then places else places.take 1
      pure (places.map fun i => ⟨i, i + part.size, #[]⟩, [], 0)
  let mut out := ""
  let mut last := 0
  for m in found do
    let named ← match regex? with
      | some r => namedGroups r m text
      | none => pure .undefined
    let s ← replacementOf by_ m text input names groups named
    out := out ++ sliceText text last m.first ++ s
    last := m.last
  return out ++ sliceText text last text.size

def ownText (this : Value) : Action String := do
  match this with
  | .text s => return s
  | v => toText v

def stringMethod (name : String) (this : Value) (args : List Value) : Action Value := do
  let s ← ownText this
  let a := arg args 0
  let b := arg args 1
  let text := unitsOf s
  let n := text.size
  match name with
  | "at" =>
    let x ← toInteger a
    let x := if x < 0.0 then Float.ofNat n + x else x
    if x < 0.0 || Float.ofNat n ≤ x then return .undefined
    return .text (sliceText text x.toUInt64.toNat (x.toUInt64.toNat + 1))
  | "replace" | "replaceAll" => return .text (← replaceText s a b (name == "replaceAll"))
  | "match" | "matchAll" | "search" =>
    let proto := Value.object (protoRef "RegExp")
    let fresh : Action Value := do
      let source ← toText a
      newRegex source (if name == "matchAll" then "g" else "") proto
    let re ← match a with
      | .object r => do
        match ← kindAt r with
        | .regex _ => pure a
        | _ => fresh
      | _ => fresh
    let r ← regexOf re
    match name with
    | "match" =>
      if r.flags.contains 'g' then
        let ms ← allMatches r text (n + 2) 0 []
        if ms.isEmpty then return .null
        newArray (ms.map fun m => Value.text (sliceText text m.first m.last)).toArray
      else
        match ← execRegex re s with
        | some (r, m, text) => matchArray r m text s
        | none => return .null
    | _ =>
      unless r.flags.contains 'g' do
        throwType "String.prototype.matchAll called with a non-global RegExp argument"
      let ms ← allMatches r text (n + 2) 0 []
      let vs ← ms.mapM fun m => matchArray r m text s
      allocValue { kind := .walk (.list vs), proto := .object (protoRef "RegExp String Iterator") }
  | _ => return .undefined

def stringCall (name : String) (this : Value) (args : List Value) : Action Value := do
  stringMethod name this args

end Flowboard.Prototype
