import Flowboard.Utility.Listing
import Flowboard.Utility.Regex

/-! Walks through directories, and expressions that say what is done with the files on the way. -/
namespace Flowboard.Utility.Walk

/-- What is asked about a file or done with it. -/
inductive Primary where
  | always (answer : Bool)
  | name (fold : Bool) (p : List Shell.Glob)
  | mode (bits : Nat)
  | print (ending : Char)
  | format (text : List Char)
  | delete
  | quit
  | run (together : Bool) (command : List String)

/-- What is done with each file. -/
inductive Expression where
  | primary (p : Primary)
  | not (a : Expression)
  | both (a b : Expression)
  | either (a b : Expression)
  | then_ (a b : Expression)

/-- A walk: where it starts, how deep it goes, and what it does. -/
structure Plan where
  roots : List String := []
  least : Nat := 0
  most : Option Nat := none
  /-- what lies in a directory comes before it -/
  inner : Bool := false
  follow : Bool := false

/-- What has been read so far of the options for the whole walk. -/
abbrev Reading := StateT Plan (Except String)

/-- The words of a command up to its end, and what follows it. -/
def readCommand : List String → List String → Option (Bool × List String × List String)
  | done, ";" :: rest => some (false, done.reverse, rest)
  | "\x7b\x7d" :: done, "+" :: rest => some (true, done.reverse, rest)
  | done, a :: rest => readCommand (a :: done) rest
  | _, [] => none

def readPrimary (word : String) (args : List String) : Reading (Primary × List String) := do
  let wanted : Reading (String × List String) := match args with
    | a :: rest => pure (a, rest)
    | [] => throw ("missing argument to " ++ quotedName word)
  let glob (s : String) : List Shell.Glob := Shell.Glob.ofText false s.toList
  let folded (s : String) : List Shell.Glob := glob (String.ofList (s.toList.map Char.toLower))
  match word with
  | "-true" => return (.always true, args)
  | "-false" => return (.always false, args)
  | "-name" => let (a, r) ← wanted; return (.name false (glob a), r)
  | "-iname" => let (a, r) ← wanted; return (.name true (folded a), r)
  | "-perm" =>
    let (a, r) ← wanted
    match Mode.ofText? a with
    | some bits => return (.mode bits, r)
    | none => throw ("invalid mode " ++ quotedName a)
  | "-print" => return (.print '\n', args)
  | "-print0" => return (.print '\x00', args)
  | "-printf" => let (a, r) ← wanted; return (.format a.toList, r)
  | "-delete" =>
    modify fun p => { p with inner := true }
    return (.delete, args)
  | "-quit" => return (.quit, args)
  | "-exec" | "-execdir" =>
    match readCommand [] args with
    | some (together, command, r) =>
      if command.isEmpty then throw ("missing argument to " ++ quotedName word)
      else return (.run together command, r)
    | none => throw ("missing argument to " ++ quotedName word)
  | "-maxdepth" | "-mindepth" =>
    let (a, r) ← wanted
    match Text.natural? a.toList with
    | some n =>
      modify fun p => if word = "-maxdepth" then { p with most := some n } else { p with least := n }
      return (.always true, r)
    | none =>
      throw ("Expected a positive decimal integer argument to " ++ word ++ ", but got " ++
        quotedName a)
  | word =>
    if word.startsWith "-" then throw ("unknown predicate " ++ "`" ++ word ++ "'")
    else throw ("paths must precede expression: `" ++ word ++ "'")

mutual

/-- Expressions with commas between them. Each level uses up one of the fuel. -/
def readList : Nat → List String → Reading (Expression × List String)
  | 0, _ => throw "invalid expression"
  | fuel + 1, args => do
    let (a, rest) ← readEither fuel args
    match rest with
    | "," :: rest =>
      let (b, rest) ← readList fuel rest
      return (.then_ a b, rest)
    | rest => return (a, rest)

def readEither : Nat → List String → Reading (Expression × List String)
  | 0, _ => throw "invalid expression"
  | fuel + 1, args => do
    let (a, rest) ← readBoth fuel args
    match rest with
    | "-o" :: rest | "-or" :: rest =>
      let (b, rest) ← readEither fuel rest
      return (.either a b, rest)
    | rest => return (a, rest)

def readBoth : Nat → List String → Reading (Expression × List String)
  | 0, _ => throw "invalid expression"
  | fuel + 1, args => do
    let (a, rest) ← readNot fuel args
    match rest with
    | [] => return (a, [])
    | ")" :: _ | "-o" :: _ | "-or" :: _ | "," :: _ => return (a, rest)
    | "-a" :: rest | "-and" :: rest =>
      let (b, rest) ← readBoth fuel rest
      return (.both a b, rest)
    | rest =>
      let (b, rest) ← readBoth fuel rest
      return (.both a b, rest)

def readNot : Nat → List String → Reading (Expression × List String)
  | 0, _ => throw "invalid expression"
  | fuel + 1, args => do
    match args with
    | "!" :: rest | "-not" :: rest =>
      let (a, rest) ← readNot fuel rest
      return (.not a, rest)
    | "(" :: rest =>
      let (a, rest) ← readList fuel rest
      match rest with
      | ")" :: rest => return (a, rest)
      | _ => throw "invalid expression; I was expecting to find a ')' somewhere but did not see one."
    | word :: rest =>
      let (p, rest) ← readPrimary word rest
      return (.primary p, rest)
    | [] => throw "invalid expression"

end

/-- Whether an expression does something with files besides asking. -/
def Expression.acts : Expression → Bool
  | .primary (.print _) | .primary (.format _) | .primary .delete | .primary (.run _ _) => true
  | .primary _ => false
  | .not a => a.acts
  | .both a b | .either a b | .then_ a b => a.acts || b.acts

def startsExpression (a : String) : Bool :=
  (a.startsWith "-" && 1 < a.length) || a = "(" || a = "!" || a = ")" || a = ","

/-- The walk that arguments ask for. -/
def read (args : List String) : Except String (Plan × Expression) := do
  let options := args.takeWhile fun a => ["-H", "-L", "-P", "-O1", "-O2", "-O3"].contains a
  let args := args.drop options.length
  let roots := args.takeWhile (!startsExpression ·)
  let rest := args.drop roots.length
  let plan : Plan :=
    { roots := if roots.isEmpty then ["."] else roots, follow := options.contains "-L" }
  if rest.isEmpty then return (plan, .primary (.print '\n'))
  else
    let ((e, left), plan) ← (readList (8 * rest.length + 8) rest).run plan
    match left with
    | [] => return (plan, if e.acts then e else .both e (.primary (.print '\n')))
    | ")" :: _ => throw "invalid expression; you have too many ')'"
    | a :: _ => throw ("paths must precede expression: `" ++ a ++ "'")

/-- A file on the way. -/
structure Visit where
  root : String
  path : String
  place : Place
  depth : Nat
  entry : Entry

/-- What a walk acts on. -/
structure Surface (σ : Type) where
  files : σ → FileSystem
  setFiles : FileSystem → σ → σ
  write : List Char → σ → σ
  complain : String → σ → σ
  /-- runs a command and tells whether it succeeds -/
  run : List String → σ → Bool × σ

/-- A walk under way. -/
structure Walking (σ : Type) where
  state : σ
  ended : Bool := false
  failed : Bool := false
  /-- commands with the paths they wait for, the last path first -/
  batches : List (List String × List String) := []

def Visit.field (fs : FileSystem) (v : Visit) (c : Char) : List Char :=
  let below := v.path.toList.drop v.root.length
  match c with
  | 'p' => v.path.toList
  | 'f' => (lastName v.path).toList
  | 'h' => (parentPath v.path).toList
  | 'P' => below.dropWhile (· == '/')
  | 'H' => v.root.toList
  | 's' => Nat.toDigits 10 (sizeOf v.entry)
  | 'd' => Nat.toDigits 10 v.depth
  | 'm' => (Mode.digits (fs.modeAt v.place)).toList
  | 'M' => kindLetter v.entry :: (Mode.text (fs.modeAt v.place)).toList
  | 'y' => [match kindLetter v.entry with
      | '-' => 'f'
      | c => c]
  | 'n' => Nat.toDigits 10 (namesCount fs v.place)
  | 'u' | 'g' => "root".toList
  | 'U' | 'G' => ['0']
  | 'k' => Nat.toDigits 10 (blocksOf v.entry)
  | 'b' => Nat.toDigits 10 (2 * blocksOf v.entry)
  | 'l' => match v.entry with
    | .link t => t.toList
    | _ => []
  | '%' => ['%']
  | c => ['%', c]

def Visit.text (fs : FileSystem) (v : Visit) : Nat → List Char → List Char
  | 0, _ => []
  | _, [] => []
  | fuel + 1, '\\' :: c :: rest =>
    let out := match c with
      | 'n' => ['\n']
      | 't' => ['\t']
      | '0' => ['\x00']
      | '\\' => ['\\']
      | c => ['\\', c]
    out ++ v.text fs fuel rest
  | fuel + 1, '%' :: rest =>
    let flags := rest.takeWhile fun c => c == '-' || c == '0' || c.isDigit
    match rest.drop flags.length with
    | c :: rest =>
      let width := (Text.natural? (flags.filter Char.isDigit)).getD 0
      let body := v.field fs c
      (if flags.contains '-' then Text.padRight width body else Text.padLeft width body) ++
        v.text fs fuel rest
    | [] => ['%']
  | fuel + 1, c :: rest => c :: v.text fs fuel rest

section
variable {σ : Type} (on : Surface σ)

/-- Asks or does something with a file. -/
def Primary.apply (v : Visit) (w : Walking σ) : Primary → Bool × Walking σ
  | .name fold p =>
    let name := (lastName v.path).toList
    (Shell.Glob.fits p (if fold then name.map Char.toLower else name), w)
  | .always answer => (answer, w)
  | .mode bits =>
    let own := (on.files w.state).modeAt v.place
    (own == bits, w)
  | .print ending => (true, { w with state := on.write (v.path.toList ++ [ending]) w.state })
  | .format text =>
    (true, { w with
      state := on.write (v.text (on.files w.state) (text.length + 1) text) w.state })
  | .delete =>
    if v.path = "." then (true, w)
    else
      let fs := on.files w.state
      if v.entry == .directory && !(fs.names v.place).isEmpty then
        (false, { w with
          failed := true
          state := on.complain ("cannot delete " ++ quotedName v.path ++ ": " ++
            FileError.notEmpty.reason) w.state })
      else (true, { w with state := on.setFiles (fs.erase v.place) w.state })
  | .quit => (true, { w with ended := true })
  | .run false command =>
    let (ok, state) := on.run (command.map fun a => a.replace "\x7b\x7d" v.path) w.state
    (ok, { w with state })
  | .run true command =>
    let batches := if w.batches.any (·.1 == command) then
        w.batches.map fun (c, paths) => if c == command then (c, v.path :: paths) else (c, paths)
      else w.batches ++ [(command, [v.path])]
    (true, { w with batches })

def Expression.apply (v : Visit) : Expression → Walking σ → Bool × Walking σ
  | .primary p, w => if w.ended then (false, w) else p.apply on v w
  | .not a, w =>
    let (r, w) := a.apply v w
    (!r, w)
  | .both a b, w =>
    match a.apply v w with
    | (true, w) => b.apply v w
    | (false, w) => (false, w)
  | .either a b, w =>
    match a.apply v w with
    | (false, w) => b.apply v w
    | (true, w) => (true, w)
  | .then_ a b, w => b.apply v (a.apply v w).2

/-- Goes through a file and all below it. Each level uses up one of the fuel. -/
def visit (plan : Plan) (e : Expression) (root : String) :
    Nat → Nat → Place → String → Walking σ → Walking σ
  | 0, _, _, _, w => w
  | fuel + 1, depth, p, path, w =>
    if w.ended then w
    else
      let fs := on.files w.state
      match fs.entry? p with
      | none => w
      | some entry =>
        let entry := match entry, plan.follow with
          | .link _, true => (fs.find path).toOption.getD entry
          | e, _ => e
        let v : Visit := ⟨root, path, p, depth, entry⟩
        let own (w : Walking σ) : Walking σ :=
          if plan.least ≤ depth then (e.apply on v w).2 else w
        let below (w : Walking σ) : Walking σ :=
          if entry == .directory && plan.most.all (depth < ·) then
            (fs.names p).foldl (fun w n =>
              visit plan e root fuel (depth + 1) (p ++ [n]) (joinPath path n) w) w
          else w
        if plan.inner then own (below w) else below (own w)

/-- How deep walks go. -/
def depthLimit : Nat := 64

/-- A whole walk; it fails if something has gone wrong on the way. -/
def walk (plan : Plan) (e : Expression) (state : σ) : Bool × σ :=
  let w := plan.roots.foldl (fun (w : Walking σ) root =>
    let fs := on.files w.state
    match fs.locateOwn root, fs.findOwn root with
    | .ok s, .ok _ => visit on plan e root depthLimit 0 s.place root w
    | .error err, _ | _, .error err =>
      { w with
        failed := true
        state := on.complain (quotedName root ++ ": " ++ err.reason) w.state })
    ({ state } : Walking σ)
  let (ok, state) := w.batches.foldl (fun (ok, state) (command, paths) =>
    let call := command ++ paths.reverse
    let (good, state) := on.run call state
    (ok && good, state)) (true, w.state)
  (ok && !w.failed, state)

end

end Flowboard.Utility.Walk
