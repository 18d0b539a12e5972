import Flowboard.Script.Codec
import Flowboard.Script.Machine
import Flowboard.Utility.Basic

/-! What scripts do from their start to their end. -/
namespace Flowboard.Script

def withLineFeeds : List Char → List Char
  | '\r' :: '\n' :: s => '\n' :: withLineFeeds s
  | '\r' :: s => '\n' :: withLineFeeds s
  | c :: s => c :: withLineFeeds s
  | [] => []

/-- What follows a text for the first time in another one. -/
def after? (what : List Char) : List Char → Option (List Char)
  | [] => none
  | c :: s =>
    if what.isPrefixOf (c :: s) then some ((c :: s).drop what.length) else after? what s

def namedEncoding? (line : List Char) : Option String :=
  match line.dropWhile fun c => c == ' ' || c == '\t' || c == '\x0c' with
  | '#' :: comment =>
    match after? "coding".toList comment with
    | some (mark :: rest) =>
      if mark = ':' ∨ mark = '=' then
        let name := (rest.dropWhile fun c => c == ' ' || c == '\t').takeWhile fun c =>
          c.isAlphanum || c == '-' || c == '_' || c == '.'
        if name.isEmpty then none else some (.ofList name)
      else none
    | _ => none
  | _ => none

def isBareLine (line : List Char) : Bool :=
  match line.dropWhile fun c => c == ' ' || c == '\t' || c == '\x0c' || c == '\r' with
  | [] => true
  | c :: _ => c == '#'

/-- The encoding that one of the first two lines of a script names. -/
def encodingOf? (s : List Char) : Option String :=
  let first := s.takeWhile (· != '\n')
  let second := ((s.dropWhile (· != '\n')).drop 1).takeWhile (· != '\n')
  (namedEncoding? first).or (if isBareLine first then namedEncoding? second else none)

/-- The text of a script, unless its encoding is not there or its bytes do not fit it. -/
def sourceText? (source : String) : Option (List Char) :=
  let cs := source.toList
  let marked := cs.head? = some '\ufeff'
  let cs := if marked then cs.drop 1 else cs
  let text? := match encodingOf? (withLineFeeds cs) with
    | none => some cs
    | some name =>
      match Codec.ofName? name with
      | some (.utf8 _) => some cs
      | some codec =>
        if marked then none
        else
          match codec.decode "strict" (fun _ s => s) (Text.encode (.ofList cs)) with
          | .ok cs => some cs
          | .error _ => none
      | none => none
  text?.map withLineFeeds

/-- The number of steps after which a script counts as one that goes on for ever. -/
def patience : Nat := 4000000

/-- What a script is started with. -/
structure Setting where
  /-- where the script lies -/
  path : String
  /-- the arguments, of which the first is the script itself -/
  args : List String
  environment : List (String × String)
  input : Pipe
  files : FileSystem
  /-- what a command does in a shell -/
  shell : FileSystem → String → Activity × FileSystem
  /-- the texts of modules -/
  library : String → Option String

/-- The world before a script runs. -/
def Setting.world (s : Setting) : World :=
  let names : Std.HashMap String Value :=
    (({} : Std.HashMap String Value).insert "__name__" (.str "__main__")).insert "__file__"
      (.str s.path)
  let names := (names.insert "__doc__" .none).insert "__builtins__" (.module "builtins")
  { scopes := #[{ bindings := names, ofModule := true }]
    modules := ({} : Std.HashMap String Nat).insert "__main__" 0
    path := s.path, steps := patience, files := s.files, args := s.args, environment := s.environment
    input := Text.octetBytes s.input.text, inputEnds := !s.input.endless, shell := s.shell
    library := s.library }

/-- How calls are made at the outermost level. -/
def outerCalls : Calls :=
  ⟨callValue fuelLimit, nextOf fuelLimit, loadModule fuelLimit⟩

def reportLine (e : Value) : Action String := do
  let type ← typeOf e
  let name ← qualifiedName type
  let name := if name.startsWith "__main__." then String.ofList (name.toList.drop 9) else name
  let text ← textOf outerCalls e
  return (if text = "" then name else name ++ ": " ++ text) ++ "\n"

/-- The text about an exception that nobody has handled. -/
def report (path : String) (e : Value) : Action String := do
  return "Traceback (most recent call last):\n  File \"" ++ path ++
    "\", line 1, in <module>\n" ++ (← reportLine e)

def statusOf (n : Int) : Status :=
  if -(twoTo 63 : Int) ≤ n ∧ n < twoTo 63 then .ofInt n else .ofInt 255

/-- The status of a script that ends itself with a value. -/
def statusFor (args : List Value) : Action Status := do
  match args with
  | [] => return .success
  | [.none] => return .success
  | [v] =>
    match v.int? with
    | some n => return statusOf n
    | none =>
      writeErrors ((← textOf outerCalls v) ++ "\n")
      return .failure
  | vs =>
    writeErrors ((← textOf outerCalls (.tuple vs)) ++ "\n")
    return .failure

/-- How a script ends after an exception that nobody has handled. -/
def endingAfter (path : String) (e : Value) : Action Ending := do
  if ← isInstance e (.builtin "SystemExit") then
    match ← Action.object? e with
    | some (.object _ attributes _) =>
      let args := match attributes.named? "code" with
        | some v => [v]
        | none => exceptionArgs attributes
      return .exit (← statusFor args)
    | _ => return .exit .failure
  else
    match (← get).shared.get? "sys.excepthook" with
    | some (.builtin _) | none => writeErrors (← report path e)
    | some hook =>
      let _ ← callValue fuelLimit hook [← typeOf e, e, ← traceOf e] []
      pure ()
    if ← isInstance e (.builtin "KeyboardInterrupt") then
      modify fun w => { w with killer := 2 }
      return .killed
    else return .exit .failure

/-- Calls what was to be called at the end. -/
def runAtExit : Nat → Action Unit
  | 0 => return
  | fuel + 1 => do
    let w ← get
    match w.atExit with
    | [] => return
    | (f, args) :: rest =>
      set { w with atExit := rest }
      tryCatch (do let _ ← callValue fuelLimit f args []; return) fun s =>
        match s with
        | .raise _ => return
        | s => throw s
      runAtExit fuel

def runStatements (path : String) (ss : List Stmt) : Action Ending := do
  let ending ← tryCatch
    (do
      let _ ← run fuelLimit [.stmts ss]
      return Ending.exit .success)
    fun s =>
      match s with
      | .raise e => do
        modify fun w => { w with scope := 0, depth := 0 }
        endingAfter path e
      | s => throw s
  settle outerCalls 0 [] settleLimit
  runAtExit 1000
  settleEnd outerCalls
  tryCatch (do flush; return ending) fun s =>
    match s with
    | .raise e => do
      writeErrors ("Exception ignored in: <_io.TextIOWrapper name='<stdout>' mode='w' " ++
        "encoding='utf-8'>\n" ++ (← reportLine e))
      return .exit (.ofInt 120)
    | s => throw s

/-- What a world in which a script has ended shows. Those who still write do so before others are
told of the end. -/
def World.activity (w : World) (ending : Ending) : Activity :=
  let w := w.late.foldl (fun (w : World) (t, isError, b) =>
    let w := { w with clock := max w.clock t }
    if isError then { w with errors := w.errors ++ b } else { w with output := w.output ++ b }) w
  let stuck := w.children.any fun c => c.status.isNone
  ⟨w.output.data.toList, w.errors.data.toList, ⟨w.clock / 1000⟩, if stuck then .never else ending⟩

/-- What a run comes to. -/
structure Outcome where
  ending : Ending
  /-- the world after it -/
  last : World
  /-- it waits for bytes of another process -/
  thirsty : Bool := false

/-- What a run comes to, or the fates with which it has to start once more. -/
def runIn (path : String) (ss : List Stmt) (w : World) : Except (List (Fate World)) Outcome :=
  match (runStatements path ss).run w with
  | .ok ending w => .ok ⟨ending, w, false⟩
  | .error signal w =>
    match signal with
    | .raise _ => .ok ⟨.exit .failure, w, false⟩
    | .exit status => .ok ⟨.exit status, w, false⟩
    | .killed => .ok ⟨.killed, w, false⟩
    | .never => .ok ⟨.never, w, false⟩
    | .paused _ _ _ => .ok ⟨.never, w, false⟩
    | .anew fates => .error fates

/-- The fates with which a script starts once more after it has ended as a copy: where it was copied
last, it goes on as the one that was copied. The fates that were met are given, the last one first. -/
def fatesAfter (o : Outcome) : List (Fate World) → Option (List (Fate World))
  | [] => none
  | .parent _ :: past => fatesAfter o past
  | .offspring visit :: past =>
    some ((.parent
      { number := o.last.process, last := o.last, status := waitNumber o.ending
        thirsty := o.thirsty, visit } :: past).reverse)

/-- The fates with which a script starts once more if a copy waits for bytes that do not come any
more. -/
def fatesOfThirsty (w : World) : Option (List (Fate World)) :=
  (w.children.find? (·.thirsty)).bind fun c =>
    let again : Action Unit := visitAgain c []
    match again.run { w with descriptors := [], kept := [] } with
    | .error (.anew fates) _ => some fates
    | _ => none

/-- Runs a script until it has ended as the process that was started. -/
def runThrough (path : String) (ss : List Stmt) (start : World) :
    Nat → List (Fate World) → Activity × FileSystem
  | 0, _ => (start.activity .never, start.files)
  | fuel + 1, fates =>
    match runIn path ss { start with fates } with
    | .error fates => runThrough path ss start fuel fates
    | .ok o =>
      match (fatesOfThirsty o.last).or (fatesAfter o o.last.met) with
      | some fates => runThrough path ss start fuel fates
      | none => (o.last.activity o.ending, o.last.files)

/-- How often a script starts once more at most. -/
def restartLimit : Nat := 200

/-- What a script does that cannot be read. -/
def Setting.refusal (s : Setting) (message : String) : Activity :=
  ⟨[], Text.encode ("  File \"" ++ s.path ++ "\", line 1\nSyntaxError: " ++ message ++ "\n"), ⟨0⟩,
    .exit .failure⟩

/-- What a script of any kind does, and the files after it. -/
def Setting.perform (s : Setting) (source : String) : Activity × FileSystem :=
  match (sourceText? source).bind readNumbered with
  | none => (s.refusal "invalid syntax", s.files)
  | some ss => runThrough s.path ss s.world restartLimit []

end Flowboard.Script
