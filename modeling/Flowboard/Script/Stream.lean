import Flowboard.Script.Library
import Flowboard.Time.Calendar

/-! Where scripts write to and read from. -/
namespace Flowboard.Script

def systemKind : Int → String
  | 1 | 13 => "PermissionError"
  | 2 => "FileNotFoundError"
  | 3 => "ProcessLookupError"
  | 4 => "InterruptedError"
  | 10 => "ChildProcessError"
  | 11 | 114 | 115 => "BlockingIOError"
  | 17 => "FileExistsError"
  | 20 => "NotADirectoryError"
  | 21 => "IsADirectoryError"
  | 32 | 108 => "BrokenPipeError"
  | 103 => "ConnectionAbortedError"
  | 104 => "ConnectionResetError"
  | 110 => "TimeoutError"
  | 111 => "ConnectionRefusedError"
  | _ => "OSError"

def systemError {α : Type} (kind : String) (number : Int) (reason : String)
    (file : Option String) : Action α := do
  let args := [.int number, .str reason] ++ (file.map Value.str).toList
  let attributes := Dict.empty.set "args" (.tuple (args.take 2))
  let attributes := attributes.set "errno" (.int number)
  let attributes := attributes.set "strerror" (.str reason)
  let attributes := attributes.set "filename" ((file.map Value.str).getD .none)
  let e ← Action.allocate (.object (.builtin kind) attributes .none)
  throw (.raise e)

/-- Raises the exception for an error of the system that has a number. -/
def refuse {α : Type} (number : Int) (reason : String) (file : Option String) : Action α :=
  systemError (systemKind number) number reason file

def fileError {α : Type} (e : FileError) (path : String) : Action α :=
  match e with
  | .nulByte => Action.valueError "embedded null byte"
  | e => refuse (e.number?.getD 5) e.reason (some path)

/-- The number of bytes that wait before they are written. -/
def bufferSize : Nat := 8192

def appendBytes (a : ByteArray) (b : List UInt8) : ByteArray :=
  b.foldl ByteArray.push a

def badDescriptor {α : Type} : Action α :=
  refuse 9 "Bad file descriptor" none

def openingOf (fd : Int) : Action (Nat × Opening) := do
  let w ← get
  match if fd < 0 then none else w.descriptors.lookup fd.toNat with
  | none => badDescriptor
  | some i =>
    match w.openings[i]? with
    | some o => return (i, o)
    | none => badDescriptor

def freeDescriptor (taken : List (Nat × Nat)) : Nat → Nat → Nat
  | 0, n => n
  | fuel + 1, n => if (taken.lookup n).isSome then freeDescriptor taken fuel (n + 1) else n

def addDescriptor (o : Opening) : Action Nat := do
  let w ← get
  let fd := freeDescriptor w.descriptors 4096 0
  set { w with
    openings := w.openings.push o
    descriptors := w.descriptors ++ [(fd, w.openings.size)] }
  return fd

def closeDescriptor (fd : Int) : Action Unit := do
  let _ ← openingOf fd
  modify fun w => { w with descriptors := w.descriptors.filter fun (n, _) => n ≠ fd.toNat }

/-- The nanoseconds since the start of all times. -/
def nanosNow (w : World) : Int :=
  startOfRuns * 1000000000 + 1000 * (w.clock : Int)

/-- What is written later by others, as far as its time has come. -/
def settleLate : Action Unit := do
  let w ← get
  if w.late.isEmpty then return
  let due := w.late.takeWhile fun (t, _, _) => t ≤ w.clock
  let w := due.foldl (fun (w : World) (_, isError, b) =>
    if isError then { w with errors := w.errors ++ b } else { w with output := w.output ++ b }) w
  set { w with late := w.late.drop due.length }

def markMoment : Action Unit := do
  settleLate
  modify fun w =>
    if w.processes = 0 then w
    else { w with moments := (w.clock, w.output.size, w.errors.size) :: w.moments }

/-- The bytes of an entry, of which those of a device without end are `count`. -/
def entryBytes (e : Entry) : List UInt8 :=
  match e with
  | .file b => b
  | _ => []

/-- A child lives its life once more, with more that comes to it from outside. -/
def visitAgain {α : Type} (c : Child) (signals : List (Nat × Int)) : Action α := do
  let w ← get
  let met := w.met.reverse
  let visit : Visit := c.visit
  let bytes := ((w.poured.take (w.poured.length - c.poured)).reverse).map fun (n, b, _) => (n, b, 0)
  let dry := List.range w.pipes.size
  throw (.anew (met.take c.origin ++
    [.offspring { visit with signals := visit.signals ++ signals, bytes, dry }]))

/-- The bytes behind the place where an opening goes on, or the first `count` of them. -/
def takeBytes (fd : Int) (count : Option Nat) : Action (List UInt8) := do
  let (i, o) ← openingOf fd
  if !o.reads then badDescriptor
  let part (b : List UInt8) : List UInt8 := match count with
    | some n => b.take n
    | none => b
  let move (n : Nat) : Action Unit :=
    modify fun w =>
      { w with openings := w.openings.modify i fun o => { o with position := o.position + n } }
  let w ← get
  match o.source with
  | .entry place =>
    match w.files.entry? place with
    | some .directory => refuse 21 "Is a directory" none
    | some (.device d) => return entryBytes (.device d)
    | some e =>
      let b := part ((entryBytes e).drop o.position)
      move b.length
      return b
    | none => return []
  | _ => badDescriptor

/-- Bytes with others in place of those from a position on. -/
def spliced (old new : List UInt8) (position : Nat) : List UInt8 :=
  if old.length ≤ position then old ++ List.replicate (position - old.length) 0 ++ new
  else old.take position ++ new ++ old.drop (position + new.length)

def putBytes (fd : Int) (b : List UInt8) : Action Unit := do
  let (i, o) ← openingOf fd
  if !o.writes then badDescriptor
  let move (n : Nat) : Action Unit :=
    modify fun w =>
      { w with openings := w.openings.modify i fun o => { o with position := n } }
  match o.source with
  | .output =>
    markMoment
    modify fun w => { w with output := appendBytes w.output b }
  | .errors =>
    markMoment
    modify fun w => { w with errors := appendBytes w.errors b }
  | .entry place =>
    let w ← get
    match w.files.entry? place with
    | some (.device _) => return
    | e =>
      let old := (e.map fun e => entryBytes e).getD []
      let position := if o.appends then old.length else o.position
      let new := spliced old b position
      set { w with
        files := w.files.put place (.file new)
        times := w.times.insert (FileSystem.pathOf place) (nanosNow w) }
      move (position + b.length)
  | _ => badDescriptor

/-- Moves an opening to a place that is counted from the start, or from where it is. -/
def seekTo (fd offset whence : Int) : Action Int := do
  let (i, o) ← openingOf fd
  let base : Int := if whence = 1 then o.position else 0
  let place := base + offset
  if place < 0 || whence < 0 || 2 < whence then refuse 22 "Invalid argument" none
  modify fun w =>
    { w with openings := w.openings.modify i fun o => { o with position := place.toNat } }
  return place

/-- How a path is to be opened. -/
structure Access where
  reads : Bool := true
  writes : Bool := false
  appends : Bool := false
  /-- a file that is not there is made -/
  creates : Bool := false
  /-- a file that is there is refused -/
  exclusive : Bool := false
  empties : Bool := false
  /-- a directory can be opened -/
  directories : Bool := false

def pathDescriptor? (path : String) : Option Nat :=
  match path with
  | "/dev/stdin" => some 0
  | "/dev/stdout" => some 1
  | "/dev/stderr" => some 2
  | path =>
    let number (start : String) : Option Nat :=
      if path.startsWith start then Text.natural? (path.toList.drop start.length) else none
    (number "/dev/fd/").or (number "/proc/self/fd/")

def openPath (path : String) (a : Access) (mode : Nat) : Action Nat := do
  match pathDescriptor? path with
  | some n =>
    match (← get).descriptors.lookup n with
    | none => fileError .notFound path
    | some i =>
      match (← get).openings[i]? with
      | some o => addDescriptor { o with appends := a.appends }
      | none => fileError .notFound path
  | none =>
    let w ← get
    match w.files.locate path with
    | .error e => fileError e path
    | .ok spot =>
      let opening : Opening :=
        { source := .entry spot.place, reads := a.reads, writes := a.writes, appends := a.appends }
      match w.files.look spot with
      | .error e => fileError e path
      | .ok none =>
        if spot.place.isEmpty then
          if a.directories && !a.writes then addDescriptor opening else fileError .isDirectory path
        else if !a.creates then fileError .notFound path
        else if spot.slashed || spot.name.isNone then fileError .isDirectory path
        else
          let files := w.files.put spot.place (.file [])
          let given := Nat.land mode (0o777 - Nat.land w.mask 0o777)
          let files := if given = 0o644 then files else files.setMode spot.place given
          set { w with
            files, times := w.times.insert (FileSystem.pathOf spot.place) (nanosNow w) }
          addDescriptor opening
      | .ok (some e) =>
        if a.creates && a.exclusive then fileError .present path
        match e with
        | .directory =>
          if a.writes || a.creates || !a.directories then fileError .isDirectory path
        | .file _ =>
          if a.empties && a.writes then
            set { w with
              files := w.files.put spot.place (.file [])
              times := w.times.insert (FileSystem.pathOf spot.place) (nanosNow w) }
        | _ => pure ()
        addDescriptor opening

/-- Text that waits joins the bytes that wait. -/
def settleText : Action Unit :=
  modify fun w =>
    { w with buffered := w.buffered ++ w.pending.toUTF8, pending := "" }

def flushBytes : Action Unit := do
  let b := (← get).buffered
  if b.isEmpty then return
  modify fun w => { w with buffered := .empty }
  let w ← get
  if w.descriptors.lookup 1 == some 1 && w.processes = 0 then
    modify fun w => { w with output := w.output ++ b }
  else putBytes 1 b.data.toList

/-- Everything that waits is written. -/
def flush : Action Unit := do
  settleText
  flushBytes

def writeOutput (s : String) : Action Unit := do
  if (← get).shut.contains 1 then Action.valueError "I/O operation on closed file."
  modify fun w => { w with pending := w.pending ++ s }
  if bufferSize < (← get).pending.utf8ByteSize then flush

/-- Writes bytes to the standard output behind those that wait, and before text that does. -/
def writeBuffered (b : List UInt8) : Action Unit := do
  modify fun w => { w with buffered := appendBytes w.buffered b }
  if bufferSize < (← get).buffered.size then flushBytes

/-- Writes bytes at once to the standard output or the standard errors, whatever their descriptors
lead to now. -/
def writeDirectly (fd : Int) (b : List UInt8) : Action Unit := do
  if ((← get).descriptors.lookup fd.toNat).isSome then putBytes fd b

def writeErrors (s : String) : Action Unit :=
  writeDirectly 2 (Text.encode s)

/-- Raises the exception for what a file cannot do. -/
def unsupported {α : Type} (what : String) : Action α :=
  Action.raise "io.UnsupportedOperation" what

def openFile (name : Value) (path : String) (mode : String) (unbuffered : Bool)
    (encoding errors newline : Option String) (owns : Bool) : Action Value := do
  let m := mode.toList
  let invalid : Action Unit := Action.valueError ("invalid mode: '" ++ mode ++ "'")
  if !(m.all fun c => "rwxab+tU".toList.contains c) || m.eraseDups.length ≠ m.length then invalid
  if m.contains 'U' then invalid
  let binary := m.contains 'b'
  if binary && m.contains 't' then Action.valueError "can't have text and binary mode at once"
  let kinds := (m.filter fun c => "rwxa".toList.contains c).length
  if kinds ≠ 1 then
    Action.valueError (if 1 < kinds then "must have exactly one of create/read/write/append mode"
      else "Must have exactly one of create/read/write/append mode and at most one plus")
  if binary then
    if encoding.isSome then Action.valueError "binary mode doesn't take an encoding argument"
    if errors.isSome then Action.valueError "binary mode doesn't take an errors argument"
    if newline.isSome then Action.valueError "binary mode doesn't take a newline argument"
  else
    if unbuffered then Action.valueError "can't have unbuffered text I/O"
    if newline.any fun n => ! ["", "\n", "\r", "\r\n"].contains n then
      Action.valueError ("illegal newline value: " ++ newline.getD "")
    match encoding with
    | some e => let _ ← codecNamed e
    | none => pure ()
  let plus := m.contains '+'
  let reads := m.contains 'r' || plus
  let writes := !m.contains 'r' || plus
  let descriptor ← match name with
    | .int n => do
      let _ ← openingOf n
      pure n.toNat
    | _ =>
      openPath path { reads, writes, appends := m.contains 'a', creates := !m.contains 'r'
                      exclusive := m.contains 'x', empties := m.contains 'w' } 0o666
  if m.contains 'a' then
    try
      let _ ← seekTo descriptor 0 2
      pure ()
    catch _ => pure ()
  let shown : String :=
    if !binary then mode
    else if m.contains 'r' then (if plus then "rb+" else "rb")
    else if m.contains 'w' then (if plus then "rb+" else "wb")
    else if m.contains 'x' then (if plus then "xb+" else "xb")
    else if plus then "ab+" else "ab"
  Action.allocate (.file
    { descriptor, name, mode := shown, binary, bare := unbuffered
      encoding := encoding.getD "UTF-8", errors := errors.getD "strict", newline, owns })

def lineEnd? (newline : Option String) : List Char → Option (List Char × List Char)
  | '\r' :: '\n' :: s =>
    match newline with
    | none | some "" | some "\r\n" => some (['\r', '\n'], s)
    | some "\r" => some (['\r'], '\n' :: s)
    | _ => none
  | '\r' :: s =>
    match newline with
    | none | some "" | some "\r" => some (['\r'], s)
    | _ => none
  | '\n' :: s =>
    match newline with
    | none | some "" | some "\n" => some (['\n'], s)
    | _ => none
  | _ => none

/-- The first line of a text with its end, and the rest. -/
def takeLine (newline : Option String) : List Char → List Char → List Char × List Char
  | done, [] => (done.reverse, [])
  | done, c :: s =>
    match lineEnd? newline (c :: s) with
    | some (mark, rest) => ((mark.reverse ++ done).reverse, rest)
    | none => takeLine newline (c :: done) s

/-- A text as it is read: unless lines have ends of their own, all ends are line feeds. -/
def delivered (newline : Option String) (s : List Char) : List Char :=
  if newline.isSome || !s.contains '\r' then s
  else replaced ['\r'] ['\n'] none (replaced ['\r', '\n'] ['\n'] none s)

/-- The first characters of a text as they are read, and the rest. -/
def takeChars (newline : Option String) : Nat → List Char → List Char → List Char × List Char
  | 0, done, s => (done.reverse, s)
  | _, done, [] => (done.reverse, [])
  | n + 1, done, '\r' :: '\n' :: s =>
    if newline.isNone then takeChars newline n ('\n' :: done) s
    else takeChars newline n ('\r' :: done) ('\n' :: s)
  | n + 1, done, c :: s =>
    takeChars newline n ((if c = '\r' ∧ newline.isNone then '\n' else c) :: done) s

def firstLine (b : List UInt8) : List UInt8 × List UInt8 :=
  let line := b.takeWhile (· != 10)
  let rest := b.drop line.length
  if rest.isEmpty then (line, []) else (line ++ [10], rest.drop 1)

def byteLines : Nat → List UInt8 → List (List UInt8)
  | 0, _ => []
  | _, [] => []
  | fuel + 1, b => let (line, rest) := firstLine b; line :: byteLines fuel rest

/-- The first bytes of a number, or all of them. -/
def takenPart (v : Option Value) (b : List UInt8) : List UInt8 × List UInt8 :=
  match v.bind Value.int? with
  | some n => if n < 0 then (b, []) else (b.take n.toNat, b.drop n.toNat)
  | none => (b, [])

def fileMethods : List String :=
  ["close", "detach", "fileno", "flush", "isatty", "read", "readable", "readline", "readlines",
   "seek", "seekable", "tell", "truncate", "writable", "write", "writelines"]

/-- Reads all of what an open file of text leads to. -/
def OpenFile.fill (f : OpenFile) : Action OpenFile := do
  if !f.ahead.isEmpty then return f
  let b ← takeBytes f.descriptor none
  if b.isEmpty then return f
  let s ← decoded b f.encoding f.errors
  return { f with ahead := s.toList }

def OpenFile.fillBytes (f : OpenFile) : Action OpenFile := do
  if !f.aheadBytes.isEmpty then return f
  return { f with aheadBytes := ← takeBytes f.descriptor none }

def OpenFile.reads (f : OpenFile) : Bool :=
  f.mode.toList.contains 'r' || f.mode.toList.contains '+'

def OpenFile.writes (f : OpenFile) : Bool :=
  !f.mode.toList.contains 'r' || f.mode.toList.contains '+'

/-- Gives back what was read ahead. -/
def OpenFile.settle (f : OpenFile) : Action OpenFile := do
  let n ← if f.binary then pure f.aheadBytes.length
    else if f.ahead.isEmpty then pure 0
    else do
      let b ← encoded (.ofList f.ahead) f.encoding "surrogateescape"
      pure b.length
  if n ≠ 0 then
    let _ ← seekTo f.descriptor (-(n : Int)) 1
  return { f with ahead := [], aheadBytes := [] }

def OpenFile.bytesFor (f : OpenFile) (v : Value) : Action (List UInt8 × Nat) := do
  match v with
  | .str s =>
    if f.binary then Action.typeError "a bytes-like object is required, not 'str'"
    else
      let cs := s.toList
      let cs := match f.newline with
        | some "\r\n" => replaced ['\n'] ['\r', '\n'] none cs
        | some "\r" => replaced ['\n'] ['\r'] none cs
        | _ => cs
      let b ← if f.encoding = "UTF-8" then pure (Text.encode (.ofList cs))
        else encoded (.ofList cs) f.encoding f.errors
      return (b, s.length)
  | v =>
    match ← bytesOf? v with
    | some b => put v b
    | none =>
      if f.binary then
        Action.typeError ("a bytes-like object is required, not '" ++ (← typeName v) ++ "'")
      else Action.typeError ("write() argument must be str, not " ++ (← typeName v))
where
  put (v : Value) (b : List UInt8) : Action (List UInt8 × Nat) := do
    if f.binary then return (b, b.length)
    else Action.typeError ("write() argument must be str, not " ++ (← typeName v))

def OpenFile.shut (f : OpenFile) : Action OpenFile := do
  if !f.closed && f.owns then closeDescriptor f.descriptor
  return { f with closed := true }

def fileMethod (i : Nat) (f : OpenFile) (name : String) (args : List Value) :
    Action Value := do
  let put (f : OpenFile) : Action Unit := Action.store i (.file f)
  if f.closed && ! ["close", "__exit__"].contains name then
    Action.valueError ("I/O operation on closed file.")
  if ["read", "readline", "readlines", "read1", "peek", "readinto", "__next__"].contains name &&
      !f.reads then
    unsupported (if f.binary && !f.bare then (if name = "__next__" then "readline" else name)
      else if f.bare then "File not open for reading" else "not readable")
  if ["write", "writelines", "truncate"].contains name && !f.writes then
    unsupported (if f.bare then "File not open for writing" else if f.binary then
      (if name = "writelines" then "write" else name) else
      if name = "truncate" then "truncate" else "not writable")
  match name with
  | "read" | "read1" =>
    let count := (args.head?.bind Value.int?).bind fun n => if n < 0 then none else some n.toNat
    if f.binary then
      match count with
      | some n =>
        if f.aheadBytes.isEmpty then return .bytes (← takeBytes f.descriptor (some n))
        else
          let b := f.aheadBytes.take n
          put { f with aheadBytes := f.aheadBytes.drop n }
          if b.length < n then
            let more ← takeBytes f.descriptor (some (n - b.length))
            return .bytes (b ++ more)
          else return .bytes b
      | none =>
        let more ← takeBytes f.descriptor none
        put { f with aheadBytes := [] }
        return .bytes (f.aheadBytes ++ more)
    else
      let f ← f.fill
      match count with
      | some n =>
        let (s, rest) := takeChars f.newline n [] f.ahead
        put { f with ahead := rest }
        return .str (.ofList s)
      | none =>
        put { f with ahead := [] }
        return .str (.ofList (delivered f.newline f.ahead))
  | "readlines" =>
    if f.binary then
      let f ← f.fillBytes
      put { f with aheadBytes := [] }
      Action.list ((byteLines (f.aheadBytes.length + 1) f.aheadBytes).map .bytes)
    else
      let f ← f.fill
      put { f with ahead := [] }
      let limit := match args.head?.bind Value.int? with
        | some n => if n ≤ 0 then none else some n.toNat
        | none => none
      let ls := lines f.newline (f.ahead.length + 1) limit f.ahead
      put { f with ahead := f.ahead.drop ls.flatten.length }
      Action.list (ls.map fun l => .str (.ofList (delivered f.newline l)))
  | "write" =>
    let (b, n) ← f.bytesFor (← firstOf name args)
    let f ← if f.binary then do
        let f ← f.settle
        put f
        pure f
      else pure f
    let b ← if f.binary || ! ["utf-8-sig", "utf_8_sig", "utf-16", "utf16", "utf_16"].contains
        f.encoding.toLower then pure b
      else do
        -- a mark stands in front of the first bytes only
        let (_, o) ← openingOf f.descriptor
        if o.position = 0 then pure b
        else pure (b.drop (if f.encoding.toLower.startsWith "utf-8" then 3 else 2))
    putBytes f.descriptor b
    return .int n
  | _ => return .none
where
  lines (newline : Option String) : Nat → Option Nat → List Char → List (List Char)
    | 0, _, _ => []
    | _, _, [] => []
    | fuel + 1, limit, s =>
      let (l, rest) := takeLine newline [] s
      match limit with
      | none => l :: lines newline fuel none rest
      | some n =>
        if n ≤ l.length then [l] else l :: lines newline fuel (some (n - l.length)) rest

/-- The next bytes of the input that come before an end or after a line. -/
def readInput (line : Bool) : Action (List UInt8) := do
  let w ← get
  if line then
    let (b, rest) := firstLine w.input
    if rest.isEmpty && !w.inputEnds && b.getLast? != some 10 then throw .never
    else
      set { w with input := rest }
      return b
  else if w.inputEnds then
    set { w with input := [] }
    return w.input
  else throw .never

def inputMethod (name : String) (binary : Bool) (args : List Value) : Action Value := do
  let content (b : List UInt8) : Action Value := do
    if binary then return .bytes b else return .str (← decoded b "utf-8" "strict")
  match name with
  | "read" =>
    let b ← readInput false
    let (b, rest) := takenPart args.head? b
    modify fun w => { w with input := rest }
    content b
  | "readline" => content (← readInput true)
  | "readlines" =>
    let b ← readInput false
    Action.list (← (byteLines (b.length + 1) b).mapM content)
  | "isatty" | "writable" => return .bool false
  | "readable" => return .bool true
  | "seekable" => return .bool false
  | "fileno" => return .int 0
  | _ => return .none

def writeTo (k : Calls) (member : Value → String → Action Value) (file : Value) (s : String) :
    Action Unit := do
  match file with
  | .builtin "sys.stdout" | .builtin "sys.__stdout__" => writeOutput s
  | .builtin "sys.stderr" | .builtin "sys.__stderr__" => writeErrors s
  | file =>
    let f ← member file "write"
    let _ ← k.call f [.str s] []
    return

end Flowboard.Script
