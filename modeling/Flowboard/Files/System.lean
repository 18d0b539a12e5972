import Flowboard.Table

/-! What a program sees of the files: a tree of directories and files, how paths lead through it,
and the tree of a machine on which nothing but the system is installed. -/
namespace Flowboard

/-- Why a file is not read or written. -/
inductive FileError where
  | notFound
  | denied
  | present
  | notDirectory
  | isDirectory
  | noSpace
  | notEmpty
  | nameTooLong
  /-- too many links lead to each other -/
  | loop
  | nulByte
  | notText
  deriving DecidableEq, Repr

/-- What the system says about an error. -/
def FileError.reason : FileError → String
  | notFound => "No such file or directory"
  | denied => "Permission denied"
  | present => "File exists"
  | notDirectory => "Not a directory"
  | isDirectory => "Is a directory"
  | noSpace => "No space left on device"
  | notEmpty => "Directory not empty"
  | nameTooLong => "File name too long"
  | loop => "Too many levels of symbolic links"
  | nulByte => "file name contained an unexpected NUL byte"
  | notText => "stream did not contain valid UTF-8"

/-- The number that the system gives to an error, if the error is the system's. -/
def FileError.number? : FileError → Option Nat
  | notFound => some 2
  | denied => some 13
  | present => some 17
  | notDirectory => some 20
  | isDirectory => some 21
  | noSpace => some 28
  | notEmpty => some 39
  | nameTooLong => some 36
  | loop => some 40
  | nulByte => none
  | notText => none

/-- What is said about an error, with the system's number. -/
def FileError.message (e : FileError) : String :=
  match e.number? with
  | some n => e.reason ++ " (os error " ++ String.ofList (Nat.toDigits 10 n) ++ ")"
  | none => e.reason

/-- Something that a program writes to from the start. -/
inductive Outlet where
  | output
  | errors
  deriving DecidableEq, Repr

/-- What a program sees of the files: what it reads under a path, what keeps it from writing there,
and whether what it writes there is part of what it writes anyway. -/
structure Files where
  read : String → Except FileError (List UInt8)
  refusal? : String → Option FileError
  outlet? : String → Option Outlet

/-- A place in the tree: the names on the way to it from the root. -/
abbrev Place := List String

/-- A file whose bytes are kept nowhere. -/
inductive Device where
  /-- has nothing to read and takes everything -/
  | null
  /-- has zeros without end and takes everything -/
  | zero
  /-- has zeros without end and takes nothing -/
  | full
  /-- has bytes of no pattern without end and takes everything -/
  | random
  deriving DecidableEq, Repr

/-- What stands at a place. -/
inductive Entry where
  | directory
  | file (bytes : List UInt8)
  /-- a file that can be run; its bytes are not text -/
  | program
  | device (d : Device)
  /-- a pipe with what has not been read of it -/
  | pipe (bytes : List UInt8)
  /-- another name for what stands under a path, which starts beside the link -/
  | link (target : String)
  deriving DecidableEq, Repr

/-- The permissions of what nobody has given others, as three octal digits. -/
def Entry.mode : Entry → Nat
  | .directory | .program => 0o755
  | .file _ => 0o644
  | .device _ => 0o666
  | .pipe _ => 0o600
  | .link _ => 0o777

/-- Directories and files, and the directory from which paths start that have no slash in front. -/
structure FileSystem where
  entries : Table Entry
  here : Place
  /-- the permissions that files have been given, by their paths -/
  modes : Table Nat := []

namespace FileSystem

/-- The path of a place. -/
def pathOf (p : Place) : String :=
  "/" ++ "/".intercalate p

/-- What stands at a place. -/
def entry? (fs : FileSystem) (p : Place) : Option Entry :=
  if p.isEmpty then some .directory else fs.entries.get? (pathOf p)

/-- The greatest number of bytes in a name. -/
def nameLimit : Nat := 255

/-- The number of bytes that a path stays below. -/
def pathLimit : Nat := 4096

/-- The greatest number of links on the way to a file. -/
def linkLimit : Nat := 40

/-- The names of a path. -/
def namesOf (path : String) : List String :=
  (path.splitOn "/").filter (· ≠ "")

/-- The directory that names lead to from a directory over some links. Each name uses up one of the
fuel. -/
def enterWithin (fs : FileSystem) : Nat → Nat → Place → List String → Except FileError Place
  | 0, _, _, _ => .error .loop
  | fuel + 1, links, p, names =>
    match names with
    | [] => .ok p
    | "." :: rest => fs.enterWithin fuel links p rest
    | ".." :: rest => fs.enterWithin fuel links p.dropLast rest
    | name :: rest =>
      if nameLimit < name.utf8ByteSize then .error .nameTooLong
      else
        match fs.entry? (p ++ [name]) with
        | none => .error .notFound
        | some .directory => fs.enterWithin fuel links (p ++ [name]) rest
        | some (.link t) =>
          match links with
          | 0 => .error .loop
          | links + 1 =>
            fs.enterWithin fuel links (if t.startsWith "/" then [] else p) (namesOf t ++ rest)
        | some _ => .error .notDirectory

/-- The directory that names lead to from a directory. -/
def enter (fs : FileSystem) (p : Place) (names : List String) : Except FileError Place :=
  fs.enterWithin (pathLimit * (linkLimit + 2)) linkLimit p names

/-- Where a path leads to. -/
structure Spot where
  place : Place
  /-- the last name of the path, which is none for the root, `.` and `..` -/
  name : Option String
  /-- slashes follow the last name -/
  slashed : Bool
  deriving DecidableEq, Repr

/-- Where a path leads to from a directory, if all but the last of its names lead to directories.
If the last one is a link, it is followed if `follow` holds or slashes follow it. -/
def locateFrom (fs : FileSystem) (follow : Bool) : Nat → Place → String → Except FileError Spot
  | links, start, path =>
    let start := if path.startsWith "/" then [] else start
    let names := namesOf path
    match names.getLast? with
    | none => .ok ⟨start, none, false⟩
    | some last =>
      match fs.enter start names.dropLast with
      | .error e => .error e
      | .ok p =>
        let slashed := path.endsWith "/"
        if last = "." then .ok ⟨p, none, false⟩
        else if last = ".." then .ok ⟨p.dropLast, none, false⟩
        else
          match fs.entry? (p ++ [last]), links with
          | some (.link t), links + 1 =>
            if follow || slashed then
              (fs.locateFrom follow links p t).map fun s =>
                { s with slashed := s.slashed || slashed }
            else .ok ⟨p ++ [last], some last, slashed⟩
          | some (.link _), 0 => .error .loop
          | _, _ => .ok ⟨p ++ [last], some last, slashed⟩

/-- Where a path leads to, with a choice whether a link at its end is followed. -/
def locateWith (fs : FileSystem) (follow : Bool) (path : String) : Except FileError Spot :=
  if path.toList.contains '\x00' then .error .nulByte
  else if path = "" then .error .notFound
  else if pathLimit ≤ path.utf8ByteSize then .error .nameTooLong
  else fs.locateFrom follow linkLimit fs.here path

/-- Where a path leads to after all links. -/
def locate (fs : FileSystem) (path : String) : Except FileError Spot :=
  fs.locateWith true path

/-- Where a path leads to, with a link at its end for itself. -/
def locateOwn (fs : FileSystem) (path : String) : Except FileError Spot :=
  fs.locateWith false path

/-- What stands at a spot, if anything does. Only a directory can have slashes after its name. -/
def look (fs : FileSystem) (s : Spot) : Except FileError (Option Entry) :=
  if s.name.any fun n => nameLimit < n.utf8ByteSize then .error .nameTooLong
  else
    match fs.entry? s.place with
    | none => .ok none
    | some .directory => .ok (some .directory)
    | some e => if s.slashed then .error .notDirectory else .ok (some e)

/-- What stands under a path. -/
def find (fs : FileSystem) (path : String) : Except FileError Entry :=
  match fs.locate path with
  | .error e => .error e
  | .ok s =>
    match fs.look s with
    | .error e => .error e
    | .ok none => .error .notFound
    | .ok (some e) => .ok e

/-- What stands under a path, links for themselves. -/
def findOwn (fs : FileSystem) (path : String) : Except FileError Entry :=
  match fs.locateOwn path with
  | .error e => .error e
  | .ok s =>
    match fs.look s with
    | .error e => .error e
    | .ok none => .error .notFound
    | .ok (some e) => .ok e

/-- The first bytes of every program. -/
def programBytes : List UInt8 :=
  [0x7F, 0x45, 0x4C, 0x46, 0x02, 0x01, 0x01, 0x00, 0xF3, 0x0F, 0x1E, 0xFA]

/-- The bytes under a path. Those of a device without end are left out. -/
def read (fs : FileSystem) (path : String) : Except FileError (List UInt8) :=
  match fs.find path with
  | .error e => .error e
  | .ok .directory => .error .isDirectory
  | .ok (.file bytes) => .ok bytes
  | .ok .program => .ok programBytes
  | .ok (.device _) => .ok []
  | .ok (.pipe bytes) => .ok bytes
  | .ok (.link _) => .error .loop

/-- Puts something at a place. -/
def put (fs : FileSystem) (p : Place) (e : Entry) : FileSystem :=
  { fs with entries := fs.entries.insert (pathOf p) e }

/-- The tree after a file has been written under a path. -/
def write (fs : FileSystem) (path : String) (bytes : List UInt8) :
    Except FileError FileSystem :=
  match fs.locate path with
  | .error e => .error e
  | .ok s =>
    if s.name.isNone || s.slashed then .error .isDirectory
    else
      match fs.look s with
      | .error e => .error e
      | .ok (some .directory) => .error .isDirectory
      | .ok (some (.device .full)) => if bytes.isEmpty then .ok fs else .error .noSpace
      | .ok (some (.device _)) => .ok fs
      | .ok (some (.pipe old)) => .ok (fs.put s.place (.pipe (old ++ bytes)))
      | .ok _ => .ok (fs.put s.place (.file bytes))

/-- The path of a place with a slash after it. -/
def slashedPath (p : Place) : String :=
  if p.isEmpty then "/" else pathOf p ++ "/"

/-- The names in a directory, in order. -/
def names (fs : FileSystem) (p : Place) : List String :=
  let start := slashedPath p
  fs.entries.filterMap fun (path, _) =>
    if path.startsWith start then
      let rest := (path.toList.drop start.length)
      if rest.isEmpty || rest.contains '/' then none else some (String.ofList rest)
    else none

/-- Takes away what stands at a place, with everything below it. -/
def erase (fs : FileSystem) (p : Place) : FileSystem :=
  let start := slashedPath p
  let stays (path : String) : Bool := path != pathOf p && !path.startsWith start
  { fs with
    entries := fs.entries.filter fun (path, _) => stays path
    modes := fs.modes.filter fun (path, _) => stays path }

/-- The permissions of what stands at a place. -/
def modeAt (fs : FileSystem) (p : Place) : Nat :=
  (fs.modes.get? (pathOf p)).getD (((fs.entry? p).map Entry.mode).getD 0)

/-- Gives what stands at a place permissions. -/
def setMode (fs : FileSystem) (p : Place) (mode : Nat) : FileSystem :=
  { fs with modes := fs.modes.insert (pathOf p) mode }

/-- Whether what stands at a place may be run, or entered if it is a directory. -/
def isRunnable (fs : FileSystem) (p : Place) : Bool :=
  Nat.land (fs.modeAt p) 0o111 != 0

/-- Copies what stands at a place, with everything below it. -/
def copy (fs : FileSystem) (a b : Place) : FileSystem :=
  let start := slashedPath a
  let moved (path : String) : Option String :=
    if path = pathOf a then some (pathOf b)
    else if path.startsWith start then
      some (slashedPath b ++ String.ofList (path.toList.drop start.length))
    else none
  let into {α : Type} (t : Table α) : Table α :=
    t.foldl (fun out (path, x) => match moved path with
      | some path => Table.insert path x out
      | none => out) t
  { fs with entries := into fs.entries, modes := into fs.modes }

/-- Makes a directory. -/
def makeDirectory (fs : FileSystem) (path : String) : Except FileError FileSystem :=
  match fs.locate path with
  | .error e => .error e
  | .ok s =>
    match fs.look s with
    | .ok none => .ok (fs.put s.place .directory)
    | .ok (some _) => .error .present
    | .error .notDirectory => .error .present
    | .error e => .error e

/-- The tree as a program sees it. -/
def files (fs : FileSystem) : Files where
  read := fs.read
  refusal? path :=
    match fs.write path [0x0A] with
    | .ok _ => none
    | .error e => some e
  outlet? path :=
    match fs.locate path with
    | .ok s =>
      if s.place = ["proc", "self", "fd", "1"] then some .output
      else if s.place = ["proc", "self", "fd", "2"] then some .errors
      else none
    | .error _ => none

/-- The directories, with slashes between their names. -/
def standardDirectories : List String :=
  ["boot", "dev", "dev/pts", "dev/shm", "etc", "etc/alternatives", "etc/apt",
   "etc/default", "etc/init.d", "etc/profile.d", "etc/ssl", "home", "media", "mnt", "opt", "proc",
   "proc/self", "proc/self/fd", "root", "run",
   "run/lock", "srv", "sys", "tmp", "usr", "usr/bin", "usr/games", "usr/include", "usr/lib",
   "usr/lib64", "usr/libexec", "usr/local", "usr/local/bin", "usr/local/etc", "usr/local/games",
   "usr/local/include", "usr/local/lib", "usr/local/sbin", "usr/local/share", "usr/local/src",
   "usr/sbin", "usr/share", "usr/share/doc", "usr/src", "var", "var/backups", "var/cache",
   "var/lib", "var/local", "var/log", "var/mail", "var/opt", "var/spool", "var/tmp"]

/-- Other names of directories. -/
def standardLinks : List (String × String) :=
  [("bin", "usr/bin"), ("dev/fd", "/proc/self/fd"), ("dev/stderr", "/proc/self/fd/2"),
   ("dev/stdin", "/proc/self/fd/0"), ("dev/stdout", "/proc/self/fd/1"), ("lib", "usr/lib"),
   ("lib64", "usr/lib64"), ("sbin", "usr/sbin"), ("proc/self/fd/0", "/dev/null"),
   ("var/lock", "/run/lock"), ("var/run", "/run")]

def standardDevices : List (String × Device) :=
  [("dev/full", .full), ("dev/null", .null), ("dev/random", .random), ("dev/urandom", .random),
   ("dev/zero", .zero)]

/-- What a program finds under the numbers that it can write to from the start. -/
def standardOutlets : List String :=
  ["proc/self/fd/1", "proc/self/fd/2"]

/-- The files with text that every such machine has. -/
def standardFiles : List (String × String) :=
  [("etc/group", "root:x:0:\n"), ("etc/hostname", "localhost\n"),
   ("etc/hosts", "127.0.0.1\tlocalhost\n"), ("etc/passwd", "root:x:0:0:root:/root:/bin/bash\n"),
   ("etc/profile", "# /etc/profile\n"), ("etc/resolv.conf", "nameserver 127.0.0.1\n"),
   ("etc/shells", "/bin/sh\n/bin/bash\n")]

/-- The tree with certain programs and an empty working directory. -/
def standard (programs : List String) : FileSystem :=
  let here : Place := ["tmp", "work"]
  let entries : List (String × Entry) :=
    standardDirectories.map (fun p => ("/" ++ p, Entry.directory)) ++
    standardLinks.map (fun (p, t) => ("/" ++ p, Entry.link t)) ++
    standardDevices.map (fun (p, d) => ("/" ++ p, Entry.device d)) ++
    standardOutlets.map (fun p => ("/" ++ p, Entry.pipe [])) ++
    standardFiles.map (fun (p, s) => ("/" ++ p, Entry.file s.toUTF8.data.toList)) ++
    programs.map (fun p => ("/usr/bin/" ++ p, Entry.program)) ++
    [(pathOf here, .directory)]
  { entries := entries.foldl (fun t (p, e) => t.insert p e) [], here
    modes := (Table.insert "/tmp" 0o1777 []).insert "/var/tmp" 0o1777 }

/-- The same tree with a file in the working directory. -/
def withFile (fs : FileSystem) (name : String) (bytes : List UInt8) : FileSystem :=
  fs.put (fs.here ++ [name]) (.file bytes)

end FileSystem

end Flowboard
