import Flowboard.Text.Integer
import Flowboard.Utility.Basic

/-! Permissions of files, and programs that make, move and take away files. -/
namespace Flowboard.Utility

namespace Mode

/-- The mode that octal digits say. -/
def ofText? (text : String) : Option Nat :=
  let cs := text.toList
  if !cs.isEmpty && cs.all fun c => '0' ≤ c && c ≤ '7' then
    let n := cs.foldl (fun n c => 8 * n + (c.toNat - 48)) 0
    if n ≤ 0o7777 then some n else none
  else none

/-- The nine letters of a mode. -/
def text (mode : Nat) : String :=
  let three (bits : Nat) (special : Bool) (mark : Char) : List Char :=
    [if bits / 4 % 2 = 1 then 'r' else '-', if bits / 2 % 2 = 1 then 'w' else '-',
     if special then (if bits % 2 = 1 then mark else mark.toUpper)
     else if bits % 2 = 1 then 'x' else '-']
  String.ofList (three (mode / 64 % 8) (mode / 2048 % 2 = 1) 's' ++
    three (mode / 8 % 8) (mode / 1024 % 2 = 1) 's' ++ three (mode % 8) (mode / 512 % 2 = 1) 't')

def digits (mode : Nat) : String :=
  String.ofList (Nat.toDigits 8 mode)

end Mode

/-- What is done with one path: the files afterwards and what is told, or what is wrong. -/
abbrev Deed := FileSystem → String → Except String (FileSystem × String)

/-- Does something with each operand, with the files as the one before has left them. -/
def Call.eachPath (c : Call) (operands : List String) (work : Deed) : Effect :=
  let (fs, told, errors) := operands.foldl (fun (fs, told, errors) path =>
    match work fs path with
    | .ok (fs, text) => (fs, text.toList :: told, errors)
    | .error e => (fs, told, (c.name ++ ": " ++ e ++ "\n").toList :: errors))
    (c.files, ([] : List (List Char)), ([] : List (List Char)))
  { files := some fs, output := .of told.reverse.flatten, errors := errors.reverse.flatten
    status := if errors.isEmpty then .success else .failure }

/-- The paths of all directories on the way to a path, and the path. -/
def waypoints (path : String) : List String :=
  let names := path.splitOn "/"
  let paths := (List.range names.length).map fun i => "/".intercalate (names.take (i + 1))
  (paths.filter fun p => p ≠ "" && !p.endsWith "/")

def lastName (path : String) : String :=
  (((path.splitOn "/").filter (· ≠ "")).getLast?).getD "/"

/-- What stands before the last name of a path. -/
def parentPath (path : String) : String :=
  let trimmed := path.toList.reverse.dropWhile (· == '/')
  let parent := (trimmed.dropWhile (· != '/')).dropWhile (· == '/')
  if trimmed.isEmpty then (if path.startsWith "/" then "/" else ".")
  else if !(trimmed.contains '/') then "."
  else if parent.isEmpty then "/"
  else String.ofList parent.reverse

def joinPath (path name : String) : String :=
  if path.endsWith "/" then path ++ name else path ++ "/" ++ name

/-- Gives the file under a path permissions, if a mode is given. -/
def withMode (fs : FileSystem) : FileSystem :=
  fs

def mkdir (c : Call) : Effect :=
  let table : OptionTable :=
    { flags := "pv".toList, valued := ['m']
      long := [("parents", 'p'), ("verbose", 'v'), ("mode", 'm')] }
  c.withOptions table fun o =>
    let told (path : String) : String := if o.has 'v' then
      "mkdir: created directory " ++ quotedName path ++ "\n" else ""
    let wrong (path : String) (e : FileError) : String :=
      "cannot create directory " ++ quotedName path ++ ": " ++ e.reason
    if o.operands.isEmpty then c.misused 1 "missing operand"
    else c.eachPath o.operands fun fs path =>
      if o.has 'p' then
        (waypoints path).foldlM (fun (fs, text) p =>
          match fs.find p with
          | .ok .directory => .ok (fs, text)
          | .ok _ => .error (wrong p (if p = path then .present else .notDirectory))
          | .error _ =>
            match FileSystem.makeDirectory fs p with
            | .ok fs => .ok (if p = path then withMode fs else fs, text ++ told p)
            | .error e => .error (wrong p e)) (fs, "")
      else
        match fs.makeDirectory path with
        | .ok fs => .ok (withMode fs, told path)
        | .error e => .error (wrong path e)

def rmdir (c : Call) : Effect :=
  let table : OptionTable :=
    { flags := "pvi".toList
      long := [("parents", 'p'), ("verbose", 'v'), ("ignore-fail-on-non-empty", 'i')] }
  c.withOptions table fun o =>
    if o.operands.isEmpty then c.misused 1 "missing operand"
    else c.eachPath o.operands fun fs path =>
      let paths := if o.has 'p' then (waypoints path).reverse else [path]
      paths.foldlM (fun (fs, text) path =>
        let failure (e : FileError) : Except String (FileSystem × String) :=
          if e == .notEmpty && o.has 'i' then .ok (fs, text)
          else .error ("failed to remove " ++ quotedName path ++ ": " ++ e.reason)
        match FileSystem.locateOwn fs path with
        | .error e => failure e
        | .ok s =>
          match fs.look s with
          | .ok (some .directory) =>
            if (fs.names s.place).isEmpty then
              .ok (fs.erase s.place, text ++ (if o.has 'v' then
                "rmdir: removing directory, " ++ quotedName path ++ "\n" else ""))
            else failure .notEmpty
          | .ok (some _) => failure .notDirectory
          | .ok none => failure .notFound
          | .error e => failure e) (fs, "")

/-- The paths below a place, what lies deeper first. Each level uses up one of the fuel. -/
def pathsBelow (fs : FileSystem) : Nat → Place → String → List (String × Bool)
  | 0, _, _ => []
  | fuel + 1, p, path =>
    let directory := fs.entry? p == some .directory
    let below := if directory then
        (fs.names p).flatMap fun n => pathsBelow fs fuel (p ++ [n]) (joinPath path n)
      else []
    below ++ [(path, directory)]

def rm (c : Call) : Effect :=
  let table : OptionTable :=
    { flags := "frRiIvd".toList
      long := [("force", 'f'), ("recursive", 'r'), ("verbose", 'v'), ("dir", 'd')] }
  c.withOptions table fun o =>
    let force := o.has 'f'
    if o.operands.isEmpty && !force then c.misused 1 "missing operand"
    else c.eachPath o.operands fun fs path =>
      let failure (e : FileError) : Except String (FileSystem × String) :=
        if force && (e == .notFound || e == .notDirectory) then .ok (fs, "")
        else .error ("cannot remove " ++ quotedName path ++ ": " ++ e.reason)
      let last := lastName path
      if (last = "." || last = "..") && (o.has 'r' || o.has 'R') then
        .error ("refusing to remove '.' or '..' directory: skipping " ++ quotedName path)
      else
        match fs.locateOwn path with
        | .error e => failure e
        | .ok s =>
          let gone : Except String (FileSystem × String) :=
            .ok (fs.erase s.place, if o.has 'v' then
              String.join ((pathsBelow fs 64 s.place path).map fun (p, directory) =>
                (if directory then "removed directory " else "removed ") ++ quotedName p ++ "\n")
              else "")
          match fs.look s with
          | .ok (some .directory) =>
            if o.has 'r' || o.has 'R' then gone
            else if o.has 'd' then
              if (fs.names s.place).isEmpty then gone else failure .notEmpty
            else failure .isDirectory
          | .ok (some _) => gone
          | .ok none => failure .notFound
          | .error e => failure e

def unlink (c : Call) : Effect :=
  match c.args with
  | [] => c.misused 1 "missing operand"
  | [path] =>
    c.eachPath [path] fun fs path =>
      let failure (e : FileError) : Except String (FileSystem × String) :=
        .error ("cannot unlink " ++ quotedName path ++ ": " ++ e.reason)
      match fs.locateOwn path with
      | .error e => failure e
      | .ok s =>
        match fs.look s with
        | .ok (some .directory) => failure .isDirectory
        | .ok (some _) => .ok (fs.erase s.place, "")
        | .ok none => failure .notFound
        | .error e => failure e
  | _ :: extra :: _ => c.misused 1 ("extra operand " ++ quotedName extra)

def touch (c : Call) : Effect :=
  let table : OptionTable :=
    { flags := "acmfh".toList, valued := "tdr".toList
      long := [("no-create", 'c'), ("date", 'd'), ("reference", 'r')] }
  c.withOptions table fun o =>
    if o.operands.isEmpty then c.misused 1 "missing file operand"
    else c.eachPath o.operands fun fs path =>
      let failure (e : FileError) : Except String (FileSystem × String) :=
        .error ("cannot touch " ++ quotedName path ++ ": " ++ e.reason)
      match fs.find path with
      | .ok _ => .ok (fs, "")
      | .error .notFound =>
        if o.has 'c' then .ok (fs, "")
        else
          match fs.write path [] with
          | .ok fs => .ok (fs, "")
          | .error .isDirectory => failure .notFound
          | .error e => failure e
      | .error e => failure e

/-- The paths of operands that go to a target: into it if it is a directory. -/
def aims (c : Call) (o : Options) (verb : String) (fs : FileSystem) :
    Except Effect (List (String × String)) :=
  let isDirectory (path : String) : Bool := match fs.find path with
    | .ok .directory => true
    | _ => false
  let into (target : String) (sources : List String) : List (String × String) :=
    sources.map fun s => (s, joinPath target (lastName s))
  match o.value? 't', o.operands.reverse with
  | some target, _ =>
    if isDirectory target then .ok (into target o.operands)
    else .error (c.fails 1 ("target directory " ++ quotedName target ++ ": " ++
      (match fs.find target with
        | .error e => e.reason
        | .ok _ => FileError.notDirectory.reason)))
  | none, [] => .error (c.misused 1 "missing file operand")
  | none, [only] =>
    if verb = "link" then .ok [(only, lastName only)]
    else .error (c.misused 1 ("missing destination file operand after " ++ quotedName only))
  | none, target :: sources =>
    let sources := sources.reverse
    if o.has 'T' then .ok (sources.map fun s => (s, target))
    else if isDirectory target && !(verb = "link" && o.has 'n') then .ok (into target sources)
    else
      match sources with
      | [source] => .ok [(source, target)]
      | _ => .error (c.fails 1 ("target " ++ quotedName target ++ ": " ++
          (match fs.find target with
            | .error e => e.reason
            | .ok _ => FileError.notDirectory.reason)))

def Call.eachPair (c : Call) (pairs : List (String × String))
    (work : FileSystem → String → String → Except String (FileSystem × String)) : Effect :=
  let (fs, told, errors) := pairs.foldl (fun (fs, told, errors) (a, b) =>
    match work fs a b with
    | .ok (fs, text) => (fs, text.toList :: told, errors)
    | .error e => (fs, told, (c.name ++ ": " ++ e ++ "\n").toList :: errors))
    (c.files, ([] : List (List Char)), ([] : List (List Char)))
  { files := some fs, output := .of told.reverse.flatten, errors := errors.reverse.flatten
    status := if errors.isEmpty then .success else .failure }

/-- Whether a place is another one or lies below it. -/
def liesIn (inner outer : Place) : Bool :=
  outer.isPrefixOf inner

def cp (c : Call) : Effect :=
  let table : OptionTable :=
    { flags := "frRnipvaTLPHdulsxb".toList, valued := ['t']
      long := [("force", 'f'), ("recursive", 'r'), ("no-clobber", 'n'), ("verbose", 'v'),
        ("archive", 'a'), ("target-directory", 't'), ("no-target-directory", 'T'),
        ("update", 'u'), ("dereference", 'L'), ("symbolic-link", 's'), ("link", 'l'),
        ("parents", 'x')] }
  c.withOptions table fun o =>
    match aims c o "copy" c.files with
    | .error e => e
    | .ok pairs =>
      let deep := o.has 'r' || o.has 'R' || o.has 'a'
      let keepsLinks := o.has 'a' || o.has 'P' || o.has 'd' || (deep && !o.has 'L')
      c.eachPair pairs fun fs a b =>
        let told := if o.has 'v' then quotedName a ++ " -> " ++ quotedName b ++ "\n" else ""
        let unseen (e : FileError) : Except String (FileSystem × String) :=
          .error ("cannot stat " ++ quotedName a ++ ": " ++ e.reason)
        match fs.locateWith (!keepsLinks) a with
        | .error e => unseen e
        | .ok origin =>
          match fs.look origin with
          | .error e => unseen e
          | .ok none => unseen .notFound
          | .ok (some .directory) =>
            if !deep then .error ("-r not specified; omitting directory " ++ quotedName a)
            else
              match fs.locate b with
              | .error e => .error ("cannot create directory " ++ quotedName b ++ ": " ++ e.reason)
              | .ok s =>
                match fs.look s with
                | .ok (some .directory) | .ok none =>
                  if liesIn s.place origin.place then
                    .error ("cannot copy a directory, " ++ quotedName a ++ ", into itself, " ++
                      quotedName b)
                  else .ok (fs.copy origin.place s.place, told)
                | .ok (some _) =>
                  .error ("cannot overwrite non-directory " ++ quotedName b ++
                    " with directory " ++ quotedName a)
                | .error e =>
                  .error ("cannot create directory " ++ quotedName b ++ ": " ++ e.reason)
          | .ok (some e) =>
            let unmade (e : FileError) : Except String (FileSystem × String) :=
              .error ("cannot create regular file " ++ quotedName b ++ ": " ++ e.reason)
            match fs.locate b with
            | .error e => unmade e
            | .ok s =>
              match fs.look s with
              | .ok old =>
                if s.place == origin.place then
                  .error (quotedName a ++ " and " ++ quotedName b ++ " are the same file")
                else if o.has 'n' && old.isSome then .ok (fs, "")
                else if s.slashed then unmade .notDirectory
                else if o.has 's' then .ok (fs.put s.place (.link a), told)
                else
                  match e, old with
                  | .file _, _ | .device _, _ | .pipe _, _ =>
                    let bytes := match e with
                      | .file bytes => bytes
                      | _ => []
                    match fs.write b bytes with
                    | .ok new =>
                      let mode := fs.modeAt origin.place
                      .ok (if old.isNone then new.setMode s.place mode else new, told)
                    | .error e => unmade e
                  | e, _ => .ok (fs.put s.place e, told)
              | _ => .error ("cannot overwrite directory " ++ quotedName b ++ " with non-directory")

def mv (c : Call) : Effect :=
  let table : OptionTable :=
    { flags := "fnivTub".toList, valued := ['t']
      long := [("force", 'f'), ("no-clobber", 'n'), ("verbose", 'v'), ("target-directory", 't'),
        ("no-target-directory", 'T'), ("update", 'u')] }
  c.withOptions table fun o =>
    match aims c o "move" c.files with
    | .error e => e
    | .ok pairs =>
      c.eachPair pairs fun fs a b =>
        let told := if o.has 'v' then
          "renamed " ++ quotedName a ++ " -> " ++ quotedName b ++ "\n" else ""
        let unseen (e : FileError) : Except String (FileSystem × String) :=
          .error ("cannot stat " ++ quotedName a ++ ": " ++ e.reason)
        let unmoved (e : FileError) : Except String (FileSystem × String) :=
          .error ("cannot move " ++ quotedName a ++ " to " ++ quotedName b ++ ": " ++ e.reason)
        match fs.locateOwn a with
        | .error e => unseen e
        | .ok origin =>
          match fs.look origin with
          | .error e => unseen e
          | .ok none => unseen .notFound
          | .ok (some e) =>
            match fs.locateOwn b with
            | .error e => unmoved e
            | .ok s =>
              match fs.look s with
              | .error e => unmoved e
              | .ok old =>
                if s.place == origin.place then
                  .error (quotedName a ++ " and " ++ quotedName b ++ " are the same file")
                else if o.has 'n' && old.isSome then .ok (fs, "")
                else if e == .directory && liesIn s.place origin.place then
                  .error ("cannot move " ++ quotedName a ++ " to a subdirectory of itself, " ++
                    quotedName b)
                else
                  let moved : Except String (FileSystem × String) :=
                    .ok ((fs.erase s.place |>.copy origin.place s.place).erase origin.place, told)
                  match e, old with
                  | .directory, some .directory =>
                    if (fs.names s.place).isEmpty then moved
                    else .error ("cannot overwrite " ++ quotedName b ++ ": " ++
                      FileError.notEmpty.reason)
                  | .directory, some _ =>
                    .error ("cannot overwrite non-directory " ++ quotedName b ++
                      " with directory " ++ quotedName a)
                  | _, some .directory =>
                    .error ("cannot overwrite directory " ++ quotedName b ++
                      " with non-directory " ++ quotedName a)
                  | .directory, none => moved
                  | _, _ => if s.slashed then unmoved .notDirectory else moved

def ln (c : Call) : Effect :=
  let table : OptionTable :=
    { flags := "sfnvTriLPb".toList, valued := ['t']
      long := [("symbolic", 's'), ("force", 'f'), ("no-dereference", 'n'), ("verbose", 'v'),
        ("target-directory", 't'), ("no-target-directory", 'T'), ("relative", 'r')] }
  c.withOptions table fun o =>
    match aims c o "link" c.files with
    | .error e => e
    | .ok pairs =>
      let kind := if o.has 's' then "symbolic" else "hard"
      c.eachPair pairs fun fs a b =>
        let told := if o.has 'v' then quotedName b ++ (if o.has 's' then " -> " else " => ") ++
          quotedName a ++ "\n" else ""
        let failure (e : FileError) : Except String (FileSystem × String) :=
          .error ("failed to create " ++ kind ++ " link " ++ quotedName b ++
            (if o.has 's' || e == .present then "" else " => " ++ quotedName a) ++ ": " ++ e.reason)
        let source : Except String Entry := if o.has 's' then .ok (.link a)
          else
            match fs.findOwn a with
            | .ok .directory => .error (plainName a ++ ": hard link not allowed for directory")
            | .ok e => .ok e
            | .error e => .error ("failed to access " ++ quotedName a ++ ": " ++ e.reason)
        source.bind fun e =>
          match fs.locateOwn b with
          | .error e => failure e
          | .ok s =>
            match fs.look s with
            | .error e => failure e
            | .ok none => .ok (fs.put s.place e, told)
            | .ok (some .directory) =>
              if o.has 'f' then .error (plainName b ++ ": cannot overwrite directory")
              else failure .present
            | .ok (some _) => if o.has 'f' then .ok (fs.put s.place e, told) else failure .present

/-- Gives a file another name. -/
def link (c : Call) : Effect :=
  match c.args with
  | [a, b] =>
    c.eachPair [(a, b)] fun fs a b =>
      let failure (e : FileError) : Except String (FileSystem × String) :=
        .error ("cannot create link " ++ quotedName b ++ " to " ++ quotedName a ++ ": " ++ e.reason)
      match fs.findOwn a, fs.locateOwn b with
      | .error e, _ | _, .error e => failure e
      | .ok e, .ok s =>
        if (fs.entry? s.place).isSome then failure .present else .ok (fs.put s.place e, "")
  | [] => c.misused 1 "missing operand"
  | [a] => c.misused 1 ("missing operand after " ++ quotedName a)
  | _ :: _ :: extra :: _ => c.misused 1 ("extra operand " ++ quotedName extra)

/-- Copies files and gives them permissions, or makes directories. -/
def install (c : Call) : Effect :=
  let table : OptionTable :=
    { flags := "dDvpcTsC".toList, valued := "mtog".toList
      long := [("directory", 'd'), ("mode", 'm'), ("verbose", 'v'), ("target-directory", 't')] }
  c.withOptions table fun o =>
    if o.has 'd' then
      if o.operands.isEmpty then c.misused 1 "missing file operand"
      else c.eachPath o.operands fun fs path =>
        (waypoints path).foldlM (fun (fs, text) p =>
          match FileSystem.makeDirectory fs p with
          | .ok fs =>
            .ok (if p = path then withMode fs else fs, text ++ (if o.has 'v' then
              "install: creating directory " ++ quotedName p ++ "\n" else ""))
          | .error e => .error ("cannot create directory " ++ quotedName p ++ ": " ++ e.reason))
          (fs, "")
    else
      match aims c o "install" c.files with
      | .error e => e
      | .ok pairs =>
        c.eachPair pairs fun fs a b =>
          let fs := if o.has 'D' then (waypoints (parentPath b)).foldl (fun fs p =>
            (FileSystem.makeDirectory fs p).toOption.getD fs) fs else fs
          match fs.find a with
          | .error e => .error ("cannot stat " ++ quotedName a ++ ": " ++ e.reason)
          | .ok .directory => .error ("omitting directory " ++ quotedName a)
          | .ok _ =>
            match fs.write b ((fs.read a).toOption.getD []) with
            | .ok fs => .ok (withMode fs, if o.has 'v' then
                quotedName a ++ " -> " ++ quotedName b ++ "\n" else "")
            | .error e =>
              .error ("cannot create regular file " ++ quotedName b ++ ": " ++ e.reason)

end Flowboard.Utility
