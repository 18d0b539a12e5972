import Flowboard.Shell.Pattern
import Flowboard.Utility.Fields
import Flowboard.Utility.Place

/-! Programs that tell which files there are and what they are like. -/
namespace Flowboard.Utility

/-- The kind of a file in words. -/
def kindOf : Entry → String
  | .directory => "directory"
  | .link _ => "symbolic link"
  | .file [] => "regular empty file"
  | .file _ => "regular file"
  | .program => "regular file"
  | .device _ => "character special file"
  | .pipe _ => "fifo"

def sizeOf : Entry → Nat
  | .file bytes => bytes.length
  | .program => FileSystem.programBytes.length
  | .device _ | .pipe _ => 0
  | .link t => t.utf8ByteSize
  | .directory => 4096

/-- The number of blocks of 1024 bytes that a file takes. -/
def blocksOf (e : Entry) : Nat :=
  match e with
  | .link _ | .device _ | .pipe _ => 0
  | e => (sizeOf e + 4095) / 4096 * 4

def kindLetter : Entry → Char
  | .directory => 'd'
  | .link _ => 'l'
  | .device _ => 'c'
  | .pipe _ => 'p'
  | _ => '-'

def namesCount (fs : FileSystem) (p : Place) : Nat :=
  if fs.entry? p == some .directory then
    2 + ((fs.names p).filter fun n => fs.entry? (p ++ [n]) == some .directory).length
  else 1

/-- What one letter of a format tells of a file. -/
def statField (fs : FileSystem) (p : Place) (e : Entry) (c : Char) : String :=
  let mode := fs.modeAt p
  match c with
  | 's' => Text.naturalText (sizeOf e)
  | 'F' => kindOf e
  | 'a' => Mode.digits mode
  | 'h' => Text.naturalText (namesCount fs p)
  | c => "?" ++ (if c.isAlpha then "" else c.toString)

/-- A format with what it tells of a file; a field may have a width. -/
def statText (field : Char → String) (escapes : Bool) : Nat → List Char → List Char
  | 0, _ => []
  | _, [] => []
  | fuel + 1, '%' :: rest =>
    let flags := rest.takeWhile fun c => c == '-' || c == '0'
    let rest := rest.drop flags.length
    let digits := rest.takeWhile Char.isDigit
    match rest.drop digits.length with
    | c :: rest =>
      let width := (Text.natural? digits).getD 0
      let body := (field c).toList
      (if flags.contains '-' then Text.padRight width body else Text.padLeft width body) ++
        statText field escapes fuel rest
    | [] => ['%']
  | fuel + 1, '\\' :: c :: rest =>
    if escapes then
      let text := match c with
        | 'n' => ['\n']
        | 't' => ['\t']
        | '\\' => ['\\']
        | c => [c]
      text ++ statText field escapes fuel rest
    else '\\' :: statText field escapes fuel (c :: rest)
  | fuel + 1, c :: rest => c :: statText field escapes fuel rest

/-- Tells what its operands are like, after a format. -/
def stat (c : Call) : Effect :=
  let table : OptionTable :=
    { flags := "Ltf".toList, valued := "cP".toList
      long := [("format", 'c'), ("printf", 'P'), ("dereference", 'L'), ("terse", 't')] }
  c.withOptions table fun o =>
    if o.operands.isEmpty then c.misused 1 "missing operand"
    else
      let effects := o.operands.map fun path =>
        match c.files.locateWith (o.has 'L') path,
            (if o.has 'L' then c.files.find path else c.files.findOwn path) with
        | .ok s, .ok e =>
          let field := statField c.files s.place e
          match o.value? 'P' with
          | some format => Effect.writing (statText field true (format.length + 1) format.toList)
          | none =>
            let format := (o.value? 'c').getD "  File: %N\n  Size: %s\tBlocks: %b\tIO Block: %o\t%F"
            Effect.writing (statText field false (format.length + 1) format.toList ++ ['\n'])
        | .error e, _ => c.fails 1 ("cannot statx " ++ quotedName path ++ ": " ++ e.reason)
        | _, .error e => c.fails 1 ("cannot statx " ++ quotedName path ++ ": " ++ e.reason)
      effects.foldl Effect.followed {}

/-- The path without links and dots. All of it has to be there if `all`, all but the last name if
`parents`; what is not there stays as it is. -/
def canonical? (fs : FileSystem) (all parents : Bool) (path : String) : Except FileError Place :=
  match fs.locate path with
  | .ok s =>
    match fs.look s with
    | .error e => .error e
    | .ok none => if all then .error .notFound else .ok s.place
    | .ok (some _) => .ok s.place
  | .error e =>
    if all || parents then .error e
    else
      let start := if path.startsWith "/" then [] else fs.here
      .ok ((FileSystem.namesOf path).foldl (fun p n =>
        if n = "." then p
        else if n = ".." then p.dropLast
        else (fs.enter p [n]).toOption.getD (p ++ [n])) start)

/-- Tells what its operands are other names of. -/
def readlink (c : Call) : Effect :=
  let table : OptionTable :=
    { flags := "femnqsvz".toList
      long := [("canonicalize", 'f'), ("canonicalize-existing", 'e'), ("canonicalize-missing", 'm'),
        ("no-newline", 'n'), ("quiet", 'q'), ("verbose", 'v'), ("zero", 'z')] }
  c.withOptions table fun o =>
    let ending := if o.has 'z' then "\x00" else if o.has 'n' && o.operands.length = 1 then ""
      else "\n"
    if o.operands.isEmpty then c.misused 1 "missing operand"
    else
      let effects := o.operands.map fun path =>
        let failed (e : FileError) : Effect :=
          if o.has 'v' then c.fails 1 (plainName path ++ ": " ++ e.reason)
          else { status := .failure }
        if o.has 'f' || o.has 'e' || o.has 'm' then
          match canonical? c.files (o.has 'e') (!o.has 'm') path with
          | .ok p => Effect.writing (FileSystem.pathOf p ++ ending).toList
          | .error e => failed e
        else
          match c.files.findOwn path with
          | .ok (.link target) => Effect.writing (target ++ ending).toList
          | .ok _ => { status := .failure }
          | .error e => failed e
      effects.foldl Effect.followed {}

def relativePath (base p : Place) : String :=
  let same := ((base.zip p).takeWhile fun (a, b) => a == b).length
  let names := List.replicate (base.length - same) ".." ++ p.drop same
  if names.isEmpty then "." else "/".intercalate names

/-- The path of an operand without links and dots. -/
def realpath (c : Call) : Effect :=
  let table : OptionTable :=
    { flags := "emsqzLP".toList, valued := "RB".toList
      long := [("canonicalize-existing", 'e'), ("canonicalize-missing", 'm'), ("strip", 's'),
        ("no-symlinks", 's'), ("quiet", 'q'), ("zero", 'z'), ("relative-to", 'R'),
        ("relative-base", 'B')] }
  c.withOptions table fun o =>
    if o.operands.isEmpty then c.misused 1 "missing operand"
    else
      let ending := if o.has 'z' then "\x00" else "\n"
      let effects := o.operands.map fun path =>
        match canonical? c.files (o.has 'e') (!o.has 'm') path with
        | .ok p =>
          let base := (o.value? 'R').bind fun r => (canonical? c.files false false r).toOption
          let text := match base with
            | some base => relativePath base p
            | none => FileSystem.pathOf p
          Effect.writing (text ++ ending).toList
        | .error e =>
          if o.has 'q' then { status := .failure }
          else c.fails 1 (plainName path ++ ": " ++ e.reason)
      effects.foldl Effect.followed {}

/-- The last name of a path, without a certain ending. -/
def basename (c : Call) : Effect :=
  let stripped (name ending : String) : String :=
    if name.endsWith ending && name != ending && ending != "" then
      String.ofList (name.toList.take (name.length - ending.length))
    else name
  let last (path : String) : String := if path = "" then "" else lastName path
  let table : OptionTable :=
    { flags := ['a', 'z'], valued := ['s']
      long := [("multiple", 'a'), ("suffix", 's'), ("zero", 'z')] }
  c.withOptions table fun o =>
    let ending := if o.has 'z' then "\x00" else "\n"
    let several := o.has 'a' || o.has 's'
    match o.operands, several with
    | [], _ => c.misused 1 "missing operand"
    | [path], false => .writing (last path ++ ending).toList
    | [path, suffix], false => .writing (stripped (last path) suffix ++ ending).toList
    | _ :: _ :: extra :: _, false => c.misused 1 ("extra operand " ++ quotedName extra)
    | paths, true =>
      .writing (paths.flatMap fun p =>
        (stripped (last p) ((o.value? 's').getD "") ++ ending).toList)

def dirname (c : Call) : Effect :=
  c.withOptions { flags := ['z'], long := [("zero", 'z')] } fun o =>
    let ending := if o.has 'z' then "\x00" else "\n"
    if o.operands.isEmpty then c.misused 1 "missing operand"
    else .writing (o.operands.flatMap fun p => (parentPath p ++ ending).toList)

/-- A number of bytes with a letter, as short as it gets. -/
def humanSize (n : Nat) : String :=
  if n < 1024 then Text.naturalText n
  else
    let rec go : Nat → Nat → Nat → String
      | 0, _, _ => ""
      | fuel + 1, unit, i =>
        if n < unit * 1024 || fuel = 0 then
          let letter := String.singleton ("KMGTPE".toList.getD i 'E')
          let tenths := (10 * n + unit - 1) / unit
          if tenths < 100 then
            Text.naturalText (tenths / 10) ++ "." ++ Text.naturalText (tenths % 10) ++ letter
          else
            let whole := (n + unit - 1) / unit
            if whole = 1024 && 1 < fuel then go fuel (unit * 1024) (i + 1)
            else Text.naturalText whole ++ letter
        else go fuel (unit * 1024) (i + 1)
    go 6 1024 0

/-- A file in a list. -/
structure ListItem where
  name : String
  place : Place
  entry : Entry

/-- How files are listed. -/
inductive ListForm where
  | lines
  | columns
  | rows
  | commas
  | long
  deriving DecidableEq, Repr

/-- The numbers of characters in the columns of a table with as many columns as fit. -/
def columnWidths (byColumns : Bool) (lengths : List Nat) : List Nat :=
  let n := lengths.length
  let indexed := lengths.zip (List.range n)
  let widths (cols : Nat) : List Nat :=
    let rows := (n + cols - 1) / cols
    indexed.foldl (fun ws (len, i) =>
      let k := if byColumns then i / rows else i % cols
      ws.modify k fun w => max w (len + (if k + 1 = cols then 0 else 2)))
      (List.replicate cols 3)
  let tried := ((List.range (min n 26)).map fun i => widths (i + 1)).filter fun ws =>
    ws.foldl (· + ·) 0 < 80 || ws.length = 1
  tried.getLastD [0]

/-- Tabs and blanks from one column to another one. Each one uses up one of the fuel. -/
def indentText : Nat → Nat → Nat → List Char
  | 0, _, _ => []
  | fuel + 1, from_, aim =>
    if from_ < aim then
      if (from_ + 1) / 8 < aim / 8 then '\t' :: indentText fuel ((from_ / 8 + 1) * 8) aim
      else ' ' :: indentText fuel (from_ + 1) aim
    else []

def tableText (byColumns : Bool) (names : List String) : List Char :=
  let widths := columnWidths byColumns (names.map (·.length))
  let cols := max widths.length 1
  let n := names.length
  let rows := (n + cols - 1) / cols
  (List.range rows).flatMap fun r =>
    let picked := (List.range cols).filterMap fun k =>
      (names[if byColumns then r + k * rows else r * cols + k]?).map fun name => (name, k)
    let (text, _) := picked.foldl (fun (text, place, last) (name, k) =>
      let gap := indentText 200 last place
      (text ++ gap ++ name.toList, place + widths.getD k 0, place + name.length))
      (([] : List Char), 0, 0)
    text ++ ['\n']

/-- Names with commas between them in lines of a limited length. -/
def commaText (names : List String) : List Char :=
  let (text, _) := names.foldl (fun (text, place, first) name =>
    if first then (name.toList, name.length, false)
    else if place + name.length + 2 < 80 then
      (text ++ ", ".toList ++ name.toList, place + name.length + 2, false)
    else (text ++ ",\n".toList ++ name.toList, name.length, false))
    (([] : List Char), 0, true)
  text ++ ['\n']

/-- Everything about a list apart from what is in it. -/
structure ListStyle where
  form : ListForm
  options : Options

namespace ListStyle

def has (s : ListStyle) (c : Char) : Bool := s.options.has c

/-- The mark behind a name. -/
def mark (s : ListStyle) (fs : FileSystem) (f : ListItem) : String :=
  match f.entry with
  | .directory => if s.has 'F' || s.has 'p' then "/" else ""
  | .link _ => if s.has 'F' && s.form != .long then "@" else ""
  | .device _ => ""
  | .pipe _ => if s.has 'F' then "|" else ""
  | _ => if s.has 'F' && fs.isRunnable f.place then "*" else ""

def shown (s : ListStyle) (name : String) : String :=
  if s.has 'Q' then "\"" ++ (name.replace "\\" "\\\\").replace "\"" "\\\"" ++ "\""
  else if s.has 'b' then String.ofList (name.toList.flatMap fun c =>
    if c = ' ' then "\\ ".toList else if isHidden c then hiddenEscape c else [c])
  else name

/-- Brings files in order. -/
def ordered (s : ListStyle) (files : List ListItem) : List ListItem :=
  let byName (a b : ListItem) : Ordering := compareText a.name.toList b.name.toList
  let order (a b : ListItem) : Ordering := byName a b
  let sorted := files.mergeSort fun a b => order a b != .gt
  let sorted := if s.has 'r' then sorted.reverse else sorted
  if s.has '>' then
    let isDirectory (f : ListItem) : Bool := f.entry == .directory
    sorted.filter isDirectory ++ sorted.filter (!isDirectory ·)
  else sorted

def sizeText (s : ListStyle) (n : Nat) : String :=
  if s.has 'h' then humanSize n else Text.naturalText n

def blockText (s : ListStyle) (n : Nat) : String :=
  if s.has 'h' then humanSize (n * 1024) else Text.naturalText n

def longRows (s : ListStyle) (fs : FileSystem) (files : List ListItem) : List Char :=
  let cells := files.map fun f =>
    let target := match f.entry with
      | .link t => " -> " ++ t
      | _ => ""
    ([String.singleton (kindLetter f.entry) ++ Mode.text (fs.modeAt f.place),
      Text.naturalText (namesCount fs f.place), s.sizeText (sizeOf f.entry)],
     s.shown f.name ++ s.mark fs f ++ target, blocksOf f.entry)
  let width (i : Nat) : Nat := cells.foldl (fun w (row, _) => max w (row.getD i "").length) 0
  let blockWidth := cells.foldl (fun w (_, _, b) => max w (s.blockText b).length) 0
  let owner := if s.has 'n' then "0" else "root"
  cells.flatMap fun (row, name, blocks) =>
    let left (i : Nat) : List Char := Text.padLeft (width i) (row.getD i "").toList
    (if s.has 's' then Text.padLeft blockWidth (s.blockText blocks).toList ++ [' '] else []) ++
      (row.getD 0 "").toList ++ ' ' :: left 1 ++
      (if s.has 'g' then "" else " " ++ owner).toList ++
      (if s.has 'o' || s.has 'G' then "" else " " ++ owner).toList ++ ' ' :: left 2 ++
      " Jan  1 00:00 ".toList ++ name.toList ++ ['\n']

def text (s : ListStyle) (fs : FileSystem) (files : List ListItem) : List Char :=
  let blockWidth := files.foldl (fun w f => max w (s.blockText (blocksOf f.entry)).length) 0
  let names := files.map fun f =>
    (if s.has 's' then String.ofList (Text.padLeft blockWidth
      (s.blockText (blocksOf f.entry)).toList) ++ " " else "") ++
    (if s.has 'i' then Text.naturalText (1000 + f.name.length) ++ " " else "") ++
    s.shown f.name ++ s.mark fs f
  if files.isEmpty then []
  else
    match s.form with
    | .lines => names.flatMap fun n => (n ++ "\n").toList
    | .columns => tableText true names
    | .rows => tableText false names
    | .commas => commaText names
    | .long => s.longRows fs files

/-- The line with the number of blocks of all files. -/
def total (s : ListStyle) (files : List ListItem) : List Char :=
  if s.form = .long || s.has 's' then
    ("total " ++ s.blockText (files.foldl (fun n f => n + blocksOf f.entry) 0) ++ "\n").toList
  else []

/-- The files in a directory. -/
def inside (s : ListStyle) (fs : FileSystem) (p : Place) : List ListItem :=
  let hidden (name : String) : Bool :=
    (name.startsWith "." && !(s.has 'a' || s.has 'A' || s.has 'f')) ||
      (s.has 'B' && name.endsWith "~") ||
      (s.options.values 'I').any fun g => Shell.Glob.fits (Shell.Glob.ofText false g.toList) name.toList
  let names := (fs.names p).filter (!hidden ·)
  let own := names.filterMap fun n => (fs.entry? (p ++ [n])).map fun e => ⟨n, p ++ [n], e⟩
  let dots := if s.has 'a' || s.has 'f' then
    [⟨".", p, .directory⟩, ⟨"..", p.dropLast, .directory⟩] else []
  s.ordered (dots ++ own)

/-- A directory and, if asked for, all below it, each with a heading. -/
def directory (s : ListStyle) (fs : FileSystem) (headed : Bool) : Nat → String → Place → List Char
  | 0, _, _ => []
  | fuel + 1, path, p =>
    let files := s.inside fs p
    let heading := if headed then (s.shown path ++ ":\n").toList else []
    let below := if s.has 'R' then
        (files.filter fun f => f.entry == .directory && f.name != "." && f.name != "..").flatMap
          fun f => '\n' :: s.directory fs true fuel (joinPath path f.name) f.place
      else []
    heading ++ s.total files ++ s.text fs files ++ below

end ListStyle

def lsTable : OptionTable :=
  { flags := "1aAdlrtRhFCpmxQSXisNBUgonkLGqbvcuf>H".toList, valued := "wIT*=".toList
    optional := ['K']
    long := [("all", 'a'), ("almost-all", 'A'), ("directory", 'd'), ("reverse", 'r'),
      ("recursive", 'R'), ("human-readable", 'h'), ("size", 's'), ("inode", 'i'),
      ("quote-name", 'Q'), ("escape", 'b'), ("literal", 'N'), ("no-group", 'G'),
      ("group-directories-first", '>'), ("ignore-backups", 'B'), ("ignore", 'I'), ("sort", '*'),
      ("width", 'w'), ("color", 'K'), ("classify", 'F'), ("file-type", 'F'), ("format", '='),
      ("dereference", 'L'), ("numeric-uid-gid", 'n')] }

/-- The names in directories. -/
def ls (c : Call) : Effect :=
  match Options.readFrom lsTable true (c.args.length + 1) c.args with
  | .error e => c.misused 2 e
  | .ok o =>
    let extra := (o.values '*').filterMap fun
      | "size" => some ('S', "")
      | "extension" => some ('X', "")
      | "version" => some ('v', "")
      | "none" => some ('U', "")
      | _ => none
    let o := { o with given := o.given ++ extra }
    let form := o.given.foldl (fun form (g, v) => match g, v with
      | '1', _ => if form == .long then form else .lines
      | 'C', _ => .columns
      | 'x', _ => .rows
      | 'm', _ => .commas
      | 'l', _ | 'g', _ | 'o', _ | 'n', _ => .long
      | '=', "commas" => .commas
      | '=', "across" => .rows
      | '=', "vertical" => .columns
      | '=', "long" => .long
      | _, _ => form) ListForm.lines
    let style : ListStyle := ⟨form, o⟩
    let operands := if o.operands.isEmpty then ["."] else o.operands
    let follow := !(form == .long || o.has 'F') || o.has 'L' || o.has 'H'
    let found := operands.map fun path =>
      let spot := c.files.locateWith follow path
      -- a link that leads nowhere is listed for itself
      let spot := match spot.bind c.files.look with
        | .ok (some _) => spot
        | _ => c.files.locateOwn path
      match spot with
      | .error e => Except.error (path, e)
      | .ok s =>
        match c.files.look s with
        | .ok (some e) => .ok (⟨path, s.place, e⟩ : ListItem)
        | .ok none => .error (path, .notFound)
        | .error e => .error (path, e)
    let errors := found.flatMap fun
      | .error (path, e) =>
        ("ls: cannot access " ++ quotedName path ++ ": " ++ e.reason ++ "\n").toList
      | .ok _ => []
    let present := style.ordered (found.filterMap Except.toOption)
    let isList (f : ListItem) : Bool := f.entry == .directory && !o.has 'd'
    let plain := present.filter (!isList ·)
    let directories := present.filter isList
    let files := style.text c.files plain
    let headed := 1 < operands.length || o.has 'R'
    let (_, lists) := directories.foldl (fun (first, out) f =>
      (false, out ++ (if first then [] else ['\n']) ++
        style.directory c.files headed 64 f.name f.place)) (files.isEmpty, ([] : List Char))
    { output := .of (files ++ lists), errors
      status := if errors.isEmpty then .success else .ofInt 2 }

/-- The sizes of files and of directories with all below them, what lies deeper first. Each level
uses up one of the fuel. -/
def usage (fs : FileSystem) (bytes all : Bool) : Nat → Nat → Place → String →
    List (Nat × String × Nat) × Nat
  | 0, _, _, _ => ([], 0)
  | fuel + 1, depth, p, path =>
    match fs.entry? p with
    | none => ([], 0)
    | some e =>
      let own := if bytes then sizeOf e else blocksOf e
      if e == .directory then
        let (rows, total) := (fs.names p).foldl (fun (rows, total) n =>
          let (more, size) := usage fs bytes all fuel (depth + 1) (p ++ [n]) (joinPath path n)
          (rows ++ more, total + size)) (([] : List (Nat × String × Nat)), own)
        (rows ++ [(total, path, depth)], total)
      else (if all || depth = 0 then [(own, path, depth)] else [], own)

/-- Tells how much room files take. -/
def du (c : Call) : Effect :=
  let table : OptionTable :=
    { flags := "sabhckmS".toList, valued := "d".toList
      long := [("summarize", 's'), ("all", 'a'), ("bytes", 'b'), ("human-readable", 'h'),
        ("total", 'c'), ("max-depth", 'd'), ("apparent-size", 'A')] }
  c.withOptions table fun o =>
    let deepest := if o.has 's' then some 0 else
      (o.value? 'd').bind fun s => Text.natural? s.toList
    let operands := if o.operands.isEmpty then ["."] else o.operands
    let text (n : Nat) : String := if o.has 'h' then
      humanSize (if o.has 'b' then n else n * 1024) else Text.naturalText n
    let row (n : Nat) (path : String) : List Char := (text n ++ "\t" ++ path ++ "\n").toList
    let (e, total) := operands.foldl (fun (e, total) path =>
      match c.files.locateOwn path, c.files.findOwn path with
      | .ok s, .ok _ =>
        let (rows, size) := usage c.files (o.has 'b') (o.has 'a') 64 0 s.place path
        let rows := rows.filter fun (_, _, depth) => deepest.all (depth ≤ ·)
        (Effect.followed e (.writing (rows.flatMap fun (n, path, _) => row n path)), total + size)
      | .error err, _ | _, .error err =>
        (e.followed (c.fails 1 ("cannot access " ++ quotedName path ++ ": " ++ err.reason)), total))
      (({} : Effect), 0)
    if o.has 'c' then e.followed (.writing (row total "total")) else e

end Flowboard.Utility
