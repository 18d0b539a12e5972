import Flowboard.Shell.Pattern
import Flowboard.Utility.Basic
import Flowboard.Utility.Lines
import Flowboard.Utility.Place

/-! Programs that turn tabs into blanks and blanks into tabs. -/
namespace Flowboard.Utility

/-- What is told about a change of permissions. -/
def modeReport (o : Char → Bool) (path : String) (before after : Nat) : String :=
  let shown (n : Nat) : String :=
    String.ofList (Text.padded 4 (((Nat.toDigits 8 n).foldl (fun n c => 10 * n + (c.toNat - 48)) 0))) ++
      " (" ++ Mode.text n ++ ")"
  if before != after then
    if o 'v' || o 'c' then
      "mode of " ++ quotedName path ++ " changed from " ++ shown before ++ " to " ++ shown after ++
        "\n"
    else ""
  else if o 'v' then "mode of " ++ quotedName path ++ " retained as " ++ shown before ++ "\n"
  else ""

/-- Changes who may do what with files. -/
def chmod (c : Call) : Effect :=
  let isOption (a : String) : Bool :=
    ["-R", "-v", "-f", "-c", "--recursive", "--verbose", "--changes", "--quiet", "--silent"].contains a
  let given (letter : Char) : Bool :=
    c.args.any fun a => a == "-" ++ letter.toString || (a == "--recursive" && letter == 'R') ||
      (a == "--verbose" && letter == 'v') || (a == "--changes" && letter == 'c')
  match c.args.filter (!isOption ·) with
  | [] => c.misused 1 "missing operand"
  | [mode] => c.misused 1 ("missing operand after " ++ quotedName mode)
  | mode :: paths =>
    if (Mode.ofText? mode).isNone then c.misused 1 ("invalid mode: " ++ quotedName mode)
    else
      c.eachPath paths fun fs path =>
        match fs.locate path, fs.find path with
        | .ok s, .ok _ =>
          let places := if given 'R' then
              (pathsBelow fs 64 s.place path).reverse.map (·.1)
            else [path]
          .ok (places.foldl (fun (fs, text) path =>
            match FileSystem.locate fs path with
            | .ok s =>
              let before := fs.modeAt s.place
              let after := (Mode.ofText? mode).getD before
              (fs.setMode s.place after, text ++ modeReport given path before after)
            | .error _ => (fs, text)) (fs, ""))
        | _, .error e => .error ("cannot access " ++ quotedName path ++ ": " ++ e.reason)
        | .error e, _ => .error ("cannot access " ++ quotedName path ++ ": " ++ e.reason)

/-- Gives files to somebody; all files are of the one who runs the program. -/
def chown (c : Call) : Effect :=
  match c.args.filter fun a => !a.startsWith "-" with
  | [] => c.misused 1 "missing operand"
  | [owner] => c.misused 1 ("missing operand after " ++ quotedName owner)
  | _ :: paths =>
    c.eachPath paths fun fs path =>
      match fs.find path with
      | .ok _ => .ok (fs, "")
      | .error e => .error ("cannot access " ++ quotedName path ++ ": " ++ e.reason)

/-- The first path with a number at its end under which nothing stands. -/
def freshPath (fs : FileSystem) (start : String) : Nat → Nat → String
  | 0, n => start ++ Text.naturalText n
  | fuel + 1, n =>
    let path := start ++ String.ofList (Text.padded 10 n)
    if fs.find path matches .error .notFound then path else freshPath fs start fuel (n + 1)

/-- Makes a new file or directory and tells its path. -/
def mktemp (c : Call) : Effect :=
  c.withOptions { flags := "dqut".toList, valued := ['p'] } fun o =>
    let start := match o.operands, o.value? 'p' with
      | template :: _, _ => String.ofList (template.toList.reverse.dropWhile (· == 'X')).reverse
      | [], some directory => directory ++ "/tmp."
      | [], none => "/tmp/tmp."
    let path := freshPath c.files start 100 0
    let made := if o.has 'd' then c.files.makeDirectory path else c.files.write path []
    match made with
    | .ok fs => { Effect.writing (path ++ "\n").toList with files := some fs }
    | .error e => c.fails 1 ("failed to create file via template: " ++ e.reason)

/-- Gives files a size: what is too long is cut, what is too short is filled with zeros. -/
def truncate (c : Call) : Effect :=
  c.withOptions { flags := ['c'], valued := ['s'], long := [("size", 's')] } fun o =>
    match o.value? 's' with
    | none => c.misused 1 "you must specify either '--size' or '--reference'"
    | some size =>
      let (sign, digits) := match size.toList with
        | '+' :: ds => (some '+', ds)
        | '-' :: ds => (some '-', ds)
        | ds => (none, ds)
      match count? digits with
      | none => c.fails 1 ("Invalid number: " ++ quotedName size)
      | some n =>
        if o.operands.isEmpty then c.misused 1 "missing file operand"
        else c.eachPath o.operands fun fs path =>
          let bytes := (fs.read path).toOption.getD []
          let length := match sign with
            | some '+' => bytes.length + n
            | some _ => bytes.length - n
            | none => n
          match fs.write path (bytes.take length ++ List.replicate (length - bytes.length) 0) with
          | .ok fs => .ok (fs, "")
          | .error e => .error ("cannot open " ++ quotedName path ++ " for writing: " ++ e.reason)

/-- The value of an argument with a certain name. -/
def setting? (args : List String) (name : String) : Option String :=
  (args.find? fun a => a.startsWith (name ++ "=")).map fun a =>
    String.ofList (a.toList.drop (name.length + 1))

/-- Copies a text in blocks and tells how many there were. -/
def dd (c : Call) : Effect :=
  let number (name : String) (default : Nat) : Nat :=
    ((setting? c.args name).bind fun s => count? s.toList).getD default
  let size := max (number "bs" (number "ibs" 512)) 1
  let source := (setting? c.args "if").getD "-"
  match c.source source with
  | .error e => c.fails 1 ("failed to open " ++ quotedName source ++ ": " ++ e.reason)
  | .ok p =>
    let skipped := number "skip" 0 * size
    let text? := match setting? c.args "count" with
      | some n => (p.take? (skipped + ((count? n.toList).getD 0) * size))
      | none => p.all?
    match text? with
    | none => .stuck
    | some text =>
      let text := text.drop skipped
      let letters := ((setting? c.args "conv").getD "").splitOn ","
      let text := if letters.contains "ucase" then text.map Char.toUpper
        else if letters.contains "lcase" then text.map Char.toLower else text
      let blocks := Text.naturalText (text.length / size) ++ "+" ++
        (if text.length % size = 0 then "0" else "1")
      let length := Text.naturalText text.length
      let report := match setting? c.args "status" with
        | some "none" => ""
        | some "noxfer" => blocks ++ " records in\n" ++ blocks ++ " records out\n"
        | _ => blocks ++ " records in\n" ++ blocks ++ " records out\n" ++ length ++
            " bytes copied, 0 s, Infinity B/s\n"
      let done : Effect := { errors := report.toList, waited := source == "-" }
      match setting? c.args "of" with
      | none => { done with output := .of text }
      | some path =>
        match c.files.write path (Text.octetBytes text) with
        | .ok fs => { done with files := some fs }
        | .error e => c.fails 1 ("failed to open " ++ quotedName path ++ ": " ++ e.reason)

/-- Where tabs lead to: to multiples of the last number, or to the columns of a list. -/
structure TabStops where
  columns : List Nat

namespace TabStops

/-- The column that a tab at a column leads to, if the list has one. -/
def next? (t : TabStops) (column : Nat) : Option Nat :=
  match t.columns with
  | [width] => some ((column / max width 1 + 1) * max width 1)
  | columns => columns.find? (column < ·)

/-- Reads numbers with commas or blanks between them. -/
def ofText? (s : String) : Option TabStops :=
  let parts := Text.wordsWhere (fun c => c == ',' || c == ' ') s.toList
  match parts.mapM Text.natural? with
  | some [] => none
  | some columns => some ⟨columns⟩
  | none => none

/-- Stops at every eighth column. -/
def standard : TabStops := ⟨[8]⟩

end TabStops

/-- What has been written of a line, last character first, and the column it has come to. -/
structure Spread where
  written : List Char := []
  column : Nat := 0
  /-- nothing but blanks has been read -/
  leading : Bool := true

/-- A line with blanks in the place of tabs. With `onlyLeading`, tabs after other characters stay. -/
def expandLine (t : TabStops) (onlyLeading : Bool) (line : List Char) : List Char :=
  let last := line.foldl (fun (s : Spread) c =>
    match c with
    | '\t' =>
      if onlyLeading && !s.leading then { s with written := c :: s.written, column := s.column + 1 }
      else
        let stop := (t.next? s.column).getD (s.column + 1)
        { s with
          written := List.replicate (stop - s.column) ' ' ++ s.written
          column := stop }
    | '\x08' => { written := c :: s.written, column := s.column - 1, leading := false }
    | ' ' => { s with written := c :: s.written, column := s.column + 1 }
    | c => { written := c :: s.written, column := s.column + 1, leading := false })
    {}
  last.written.reverse

/-- Turns tabs into blanks. -/
def expand (c : Call) : Effect :=
  let table : OptionTable :=
    { flags := ['i'], valued := ['t'], long := [("initial", 'i'), ("tabs", 't')] }
  c.withOptions table fun o =>
    match ((o.value? 't').map TabStops.ofText?).getD (some .standard) with
    | none => c.fails 1 "tab size contains invalid character(s)"
    | some t => c.together o.operands 1 plainName fun p =>
      .ofAll p fun text => (Text.lines text).flatMap (expandLine t (o.has 'i'))

/-- What is known while blanks are gathered. -/
structure Gathering where
  /-- last character first -/
  written : List Char := []
  column : Nat := 0
  /-- blanks that may become a tab -/
  pending : List Char := []
  afterBlank : Bool := true
  /-- a single blank stands just before a stop -/
  lone : Bool := false
  /-- blanks still count -/
  active : Bool := true

/-- Writes a character behind the blanks before it. Of several blanks of which the first stands
just before a stop, the first is a tab. -/
def Gathering.put (g : Gathering) (pending : List Char) (c : Char) : Gathering :=
  let pending := match pending with
    | _ :: _ :: _ => if g.lone then '\t' :: pending.drop 1 else pending
    | _ => pending
  { g with written := c :: (pending.reverse ++ g.written), pending := [], lone := false }

/-- One character of a line in which blanks turn into tabs. -/
def Gathering.take (t : TabStops) (everywhere : Bool) (g : Gathering) (c : Char) : Gathering :=
  let blank := c == ' ' || c == '\t'
  if !g.active then { g with written := c :: g.written }
  else if blank then
    match t.next? g.column with
    | none => { g.put g.pending c with active := false }
    | some stop =>
      if c == '\t' then
        let kept := if g.lone then ['\t'] else []
        { g.put kept '\t' with column := stop, afterBlank := true }
      else
        let column := g.column + 1
        if g.afterBlank && column == stop then
          let kept := if g.lone then ['\t'] else []
          { g.put kept '\t' with column, afterBlank := true }
        else
          { g with
            column
            pending := g.pending ++ [' ']
            afterBlank := true
            lone := g.lone || column == stop }
  else
    let column := if c == '\x08' then g.column - 1 else g.column + 1
    { g.put g.pending c with column, afterBlank := false, active := everywhere }

def unexpandLine (t : TabStops) (everywhere : Bool) (line : List Char) : List Char :=
  let g := line.foldl (Gathering.take t everywhere) {}
  g.written.reverse ++ g.pending

/-- Turns blanks into tabs: those at the start of a line, or all. -/
def unexpand (c : Call) : Effect :=
  let table : OptionTable :=
    { flags := ['a', 'f'], valued := ['t']
      long := [("all", 'a'), ("first-only", 'f'), ("tabs", 't')] }
  c.withOptions table fun o =>
    match ((o.value? 't').map TabStops.ofText?).getD (some .standard) with
    | none => c.fails 1 "tab size contains invalid character(s)"
    | some t =>
      let everywhere := (o.has 'a' || o.has 't') && !o.has 'f'
      c.together o.operands 1 plainName fun p =>
        .ofAll p fun text => (Text.lines text).flatMap (unexpandLine t everywhere)

end Flowboard.Utility
