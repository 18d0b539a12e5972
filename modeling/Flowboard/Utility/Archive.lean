import Flowboard.Compress.Deflate
import Flowboard.Utility.Basic
import Flowboard.Utility.Place

/-! Programs that make files shorter and put files together. -/
namespace Flowboard.Utility

open Flowboard.Compress

/-- What stands before and after a text that was made shorter: a header with a name, and at the end
a check and the length. -/
def packed (level : Nat) (name : Option String) (data : Array UInt8) : List UInt8 :=
  let flags : UInt8 := if name.isSome then 8 else 0
  let hint : UInt8 := if level = 9 then 2 else if level = 1 then 4 else 0
  let named := match name with
    | some n => Text.octetBytes n.toList ++ [0]
    | none => []
  [31, 139, 8, flags, 0, 0, 0, 0, hint, 3] ++ named ++ (deflate level data).toList ++
    lowFirst 4 (cyclicSum 0 data).toNat ++ lowFirst 4 data.size

/-- Why a text cannot be unpacked. -/
inductive UnpackFault where
  | notPacked
  | truncated
  | violated
  | badCheck
  | badLength

def UnpackFault.message : UnpackFault → String
  | notPacked => "not in gzip format"
  | truncated => "unexpected end of file"
  | violated => "invalid compressed data--format violated"
  | badCheck => "invalid compressed data--crc error"
  | badLength => "invalid compressed data--length error"

/-- The place after the header of a packed text at a place. -/
def headerEnd (data : Array UInt8) (start : Nat) : Except UnpackFault Nat :=
  let byte (i : Nat) : UInt8 := data.getD (start + i) 0
  if data.size < start + 2 then .error (if data.size = start then .truncated else .notPacked)
  else if byte 0 ≠ 31 || byte 1 ≠ 139 then .error .notPacked
  else if data.size < start + 10 then .error .truncated
  else
    let flags := byte 3
    let after (i : Nat) : Nat := i + ((data.toList.drop i).takeWhile (· ≠ 0)).length + 1
    let i := start + 10
    let i := if flags &&& 4 ≠ 0 then
        i + 2 + ofLowFirst [data.getD i 0, data.getD (i + 1) 0]
      else i
    let i := if flags &&& 8 ≠ 0 then after i else i
    let i := if flags &&& 16 ≠ 0 then after i else i
    let i := if flags &&& 2 ≠ 0 then i + 2 else i
    if data.size < i then .error .truncated else .ok i

/-- The texts of packed texts one after the other, as far as they can be read, and what is wrong
after them. -/
def unpacked (data : Array UInt8) : Nat → Nat → List UInt8 × Option UnpackFault
  | 0, _ => ([], none)
  | fuel + 1, start =>
    match headerEnd data start with
    | .error e => ([], some e)
    | .ok i =>
      match inflate data i with
      | .error .truncated => ([], some .truncated)
      | .error _ => ([], some .violated)
      | .ok (text, place) =>
        let number (i : Nat) : Nat := ofLowFirst ((List.range 4).map fun k => data.getD (i + k) 0)
        if data.size < place + 8 then (text.toList, some .truncated)
        else if number place ≠ (cyclicSum 0 text).toNat then (text.toList, some .badCheck)
        else if number (place + 4) ≠ text.size % 4294967296 then (text.toList, some .badLength)
        else if data.size = place + 8 || (data.getD (place + 8) 0 = 0) then (text.toList, none)
        else
          let (more, fault) := unpacked data fuel (place + 8)
          (text.toList ++ more, fault)

/-- A part of a whole in percent with one digit after the point. -/
def percentText (part whole : Int) : String :=
  if whole = 0 then "  0.0%"
  else
    let tenths := (2000 * part.natAbs + whole.natAbs) / (2 * whole.natAbs)
    let digits := Text.naturalText (tenths / 10) ++ "." ++ Text.naturalText (tenths % 10) ++ "%"
    let text := (if part < 0 && tenths ≠ 0 then "-" else "") ++ digits
    String.ofList (List.replicate (6 - text.length) ' ') ++ text

/-- What is done with each operand. -/
structure Packing where
  unpack : Bool
  toOutput : Bool
  keep : Bool
  force : Bool
  test : Bool
  list : Bool
  verbose : Bool
  bare : Bool
  level : Nat
  suffix : String

/-- Packs or unpacks files, or the input. -/
def packAll (c : Call) (p : Packing) (operands : List String) : Effect :=
  let told (m : String) (status : Int) : Effect :=
    { errors := ("gzip: " ++ m ++ "\n").toList, status := .ofInt status }
  let unpackedEffect (name : String) (bytes : List UInt8) (write : Bool) : Effect × List UInt8 :=
    let data := bytes.toArray
    let (text, fault) := unpacked data (data.size + 1) 0
    let output : Pipe := if write then .of (Text.octets text) else .empty
    match fault with
    | none => ({ output }, text)
    | some f =>
      ({ output, errors := ("\ngzip: " ++ name ++ ": " ++ f.message ++ "\n").toList
         status := .failure }, text)
  let standard : Effect :=
    match c.input.all? with
    | none => .stuck
    | some text =>
      let bytes := Text.octetBytes text
      let e := if p.unpack || p.test then (unpackedEffect "stdin" bytes (!p.test)).1
        else { output := .of (Text.octets (packed p.level none bytes.toArray)) }
      { e with waited := true }
  let one (fs : FileSystem) (operand : String) : Effect :=
    if operand = "-" then standard
    else
      let ending := p.suffix
      let path := if p.unpack && !operand.endsWith ending &&
          (fs.find operand matches .error .notFound) then operand ++ ending else operand
      let last := (path.splitOn "/").getLastD path
      match fs.find path with
      | .error e => told (path ++ ": " ++ e.reason) 1
      | .ok .directory => told (path ++ " is a directory -- ignored") 2
      | .ok _ =>
        let bytes := (fs.read path).toOption.getD []
        let remove (fs : FileSystem) : FileSystem :=
          if p.keep then fs
          else match fs.locateOwn path with
            | .ok s => fs.erase s.place
            | .error _ => fs
        if p.test then
          let (e, _) := unpackedEffect path bytes false
          if p.verbose && e.status = .success then
            { e with errors := (path ++ ":\t OK\n").toList }
          else e
        else if p.unpack then
          if p.toOutput then (unpackedEffect path bytes true).1
          else if !path.endsWith ending && !path.endsWith ".tgz" then
            told (path ++ ": unknown suffix -- ignored") 2
          else
            let target := if path.endsWith ".tgz" then
                String.ofList (path.toList.take (path.length - 4)) ++ ".tar"
              else String.ofList (path.toList.take (path.length - ending.length))
            let (e, text) := unpackedEffect path bytes false
            if e.status ≠ .success then e
            else if (fs.find target matches .ok _) && !p.force then
              told (target ++ " already exists;\tnot overwritten") 2
            else
              match fs.write target text with
              | .error r => told (target ++ ": " ++ r.reason) 1
              | .ok fs =>
                { files := some (remove fs)
                  errors := if p.verbose then (path ++ ":\t" ++
                      percentText ((text.length : Int) - (bytes.length : Int) + 18) text.length ++
                      " -- replaced with " ++ target ++ "\n").toList else [] }
        else
          let name := if p.bare then none else some last
          let result := packed p.level name bytes.toArray
          let header := 18 + (if p.bare then 0 else last.length + 1)
          if p.toOutput then { output := .of (Text.octets result) }
          else if path.endsWith ending && !p.force then
            told (path ++ " already has " ++ ending ++ " suffix -- unchanged") 0
          else
            let target := path ++ ending
            if (fs.find target matches .ok _) && !p.force then
              told (target ++ " already exists;\tnot overwritten") 2
            else
              match fs.write target result with
              | .error r => told (target ++ ": " ++ r.reason) 1
              | .ok fs =>
                { files := some (remove fs)
                  errors := if p.verbose then (path ++ ":\t" ++
                      percentText ((bytes.length : Int) - (result.length : Int) + header)
                        bytes.length ++
                      (if p.keep then " -- created " else " -- replaced with ") ++ target ++
                      "\n").toList else [] }
  let (e, _) := operands.foldl (fun (e, fs) operand =>
    let next := one fs operand
    (Effect.followed e next, next.files.getD fs)) (({} : Effect), c.files)
  if operands.isEmpty then standard else e

/-- Tells how much shorter packed files are. -/
def tellPacked (c : Call) (operands : List String) : Effect :=
  let pad (n : Nat) : String := String.ofList (Text.padLeft 19 (Nat.toDigits 10 n))
  let line (name : String) (size whole header : Nat) : String :=
    pad size ++ " " ++ pad whole ++ " " ++
      percentText ((whole : Int) - (size : Int) + header) whole ++ " " ++ name ++ "\n"
  let rows := operands.map fun path =>
    match c.files.read path with
    | .error e => Except.error (path ++ ": " ++ e.reason)
    | .ok bytes =>
      let data := bytes.toArray
      match headerEnd data 0 with
      | .error e => Except.error ("\ngzip: " ++ path ++ ": " ++ e.message)
      | .ok header =>
        let whole := ofLowFirst (bytes.drop (bytes.length - 4))
        let name := if path.endsWith ".gz" then
            String.ofList (path.toList.take (path.length - 3)) else path
        Except.ok (name, bytes.length, whole, header + 8)
  let good := rows.filterMap Except.toOption
  let lines := good.map fun (name, size, whole, header) => line name size whole header
  let total := if 1 < good.length then
      let (a, b) := good.foldl (fun (a, b) (_, size, whole, _) => (a + size, b + whole)) (0, 0)
      [line "(totals)" a b ((good.getLast?.map (·.2.2.2)).getD 0)]
    else []
  let errors := rows.filterMap fun
    | .error e => some (if e.startsWith "\n" then e ++ "\n" else "gzip: " ++ e ++ "\n")
    | .ok _ => none
  { output := .of ("         compressed        uncompressed  ratio uncompressed_name\n" ++
      String.join (lines ++ total)).toList
    errors := (String.join errors).toList
    status := if errors.isEmpty then .success else .failure }

/-- Makes files shorter, or gives them back their length. -/
def gzip (c : Call) : Effect :=
  let table : OptionTable :=
    { flags := "acdfhklnNqrtvV123456789".toList, valued := ['S']
      long := [("stdout", 'c'), ("to-stdout", 'c'), ("decompress", 'd'), ("uncompress", 'd'),
        ("force", 'f'), ("help", 'h'), ("keep", 'k'), ("list", 'l'), ("no-name", 'n'),
        ("name", 'N'), ("quiet", 'q'), ("recursive", 'r'), ("suffix", 'S'), ("test", 't'),
        ("verbose", 'v'), ("version", 'V'), ("fast", '1'), ("best", '9')] }
  match Options.readFrom table true (c.args.length + 1) c.args with
  | .error e =>
    { errors := ("gzip: " ++ e ++ "\nTry `gzip --help' for more information.\n").toList
      status := .failure }
  | .ok o =>
    let levels := o.given.filterMap fun g => if g.1.isDigit then some (g.1.toNat - 48) else none
    let plain := c.name == "zcat" || c.name.endsWith "/zcat"
    let unpack := plain || o.has 'd' || c.name == "gunzip" || c.name.endsWith "/gunzip"
    let p : Packing :=
      { unpack
        toOutput := plain || o.has 'c'
        keep := o.has 'k'
        force := o.has 'f'
        test := o.has 't'
        list := o.has 'l'
        verbose := o.has 'v'
        bare := o.has 'n'
        level := levels.getLastD 6
        suffix := (o.value? 'S').getD ".gz" }
    if o.has 'V' then .writing "gzip 1.12\n".toList
    else if p.list then tellPacked c o.operands
    else packAll c p o.operands

/-- A file in an archive. -/
structure Member where
  name : String
  mode : Nat
  size : Nat
  kind : Char
  target : String
  bytes : List UInt8

def octalField (width n : Nat) : List UInt8 :=
  let ds := Nat.toDigits 8 n
  Text.octetBytes (List.replicate (width - 1 - ds.length) '0' ++ ds) ++ [0]

def textField (width : Nat) (s : String) : List UInt8 :=
  let bytes := (Text.octetBytes s.toList).take width
  bytes ++ List.replicate (width - bytes.length) 0

/-- The bytes of a file in an archive, in blocks of 512. -/
def Member.encode (m : Member) : List UInt8 :=
  let before := textField 100 m.name ++ octalField 8 m.mode ++ octalField 8 0 ++ octalField 8 0 ++
    octalField 12 m.size ++ octalField 12 1700000000
  let after := Text.octetBytes [m.kind] ++ textField 100 m.target ++ textField 8 "ustar  " ++
    textField 32 "root" ++ textField 32 "root"
  let sum := (before ++ after).foldl (fun n b => n + b.toNat) (8 * 32)
  let check := (octalField 7 sum) ++ [32]
  let header := before ++ check ++ after
  let pad (n : Nat) : List UInt8 := List.replicate ((512 - n % 512) % 512) 0
  header ++ pad header.length ++ m.bytes ++ pad m.bytes.length

/-- The files of an archive. Each one uses up one of the fuel. -/
def members : Nat → List UInt8 → Option (List Member)
  | 0, _ => some []
  | fuel + 1, data =>
    let header := data.take 512
    if header.length < 512 || header.all (· == 0) then some []
    else
      let field (start width : Nat) : List Char :=
        Text.octets (((header.drop start).take width).takeWhile (· ≠ 0))
      let number (start width : Nat) : Nat :=
        (field start width).foldl (fun n c => if c.isDigit then 8 * n + (c.toNat - 48) else n) 0
      if (field 257 5) != "ustar".toList then none
      else
        let size := number 124 12
        let blocks := (size + 511) / 512 * 512
        let rest := data.drop 512
        let m : Member :=
          { name := .ofList (field 0 100), mode := number 100 8, size
            kind := (field 156 1).headD '0', target := .ofList (field 157 100)
            bytes := rest.take size }
        (members fuel (rest.drop blocks)).map (m :: ·)

/-- The files under a path, as members of an archive. -/
def gather (fs : FileSystem) (skipped : String → Bool) : Nat → String → List Member
  | 0, _ => []
  | fuel + 1, path =>
    if skipped path then []
    else
      let mode := ((fs.locateOwn path).toOption.map fun s => fs.modeAt s.place).getD 420
      let trimmed := String.ofList (path.toList.reverse.dropWhile (· == '/')).reverse
      match fs.findOwn path with
      | .ok .directory =>
        let names := ((fs.locate path).toOption.map fun s => fs.names s.place).getD []
        let own : Member := ⟨trimmed ++ "/", mode, 0, '5', "", []⟩
        own :: names.flatMap fun n => gather fs skipped fuel (trimmed ++ "/" ++ n)
      | .ok (.link target) => [⟨trimmed, 511, 0, '2', target, []⟩]
      | .ok _ =>
        let bytes := (fs.read path).toOption.getD []
        [⟨trimmed, mode, bytes.length, '0', "", bytes⟩]
      | .error _ => []

def Member.line (m : Member) (long : Bool) : String :=
  if !long then m.name ++ "\n"
  else
    let kind := if m.kind = '5' then 'd' else if m.kind = '2' then 'l' else '-'
    let size := Text.naturalText m.size
    let owner := "root/root"
    let gap := String.ofList (List.replicate (19 - owner.length - size.length) ' ')
    String.ofList [kind] ++ Mode.text m.mode ++ " " ++ owner ++ gap ++ size ++
      " 2023-11-14 22:13 " ++ m.name ++ (if m.kind = '2' then " -> " ++ m.target else "") ++ "\n"

/-- The directories above a path, and the path. -/
def makeParents (fs : FileSystem) (path : String) : FileSystem :=
  let names := (path.splitOn "/").filter (· ≠ "")
  let start := if path.startsWith "/" then "/" else ""
  ((List.range names.length).map fun i => start ++ "/".intercalate (names.take (i + 1))).foldl
    (fun fs p => ((fs.makeDirectory p).toOption).getD fs) fs

/-- How an archive is worked on. -/
structure Archiving where
  mode : Char := ' '
  file : String := "-"
  directory : Option String := none
  verbose : Bool := false
  packs : Bool := false
  toOutput : Bool := false
  strip : Nat := 0
  excluded : List String := []
  operands : List String := []

/-- Reads the arguments of an archiver, whose first one may lack a hyphen. -/
def readArchiving : Nat → Bool → List String → Archiving → Except String Archiving
  | 0, _, _, a => .ok a
  | _, _, [], a => .ok a
  | fuel + 1, first, arg :: args, a =>
    let long (name : String) : Option String :=
      if arg.startsWith ("--" ++ name ++ "=") then
        some (String.ofList (arg.toList.drop (name.length + 3))) else none
    match long "exclude", long "strip-components", long "file", long "directory" with
    | some p, _, _, _ => readArchiving fuel false args { a with excluded := p :: a.excluded }
    | _, some n, _, _ =>
      readArchiving fuel false args { a with strip := (Text.natural? n.toList).getD 0 }
    | _, _, some f, _ => readArchiving fuel false args { a with file := f }
    | _, _, _, some d => readArchiving fuel false args { a with directory := some d }
    | _, _, _, _ =>
      match arg with
      | "--create" => readArchiving fuel false args { a with mode := 'c' }
      | "--extract" => readArchiving fuel false args { a with mode := 'x' }
      | "--get" => readArchiving fuel false args { a with mode := 'x' }
      | "--list" => readArchiving fuel false args { a with mode := 't' }
      | "--append" => readArchiving fuel false args { a with mode := 'r' }
      | "--verbose" => readArchiving fuel false args { a with verbose := true }
      | "--gzip" => readArchiving fuel false args { a with packs := true }
      | "--to-stdout" => readArchiving fuel false args { a with toOutput := true }
      | "--file" => readArchiving fuel false (args.drop 1) { a with file := args.headD "" }
      | "--directory" => readArchiving fuel false (args.drop 1) { a with directory := args.head? }
      | "--exclude" =>
        readArchiving fuel false (args.drop 1) { a with excluded := args.take 1 ++ a.excluded }
      | _ =>
        let letters? := match arg.toList with
          | '-' :: c :: cs => if c = '-' then none else some (c :: cs)
          | cs => if first then some cs else none
        match letters? with
        | none =>
          if arg.startsWith "--" then readArchiving fuel false args a
          else readArchiving fuel false args { a with operands := a.operands ++ [arg] }
        | some letters =>
          let a := letters.foldl (fun (a : Archiving) c =>
            match c with
            | 'c' | 'x' | 't' | 'r' | 'u' => { a with mode := c }
            | 'v' => { a with verbose := true }
            | 'z' => { a with packs := true }
            | 'O' => { a with toOutput := true }
            | _ => a) a
          let valued := letters.filter fun c => c = 'f' || c = 'C'
          -- in the old style the values follow in the order of the letters
          let attached := match letters.dropWhile fun c => c ≠ 'f' && c ≠ 'C' with
            | _ :: value => if arg.startsWith "-" && !value.isEmpty then
                some (String.ofList value) else none
            | [] => none
          match valued, attached with
          | [], _ => readArchiving fuel false args a
          | 'f' :: _, some v => readArchiving fuel false args { a with file := v }
          | _ :: _, some v => readArchiving fuel false args { a with directory := some v }
          | cs, none =>
            if args.length < cs.length then
              .error ("option requires an argument -- '" ++ String.ofList (cs.take 1) ++ "'")
            else
              let a := (cs.zip args).foldl (fun (a : Archiving) (c, v) =>
                if c = 'f' then { a with file := v } else { a with directory := some v }) a
              readArchiving fuel false (args.drop cs.length) a

/-- A name without its first parts. -/
def stripped (n : Nat) (name : String) : String :=
  "/".intercalate ((name.splitOn "/").drop n)

def wanted (operands : List String) (m : Member) : Bool :=
  operands.isEmpty || operands.any fun o =>
    m.name = o || m.name = o ++ "/" || m.name.startsWith (if o.endsWith "/" then o else o ++ "/")

/-- Puts files together to one, or takes them out of it. -/
def tar (c : Call) : Effect :=
  let told (m : String) : String := "tar: " ++ m ++ "\n"
  let usage (m : String) (status : Int) : Effect :=
    { errors := (told m ++ "Try 'tar --help' or 'tar --usage' for more information.\n").toList
      status := .ofInt status }
  let failing := told "Exiting with failure status due to previous errors"
  match readArchiving (c.args.length + 1) true c.args {} with
  | .error e => usage e 64
  | .ok a =>
    let inDirectory (path : String) : String :=
      match a.directory with
      | some d => if path.startsWith "/" then path else d ++ "/" ++ path
      | none => path
    let load : Except String (List UInt8) :=
      if a.file = "-" then
        match c.input.all? with
        | some text => .ok (Text.octetBytes text)
        | none => .error "stdin"
      else
        match c.files.read a.file with
        | .ok bytes => .ok bytes
        | .error e => .error (told (a.file ++ ": Cannot open: " ++ e.reason) ++
            told "Error is not recoverable: exiting now")
    let plain (bytes : List UInt8) : List UInt8 :=
      if bytes.take 2 == [31, 139] then (unpacked bytes.toArray (bytes.length + 1) 0).1 else bytes
    match a.mode with
    | 'c' | 'r' | 'u' =>
      let skipped (path : String) : Bool := a.excluded.any fun p =>
        path = p || path.endsWith ("/" ++ p)
      let found := a.operands.map fun o =>
        let members := gather c.files skipped 60 (inDirectory o)
        let cut := match a.directory with
          | some d => if o.startsWith "/" then 0 else d.length + 1
          | none => 0
        members.map fun m => { m with name := String.ofList (m.name.toList.drop cut) }
      let missing := a.operands.filter fun o => (c.files.findOwn (inDirectory o)) matches .error _
      let all := found.flatten
      let absolute := all.any fun m => m.name.startsWith "/"
      let all := all.map fun m =>
        { m with name := String.ofList (m.name.toList.dropWhile (· == '/')) }
      let old := if a.mode = 'c' then [] else
        match load with
        | .ok bytes => (members (bytes.length + 1) (plain bytes)).getD []
        | .error _ => []
      let body := ((old ++ all).map Member.encode).flatten ++ List.replicate 1024 0
      let body := body ++ List.replicate ((10240 - body.length % 10240) % 10240) 0
      let body := if a.packs then packed 6 none body.toArray else body
      let listing := if a.verbose then String.join (all.map fun m => m.line false) else ""
      let errors := (if absolute then told "Removing leading \x60/' from member names" else "") ++
        String.join (missing.map fun o => told (o ++ ": Cannot stat: No such file or directory")) ++
        (if missing.isEmpty then "" else failing)
      let status : Status := if missing.isEmpty then .success else .ofInt 2
      if a.operands.isEmpty && a.mode = 'c' then
        usage "Cowardly refusing to create an empty archive" 2
      else if a.file = "-" then
        { output := .of (Text.octets body), errors := (errors ++ listing).toList, status }
      else
        match c.files.write a.file body with
        | .ok fs => { output := .of listing.toList, errors := errors.toList, status,
                      files := some fs }
        | .error e =>
          { errors := (told (a.file ++ ": Cannot open: " ++ e.reason) ++
              told "Error is not recoverable: exiting now").toList
            status := .ofInt 2 }
    | 't' | 'x' =>
      let waited := a.file == "-"
      match load with
      | .error e => { errors := e.toList, status := .ofInt 2, waited }
      | .ok bytes =>
        match members (bytes.length + 1) (plain bytes) with
        | none =>
          { errors := (told "This does not look like a tar archive" ++
              told "Exiting with failure status due to previous errors").toList
            status := .ofInt 2, waited }
        | some all =>
          let chosen := all.filter (wanted a.operands)
          let absent := a.operands.filter fun o => !all.any (wanted [o])
          let errors := String.join (absent.map fun o => told (o ++ ": Not found in archive")) ++
            (if absent.isEmpty then "" else failing)
          let status : Status := if absent.isEmpty then .success else .ofInt 2
          if a.mode = 't' then
            { output := .of (String.join (chosen.map fun m => m.line a.verbose)).toList
              errors := errors.toList, status, waited }
          else if a.toOutput then
            { output := .of (chosen.flatMap fun m => Text.octets m.bytes)
              errors := errors.toList, status, waited }
          else
            let fs := chosen.foldl (fun fs m =>
              let name := stripped a.strip m.name
              let path := inDirectory name
              if name = "" then fs
              else if m.kind = '5' then makeParents fs path
              else
                let parent := "/".intercalate (path.splitOn "/").dropLast
                let fs := if parent = "" then fs else makeParents fs parent
                if m.kind = '2' then
                  match fs.locateOwn path with
                  | .ok s => fs.put s.place (.link m.target)
                  | .error _ => fs
                else
                  let fs := ((fs.write path m.bytes).toOption).getD fs
                  match fs.locate path with
                  | .ok s => fs.setMode s.place m.mode
                  | .error _ => fs) c.files
            let listing := if a.verbose then String.join (chosen.map fun m => m.line false) else ""
            { output := .of listing.toList, errors := errors.toList, status, waited
              files := some fs }
    | _ => usage "You must specify one of the '-Acdtrux', '--delete' or '--test-label' options" 2

end Flowboard.Utility
