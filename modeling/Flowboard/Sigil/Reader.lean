import Flowboard.Script.Number
import Flowboard.Sigil.Value
import Flowboard.Text.Octet
import Flowboard.Text.Symbol

/-! How programs whose variables have sigils are written. -/
namespace Flowboard.Sigil

structure ReadState where
  file : String
  text : Array Char
  place : Nat := 0
  /-- the line of the first character of the text -/
  startLine : Nat := 1
  /-- a place and its line -/
  counted : Nat × Nat := (0, 1)
  visible : Visible := []
  /-- names that become visible after the statement -/
  coming : Visible := []
  next : Nat := 0
  package : String := "main"
  routines : Array Routine := #[]
  first : Array (String × List Statement) := #[]
  last : Array (List Statement) := #[]
  /-- the end of a line after which a text inside of the program stands, and where that ends -/
  jump : Option (Nat × Nat) := none
  /-- routines by their full names, and what they take -/
  known : List (String × String) := []
  imports : List (String × String) := []
  /-- how many routines the place is inside of -/
  inside : Nat := 0
  strict : Bool := false
  wide : Bool := false
  data : Option (List Char) := none

abbrev Reading := StateT ReadState (Except String)

/-- The character at a distance; behind the end there are zeros. -/
def cur (k : Nat) : Reading Char := do
  let s ← get
  return s.text.getD (s.place + k) '\x00'

def atEnd : Reading Bool := do
  let s ← get
  return s.text.size ≤ s.place

def skip (n : Nat) : Reading Unit :=
  modify fun s => { s with place := s.place + n }

def startsWith (t : String) : Reading Bool := do
  let s ← get
  let cs := t.toList
  return (s.text.extract s.place (s.place + cs.length)).toList == cs

def lineHere : Reading Nat := do
  let s ← get
  let (p, n) := if s.counted.1 ≤ s.place then s.counted else (0, s.startLine)
  let n := (s.text.extract p s.place).foldl (fun n c => if c == '\n' then n + 1 else n) n
  set { s with counted := (s.place, n) }
  return n

def whereText : Reading String := do
  let n ← lineHere
  return " at " ++ (← get).file ++ " line " ++ Text.naturalText n

def refuse {α : Type} (what : String) : Reading α := do
  let s ← get
  throw (what ++ (← whereText) ++ ".\nExecution of " ++ s.file ++
    " aborted due to compilation errors.\n")

def syntaxFault {α : Type} : Reading α := do
  let s ← get
  let rest := (s.text.extract s.place (s.place + 200)).toList.takeWhile (· != '\n')
  let near := if rest.isEmpty then
      if s.text.size ≤ s.place then ", at EOF" else ", near \"\n\""
    else ", near \"" ++ String.ofList rest ++ "\""
  throw ("syntax error" ++ (← whereText) ++ near ++ "\nExecution of " ++ s.file ++
    " aborted due to compilation errors.\n")

def isWordStart (c : Char) : Bool :=
  c.isAlpha || c == '_' || 128 ≤ c.toNat && Script.isLetter c

def isWordPart (c : Char) : Bool :=
  isWordStart c || c.isDigit

def isSpaceChar (c : Char) : Bool :=
  c == ' ' || c == '\t' || c == '\n' || c == '\r' || c == '\x0c'

def lineEnd (text : Array Char) : Nat → Nat → Nat
  | 0, p => p
  | fuel + 1, p =>
    match text[p]? with
    | some '\n' | none => p
    | some _ => lineEnd text fuel (p + 1)

def documentEnd (text : Array Char) : Nat → Nat → Nat
  | 0, p => p
  | fuel + 1, p =>
    let e := lineEnd text text.size p
    if text.size ≤ e then e
    else if (text.extract p (p + 4)).toList == "=cut".toList then e + 1
    else documentEnd text fuel (e + 1)

/-- Where blanks, comments and pieces of documentation end. -/
def blankEnd (text : Array Char) (jump : Option (Nat × Nat)) : Nat → Nat → Nat
  | 0, p => p
  | fuel + 1, p =>
    match text[p]? with
    | some '\n' =>
      let q := match jump with
        | some (a, b) => if a == p then b else p + 1
        | none => p + 1
      if text[q]? == some '=' && (text[q + 1]?).any Char.isAlpha then
        blankEnd text jump fuel (documentEnd text fuel q)
      else blankEnd text jump fuel q
    | some '#' => blankEnd text jump fuel (lineEnd text text.size p)
    | some c => if isSpaceChar c then blankEnd text jump fuel (p + 1) else p
    | none => p

def skipBlank : Reading Unit :=
  modify fun s => { s with place := blankEnd s.text s.jump (s.text.size + 1) s.place }

/-- The characters from the place on that pass a test. -/
def takeWhile (ok : Char → Bool) : Reading (List Char) := do
  let s ← get
  let rec go : Nat → Nat → Nat
    | 0, p => p
    | fuel + 1, p => if (s.text[p]?).any ok then go fuel (p + 1) else p
  let e := go (s.text.size + 1) s.place
  set { s with place := e }
  return (s.text.extract s.place e).toList

def readName : Reading String := do
  let rec more : Nat → List Char → Reading (List Char)
    | 0, done => return done
    | fuel + 1, done => do
      if (← cur 0) == ':' && (← cur 1) == ':' && isWordPart (← cur 2) then
        skip 2
        let part ← takeWhile isWordPart
        more fuel (done ++ ':' :: ':' :: part)
      else if (← cur 0) == ':' && (← cur 1) == ':' && !done.isEmpty then
        skip 2
        return done ++ [':', ':']
      else return done
  let first ← takeWhile isWordPart
  return String.ofList (← more 100 first)

def peekWord : Reading String := fun s =>
  if isWordStart (s.text.getD s.place '\x00') then
    match readName s with
    | .ok (w, _) => .ok (w, s)
    | .error e => .error e
  else .ok ("", s)

/-- Takes a mark after blanks, if it is there. -/
def takes (t : String) : Reading Bool := do
  skipBlank
  if ← startsWith t then
    skip t.length
    return true
  else return false

def expect (t : String) : Reading Unit := do
  if !(← takes t) then syntaxFault

def takesWord (t : String) : Reading Bool := do
  skipBlank
  if (← peekWord) == t then
    skip t.length
    return true
  else return false

def closing (c : Char) : Char :=
  match c with
  | '(' => ')'
  | '[' => ']'
  | '{' => '}'
  | '<' => '>'
  | c => c

/-- The characters up to a closing mark, after the opening one; marks may stand in each other. -/
def readDelimited (first : Char) : Reading (List Char) := do
  let last := closing first
  let s ← get
  let rec go : Nat → Nat → Nat → List Char → Option (Nat × List Char)
    | 0, _, _, _ => none
    | fuel + 1, p, depth, done =>
      match s.text[p]? with
      | none => none
      | some '\\' =>
        if first == '\\' then some (p + 1, done)
        else
          match s.text[p + 1]? with
          | some c => go fuel (p + 2) depth (c :: '\\' :: done)
          | none => none
      | some c =>
        if c == last then
          if depth == 0 then some (p + 1, done) else go fuel (p + 1) (depth - 1) (c :: done)
        else if c == first then go fuel (p + 1) (depth + 1) (c :: done)
        else go fuel (p + 1) depth (c :: done)
  match go (s.text.size + 1) s.place 0 [] with
  | some (p, done) =>
    set { s with place := p }
    return done.reverse
  | none =>
    throw ("Can't find string terminator " ++
      (if last == '"' then "'\"'" else "\"" ++ last.toString ++ "\"") ++
      " anywhere before EOF" ++ (← whereText) ++ ".\n")

def textExpr (cs : List Char) : Expr :=
  .constant (.text (String.ofList cs))

/-- What an escape in a text stands for; the place is behind the backslash. -/
def readTextEscape : Reading (List Char) := do
  let c ← cur 0
  skip 1
  let code (n : Nat) : List Char := [Char.ofNat n]
  match c with
  | 'n' => return ['\n']
  | 't' => return ['\t']
  | 'r' => return ['\r']
  | 'a' => return code 7
  | 'b' => return code 8
  | 'e' => return code 27
  | 'f' => return code 12
  | 'x' =>
    if (← cur 0) == '{' then
      skip 1
      let ds ← takeWhile (· != '}')
      skip 1
      return code ((Text.naturalIn? 16 (ds.filter fun d => !(isSpaceChar d || d == '_'))).getD 0)
    else
      let a ← cur 0
      let b ← cur 1
      let hex (d : Char) : Bool := (Text.digitIn? 16 d).isSome
      let ds := if hex a then (if hex b then [a, b] else [a]) else []
      skip ds.length
      return code ((Text.naturalIn? 16 ds).getD 0)
  | 'N' =>
    if (← cur 0) == '{' then
      skip 1
      let ds ← takeWhile (· != '}')
      skip 1
      return code ((Text.naturalIn? 16 (ds.drop 2)).getD 0)
    else return ['N']
  | 'c' =>
    let d ← cur 0
    skip 1
    return code (Nat.xor d.toUpper.toNat 64)
  | 'o' =>
    if (← cur 0) == '{' then
      skip 1
      let ds ← takeWhile (· != '}')
      skip 1
      return code ((Text.naturalIn? 8 ds).getD 0)
    else return ['o']
  | c =>
    if '0' ≤ c && c ≤ '7' then
      let octal (d : Char) : Bool := '0' ≤ d && d ≤ '7'
      let a ← cur 0
      let b ← cur 1
      let ds := if octal a then (if octal b then [a, b] else [a]) else []
      skip ds.length
      return code ((Text.naturalIn? 8 (c :: ds)).getD 0)
    else return [c]

/-- Variables that every package shares. -/
def isCommon (name : String) : Bool :=
  ["ENV", "ARGV", "INC", "STDIN", "STDOUT", "STDERR", "ARGVOUT", "_", "SIG"].contains name ||
    !(isWordStart (name.toList.headD ' '))

def fullName (package name : String) : String :=
  if name.startsWith "::" then "main" ++ name
  else if (name.splitOn "::").length > 1 then name
  else if isCommon name then "main::" ++ name
  else package ++ "::" ++ name

def sigilOf (kind : Shape) : String :=
  match kind with
  | .scalar => "$"
  | .array => "@"
  | .hash => "%"
  | .code => "&"

/-- The variable of a name; `shown` is the sigil that it is written with. -/
def resolve (kind : Shape) (name : String) : Reading Expr := do
  let s ← get
  match s.visible.lookup (sigilOf kind ++ name) with
  | some n => return .var kind n
  | none =>
    let full := fullName s.package name
    if s.strict && kind != .code && !(isCommon name) && (name.splitOn "::").length == 1 &&
        !(kind == .scalar && (name == "a" || name == "b")) then
      let shown := sigilOf kind ++ name
      refuse ("Global symbol \"" ++ shown ++ "\" requires explicit package name (did you forget " ++
        "to declare \"my " ++ shown ++ "\"?)")
    else return .var kind (.shared full)

/-- Declares a variable that becomes visible after the statement. -/
def declareOwn (kind : Shape) (name : String) : Reading Nat := do
  let s ← get
  set { s with next := s.next + 1, coming := (sigilOf kind ++ name, .own s.next) :: s.coming }
  return s.next

/-- Makes the declared names visible. -/
def introduce : Reading Unit :=
  modify fun s => { s with visible := s.coming ++ s.visible, coming := [] }

/-- Reads something with names of its own. -/
def inScope {α : Type} (p : Reading α) : Reading α := do
  let s ← get
  let a ← p
  modify fun t => { t with visible := s.visible, package := s.package, strict := s.strict }
  return a

/-- Reads something in another text, from its start on. -/
def within {α : Type} (text : List Char) (p : Reading α) : Reading α := do
  let line ← lineHere
  let s ← get
  set { s with text := text.toArray, place := 0, jump := none, startLine := line,
               counted := (0, line) }
  let a ← p
  modify fun t => { t with text := s.text, place := s.place, jump := s.jump,
                           startLine := s.startLine, counted := s.counted }
  return a

/-- Tries something; if it fails nothing has been read. -/
def attempt {α : Type} (p : Reading α) : Reading (Option α) := fun s =>
  match p s with
  | .ok (a, t) => .ok (some a, t)
  | .error _ => .ok (none, s)

/-- Functions with no argument. -/
def nullary : List String :=
  ["time", "times", "wait", "wantarray", "getppid", "fork", "break"]

def unaryNames : List String :=
  ["lc", "uc", "lcfirst", "ucfirst", "fc", "length", "chr", "ord", "int", "abs", "sqrt", "sin",
   "cos", "exp", "log", "hex", "oct", "defined", "ref", "quotemeta", "chomp", "chop", "chdir",
   "rmdir", "readlink", "stat", "lstat", "rand", "srand", "exit", "umask", "localtime", "gmtime",
   "caller", "undef", "scalar", "each", "keys", "values", "shift", "pop", "delete", "exists",
   "lock", "pos", "study", "require", "close", "fileno", "eof", "getc", "alarm", "sleep",
   "readline", "closedir", "readdir", "rewinddir", "tell", "local", "evalbytes", "untie", "tied",
   "glob", "lcfirst", "chroot", "getpwnam", "getpwuid", "gethostbyname"]

/-- Functions that work on the common variable if they have no argument. -/
def worksOnTopic : List String :=
  ["lc", "uc", "lcfirst", "ucfirst", "fc", "length", "chr", "ord", "int", "abs", "sqrt", "sin",
   "cos", "exp", "log", "hex", "oct", "defined", "ref", "quotemeta", "chomp", "chop", "rmdir",
   "readlink", "stat", "lstat", "pos", "require", "unlink", "study", "glob", "evalbytes"]

/-- Functions with any number of arguments. -/
def listNames : List String :=
  ["push", "unshift", "splice", "join", "split", "sprintf", "reverse", "die", "warn", "open",
   "binmode", "unlink", "mkdir", "opendir", "rename", "system", "exec", "kill", "pack", "unpack",
   "substr", "index", "rindex", "atan2", "bless", "seek", "read", "sysread", "syswrite", "select",
   "chmod", "utime", "link", "symlink", "waitpid", "crypt", "vec", "sysopen", "truncate", "flock",
   "pipe", "local", "tie", "formline", "chown", "lstat", "printf", "setpgrp"]

/-- Functions of modules, which are taken over under their last names. -/
def moduleFunctions : List (String × List String) :=
  [("List::Util", ["sum", "sum0", "product", "min", "max", "minstr", "maxstr", "first", "any",
      "all", "none", "notall", "reduce", "reductions", "shuffle", "uniq", "uniqnum", "uniqint",
      "uniqstr", "pairs", "unpairs", "pairkeys", "pairvalues", "pairmap", "pairgrep", "pairfirst",
      "head", "tail", "zip", "mesh", "sample"]),
   ("Scalar::Util", ["blessed", "reftype", "looks_like_number", "refaddr", "dualvar", "weaken",
      "unweaken", "isweak", "readonly", "isdual", "openhandle"]),
   ("POSIX", ["floor", "ceil", "fmod", "pow", "strftime", "mktime", "INT_MAX", "INT_MIN",
      "DBL_MAX", "DBL_MIN", "UINT_MAX", "LONG_MAX", "LONG_MIN", "FLT_MAX", "DBL_EPSILON",
      "FLT_EPSILON", "round", "trunc", "strtol", "strtod", "isatty", "toupper", "tolower", "fmin",
      "fmax", "tan", "asin", "acos", "atan", "sinh", "cosh", "tanh", "log10", "log2", "cbrt",
      "lround", "EXIT_SUCCESS", "EXIT_FAILURE", "WNOHANG", "_exit", "getpid", "isnan", "isinf",
      "copysign", "ENOENT", "EACCES", "EEXIST", "abs", "uname", "dup2", "setlocale", "LC_ALL",
      "WIFEXITED", "WEXITSTATUS", "WIFSIGNALED", "WTERMSIG", "SIGINT", "SIGTERM", "SIGKILL",
      "SIGALRM", "CHAR_BIT", "SHRT_MAX", "SHRT_MIN", "PATH_MAX", "BUFSIZ", "EOF", "RAND_MAX",
      "remainder", "hypot", "expm1", "log1p", "ctime", "asctime", "difftime", "clock",
      "strstr", "EINTR", "EINVAL", "errno", "strerror", "signbit", "nan", "access"]),
   ("Data::Dumper", ["Dumper"]),
   ("Carp", ["croak", "confess", "carp", "cluck"]),
   ("Time::HiRes", ["time", "sleep", "usleep", "gettimeofday", "tv_interval", "nanosleep"]),
   ("Time::Local", ["timelocal", "timegm", "timegm_nocheck", "timelocal_nocheck",
      "timegm_modern", "timelocal_modern", "timegm_posix", "timelocal_posix"]),
   ("File::Basename", ["basename", "dirname", "fileparse"]),
   ("File::Path", ["make_path", "remove_tree", "mkpath", "rmtree"]),
   ("File::Copy", ["copy", "move", "cp", "mv"]),
   ("File::Temp", ["tempfile", "tempdir"]),
   ("Cwd", ["cwd", "getcwd", "abs_path", "realpath"]),
   ("Storable", ["dclone"]),
   ("MIME::Base64", ["encode_base64", "decode_base64"]),
   ("Digest::MD5", ["md5_hex", "md5", "md5_base64"]),
   ("Digest::SHA", ["sha1_hex", "sha256_hex", "sha512_hex", "sha384_hex", "sha224_hex"]),
   ("Encode", ["encode", "decode", "encode_utf8", "decode_utf8", "is_utf8"]),
   ("utf8", ["encode", "decode", "upgrade", "downgrade", "is_utf8"]),
   ("JSON::PP", ["encode_json", "decode_json"]),
   ("Text::Wrap", ["wrap"]),
   ("Text::ParseWords", ["shellwords", "quotewords", "parse_line"]),
   ("Text::Abbrev", ["abbrev"]),
   ("Test::More", ["ok", "is", "isnt", "like", "unlike", "is_deeply", "cmp_ok", "pass", "fail",
      "diag", "note", "done_testing", "plan", "isa_ok", "can_ok"]),
   ("Term::ANSIColor", ["colored", "color"]),
   ("Sys::Hostname", ["hostname"]),
   ("Errno", ["ENOENT", "EACCES", "EEXIST", "EINTR", "EAGAIN"]),
   ("Fcntl", ["LOCK_EX", "LOCK_SH", "LOCK_UN", "LOCK_NB", "O_RDONLY", "O_WRONLY", "O_RDWR",
      "O_CREAT", "O_EXCL", "O_TRUNC", "O_APPEND", "SEEK_SET", "SEEK_CUR", "SEEK_END"])]

/-- Modules whose functions are taken over without asking. -/
def generousModules : List String :=
  ["POSIX", "Data::Dumper", "File::Basename", "File::Path", "File::Copy", "Cwd", "MIME::Base64",
   "Carp", "JSON::PP", "Encode", "Text::Wrap", "Test::More", "Time::Local", "Term::ANSIColor",
   "Sys::Hostname", "Text::ParseWords", "Text::Abbrev", "File::Temp", "Fcntl"]

/-- Modules that change how programs are read, or that have nothing that is asked for. -/
def plainModules : List String :=
  ["strict", "warnings", "utf8", "feature", "integer", "bytes", "open", "locale", "lib", "vars",
   "diagnostics", "mro", "experimental", "constant", "parent", "base", "overload", "IO::Handle",
   "IO::File", "FindBin", "Exporter", "English", "Getopt::Long", "Getopt::Std", "subs", "sort",
   "bigint", "bignum", "bigrat", "Tie::Hash", "Symbol", "version", "if", "re", "less", "filetest",
   "autouse", "fields", "threads", "Benchmark", "File::Spec", "File::Spec::Functions", "File::Find",
   "Config", "B", "attributes", "overloading", "charnames", "encoding", "IPC::Open3", "IPC::Open2",
   "Socket", "IO::Socket", "Math::Trig", "Time::Piece", "Hash::Util", "Unicode::Normalize",
   "Text::Tabs", "Memoize", "Tie::Array", "Tie::Scalar", "Class::Struct", "builtin"]

/-- Functions that take a block before their list. -/
def takesBlock (full : String) : Bool :=
  ["first", "any", "all", "none", "notall", "reduce", "reductions", "pairmap", "pairgrep",
   "pairfirst"].any fun n => full == "List::Util::" ++ n

/-- Functions of modules without arguments. -/
def takesNothing (full : String) : Bool :=
  (full.startsWith "POSIX::" &&
    (let n := (full.toList.drop 7); n.all fun c => c.isUpper || c == '_' || c.isDigit) &&
    !(["POSIX::_exit", "POSIX::WIFEXITED", "POSIX::WEXITSTATUS", "POSIX::WIFSIGNALED",
       "POSIX::WTERMSIG"].contains full)) || full.startsWith "Fcntl::" ||
  full.startsWith "Errno::" || full == "Time::HiRes::time"

def isModuleFunction (full : String) : Bool :=
  moduleFunctions.any fun (m, ns) => ns.any fun n => full == m ++ "::" ++ n

/-- A binary operation at the place, how strongly it binds, and its length. -/
def operatorHere : Reading (Option (String × Nat)) := do
  let a ← cur 0
  let b ← cur 1
  let c ← cur 2
  if isWordStart a then
    let w ← peekWord
    match w with
    | "lt" | "gt" | "le" | "ge" => return some (w, 14)
    | "eq" | "ne" | "cmp" => return some (w, 13)
    | "isa" => return some (w, 15)
    | "x" => return if b == '=' && c != '=' && c != '~' then none else some ("x", 18)
    | w =>
      if w.startsWith "x" && (w.toList.drop 1).all Char.isDigit then return some ("x", 18)
      else return none
  match a, b, c with
  | '*', '*', '=' => return none
  | '*', '*', _ => return some ("**", 21)
  | '|', '|', '=' => return none
  | '|', '|', _ => return some ("||", 9)
  | '/', '/', '=' => return none
  | '/', '/', _ => return some ("//", 9)
  | '&', '&', '=' => return none
  | '&', '&', _ => return some ("&&", 10)
  | '<', '=', '>' => return some ("<=>", 13)
  | '.', '.', '.' => return some ("...", 8)
  | '.', '.', _ => return some ("..", 8)
  | '<', '<', '=' => return none
  | '<', '<', _ => return some ("<<", 16)
  | '>', '>', '=' => return none
  | '>', '>', _ => return some (">>", 16)
  | '=', '=', _ => return some ("==", 13)
  | '!', '=', _ => return some ("!=", 13)
  | '=', '~', _ => return some ("=~", 19)
  | '!', '~', _ => return some ("!~", 19)
  | '<', '=', _ => return some ("<=", 14)
  | '>', '=', _ => return some (">=", 14)
  | '<', _, _ => return some ("<", 14)
  | '>', _, _ => return some (">", 14)
  | '+', '=', _ | '-', '=', _ | '*', '=', _ | '/', '=', _ | '%', '=', _ | '.', '=', _
  | '|', '=', _ | '&', '=', _ | '^', '=', _ => return none
  | '+', '+', _ | '-', '-', _ | '-', '>', _ => return none
  | '+', _, _ => return some ("+", 17)
  | '-', _, _ => return some ("-", 17)
  | '.', _, _ => return some (".", 17)
  | '*', _, _ => return some ("*", 18)
  | '/', _, _ => return some ("/", 18)
  | '%', _, _ => return some ("%", 18)
  | '|', _, _ => return some ("|", 11)
  | '^', _, _ => return some ("^", 11)
  | '&', _, _ => return some ("&", 12)
  | _, _, _ => return none

def binaryOf? (op : String) : Option Binary :=
  match op with
  | "+" => some .add
  | "-" => some .sub
  | "*" => some .mul
  | "/" => some .div
  | "%" => some .mod
  | "**" => some .pow
  | "." => some .concat
  | "x" => some .repeated
  | "<<" => some .shiftLeft
  | ">>" => some .shiftRight
  | "&" => some .bitAnd
  | "|" => some .bitOr
  | "^" => some .bitXor
  | "<" => some .numLt
  | "<=" => some .numLe
  | ">" => some .numGt
  | ">=" => some .numGe
  | "==" => some .numEq
  | "!=" => some .numNe
  | "<=>" => some .numCompare
  | "lt" => some .textLt
  | "le" => some .textLe
  | "gt" => some .textGt
  | "ge" => some .textGe
  | "eq" => some .textEq
  | "ne" => some .textNe
  | "cmp" => some .textCompare
  | _ => none

def lazyOf? (op : String) : Option Lazy :=
  match op with
  | "||" => some .or
  | "&&" => some .and
  | "//" => some .otherwise
  | _ => none

def assignments : List String :=
  ["**=", "||=", "&&=", "//=", "<<=", ">>=", "+=", "-=", "*=", "/=", "%=", ".=", "x=", "|=", "&=",
   "^="]

/-- An assignment at the place: the operation in front of its mark. -/
def assignmentHere : Reading (Option String) := do
  match ← assignments.findM? startsWith with
  | some m =>
    if m == "x=" && (← cur 2) == '=' then return none
    skip m.length
    return some (String.ofList m.toList.dropLast)
  | none =>
    if (← cur 0) == '=' && !(['=', '~', '>'].contains (← cur 1)) then
      skip 1
      return some ""
    else return none

def isListTarget : Expr → Bool
  | .list _ => true
  | .var .array _ | .var .hash _ | .deref .array _ | .deref .hash _ => true
  | .items _ _ | .entries _ _ => true
  | .declare _ .array _ | .declare _ .hash _ => true
  | .localized e => isListTarget e
  | _ => false

def topic : Expr :=
  .var .scalar (.shared "main::_")

def arguments : Expr :=
  .var .array (.shared "main::_")

def endingWords : List String :=
  ["if", "unless", "while", "until", "for", "foreach", "and", "or", "xor", "x", "eq", "ne", "lt",
   "gt", "le", "ge", "cmp", "isa"]

/-- Whether a term starts at the place; for one argument fewer marks start terms. -/
def termHere : Reading Bool := do
  let a ← cur 0
  let b ← cur 1
  if isWordStart a then
    let w ← peekWord
    return !(endingWords.contains w)
  if a.isDigit || ['$', '@', '"', '\'', '`', '\\', '[', '{', '(', '!', '~'].contains a then
    return true
  match a with
  | '%' | '&' =>
    return isWordStart b || b == '$' || b == '{' || (a == '%' && (b == '+' || b == ':'))
  | _ => return false

def readNumber : Reading Expr := do
  let digits (base : Nat) : Reading (List Char) := do
    let ds ← takeWhile fun c => (Text.digitIn? base c).isSome || c == '_'
    return ds.filter (· != '_')
  let whole (n : Nat) : Expr :=
    if n < twoTo 64 then .constant (.int n)
    else .constant (.float ((Script.floatOfInt? n).getD (1.0 / 0.0)))
  let a ← cur 0
  let b ← cur 1
  if a == '0' && (b == 'x' || b == 'X') then
    skip 2
    return whole ((Text.naturalIn? 16 (← digits 16)).getD 0)
  if a == '0' && (b == 'b' || b == 'B') then
    skip 2
    return whole ((Text.naturalIn? 2 (← digits 2)).getD 0)
  if a == '0' && (b == 'o' || b.isDigit || b == '_') then
    skip (if b == 'o' then 2 else 1)
    return whole ((Text.naturalIn? 8 (← digits 8)).getD 0)
  let front ← digits 10
  let part ← if (← cur 0) == '.' && (← cur 1) != '.' && !(isWordStart (← cur 1)) then do
      skip 1
      let ds ← digits 10
      pure (some ds)
    else pure none
  let e ← cur 0
  let after ← cur 1
  let third ← cur 2
  let signed := after == '+' || after == '-'
  let tail ← if (e == 'e' || e == 'E') && (after.isDigit || (signed && third.isDigit)) then do
      skip (if signed then 2 else 1)
      let ds ← digits 10
      pure (some ((if signed then [after] else []) ++ ds))
    else pure none
  match part, tail with
  | none, none => return whole ((Text.natural? front).getD 0)
  | part, tail =>
    let text := front ++ (match part with
      | some ds => '.' :: ds
      | none => []) ++ (match tail with
      | some ds => 'e' :: ds
      | none => [])
    let text := if text.head? == some '.' then '0' :: text else text
    return .constant (.float ((Script.floatOf? text).getD 0.0))

/-- Whether what stands after a brace looks like the first key of a hash. -/
def looksLikeHash : Reading Bool := fun s =>
  let look : Reading Bool := do
    skipBlank
    let c ← cur 0
    if c == '}' then return true
    let quoted := c == '"' || c == '\''
    if quoted then
      skip 1
      let _ ← readDelimited c
    else if isWordStart c then
      let _ ← readName
    skipBlank
    let d ← cur 0
    return (d == '=' && (← cur 1) == '>') ||
      (d == ',' && (quoted || (isWordStart c && !c.isLower)))
  match look s with
  | .ok (b, _) => .ok (b, s)
  | .error _ => .ok (false, s)

def constantTexts : Expr → List String
  | .constant (.text s) => [s]
  | .unary .negate (.constant (.text s)) => ["-" ++ s]
  | .list es => es.flatMap constantTexts
  | _ => []

/-- The characters of a transliteration, with its ranges written out. -/
def spelled (cs : List Char) : List Char :=
  go (cs.length + 1) (plain (cs.length + 1) cs)
where
  /-- escapes are marked, so that they start no ranges -/
  plain : Nat → List Char → List (Char × Bool)
    | 0, _ => []
    | _, [] => []
    | fuel + 1, '\\' :: rest =>
      let s : ReadState := { file := "", text := rest.toArray }
      match readTextEscape s with
      | .ok (cs, s) => cs.map (·, true) ++ plain fuel (rest.drop s.place)
      | .error _ => plain fuel rest
    | fuel + 1, c :: rest => (c, false) :: plain fuel rest
  go : Nat → List (Char × Bool) → List Char
    | 0, _ => []
    | _, [] => []
    | fuel + 1, (a, _) :: ('-', false) :: (b, _) :: rest =>
      if a ≤ b then
        (List.range (b.toNat - a.toNat + 1)).map (fun i => Char.ofNat (a.toNat + i)) ++ go fuel rest
      else a :: '-' :: b :: go fuel rest
    | fuel + 1, (c, _) :: rest => c :: go fuel rest

def quotedWords (cs : List Char) : Expr :=
  .list ((Text.wordsWhere isSpaceChar cs).map textExpr)

/-- A text inside of the program, which starts after the line: its lines up to a mark. -/
def takeHere (mark : List Char) (indented : Bool) : Reading (List Char) := do
  let s ← get
  let line := lineEnd s.text s.text.size s.place
  let start := match s.jump with
    | some (a, b) => if a == line then b else line + 1
    | none => line + 1
  let rec go : Nat → Nat → List (List Char) → List (List Char) × Nat
    | 0, p, done => (done.reverse, p)
    | fuel + 1, p, done =>
      if s.text.size ≤ p then (done.reverse, p)
      else
        let e := lineEnd s.text s.text.size p
        let l := (s.text.extract p e).toList
        let bare := if indented then l.dropWhile fun c => c == ' ' || c == '\t' else l
        if bare == mark then (done.reverse, min (e + 1) s.text.size)
        else go fuel (e + 1) (l :: done)
  let (lines, stop) := go (s.text.size + 1) start []
  set { s with jump := some (line, stop) }
  let margin (l : List Char) : Nat := (l.takeWhile fun c => c == ' ' || c == '\t').length
  let full := lines.filter fun l => l.any fun c => !(isSpaceChar c)
  let least := if indented then (full.map margin).min?.getD 0 else 0
  return (lines.map fun l => l.drop least ++ ['\n']).flatten

/-- Whether a word may be a way to write a text. -/
def quoteWords : List String :=
  ["q", "qq", "qw", "m", "s", "tr", "y", "qr", "qx"]

/-- Whether a delimiter of a text follows a word of a length. -/
def delimiterAfter (n : Nat) : Reading Bool := fun s =>
  let look : Reading Bool := do
    let c ← cur n
    if isSpaceChar c then
      skip n
      skipBlank
      let d ← cur 0
      return !(isWordPart d) && !([',', ';', ')', '=', '\x00', '#'].contains d)
    else if c == '=' then return (← cur (n + 1)) != '>' && (← cur (n + 1)) != '='
    else return !([',', ';', ')', '\x00'].contains c)
  match look s with
  | .ok (b, _) => .ok (b, s)
  | .error _ => .ok (false, s)

/-- Whether an arrow that makes a word a text follows a number of characters. -/
def fatCommaAfter (n : Nat) : Reading Bool := fun s =>
  let p := blankEnd s.text s.jump (s.text.size + 1) (s.place + n)
  .ok (s.text[p]? == some '=' && s.text[p + 1]? == some '>', s)

def specialName? : Reading (Option String) := do
  let c ← cur 0
  if c.isDigit then
    return some (String.ofList (← takeWhile Char.isDigit))
  if c == '^' && (← cur 1).isUpper then
    let d ← cur 1
    skip 2
    return some ("^" ++ d.toString)
  if "&`'+!@/\\,;.\"|$<>()[]0-?:".toList.contains c then
    skip 1
    return some c.toString
  return none

def special (name : String) : Expr :=
  match Text.natural? name.toList with
  | some 0 => .var .scalar (.shared "main::0")
  | some n => .builtin "capture" [.constant (.int n)]
  | none =>
    match name with
    | "&" => .builtin "capture" [.constant (.int 0)]
    | "`" => .builtin "before match" []
    | "'" => .builtin "after match" []
    | "+" => .builtin "last capture" []
    | n => .var .scalar (.shared ("main::" ++ n))

/-- What is called when a name stands before arguments. -/
def calledName (word : String) : Reading String := do
  let s ← get
  let own := fullName s.package word
  if (s.known.lookup own).isSome then return own
  match s.imports.lookup own with
  | some full => return full
  | none =>
    if (word.splitOn "::").length > 1 then return word else return own

end Flowboard.Sigil
