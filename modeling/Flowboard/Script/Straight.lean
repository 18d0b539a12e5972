import Flowboard.Program
import Flowboard.Text.Integer

/-! Scripts of comments, assignments of texts to names and print calls of a text or a name, one on
each line. -/
namespace Flowboard.Script

/-- The words that cannot be names. -/
def keywords : List String :=
  ["False", "None", "True", "and", "as", "assert", "async", "await", "break", "class", "continue",
   "def", "del", "elif", "else", "except", "finally", "for", "from", "global", "if", "import", "in",
   "is", "lambda", "nonlocal", "not", "or", "pass", "raise", "return", "try", "while", "with",
   "yield"]

/-- The character whose number is given by hexadecimal digits. -/
def hexChar? (ds : List Char) : Option Char :=
  (Text.naturalIn? 16 ds).bind fun n => if n.isValidChar then some (Char.ofNat n) else none

def escapedChar? : Char → Option Char
  | '\\' => some '\\'
  | '"' => some '"'
  | '\'' => some '\''
  | 'a' => some '\x07'
  | 'b' => some '\x08'
  | 'f' => some '\x0c'
  | 'n' => some '\n'
  | 'r' => some '\r'
  | 't' => some '\t'
  | 'v' => some '\x0b'
  | _ => none

/-- Whether an escape with this letter is one of octal digits, a name or a number of other length than
`scan` reads, or continues the line. -/
def isHardEscape (c : Char) : Bool :=
  c.isDigit || ['x', 'u', 'U', 'N', '\n'].contains c

/-- The text of a literal up to its quote, and what follows the quote. Literals stand on one line. A
backslash before a letter that makes no escape stands for itself. -/
def scan (quote : Char) : List Char → Option (List Char × List Char)
  | [] => none
  | '\\' :: 'u' :: a :: b :: c :: d :: rest =>
    match hexChar? [a, b, c, d], scan quote rest with
    | some x, some (text, rest) => some (x :: text, rest)
    | _, _ => none
  | '\\' :: 'x' :: a :: b :: rest =>
    match hexChar? [a, b], scan quote rest with
    | some x, some (text, rest) => some (x :: text, rest)
    | _, _ => none
  | '\\' :: c :: rest =>
    if isHardEscape c then none
    else
      match escapedChar? c, scan quote rest with
      | _, none => none
      | some x, some (text, rest) => some (x :: text, rest)
      | none, some (text, rest) => some ('\\' :: c :: text, rest)
  | c :: rest =>
    if c = quote then some ([], rest)
    else if c = '\n' then none
    else (scan quote rest).map fun (text, rest) => (c :: text, rest)

namespace Straight

def isBlank (c : Char) : Bool :=
  c == ' ' || c == '\t'

def skipBlanks (s : List Char) : List Char :=
  s.dropWhile isBlank

def isNameChar (c : Char) : Bool :=
  c.isAlphanum || c == '_'

/-- Whether a text is a name that lines can bind: it is no keyword, and not the function that
prints. -/
def isPlainName (name : String) : Bool :=
  name.toList.all isNameChar && (name.toList.head?.any fun c => !c.isDigit) &&
    !keywords.contains name && name != "print"

def readName (s : List Char) : Option (String × List Char) :=
  let name := String.ofList (s.takeWhile isNameChar)
  if isPlainName name then some (name, skipBlanks (s.dropWhile isNameChar)) else none

/-- A text between quotes, and what follows it after blanks. -/
def readText : List Char → Option (String × List Char)
  | '"' :: s => (scan '"' s).map fun (text, rest) => (String.ofList text, skipBlanks rest)
  | '\'' :: s => (scan '\'' s).map fun (text, rest) => (String.ofList text, skipBlanks rest)
  | _ => none

/-- Whether nothing but a comment is left of a line. -/
def isOver : List Char → Bool
  | [] => true
  | c :: _ => c == '#'

/-- The statement of a line that starts with a statement. -/
def readStatement (s : List Char) : Option Statement :=
  if "print(".toList.isPrefixOf s then
    let s := skipBlanks (s.drop "print(".length)
    match readText s with
    | some (text, ')' :: rest) => if isOver (skipBlanks rest) then some (.printText text) else none
    | some _ => none
    | none =>
      match readName s with
      | some (name, ')' :: rest) =>
        if isOver (skipBlanks rest) then some (.printName name) else none
      | _ => none
  else
    match readName s with
    | some (name, '=' :: rest) =>
      match readText (skipBlanks rest) with
      | some (text, rest) => if isOver rest then some (.assign name text) else none
      | none => none
    | _ => none

/-- The statements of lines; empty lines and comments have none. -/
def readLines : List (List Char) → Option (List Statement)
  | [] => some []
  | line :: rest =>
    match readLines rest with
    | none => none
    | some more =>
      if isOver (skipBlanks line) then some more else (readStatement line).map (· :: more)

def lines : List Char → List (List Char)
  | [] => [[]]
  | '\n' :: rest => [] :: lines rest
  | c :: rest =>
    match lines rest with
    | line :: more => (c :: line) :: more
    | [] => [[c]]

/-- The statements of a script, if all of its lines can be read. -/
def read (source : String) : Option (List Statement) :=
  readLines (lines source.toList)

/-- What statements print, one after the other, and the values of the variables after them, if all
names are bound where they are printed. -/
def execute (bindings : Table String) : List Statement → Option (List String × Table String)
  | [] => some ([], bindings)
  | .assign name value :: rest => execute (bindings.insert name value) rest
  | .printText text :: rest =>
    (execute bindings rest).map fun (texts, last) => (text :: texts, last)
  | .printName name :: rest =>
    match bindings.get? name, execute bindings rest with
    | some value, some (texts, last) => some (value :: texts, last)
    | _, _ => none

end Straight

end Flowboard.Script
