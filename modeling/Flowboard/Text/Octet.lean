/-! Halves of pairs of sixteen-bit units, which are no characters but may stand in the texts of
scripts, each as a character of a block for private use; and text in which every character stands
for one byte. -/
namespace Flowboard.Text

def halvesStart : Nat := 0x10F000

def isHalf (c : Char) : Bool :=
  halvesStart ≤ c.toNat && c.toNat < halvesStart + 0x800

def codePoint (c : Char) : Nat :=
  if isHalf c then c.toNat - halvesStart + 0xD800 else c.toNat

def ofCodePoint (n : Nat) : Char :=
  if 0xD800 ≤ n ∧ n < 0xE000 then Char.ofNat (n - 0xD800 + halvesStart) else Char.ofNat n

/-- The order of texts by the numbers of what they hold. -/
def precedes : List Char → List Char → Bool
  | [], [] => false
  | [], _ :: _ => true
  | _ :: _, [] => false
  | a :: s, b :: t =>
    codePoint a < codePoint b || (codePoint a == codePoint b && precedes s t)

def octets (bytes : List UInt8) : List Char :=
  bytes.map fun b => Char.ofNat b.toNat

def octetBytes (s : List Char) : List UInt8 :=
  s.map fun c => UInt8.ofNat c.toNat

/-- The text of a string, with one character for each of its bytes. -/
def octetsOf (s : String) : List Char :=
  octets s.toUTF8.data.toList

/-- The lines of a text, each with the line feed at its end; the last one may have none. -/
def lines (s : List Char) : List (List Char) :=
  let (current, done) := s.foldl (fun (current, done) c =>
    if c = '\n' then ([], ('\n' :: current).reverse :: done) else (c :: current, done))
    (([] : List Char), ([] : List (List Char)))
  (if current.isEmpty then done else current.reverse :: done).reverse

/-- A line without the line feed at its end. -/
def chomp (line : List Char) : List Char :=
  if line.getLast? = some '\n' then line.dropLast else line

/-- The texts between the places where `p` holds. -/
def splitWhere (p : Char → Bool) (s : List Char) : List (List Char) :=
  let (current, done) := s.foldl (fun (current, done) c =>
    if p c then ([], current.reverse :: done) else (c :: current, done))
    (([] : List Char), ([] : List (List Char)))
  (current.reverse :: done).reverse

/-- The texts without characters where `p` holds, as long as they can be. -/
def wordsWhere (p : Char → Bool) (s : List Char) : List (List Char) :=
  (splitWhere p s).filter fun w => !w.isEmpty

/-- A text with blanks before it up to a width. -/
def padLeft (width : Nat) (s : List Char) : List Char :=
  List.replicate (width - s.length) ' ' ++ s

/-- A text with blanks after it up to a width. -/
def padRight (width : Nat) (s : List Char) : List Char :=
  s ++ List.replicate (width - s.length) ' '

end Flowboard.Text
