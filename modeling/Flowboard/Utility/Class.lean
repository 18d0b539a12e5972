/-! Classes of characters by name, and sets of characters. Only ASCII characters belong to a class
with a name. -/
namespace Flowboard.Utility

def inClass (name : String) (c : Char) : Bool :=
  let n := c.toNat
  match name with
  | "alpha" => c.isAlpha
  | "digit" => c.isDigit
  | "alnum" => c.isAlphanum
  | "upper" => c.isUpper
  | "lower" => c.isLower
  | "space" => c == ' ' || (9 ≤ n && n ≤ 13)
  | "blank" => c == ' ' || c == '\t'
  | "punct" => 33 ≤ n && n ≤ 126 && !c.isAlphanum
  | "print" => 32 ≤ n && n ≤ 126
  | "graph" => 33 ≤ n && n ≤ 126
  | "cntrl" => n < 32 || n == 127
  | "xdigit" => c.isDigit || ('a' ≤ c && c ≤ 'f') || ('A' ≤ c && c ≤ 'F')
  | _ => false

def classChars (name : String) : List Char :=
  ((List.range 128).map Char.ofNat).filter (inClass name)

/-- A member of a set between brackets. -/
inductive SetItem where
  | range (first last : Char)
  | named (name : String)
  deriving DecidableEq, Repr

def SetItem.contains (i : SetItem) (c : Char) : Bool :=
  match i with
  | range a b => a ≤ c && c ≤ b
  | named name => inClass name c

/-- The name of a class before its end `:]`, and what follows that. -/
def readClassName (s : List Char) : Option (String × List Char) :=
  let name := s.takeWhile Char.isAlpha
  match s.drop name.length with
  | ':' :: ']' :: rest => some (String.ofList name, rest)
  | _ => none

/-- The members of a set up to its closing bracket, and what follows that. The first character is a
member even if it is a bracket. A backslash takes the meaning from the character after it if
`escapes`. -/
def readSet (escapes : Bool) :
    Nat → Bool → List Char → Option (List SetItem × List Char)
  | 0, _, _ => none
  | _, _, [] => none
  | fuel + 1, first, c :: s =>
    let more (i : SetItem) (s : List Char) :=
      (readSet escapes fuel false s).map fun (is, s) => (i :: is, s)
    if c = ']' ∧ ¬ first then some ([], s)
    else
      match c, s with
      | '[', ':' :: t =>
        match readClassName t with
        | some (name, rest) => more (.named name) rest
        | none => more (.range '[' '[') s
      | '\\', d :: t =>
        if escapes then
          match t with
          | '-' :: e :: u => if e = ']' then more (.range d d) t else more (.range d e) u
          | t => more (.range d d) t
        else more (.range '\\' '\\') s
      | c, '-' :: d :: t =>
        if d = ']' then more (.range c c) s else more (.range c d) t
      | c, s => more (.range c c) s

/-- A set between brackets after its opening one: whether it is turned round, and its members. -/
def readBracket (escapes : Bool) (s : List Char) :
    Option ((Bool × List SetItem) × List Char) :=
  let (negated, t) := match s with
    | '!' :: t => (true, t)
    | '^' :: t => (true, t)
    | t => (false, t)
  (readSet escapes (t.length + 1) true t).map fun (items, rest) => ((negated, items), rest)

def inBracket (negated : Bool) (items : List SetItem) (c : Char) : Bool :=
  items.any (·.contains c) != negated

end Flowboard.Utility
