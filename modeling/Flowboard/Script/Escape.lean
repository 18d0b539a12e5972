import Flowboard.Text.CharacterName
import Flowboard.Text.Integer

/-! Escapes in texts. -/
namespace Flowboard.Script

def numbered? (width : Nat) (s : List Char) : Option (Char × List Char) :=
  let ds := (s.take width).takeWhile fun c => (Text.digitIn? 16 c).isSome
  if ds.length < width then none
  else
    let n := (Text.naturalIn? 16 ds).getD 0
    if n < 0x110000 then some (Text.ofCodePoint n, s.drop width) else none

/-- The text of a literal after its escapes, unless one of them is broken. In bytes, only numbers of
bytes count. -/
def unescape? (bytes : Bool) : Nat → List Char → Option (List Char)
  | 0, s => some s
  | _, [] => some []
  | fuel + 1, '\\' :: c :: s =>
    let one (d : Char) : Option (List Char) := (unescape? bytes fuel s).map (d :: ·)
    let number (width : Nat) : Option (List Char) :=
      (numbered? width s).bind fun (d, rest) => (unescape? bytes fuel rest).map (d :: ·)
    match c with
    | '\n' => unescape? bytes fuel s
    | '\\' => one '\\'
    | '\'' => one '\''
    | '"' => one '"'
    | 'a' => one '\x07'
    | 'b' => one '\x08'
    | 'f' => one '\x0c'
    | 'n' => one '\n'
    | 'r' => one '\r'
    | 't' => one '\t'
    | 'v' => one '\x0b'
    | 'x' => number 2
    | c =>
      if '0' ≤ c ∧ c ≤ '7' then
        let ds := ((c :: s).take 3).takeWhile fun c => (Text.digitIn? 8 c).isSome
        let n := (Text.naturalIn? 8 ds).getD 0
        (unescape? bytes fuel ((c :: s).drop ds.length)).map
          (Char.ofNat (if bytes then n % 256 else n) :: ·)
      else if bytes then (one c).map ('\\' :: ·)
      else if c = 'u' then number 4
      else if c = 'U' then number 8
      else if c = 'N' then
        match s with
        | '{' :: rest =>
          let name := String.ofList (rest.takeWhile (· != '}'))
          (Text.characterNamed? name).bind fun d =>
            (unescape? bytes fuel ((rest.dropWhile (· != '}')).drop 1)).map (d :: ·)
        | _ => none
      else (one c).map ('\\' :: ·)
  | fuel + 1, c :: s => (unescape? bytes fuel s).map (c :: ·)

end Flowboard.Script
