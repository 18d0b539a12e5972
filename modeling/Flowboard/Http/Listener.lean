import Flowboard.Config

/-! The addresses that a server can listen on. -/
namespace Flowboard.Http

open Text (naturalIn?)

/-- The value of a part of an address: hexadecimal after `0x`, octal after another zero, and else
decimal. -/
def numeral? : List Char → Option Nat
  | '0' :: 'x' :: ds => naturalIn? 16 ds
  | '0' :: 'X' :: ds => naturalIn? 16 ds
  | '0' :: ds => naturalIn? 8 ('0' :: ds)
  | ds => naturalIn? 10 ds

/-- The texts between the places of a character. -/
def splitAt (c : Char) (s : List Char) : List (List Char) :=
  s.foldr (fun d parts =>
    match parts with
    | part :: parts => if d = c then [] :: part :: parts else (d :: part) :: parts
    | [] => [[d]]) [[]]

/-- Whether up to `places` numbers with points between them make an address of that many bytes: the
last number fills the bytes that are left. -/
def isNumeric : Nat → List (List Char) → Bool
  | _, [] => false
  | 0, _ => false
  | places + 1, [last] => (numeral? last).any (· < twoTo (8 * (places + 1)))
  | places + 1, part :: rest => (numeral? part).any (· < 256) && isNumeric places rest

/-- Whether a text is an address of four bytes, or a short form of one. -/
def isAddress (s : List Char) : Bool :=
  isNumeric 4 (splitAt '.' s)

/-- Whether a text is a decimal number below 256 without leading zeros. -/
def isOctet (s : List Char) : Bool :=
  (naturalIn? 10 s).any (· < 256) && (s.length == 1 || s.head? != some '0')

/-- The groups of four hexadecimal digits that a text between colons stands for. An address of four
bytes may stand at the end in the place of two. -/
def groups? : List (List Char) → Option (List Nat)
  | [] => some []
  | [last] =>
    let parts := splitAt '.' last
    if parts.length == 4 && parts.all isOctet then
      match parts.filterMap (naturalIn? 10) with
      | [a, b, c, d] => some [256 * a + b, 256 * c + d]
      | _ => none
    else if last.length ≤ 4 then (naturalIn? 16 last).map fun n => [n]
    else none
  | part :: rest =>
    if part.length ≤ 4 then
      match naturalIn? 16 part, groups? rest with
      | some n, some ns => some (n :: ns)
      | _, _ => none
    else none

/-- The texts before and after the first pair of colons, if there is one. -/
def splitPair : List Char → Option (List Char × List Char)
  | ':' :: ':' :: rest => some ([], rest)
  | c :: rest => (splitPair rest).map fun (before, rest) => (c :: before, rest)
  | [] => none

/-- The groups in a text that may be empty. -/
def groupsOf? (s : List Char) : Option (List Nat) :=
  if s.isEmpty then some [] else groups? (splitAt ':' s)

/-- The eight groups of an address, of which a pair of colons stands for some that are zero. -/
def longAddress? (s : List Char) : Option (List Nat) :=
  match splitPair s with
  | none => (groupsOf? s).filter fun ns => ns.length == 8
  | some (before, rest) =>
    if before.contains '.' then none
    else
      match groupsOf? before, groupsOf? rest with
      | some a, some b =>
        if a.length + b.length < 8 then
          some (a ++ List.replicate (8 - a.length - b.length) 0 ++ b)
        else none
      | _, _ => none

/-- The groups of an address, after which a percent sign and the number of an interface may stand. -/
def scopedAddress? (s : List Char) : Option (List Nat) :=
  let address := s.takeWhile (· != '%')
  match s.drop address.length with
  | [] => longAddress? address
  | _ :: number =>
    if (naturalIn? 10 number).any (· < twoTo 32) then longAddress? address else none

/-- Where a host is. -/
inductive Whereabouts where
  /-- at an address of the machine, or at all of them -/
  | here
  /-- at an address that the machine does not have -/
  | elsewhere
  | nowhere
  deriving DecidableEq, Repr

/-- Where an address of eight groups is. The machine has all addresses of four bytes, which may be
written as long ones, but none of the long ones itself. -/
def whereabouts (groups : List Nat) : Whereabouts :=
  if groups.all (· == 0) || groups.take 6 == [0, 0, 0, 0, 0, 65535] then .here else .elsewhere

/-- Where a host is, which brackets may stand around if it is a long address. The machine itself has
a name; other names are not known. -/
def hostWhereabouts (host : List Char) : Whereabouts :=
  let long := match host with
    | '[' :: rest => if rest.getLast? == some ']' then scopedAddress? rest.dropLast else none
    | host => scopedAddress? host
  if isAddress host || host.map Char.toLower == "localhost".toList then .here
  else (long.map whereabouts).getD .nowhere

/-- Whether a server can listen there. -/
def listen (c : Config) : Except String Unit :=
  let host := c.server.host.toList
  if host.contains '\x00' then .error "file name contained an unexpected NUL byte"
  else
    match hostWhereabouts host with
    | .here => .ok ()
    | .elsewhere => .error "Cannot assign requested address (os error 99)"
    | .nowhere => .error "failed to lookup address information: Name or service not known"

end Flowboard.Http
