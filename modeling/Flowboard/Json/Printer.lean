import Flowboard.Double.Printer
import Flowboard.Json.Basic
import Flowboard.Text.Quoted

/-! JSON values as text, on one line or indented by two blanks a level. -/
namespace Flowboard

/-- The text of a JSON number. -/
def Number.text : Number → List Char
  | .natural n => Nat.toDigits 10 n.val
  | .negative n => '-' :: Nat.toDigits 10 (n.val + 1)
  | .double d => d.text .json

namespace Json

open Text (quote)

/-- Where an indented line begins. -/
def newline (depth : Nat) : List Char :=
  '\n' :: List.replicate (2 * depth) ' '

mutual

/-- A value on one line, without blanks. -/
def compact : Json → List Char
  | null => "null".toList
  | bool true => "true".toList
  | bool false => "false".toList
  | number n => n.text
  | string s => quote s
  | array items => '[' :: compactItems items
  | object members => '{' :: compactMembers members

/-- Items and the bracket that closes them. -/
def compactItems : List Json → List Char
  | [] => [']']
  | [x] => compact x ++ [']']
  | x :: rest => compact x ++ ',' :: compactItems rest

/-- Members and the brace that closes them. -/
def compactMembers : List (String × Json) → List Char
  | [] => ['}']
  | [(k, x)] => quote k ++ ':' :: compact x ++ ['}']
  | (k, x) :: rest => quote k ++ ':' :: compact x ++ ',' :: compactMembers rest

end

mutual

/-- A value whose items and members stand on lines of their own, `depth` levels in. -/
def pretty (depth : Nat) : Json → List Char
  | null => "null".toList
  | bool true => "true".toList
  | bool false => "false".toList
  | number n => n.text
  | string s => quote s
  | array [] => ['[', ']']
  | array items => '[' :: prettyItems depth items
  | object [] => ['{', '}']
  | object members => '{' :: prettyMembers depth members

/-- Items, a line each, and the bracket that closes them. -/
def prettyItems (depth : Nat) : List Json → List Char
  | [] => newline depth ++ [']']
  | [x] => newline (depth + 1) ++ pretty (depth + 1) x ++ newline depth ++ [']']
  | x :: rest => newline (depth + 1) ++ pretty (depth + 1) x ++ ',' :: prettyItems depth rest

/-- Members, a line each, and the brace that closes them. -/
def prettyMembers (depth : Nat) : List (String × Json) → List Char
  | [] => newline depth ++ ['}']
  | [(k, x)] =>
    newline (depth + 1) ++ quote k ++ ':' :: ' ' :: pretty (depth + 1) x ++ newline depth ++ ['}']
  | (k, x) :: rest =>
    newline (depth + 1) ++ quote k ++ ':' :: ' ' :: pretty (depth + 1) x ++
      ',' :: prettyMembers depth rest

end

/-- The one-line text of a value. -/
def render (v : Json) : String :=
  String.ofList v.compact

/-- The indented text of a value. -/
def renderPretty (v : Json) : String :=
  String.ofList (v.pretty 0)

end Json

end Flowboard
