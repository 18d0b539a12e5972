import Flowboard.Json.Basic

/-! JSON text up to its first fault. A tree holds what a text shows before it breaks off, so that a
reader who wants a certain shape meets a wrong type and a broken text in the order in which they
stand in the text. -/
namespace Flowboard

/-- What can be wrong with a text. -/
inductive TextFault where
  | eofList
  | eofObject
  | eofString
  | eofValue
  | expectedColon
  | expectedListCommaOrEnd
  | expectedObjectCommaOrEnd
  | expectedIdent
  | expectedValue
  | invalidEscape
  | invalidNumber
  | numberOutOfRange
  | invalidUnicode
  | controlCharacter
  | keyNotString
  | loneSurrogate
  | hexEscapeCut
  | trailingComma
  | trailingCharacters
  | nestingTooDeep
  deriving DecidableEq, Repr

def TextFault.message : TextFault → String
  | eofList => "EOF while parsing a list"
  | eofObject => "EOF while parsing an object"
  | eofString => "EOF while parsing a string"
  | eofValue => "EOF while parsing a value"
  | expectedColon => "expected `:`"
  | expectedListCommaOrEnd => "expected `,` or `]`"
  | expectedObjectCommaOrEnd => "expected `,` or `\x7d`"
  | expectedIdent => "expected ident"
  | expectedValue => "expected value"
  | invalidEscape => "invalid escape"
  | invalidNumber => "invalid number"
  | numberOutOfRange => "number out of range"
  | invalidUnicode => "invalid unicode code point"
  | controlCharacter => "control character (\\u0000-\\u001F) found while parsing a string"
  | keyNotString => "key must be a string"
  | loneSurrogate => "lone leading surrogate in hex escape"
  | hexEscapeCut => "unexpected end of hex escape"
  | trailingComma => "trailing comma"
  | trailingCharacters => "trailing characters"
  | nestingTooDeep => "recursion limit exceeded"

/-- How a list breaks off between items. -/
inductive ListCut where
  /-- the text ends after the bracket or after an item -/
  | eof
  /-- an item is followed by neither a comma nor the closing bracket -/
  | noSeparator
  /-- a comma is followed by the closing bracket -/
  | trailingComma
  /-- the text ends after a comma -/
  | eofAfterComma
  deriving DecidableEq, Repr

/-- How an object breaks off between members. -/
inductive ObjectCut where
  /-- the text ends after the brace or after a member -/
  | eof
  /-- a member is followed by neither a comma nor the closing brace -/
  | noSeparator
  /-- a comma is followed by the closing brace -/
  | trailingComma
  /-- the text ends after a comma -/
  | eofAfterComma
  /-- the name of a member is broken: what its reader sees, and what one sees who skips it -/
  | brokenKey (read skip : TextFault)
  /-- no colon follows a name: the text ends, or something else follows -/
  | noColon (key : Except TextFault String) (atEnd : Bool)

mutual

/-- A value, or what there is of it. Numbers and strings can be well formed and still have no
value; only a reader who needs the value sees that fault. -/
inductive Tree where
  | null
  | bool (b : Bool)
  | number (n : Except TextFault Number)
  | string (s : Except TextFault String)
  | array (items : Items)
  | object (members : Members)
  /-- the text ends before the value -/
  | missing
  /-- a string without an end: the fault for a reader, and the one for somebody who skips it -/
  | brokenString (read skip : TextFault)
  /-- something else that is no value, with the same two faults -/
  | broken (read skip : TextFault)

inductive Items where
  | done
  | cons (head : Tree) (tail : Items)
  | cut (how : ListCut)

inductive Members where
  | done
  | cons (key : Except TextFault String) (value : Tree) (rest : Members)
  | cut (how : ObjectCut)
  /-- something else stands where a name should -/
  | stranger

end

instance : Inhabited Tree := ⟨.null⟩

/-- The fault for a reader of items. -/
def ListCut.readFault : ListCut → TextFault
  | eof => .eofList
  | noSeparator => .expectedListCommaOrEnd
  | trailingComma => .trailingComma
  | eofAfterComma => .eofValue

/-- The fault for somebody who skips the items. -/
def ListCut.skipFault : ListCut → TextFault
  | eof => .eofList
  | noSeparator => .expectedListCommaOrEnd
  | trailingComma => .expectedValue
  | eofAfterComma => .eofValue

/-- The fault for a reader who wants no more items. -/
def ListCut.endFault : ListCut → TextFault
  | eof => .eofList
  | noSeparator => .trailingCharacters
  | trailingComma => .trailingComma
  | eofAfterComma => .trailingCharacters

/-- The fault for somebody who skips the members. -/
def ObjectCut.skipFault : ObjectCut → TextFault
  | eof => .eofObject
  | noSeparator => .expectedObjectCommaOrEnd
  | trailingComma => .keyNotString
  | eofAfterComma => .eofObject
  | brokenKey _ skip => skip
  | noColon _ true => .eofObject
  | noColon _ false => .expectedColon

mutual

/-- The first fault that somebody sees who skips a value: neither the depth of nesting nor the
values of numbers and strings matter. -/
def Tree.skip : Tree → Except TextFault Unit
  | .array items => items.skip
  | .object members => members.skip
  | .missing => .error .eofValue
  | .brokenString _ skip => .error skip
  | .broken _ skip => .error skip
  | _ => .ok ()

def Items.skip : Items → Except TextFault Unit
  | .done => .ok ()
  | .cons t rest =>
    match t.skip with
    | .ok () => rest.skip
    | .error e => .error e
  | .cut how => .error how.skipFault

def Members.skip : Members → Except TextFault Unit
  | .done => .ok ()
  | .cons _ t rest =>
    match t.skip with
    | .ok () => rest.skip
    | .error e => .error e
  | .cut how => .error how.skipFault
  | .stranger => .error .keyNotString

end

mutual

/-- The tree of a value, which has no faults. -/
def Json.tree : Json → Tree
  | .null => .null
  | .bool b => .bool b
  | .number n => .number (.ok n)
  | .string s => .string (.ok s)
  | .array items => .array (Json.treeItems items)
  | .object members => .object (Json.treeMembers members)

def Json.treeItems : List Json → Items
  | [] => .done
  | x :: rest => .cons x.tree (Json.treeItems rest)

def Json.treeMembers : List (String × Json) → Members
  | [] => .done
  | (k, x) :: rest => .cons (.ok k) x.tree (Json.treeMembers rest)

end

end Flowboard
