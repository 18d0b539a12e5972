import Flowboard.Json.Decoder
import Flowboard.Json.Reader

/-! Values of a certain shape from whole texts and from JSON values. -/
namespace Flowboard.Decoder

variable {α : Type}

/-- Reads a whole text; only blanks may follow the value. -/
def ofSymbols (d : Decoder α) (s : List Text.Symbol) : Except DecodeError α :=
  let (t, rest) := Json.Reader.tree s
  match d .document t, rest with
  | .error e, _ => .error e
  | .ok x, some rest =>
    if (Json.Reader.skipSpace rest).isEmpty then .ok x
    else .error (.here (.text .trailingCharacters))
  | .ok _, none => .error (.here (.text .trailingCharacters))

def ofText (d : Decoder α) (s : String) : Except DecodeError α :=
  d.ofSymbols (Text.ofString s)

def ofJson (d : Decoder α) (v : Json) : Except DecodeError α :=
  d .value v.tree

end Flowboard.Decoder
