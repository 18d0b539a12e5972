import Flowboard.Json.Record

/-! Places on the canvas. -/
namespace Flowboard

/-- A place on the canvas; `y` grows downwards. -/
structure Position where
  x : Binary64
  y : Binary64
  deriving DecidableEq

namespace Position

/-- The upper left corner. -/
def origin : Position :=
  ⟨.zero, .zero⟩

/-- Coordinates that have been read, which are finite. -/
structure Draft where
  x : Option Double
  y : Option Double

/-- Coordinates that are not given are zero. -/
def record : Record Draft Position where
  name := "Position"
  fields :=
    [.of "x" false Decoder.double (·.x) fun d v => { d with x := some v },
     .of "y" false Decoder.double (·.y) fun d v => { d with y := some v }]
  strict := false
  empty := ⟨none, none⟩
  build d := .ok ⟨.ofDouble (d.x.getD .zero), .ofDouble (d.y.getD .zero)⟩

/-- A coordinate in JSON, which has numbers only for finite ones. -/
def coordinate (b : Binary64) : Json :=
  match b.double? with
  | some d => .number (.double d)
  | none => .null

def json (p : Position) : Json :=
  .object [("x", coordinate p.x), ("y", coordinate p.y)]

end Position

end Flowboard
