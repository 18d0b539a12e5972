/-! The two ways to bring nodes in order. -/
namespace Flowboard

/-- How nodes are brought in order: as they stand on the canvas, or along their connections. -/
inductive Strategy where
  | spatial
  | dependency
  deriving DecidableEq, Repr

namespace Strategy

def name : Strategy → String
  | spatial => "spatial"
  | dependency => "dependency"

/-- A word that names no strategy, in lower case. -/
structure Unknown where
  word : String
  deriving DecidableEq, Repr

def Unknown.message (e : Unknown) : String :=
  "unknown ordering strategy '" ++ e.word ++ "' (expected 'spatial' or 'dependency')"

/-- The strategy with a name; the case of ASCII letters does not matter. -/
def ofName (s : String) : Except Unknown Strategy :=
  let word := String.ofList (s.toList.map Char.toLower)
  if word = "spatial" then .ok spatial
  else if word = "dependency" then .ok dependency
  else .error ⟨word⟩

end Strategy

end Flowboard
