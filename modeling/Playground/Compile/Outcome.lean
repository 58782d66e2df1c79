import Playground.Compile.Choice
import Playground.Format.HexDump
import Playground.Format.Size

/-!
# Outcomes

* `Artifact` — the text and the binary that a compiler produced.
* `Outcome` — how a compilation ended.
* `Artifact.render` — the output view.
* `BinaryExport` — a named binary for the reader to save.
-/

namespace Playground

/-- The output of a compiler. -/
structure Artifact where
  text : String := ""
  binary : List UInt8 := []
  deriving DecidableEq, Repr, Inhabited

/-- How a compilation ended. -/
inductive Outcome where
  | success (text : String) (binary : List UInt8)
  | failure (diagnostics : List String)
  | internalError (message : String)
  deriving DecidableEq, Repr, Inhabited

namespace Outcome

def kind : Outcome → String
  | success .. => "success"
  | failure _ => "failure"
  | internalError _ => "internal_error"

def isSuccess : Outcome → Bool
  | success .. => true
  | _ => false

end Outcome

/-- The output view: the text, or the dump of the binary. -/
def Artifact.render (a : Artifact) : OutputType → String
  | .text => a.text
  | .binary => Format.dumpRows Format.dumpWidth a.binary

def binaryMediaType : String := "application/octet-stream"

/-- A named binary for the reader to save. -/
structure BinaryExport where
  filename : String
  payload : List UInt8
  mediaType : String := binaryMediaType
  deriving DecidableEq, Repr, Inhabited

end Playground
