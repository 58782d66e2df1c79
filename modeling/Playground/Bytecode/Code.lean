import Playground.Diagnostic.Layout
import Playground.Fault

/-!
# Code objects

* `Code` — a compiled unit with the units nested in its constants.
* `Code.walk` — the units of a tree, a unit before those nested in it.
-/

namespace Playground.Bytecode

/-- What is known of one compiled unit apart from its constants. -/
structure CodeUnit where
  name : String := "<module>"
  line : Int := 1
  body : String := ""
  /-- The instructions that come back when the unit is written out and read in again. -/
  restored : String := ""
  /-- The fault of writing the unit out, if it cannot be written. -/
  dumpFault : Option Fault := none
  /-- The fault of reading the written unit, if it cannot be read. -/
  loadFault : Option Fault := none
  dump : List UInt8 := []
  listingFault : Option Fault := none
  listing : String := ""
  deriving Repr, Inhabited, DecidableEq

mutual

/-- A compiled unit with its constants. -/
inductive Code where
  | mk (root : CodeUnit) (constants : List Constant)

/-- A constant of a compiled unit: a nested unit or a plain value. -/
inductive Constant where
  | code (c : Code)
  | plain

end

namespace Code

instance : Inhabited Code := ⟨mk {} []⟩

def root : Code → CodeUnit
  | mk u _ => u

mutual

/-- The units of a tree, a unit before those nested in it. -/
def walk : Code → List CodeUnit
  | mk u constants => u :: walkConstants constants

def walkConstants : List Constant → List CodeUnit
  | [] => []
  | .code c :: rest => walk c ++ walkConstants rest
  | .plain :: rest => walkConstants rest

end

end Code

end Playground.Bytecode
