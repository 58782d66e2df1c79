import Playground.Fault

/-!
# Sizes for readers

* `formatSize` — a number of bytes with a unit, one digit after the point from a kilobyte on.
-/

namespace Playground.Format

open Playground.Decimal

def sizeUnits : List String := ["KB", "MB", "GB"]

/-- A quotient with one digit after the point, a half going to the even neighbour. -/
def oneDecimal (num den : Nat) : String :=
  let tenths := roundHalfEven (10 * num) den
  naturalText (tenths / 10) ++ "." ++ naturalText (tenths % 10)

/-- Divides by 1024 for each unit until the quotient is below 1024 or the units are used up. -/
def inUnits (num den : Nat) : List String → String
  | [] => oneDecimal num den
  | [unit] => oneDecimal num (den * 1024) ++ " " ++ unit
  | unit :: units =>
    if num < den * 1024 * 1024 then oneDecimal num (den * 1024) ++ " " ++ unit
    else inUnits num (den * 1024) units

def formatSize (size : Int) : Except Fault String :=
  if size < 1024 then .ok (integerText size ++ " B")
  else
    let value := Binary64.ofInt size
    if value.isFinite then
      let (num, den) := value.magnitude
      .ok (inUnits num den sizeUnits)
    else .error .tooLargeForFloat

end Playground.Format
