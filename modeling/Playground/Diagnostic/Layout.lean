import Playground.Decimal.Digits

/-!
# The layout of diagnostics

* `formatDiagnostic` — a category, a code and a message, with a locator on a line of its own.
-/

namespace Playground

open Playground.Decimal

/-- The name under which the compiled text appears in diagnostics and listings. -/
def sourceName : String := "input.py"

/-- The first line of a diagnostic. -/
def diagnosticHeader (category code message : String) : String :=
  category ++ " " ++ code ++ ": " ++ message

/-- A diagnostic; a column that is missing or zero reads as one. -/
def formatDiagnostic (code message : String) (line column : Option Int) (category : String) :
    String :=
  let header := diagnosticHeader category code message
  match line with
  | none => header
  | some l =>
    let c := match column with
      | some c => if c = 0 then 1 else c
      | none => 1
    header ++ "\n in " ++ sourceName ++ "(" ++ integerText l ++ "," ++ integerText c ++ ")"

end Playground
