import Playground.Diagnostic.Annotation

/-!
# Limiting diagnostics

Of the diagnostics of one compilation only the first few are reported one by one.

* `limitDiagnostics` — the diagnostics that are shown, the annotations that they make, the number of
  all diagnostics and a summary where some are not shown.
-/

namespace Playground

open Playground.Decimal

/-- The diagnostics of one compilation as they are reported. -/
structure LimitedDiagnostics where
  shown : List String
  annotations : List Annotation
  total : Nat
  summary : Option String
  deriving DecidableEq, Repr

/-- The first `n` members; a negative `n` leaves out that many at the end. -/
def firstMembers {α : Type} (n : Int) (xs : List α) : List α :=
  if n < 0 then xs.take (xs.length - n.natAbs) else xs.take n.natAbs

/-- How many diagnostics are reported where nothing else is set. -/
def maxPrintingErrors : Int := 8

def tooManyErrorsMessage (total : Nat) : String :=
  "Too many errors (" ++ naturalText total ++ ")"

/-- The annotations that diagnostics make, in their order. -/
def annotationsOf : List String → Except Fault (List Annotation)
  | [] => .ok []
  | d :: ds => do
    let first ← toAnnotation d none
    let others ← annotationsOf ds
    pure (first.toList ++ others)

/-- At most `maxCount` diagnostics, with a summary exactly when there are more. -/
def limitDiagnostics (diagnostics : List String) (maxCount : Int) :
    Except Fault LimitedDiagnostics := do
  let shown := firstMembers maxCount diagnostics
  let annotations ← annotationsOf shown
  let total := diagnostics.length
  pure {
    shown, annotations, total
    summary := if maxCount < (total : Int) then some (tooManyErrorsMessage total) else none }

end Playground
