import Playground.Fault

/-!
# Locators

A diagnostic may say where it applies by a pair of numbers in parentheses, such as `(3,5)`, with
white space allowed around each number.

* `readLocator` — the pair that opens a text.
* `locatorDigits` — the first pair in a text, as digits.
* `findLocator` — the first pair in a text, as numbers.
-/

namespace Playground.Diagnostic

open Playground.Decimal Playground.Text

/-- A run of decimal digits that opens a text after white space, and the text after the run and the
white space behind it. -/
def readNumber (cs : List Char) : Option (List Char × List Char) :=
  let body := cs.dropWhile isBlank
  let ds := body.takeWhile isDecimalDigit
  if ds.isEmpty then none else some (ds, (body.dropWhile isDecimalDigit).dropWhile isBlank)

/-- The digits of the two numbers of a locator that opens the text. -/
def readLocator : List Char → Option (List Char × List Char)
  | '(' :: cs =>
    match readNumber cs with
    | some (line, ',' :: rest) =>
      match readNumber rest with
      | some (column, ')' :: _) => some (line, column)
      | _ => none
    | _ => none
  | _ => none

/-- The digits of the first locator in the text. -/
def locatorDigits : List Char → Option (List Char × List Char)
  | [] => none
  | c :: cs =>
    match readLocator (c :: cs) with
    | some pair => some pair
    | none => locatorDigits cs

/-- The number that a run of digits stands for; a run that is too long is refused. -/
def numberOf (ds : List Char) : Except Fault Nat :=
  if maxDigits < ds.length then .error (.tooManyDigits ds.length) else .ok (ofDigits ds)

/-- The line and the column of the first locator in the text. -/
def findLocator (text : String) : Except Fault (Option (Nat × Nat)) :=
  match locatorDigits text.toList with
  | none => .ok none
  | some (line, column) => do
    let l ← numberOf line
    let c ← numberOf column
    pure (some (l, c))

end Playground.Diagnostic
