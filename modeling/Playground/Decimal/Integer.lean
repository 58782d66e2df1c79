import Playground.Decimal.Digits
import Playground.Text.Quoted
import Playground.Text.Split

/-!
# Reading integers

* `splitSign` — the sign of a number and what follows it.
* `groupedDigits?` — digits between which single underscores may stand.
* `integer?` — the integer that a text writes.
* `noInteger`, `overlongInteger` — what is said about a text that is none.
-/

namespace Playground.Decimal

open Playground.Text

def splitSign : List Char → Bool × List Char
  | '-' :: rest => (true, rest)
  | '+' :: rest => (false, rest)
  | rest => (false, rest)

def withSign (negative : Bool) (n : Nat) : Int := if negative then -(n : Int) else n

/-- The digits of a text in which single underscores may stand between digits. -/
def groupedDigits? (isDigit : Char → Bool) (cs : List Char) : Option (List Char) :=
  let groups := splitOn '_' cs
  if groups.all fun g => !g.isEmpty && g.all isDigit then some groups.flatten else none

/-- The integer that a text writes with a sign and digits of any script, white space around them
aside. -/
def integer? (cs : List Char) : Option Int :=
  let (negative, body) := splitSign (strip cs)
  match groupedDigits? isDecimalDigit body with
  | some ds => if maxDigits < ds.length then none else some (withSign negative (ofDigits ds))
  | none => none

/-- What is said about a text that is no integer in a base; only its beginning is shown. -/
def noInteger (base : Nat) (cs : List Char) : String :=
  "invalid literal for int() with base " ++ naturalText base ++ ": " ++
    String.ofList ((quoteChars cs).take 200)

/-- What is said about an integer of too many digits. -/
def overlongInteger (count : Nat) : String :=
  "Exceeds the limit (4300 digits) for integer string conversion: value has " ++
    naturalText count ++ " digits; use sys.set_int_max_str_digits() to increase the limit"

/-! ### Laws -/

/-- A text without the separator is one piece. -/
theorem splitOn_of_forall_ne {sep : Char} {cs : List Char} (h : ∀ c ∈ cs, c ≠ sep) :
    splitOn sep cs = [cs] := by
  induction cs with
  | nil => rfl
  | cons c rest ih =>
    have hc := h c (by simp)
    have hr := ih fun d hd => h d (by simp [hd])
    simp [splitOn, hc, hr]

end Playground.Decimal
