import Playground.Text.CharClass

/-!
# Decimal digits

* `digits` — the decimal digits of a natural number.
* `ofDigits` — the number that a run of digits of any script stands for.
* `integerText` — the decimal text of an integer.
* `ofDigits_digits` — reading the digits of a number gives the number.
-/

namespace Playground.Decimal

open Playground.Text

/-- The decimal digit of a number below ten. -/
def digit (n : Nat) : Char := Char.ofNat (48 + n)

/-- The decimal digits of a number, most significant first. -/
def digits (n : Nat) : List Char :=
  if n < 10 then [digit n] else digits (n / 10) ++ [digit (n % 10)]
termination_by n
decreasing_by omega

/-- The value of a run of digits; a character that is no digit counts as zero. -/
def ofDigits (cs : List Char) : Nat :=
  cs.foldl (fun acc c => 10 * acc + (digitValue? c).getD 0) 0

/-- The most digits that a number is read from or written with. -/
def maxDigits : Nat := 4300

def integerChars (i : Int) : List Char :=
  if i < 0 then '-' :: digits i.natAbs else digits i.natAbs

def integerText (i : Int) : String := String.ofList (integerChars i)

def naturalText (n : Nat) : String := String.ofList (digits n)

/-- Digits of at most ten are read back. -/
theorem digitValue?_digit {n : Nat} (h : n < 10) : digitValue? (digit n) = some n := by
  have table : ∀ k : Fin 10, digitValue? (digit k.val) = some k.val := by decide
  exact table ⟨n, h⟩

theorem ofDigits_append_singleton (cs : List Char) (c : Char) :
    ofDigits (cs ++ [c]) = 10 * ofDigits cs + (digitValue? c).getD 0 := by
  simp [ofDigits, List.foldl_append]

/-- Reading the digits of a number gives the number. -/
theorem ofDigits_digits (n : Nat) : ofDigits (digits n) = n := by
  induction n using Nat.strongRecOn with
  | ind n ih =>
    unfold digits
    split
    · next h => simp [ofDigits, digitValue?_digit h]
    · next h =>
      rw [ofDigits_append_singleton, ih (n / 10) (by omega),
        digitValue?_digit (Nat.mod_lt n (by omega))]
      simp
      omega

/-- The digits of a number with zeros in front up to `least` digits. -/
def paddedDigits (least n : Nat) : List Char :=
  let ds := digits n
  List.replicate (least - ds.length) '0' ++ ds

end Playground.Decimal
