/-!
# Hexadecimal text

* `hexDigit`, `hexValue?` — one digit, written in lower case and read in either.
* `hexByte` — two digits.
* `hexNat` — a number, padded to a least width.
-/

namespace Playground.Text

/-- The lower-case hexadecimal digit of a number below sixteen. -/
def hexDigit (n : Nat) : Char :=
  if n < 10 then Char.ofNat (48 + n) else Char.ofNat (87 + n)

/-- The value of a hexadecimal digit of either case. -/
def hexValue? (c : Char) : Option Nat :=
  if '0' ≤ c && c ≤ '9' then some (c.toNat - 48)
  else if 'a' ≤ c && c ≤ 'f' then some (c.toNat - 87)
  else if 'A' ≤ c && c ≤ 'F' then some (c.toNat - 55)
  else none

/-- Reading undoes writing. -/
theorem hexValue?_hexDigit {n : Nat} (h : n < 16) : hexValue? (hexDigit n) = some n := by
  have table : ∀ k : Fin 16, hexValue? (hexDigit k.val) = some k.val := by decide
  exact table ⟨n, h⟩

def hexByte (b : UInt8) : List Char := [hexDigit (b.toNat / 16), hexDigit (b.toNat % 16)]

def hexDigits (n : Nat) : List Char :=
  if n = 0 then [] else hexDigits (n / 16) ++ [hexDigit (n % 16)]
termination_by n
decreasing_by omega

/-- The digits of a number with zeros in front up to `least` digits. -/
def hexNat (least n : Nat) : List Char :=
  let digits := hexDigits n
  List.replicate (least - digits.length) '0' ++ digits

def hexBytes (bytes : List UInt8) : String := String.ofList (bytes.flatMap hexByte)

/-- Reads digits without separators as bytes. -/
def bytesOfHex? : List Char → Option (List UInt8)
  | [] => some []
  | [_] => none
  | a :: b :: rest => do
    let high ← hexValue? a
    let low ← hexValue? b
    let others ← bytesOfHex? rest
    pure (UInt8.ofNat (16 * high + low) :: others)

end Playground.Text
