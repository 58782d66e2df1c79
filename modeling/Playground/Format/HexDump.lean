import Playground.Fault

/-!
# Hex dumps

* `chunksOf` — a list cut into pieces of one length.
* `hexRow` — the offset of a piece and its bytes.
* `hexDump` — the rows of a byte string.
-/

namespace Playground.Format

open Playground.Text

/-- Pieces of `w` members each, the last one possibly shorter. -/
def chunksOf {α : Type} (w : Nat) (xs : List α) : List (List α) :=
  if _h : xs = [] ∨ w = 0 then [] else xs.take w :: chunksOf w (xs.drop w)
termination_by xs.length
decreasing_by
  have : xs.length ≠ 0 := fun e => _h (.inl (List.eq_nil_of_length_eq_zero e))
  simp only [List.length_drop]
  omega

def spacedBytes (bytes : List UInt8) : List Char := joinWith [' '] (bytes.map hexByte)

/-- A row: the offset in at least eight digits, two spaces and the bytes. -/
def hexRow (offset : Nat) (bytes : List UInt8) : List Char :=
  hexNat 8 offset ++ ' ' :: ' ' :: spacedBytes bytes

/-- The rows of a byte string, `w` bytes each. -/
def hexRows (w : Nat) (data : List UInt8) : List (List Char) :=
  (chunksOf w data).zipIdx.map fun (piece, i) => hexRow (i * w) piece

/-- The dump of a byte string in rows of `width` bytes. -/
def dumpRows (width : Nat) (data : List UInt8) : String :=
  String.ofList (joinWith ['\n'] (hexRows width data))

/-- The dump of a byte string; a negative width gives no rows and a width of zero is refused. -/
def hexDump (data : List UInt8) (width : Int) : Except Fault String :=
  if width = 0 then .error (.foreign "ValueError" "range() arg 3 must not be zero")
  else if width < 0 then .ok ""
  else .ok (dumpRows width.toNat data)

def dumpWidth : Nat := 16

end Playground.Format
