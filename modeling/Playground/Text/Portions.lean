import Playground.Text.Split
import Playground.Text.Utf8

/-!
# Reading a text in portions

The bytes of a file come in pieces, and its text is handed on in portions of a fixed number of
characters. A fault in the bytes shows when the portion that needs their piece is asked for, so the
portions in front of it can still be used. The fault gives its place within the piece, to which the
bytes of a character belong that the piece before has left open.

* `Portioned` — what could be handed on, and the fault that ended it.
* `readPortions` — reads bytes in portions.
-/

namespace Playground.Text

def portionLength : Nat := 4096

def pieceLength : Nat := 8192

/-- What could be handed on in whole portions, and the fault that ended it. -/
structure Portioned where
  text : List Char
  fault : Option Utf8Fault
  deriving DecidableEq, Repr, Inhabited

/-- What is known in reading: the bytes that are left, those of a character that is still open, the
characters that were read and not handed on, whether a carriage return was held back behind them,
and the bytes and characters of the last piece. -/
structure PieceReader where
  bytes : List UInt8
  unfinished : List UInt8 := []
  ready : List Char := []
  holdsReturn : Bool := false
  lastBytes : Nat := 1
  lastChars : Nat := 1

namespace PieceReader

/-- The number of bytes of the next piece: what the missing characters of a portion take if they
take as many bytes each as those of the last piece did. -/
def nextLength (r : PieceReader) : Nat :=
  let missing := portionLength - r.ready.length
  let wanted := if r.lastChars = 0 then missing else r.lastBytes * missing / r.lastChars
  max pieceLength (max missing wanted)

/-- The whole characters of bytes, and the bytes of a character that they leave open. -/
def wholeChars (bytes : List UInt8) : Except Utf8Fault (List Char × List UInt8) :=
  match utf8Decode bytes with
  | .ok cs => .ok (cs, [])
  | .error (.unexpectedEnd position _ _) =>
    (utf8Decode (bytes.take position)).map fun cs => (cs, bytes.drop position)
  | .error fault => .error fault

/-- Reads a piece; behind the last byte no character may be open. -/
def readPiece (r : PieceReader) : Except Utf8Fault PieceReader := do
  let piece := r.bytes.take r.nextLength
  let held := if r.holdsReturn then ['\r'] else []
  if piece.isEmpty then
    let cs ← utf8Decode r.unfinished
    pure { r with
      unfinished := [], ready := r.ready ++ unifyNewlines (held ++ cs), holdsReturn := false }
  else
    let (cs, left) ← wholeChars (r.unfinished ++ piece)
    let cs := held ++ cs
    let holdsReturn := cs.getLast? = some '\r'
    let read := unifyNewlines (if holdsReturn then cs.dropLast else cs)
    pure {
      bytes := r.bytes.drop piece.length
      unfinished := left
      ready := r.ready ++ read
      holdsReturn
      lastBytes := piece.length
      lastChars := read.length }

/-- Hands on portions until the bytes are used up or a fault shows. Every round hands on a portion
or takes a piece, so the number of bytes bounds them. -/
def handOn : Nat → PieceReader → List Char → Portioned
  | 0, _, done => ⟨done, none⟩
  | fuel + 1, r, done =>
    if portionLength ≤ r.ready.length then
      handOn fuel { r with ready := r.ready.drop portionLength }
        (done ++ r.ready.take portionLength)
    else
      match r.readPiece with
      | .error fault => ⟨done, some fault⟩
      | .ok after => if r.bytes.isEmpty then ⟨done ++ after.ready, none⟩ else handOn fuel after done

end PieceReader

def readPortions (bytes : List UInt8) : Portioned :=
  match utf8Decode bytes with
  | .ok cs => ⟨unifyNewlines cs, none⟩
  | .error _ => PieceReader.handOn (2 * bytes.length + 2) { bytes } []

end Playground.Text
