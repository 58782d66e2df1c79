import Playground.Text.Utf8

/-!
# Encodings

A text begins with characters of ASCII, so the zero bytes among its first four tell how many bytes
a character takes and in which order they come.

* `Encoding` — how the characters of a text are written in bytes.
* `Encoding.guess` — the encoding that the first bytes of a text tell.
* `Encoding.decode?` — the text of bytes.
-/

namespace Playground.Text

/-- How the characters of a text are written in bytes: in one to four, or in units of two or four
bytes, the most significant first where `isBig` holds. -/
inductive Encoding where
  | utf8
  | utf16 (isBig : Bool)
  | utf32 (isBig : Bool)
  deriving DecidableEq, Repr, Inhabited

namespace Encoding

/-- The encoding that the first bytes of a text tell. -/
def guess : List UInt8 → Encoding
  | [a, b] => if a = 0 then utf16 true else if b = 0 then utf16 false else utf8
  | a :: b :: c :: d :: _ =>
    if a = 0 then (if b = 0 then utf32 true else utf16 true)
    else if b = 0 then (if c = 0 && d = 0 then utf32 false else utf16 false)
    else utf8
  | _ => utf8

/-- The units that groups of `size` bytes make up; the last group has to be whole. -/
def units? (size : Nat) (isBig : Bool) (bytes : List UInt8) : Option (List Nat) :=
  if bytes.length % size = 0 then
    some ((List.range (bytes.length / size)).map fun k =>
      let group := (bytes.drop (k * size)).take size
      (if isBig then group else group.reverse).foldl (fun n b => 256 * n + b.toNat) 0)
  else none

def opensPair (n : Nat) : Bool := 0xD800 ≤ n && n < 0xDC00

def closesPair (n : Nat) : Bool := 0xDC00 ≤ n && n < 0xE000

/-- The character of a number; half of a pair has none of its own. -/
def charOf (n : Nat) : Char := if opensPair n || closesPair n then '\ufffd' else Char.ofNat n

/-- The characters of units of two bytes. -/
def ofPairs : List Nat → List Char
  | a :: b :: rest =>
    if opensPair a && closesPair b then
      Char.ofNat (0x10000 + (a - 0xD800) * 0x400 + (b - 0xDC00)) :: ofPairs rest
    else charOf a :: ofPairs (b :: rest)
  | [a] => [charOf a]
  | [] => []

def decode? (e : Encoding) (bytes : List UInt8) : Option (List Char) :=
  match e with
  | utf8 => (utf8Decode bytes).toOption
  | utf16 isBig => (units? 2 isBig bytes).map ofPairs
  | utf32 isBig => do
    let units ← units? 4 isBig bytes
    if units.all (· < 0x110000) then some (units.map charOf) else none

end Encoding

end Playground.Text
