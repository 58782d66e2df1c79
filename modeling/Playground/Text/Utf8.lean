import Playground.Text.Hex

/-!
# UTF-8

* `utf8Encode` — the bytes of a text.
* `utf8Decode` — the text of bytes, or the first fault in them.
-/

namespace Playground.Text

/-- Why bytes are not UTF-8 text. -/
inductive Utf8Fault where
  /-- The byte at this position opens no character. -/
  | invalidStart (position : Nat) (byte : UInt8)
  /-- The character that starts here breaks off after `length` bytes, before another byte. -/
  | invalidContinuation (position : Nat) (byte : UInt8) (length : Nat)
  /-- The text ends inside the character that starts here. -/
  | unexpectedEnd (position : Nat) (byte : UInt8) (length : Nat)
  deriving DecidableEq, Repr

/-- The wording of a fault: the bytes concerned and the reason. -/
def Utf8Fault.message : Utf8Fault → String
  | .invalidStart p b => spanText p b 1 ++ ": invalid start byte"
  | .invalidContinuation p b n => spanText p b n ++ ": invalid continuation byte"
  | .unexpectedEnd p b n => spanText p b n ++ ": unexpected end of data"
where
  /-- One byte is named by its value, several by their positions. -/
  spanText (p : Nat) (b : UInt8) (n : Nat) : String :=
    if n ≤ 1 then s!"'utf-8' codec can't decode byte 0x{String.ofList (hexByte b)} in position {p}"
    else s!"'utf-8' codec can't decode bytes in position {p}-{p + n - 1}"

def utf8EncodeChar (c : Char) : List UInt8 :=
  let n := c.toNat
  if n < 0x80 then [UInt8.ofNat n]
  else if n < 0x800 then [UInt8.ofNat (0xC0 + n / 64), UInt8.ofNat (0x80 + n % 64)]
  else if n < 0x10000 then
    [UInt8.ofNat (0xE0 + n / 4096), UInt8.ofNat (0x80 + n / 64 % 64), UInt8.ofNat (0x80 + n % 64)]
  else
    [UInt8.ofNat (0xF0 + n / 262144), UInt8.ofNat (0x80 + n / 4096 % 64),
      UInt8.ofNat (0x80 + n / 64 % 64), UInt8.ofNat (0x80 + n % 64)]

def utf8Encode (cs : List Char) : List UInt8 := cs.flatMap utf8EncodeChar

/-- The number of continuation bytes that a first byte asks for, with the least and greatest
value of the first of them. -/
def utf8Lead (b : UInt8) : Option (Nat × Nat × Nat) :=
  let n := b.toNat
  if n < 0x80 then some (0, 0x80, 0xBF)
  else if n < 0xC2 then none
  else if n < 0xE0 then some (1, 0x80, 0xBF)
  else if n = 0xE0 then some (2, 0xA0, 0xBF)
  else if n = 0xED then some (2, 0x80, 0x9F)
  else if n < 0xF0 then some (2, 0x80, 0xBF)
  else if n = 0xF0 then some (3, 0x90, 0xBF)
  else if n < 0xF4 then some (3, 0x80, 0xBF)
  else if n = 0xF4 then some (3, 0x80, 0x8F)
  else none

/-- The value bits of a first byte. -/
def utf8LeadBits (b : UInt8) : Nat :=
  let n := b.toNat
  if n < 0x80 then n else if n < 0xE0 then n - 0xC0 else if n < 0xF0 then n - 0xE0 else n - 0xF0

/-- A character in reading: where it starts, its first byte, the bytes read, the bytes owed, the
bounds of the next one and the value so far. -/
structure Utf8Partial where
  start : Nat
  lead : UInt8
  read : Nat
  owed : Nat
  low : Nat
  high : Nat
  value : Nat

/-- Reads bytes from position `p`, inside a character or between two. -/
def utf8DecodeFrom (p : Nat) (inside : Option Utf8Partial) :
    List UInt8 → Except Utf8Fault (List Char)
  | [] =>
    match inside with
    | none => .ok []
    | some part => .error (.unexpectedEnd part.start part.lead part.read)
  | b :: rest =>
    match inside with
    | some part =>
      if part.low ≤ b.toNat && b.toNat ≤ part.high then
        let value := part.value * 64 + (b.toNat - 0x80)
        if part.owed ≤ 1 then
          (utf8DecodeFrom (p + 1) none rest).map (Char.ofNat value :: ·)
        else
          utf8DecodeFrom (p + 1)
            (some { part with
              read := part.read + 1, owed := part.owed - 1, low := 0x80, high := 0xBF, value })
            rest
      else .error (.invalidContinuation part.start part.lead part.read)
    | none =>
      match utf8Lead b with
      | none => .error (.invalidStart p b)
      | some (owed, low, high) =>
        if owed = 0 then (utf8DecodeFrom (p + 1) none rest).map (Char.ofNat b.toNat :: ·)
        else utf8DecodeFrom (p + 1) (some ⟨p, b, 1, owed, low, high, utf8LeadBits b⟩) rest

def utf8Decode (bytes : List UInt8) : Except Utf8Fault (List Char) := utf8DecodeFrom 0 none bytes

end Playground.Text
