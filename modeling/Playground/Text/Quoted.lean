import Playground.Text.CharClass
import Playground.Text.Hex

/-!
# Quoted text

A text is quoted with single quotes unless it holds a single quote and no double quote.
Backslashes, the quote in use and characters that do not print are escaped.

* `quote` — the quoted form of a text.
* `quoteBytes` — the quoted form of a byte string.
-/

namespace Playground.Text

/-- A character written by its number, in the shortest of three widths. -/
def numericEscape (c : Char) : List Char :=
  if c.toNat < 0x100 then '\\' :: 'x' :: hexNat 2 c.toNat
  else if c.toNat < 0x10000 then '\\' :: 'u' :: hexNat 4 c.toNat
  else '\\' :: 'U' :: hexNat 8 c.toNat

/-- How one character is written between quotes `q`. -/
def escapeChar (q c : Char) : List Char :=
  if c = q || c = '\\' then ['\\', c]
  else if c = '\n' then ['\\', 'n']
  else if c = '\r' then ['\\', 'r']
  else if c = '\t' then ['\\', 't']
  else if isPrintable c then [c]
  else numericEscape c

def quoteMark (cs : List Char) : Char :=
  if cs.contains '\'' && !cs.contains '"' then '"' else '\''

def quoteChars (cs : List Char) : List Char :=
  let q := quoteMark cs
  q :: cs.flatMap (escapeChar q) ++ [q]

def quote (s : String) : String := String.ofList (quoteChars s.toList)

/-- How one byte is written between quotes `q`. -/
def escapeByte (q : Char) (b : UInt8) : List Char :=
  let c := Char.ofNat b.toNat
  if c = q || c = '\\' then ['\\', c]
  else if c = '\n' then ['\\', 'n']
  else if c = '\r' then ['\\', 'r']
  else if c = '\t' then ['\\', 't']
  else if 32 ≤ b.toNat && b.toNat < 127 then [c]
  else '\\' :: 'x' :: hexByte b

/-- The quoted form of a byte string, marked by the letter b. -/
def quoteBytes (bytes : List UInt8) : String :=
  let q := quoteMark (bytes.map fun b => Char.ofNat b.toNat)
  String.ofList ('b' :: q :: bytes.flatMap (escapeByte q) ++ [q])

end Playground.Text
