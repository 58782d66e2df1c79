import Playground.Value.Written

/-!
# Values as texts

* `Json.write` — the text of a value.

A character beyond ASCII is escaped where one escape of four digits can write it. A key that is no
text and a value that the texts have no form for are written as an empty text.
-/

namespace Playground.Json

open Playground.Decimal Playground.Text

/-- How a character is written between quotes. -/
def writeChar (c : Char) : List Char :=
  if c = '"' || c = '\\' then ['\\', c]
  else if c.toNat < 0x20 || (0x7f ≤ c.toNat && c.toNat < 0x10000) then
    '\\' :: 'u' :: hexNat 4 c.toNat
  else [c]

def writeString (s : String) : String :=
  "\"" ++ String.ofList (s.toList.flatMap writeChar) ++ "\""

/-- The text of a floating point number; what is not finite is written as a word. -/
def writeNumber (x : Binary64) : String :=
  if x.isFinite then x.text
  else if x.isNaN then "NaN"
  else if x.isNegative then "-Infinity" else "Infinity"

def writeKey : Value → String
  | .str s => writeString s
  | _ => writeString ""

mutual

def write : Value → String
  | .null => "null"
  | .bool b => if b then "true" else "false"
  | .int i => integerText i
  | .float x => writeNumber x
  | .list xs => "[" ++ ", ".intercalate (writeAll xs) ++ "]"
  | .dict entries => "\x7b" ++ ", ".intercalate (writeEntries entries) ++ "\x7d"
  | v => writeKey v

def writeAll : List Value → List String
  | [] => []
  | x :: xs => write x :: writeAll xs

def writeEntries : List (Value × Value) → List String
  | [] => []
  | (k, v) :: rest => (writeKey k ++ ": " ++ write v) :: writeEntries rest

end

end Playground.Json
