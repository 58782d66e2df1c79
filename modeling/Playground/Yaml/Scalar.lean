import Playground.Decimal.Integer
import Playground.Text.LetterCase
import Playground.Yaml.Tag

/-!
# The values of scalars

* `intValue`, `floatValue`, `boolValue`, `binaryValue` — texts read as values of one kind.
* `scalarValue` — the value of a text with a tag.
-/

namespace Playground.Yaml

open Playground.Decimal Playground.Text

def worthless {α : Type} (why : String) : Except Problem α := .error (.worthless why)

/-- What is said about a text without the character that was looked for. -/
def tooShort : String := "string index out of range"

/-! ### Integers -/

/-- The value of a digit of any script, or of a letter that counts on behind nine. -/
def digitIn? (base : Nat) (c : Char) : Option Nat :=
  let d := if c.isAlpha then hexValue? c else digitValue? c
  d.filter (· < base)

def digitsIn? (base : Nat) (cs : List Char) : Option Nat :=
  if cs.isEmpty then none
  else cs.foldlM (fun acc c => (digitIn? base c).map fun d => base * acc + d) 0

/-- The text without a zero and a letter for its base. -/
def dropBaseMark (letter : Char) : List Char → List Char
  | '0' :: c :: rest => if c.toLower = letter then rest else '0' :: c :: rest
  | cs => cs

/-- The letters of the bases that may be named in front of digits. -/
def baseLetters : List (Nat × Char) := [(2, 'b'), (8, 'o'), (16, 'x')]

/-- An integer in a base, a sign in front of it and blanks around it allowed. Decimal numbers are
of limited length. -/
def integerIn (base : Nat) (text : List Char) : Except Problem Int :=
  let (negative, body) := splitSign (strip text)
  let body :=
    match baseLetters.find? fun e => e.1 = base with
    | some e => dropBaseMark e.2 body
    | none => body
  let run := body.takeWhile fun c => (digitIn? base c).isSome
  if base = 10 && maxDigits < run.length then worthless (overlongInteger run.length)
  else
    match digitsIn? base body with
    | some n => .ok (withSign negative n)
    | none => worthless (noInteger base text)

def signed (negative : Bool) (i : Int) : Int := if negative then -i else i

/-- The value of parts to base sixty, the first one the most significant. -/
def sexagesimal (parts : List Int) : Int := parts.foldl (fun acc d => 60 * acc + d) 0

def withoutUnderscores (text : List Char) : List Char := text.filter (· ≠ '_')

/-- An integer without a sign; its start tells the base. -/
def unsignedValue : List Char → Except Problem Int
  | [] => worthless tooShort
  | ['0'] => .ok 0
  | '0' :: 'b' :: ds => integerIn 2 ds
  | '0' :: 'x' :: ds => integerIn 16 ds
  | '0' :: ds => integerIn 8 ('0' :: ds)
  | cs =>
    if cs.contains ':' then sexagesimal <$> (splitOn ':' cs).mapM (integerIn 10)
    else integerIn 10 cs

def intValue (text : List Char) : Except Problem Value := do
  let cs := withoutUnderscores text
  let i ← unsignedValue (Tag.unsigned cs)
  pure (.int (signed (cs.head? = some '-') i))

/-! ### Floating point numbers -/

def decimalNumber (text : List Char) : Except Problem Binary64 :=
  match Binary64.ofText? (strip text) with
  | some x => .ok x
  | none => worthless ("could not convert string to float: " ++ String.ofList (quoteChars text))

/-- A floating point number to base sixty: the parts are added from the last one on. -/
def sexagesimalFloat : List Binary64 → Int → Binary64 → Except Problem Binary64
  | [], _, sum => .ok sum
  | part :: parts, unit, sum =>
    let factor := Binary64.ofInt unit
    if factor.isFinite then sexagesimalFloat parts (60 * unit) (sum.add (part.mul factor))
    else worthless "int too large to convert to float"

/-- A floating point number without a sign. -/
def unsignedFloat (cs : List Char) : Except Problem Binary64 :=
  if cs = ".inf".toList then .ok (Binary64.infinity false)
  else if cs = ".nan".toList then .ok Binary64.nan
  else if cs.contains ':' then do
    let parts ← (splitOn ':' cs).mapM decimalNumber
    sexagesimalFloat parts.reverse 1 (Binary64.zero false)
  else decimalNumber cs

/-- Is this the word for what is no number, in any letter case? -/
def isNanWord (text : List Char) : Bool :=
  Tag.unsigned (toLower (String.ofList (withoutUnderscores text))).toList = ".nan".toList

/-- A floating point number, in any letter case. -/
def floatValue (text : List Char) : Except Problem Value := do
  let cs := (toLower (String.ofList (withoutUnderscores text))).toList
  if cs.isEmpty then worthless tooShort
  else
    let x ← unsignedFloat (Tag.unsigned cs)
    pure (.float (if cs.head? = some '-' then x.negate else x))

/-! ### Truth values -/

/-- A truth value by its word, in any letter case. -/
def boolValue (text : String) : Except Problem Value :=
  let word := toLower text
  match Tag.truthWords.find? fun w => w.1 = word with
  | some w => .ok (.bool w.2)
  | none => worthless (quote word)

/-! ### Bytes -/

/-- The value of a digit to base sixty-four. -/
def sextet? (c : Char) : Option Nat :=
  if 'A' ≤ c && c ≤ 'Z' then some (c.toNat - 65)
  else if 'a' ≤ c && c ≤ 'z' then some (c.toNat - 71)
  else if '0' ≤ c && c ≤ '9' then some (c.toNat + 4)
  else if c = '+' then some 62
  else if c = '/' then some 63
  else none

/-- The bytes of digits to base sixty-four, `count` of them in an open group of which `carry` is
left over; other characters are overlooked, and the padding that fills a group ends the text. -/
def sextets? (count carry padding : Nat) : List Char → Option (List UInt8)
  | [] => if count = 0 then some [] else none
  | c :: rest =>
    if c = '=' then
      if 2 ≤ count && 4 ≤ count + padding + 1 then some []
      else sextets? count carry (if 2 ≤ count then padding + 1 else padding) rest
    else
      match sextet? c with
      | none => sextets? count carry padding rest
      | some d =>
        if count = 0 then sextets? 1 d 0 rest
        else if count = 1 then
          (sextets? 2 (d % 16) 0 rest).map (UInt8.ofNat (4 * carry + d / 16) :: ·)
        else if count = 2 then
          (sextets? 3 (d % 4) 0 rest).map (UInt8.ofNat (16 * carry + d / 4) :: ·)
        else (sextets? 0 0 0 rest).map (UInt8.ofNat (64 * carry + d) :: ·)

/-- What is said about the digits of a group that is not filled. -/
def openGroup (cs : List Char) : String :=
  let count := (cs.filter fun c => (sextet? c).isSome).length
  if count % 4 = 1 then
    "Invalid base64-encoded string: number of data characters (" ++ naturalText count ++
      ") cannot be 1 more than a multiple of 4"
  else "Incorrect padding"

def isAscii (c : Char) : Bool := c.toNat < 128

/-- What is said about a run of characters that are not of ASCII, behind `position` others. -/
def notAscii (position : Nat) (run : List Char) : String :=
  let span :=
    match run with
    | [c] =>
      "character '" ++ String.ofList (numericEscape c) ++ "' in position " ++ naturalText position
    | _ =>
      "characters in position " ++ naturalText position ++ "-" ++
        naturalText (position + run.length - 1)
  "'ascii' codec can't encode " ++ span ++ ": ordinal not in range(128)"

/-- Bytes to base sixty-four, written by a scalar that begins at `start`. -/
def binaryValue (start : Mark) (cs : List Char) : Except Problem Value :=
  let ascii := cs.takeWhile isAscii
  let run := (cs.dropWhile isAscii).takeWhile fun c => !isAscii c
  if !run.isEmpty then
    .error (.marked none
      ("failed to convert base64 data into ascii: " ++ notAscii ascii.length run) start)
  else
    match sextets? 0 0 0 cs with
    | some bytes => .ok (.bytes bytes)
    | none => .error (.marked none ("failed to decode base64 data: " ++ openGroup cs) start)

/-! ### All scalars -/

def timestampValue (text : List Char) : Except Problem Value :=
  match Timestamp.read? text with
  | some t => t.value
  | none => worthless "'NoneType' object has no attribute 'groupdict'"

/-- The problem of a tag that asks for nothing that is known, on a node that begins at `start`. -/
def unknownTag {α : Type} (tag : Tag) (start : Mark) : Except Problem α :=
  .error (.marked none
    ("could not determine a constructor for the tag " ++ quote tag.name) start)

/-- The value of a text with a tag, written by a scalar that begins at `start`. -/
def scalarValue (tag : Tag) (start : Mark) (text : String) : Except Problem Value :=
  match tag with
  | .null => .ok .null
  | .bool => boolValue text
  | .int => intValue text.toList
  | .float => floatValue text.toList
  | .binary => binaryValue start text.toList
  | .timestamp => timestampValue text.toList
  | .str => .ok (.str text)
  | tag => unknownTag tag start

end Playground.Yaml
