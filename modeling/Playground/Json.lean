import Playground.Fault

/-!
# Texts of request bodies

Request bodies are JSON texts. A text that is not JSON is refused at a position in it.

* `Json.Refusal` — why a text is refused.
* `Json.parse` — the value of a text.
-/

namespace Playground.Json

open Playground.Decimal Playground.Text

/-- Why a text is refused: at the place where `left` characters are left, because a number in it is
too long, or because too many collections lie within one another. -/
inductive Refusal where
  | malformed (left : Nat)
  | tooManyDigits (count : Nat)
  | tooDeep
  deriving DecidableEq, Repr

/-- How many collections may lie within one another. -/
def deepestNesting : Nat := 940

/-- White space between the parts of a text. -/
def isGap (c : Char) : Bool := c = ' ' || c = '\t' || c = '\n' || c = '\r'

/-- The text after the white space at its start. -/
def skip (cs : List Char) : List Char := cs.dropWhile isGap

def isDigit (c : Char) : Bool := '0' ≤ c && c ≤ '9'

/-! ### Strings -/

/-- The character that a single-letter escape stands for. -/
def escaped? (c : Char) : Option Char :=
  match c with
  | '"' => some '"'
  | '\\' => some '\\'
  | '/' => some '/'
  | 'b' => some '\x08'
  | 'f' => some '\x0c'
  | 'n' => some '\n'
  | 'r' => some '\r'
  | 't' => some '\t'
  | _ => none

def hexFour? (a b c d : Char) : Option Nat := do
  let a ← hexValue? a
  let b ← hexValue? b
  let c ← hexValue? c
  let d ← hexValue? d
  pure (((a * 16 + b) * 16 + c) * 16 + d)

def isHigh (n : Nat) : Bool := 0xD800 ≤ n && n < 0xDC00

def isLow (n : Nat) : Bool := 0xDC00 ≤ n && n < 0xE000

/-- The character of a code unit; a unit of a broken pair has none of its own. -/
def unitChar (n : Nat) : Char := if isHigh n || isLow n then '\ufffd' else Char.ofNat n

def pairChar (high low : Nat) : Char :=
  Char.ofNat (0x10000 + (high - 0xD800) * 0x400 + (low - 0xDC00))

/-- Reads the rest of a string after its opening quote; `opening` counts the characters left there.
At most `fuel` characters and escapes are read. -/
def readString (opening : Nat) : Nat → List Char → List Char →
    Except Refusal (String × List Char)
  | 0, _, _ => .error (.malformed opening)
  | fuel + 1, acc, cs =>
    match cs with
    | [] => .error (.malformed opening)
    | '"' :: rest => .ok (String.ofList acc.reverse, rest)
    | '\\' :: 'u' :: rest =>
      match rest with
      | a :: b :: c :: d :: more =>
        -- An escape is cut off where nothing follows its digits.
        if more.isEmpty then .error (.malformed (rest.length + 1))
        else
          match hexFour? a b c d with
          | none => .error (.malformed (rest.length + 1))
          | some n =>
            if isHigh n then
              match more with
              | '\\' :: 'u' :: e :: f :: g :: h :: after =>
                if after.isEmpty then readString opening fuel (unitChar n :: acc) more
                else
                  match hexFour? e f g h with
                  | none => .error (.malformed (more.length - 1))
                  | some m =>
                    if isLow m then readString opening fuel (pairChar n m :: acc) after
                    else readString opening fuel (unitChar n :: acc) more
              | _ => readString opening fuel (unitChar n :: acc) more
            else readString opening fuel (unitChar n :: acc) more
      | _ => .error (.malformed (rest.length + 1))
    | '\\' :: c :: rest =>
      match escaped? c with
      | some e => readString opening fuel (e :: acc) rest
      | none => .error (.malformed (rest.length + 2))
    | ['\\'] => .error (.malformed opening)
    | c :: rest =>
      if c.toNat ≤ 0x1f then .error (.malformed (rest.length + 1))
      else readString opening fuel (c :: acc) rest

/-! ### Numbers -/

/-- The digits before the point: one zero, or digits that start with another one. -/
def wholeDigits : List Char → List Char × List Char
  | '0' :: rest => (['0'], rest)
  | cs => (cs.takeWhile isDigit, cs.dropWhile isDigit)

def fractionDigits : List Char → List Char × List Char
  | '.' :: d :: rest =>
    if isDigit d then (d :: rest.takeWhile isDigit, rest.dropWhile isDigit)
    else ([], '.' :: d :: rest)
  | cs => ([], cs)

def exponentPart (cs : List Char) : Option Int × List Char :=
  match cs with
  | e :: rest =>
    if e = 'e' || e = 'E' then
      let (negative, ds) := match rest with
        | '-' :: t => (true, t)
        | '+' :: t => (false, t)
        | t => (false, t)
      let digits := ds.takeWhile isDigit
      if digits.isEmpty then (none, cs)
      else
        let n : Int := ofDigits digits
        (some (if negative then -n else n), ds.dropWhile isDigit)
    else (none, cs)
  | [] => (none, [])

/-- Reads a number without its sign; `start` counts the characters left at the sign. -/
def readMagnitude (start : Nat) (negative : Bool) (cs : List Char) :
    Except Refusal (Value × List Char) :=
  let (whole, rest) := wholeDigits cs
  if whole.isEmpty then .error (.malformed start)
  else
    let (fraction, rest) := fractionDigits rest
    let (exponent, rest) := exponentPart rest
    if fraction.isEmpty && exponent.isNone then
      if maxDigits < whole.length then .error (.tooManyDigits whole.length)
      else
        let n : Int := ofDigits whole
        .ok (.int (if negative then -n else n), rest)
    else
      let e := exponent.getD 0 - (fraction.length : Int)
      .ok (.float (Binary64.ofDecimal negative (ofDigits (whole ++ fraction)) e), rest)

def readNumber (cs : List Char) : Except Refusal (Value × List Char) :=
  match cs with
  | '-' :: rest => readMagnitude cs.length true rest
  | _ => readMagnitude cs.length false cs

/-! ### Values -/

def constants : List (List Char × Value) :=
  [("null".toList, .null), ("true".toList, .bool true), ("false".toList, .bool false),
    ("NaN".toList, .float Binary64.nan), ("Infinity".toList, .float (Binary64.infinity false)),
    ("-Infinity".toList, .float (Binary64.infinity true))]

def readConstant? (cs : List Char) : Option (Value × List Char) :=
  constants.findSome? fun (name, v) => (dropStart? name cs).map fun rest => (v, rest)

mutual

/-- Reads a value inside which `room` collections may lie within one another. -/
def readValue : Nat → Nat → List Char → Except Refusal (Value × List Char)
  | 0, _, cs => .error (.malformed cs.length)
  | fuel + 1, room, cs =>
    match cs with
    | [] => .error (.malformed 0)
    | '"' :: rest => do
      let (s, rest) ← readString cs.length (rest.length + 1) [] rest
      pure (.str s, rest)
    | '[' :: rest =>
      match room, skip rest with
      | 0, _ => .error .tooDeep
      | _ + 1, ']' :: rest => .ok (.list [], rest)
      | less + 1, rest => do
        let (xs, rest) ← readMembers fuel less rest
        pure (.list xs, rest)
    | '\x7b' :: rest =>
      match room, skip rest with
      | 0, _ => .error .tooDeep
      | _ + 1, '\x7d' :: rest => .ok (.dict [], rest)
      | less + 1, rest => do
        let (entries, rest) ← readEntries fuel less rest
        pure (.dict (Value.ofEntries entries), rest)
    | _ =>
      match readConstant? cs with
      | some found => .ok found
      | none => readNumber cs

/-- Reads the members of a list up to its closing bracket. -/
def readMembers : Nat → Nat → List Char → Except Refusal (List Value × List Char)
  | 0, _, cs => .error (.malformed cs.length)
  | fuel + 1, room, cs => do
    let (x, rest) ← readValue fuel room cs
    match skip rest with
    | ']' :: rest => pure ([x], rest)
    | ',' :: rest =>
      let (xs, rest) ← readMembers fuel room (skip rest)
      pure (x :: xs, rest)
    | rest => .error (.malformed rest.length)

/-- Reads the entries of a mapping up to its closing brace. -/
def readEntries : Nat → Nat → List Char →
    Except Refusal (List (Value × Value) × List Char)
  | 0, _, cs => .error (.malformed cs.length)
  | fuel + 1, room, cs =>
    match cs with
    | '"' :: afterQuote => do
      let (key, rest) ← readString cs.length (afterQuote.length + 1) [] afterQuote
      match skip rest with
      | ':' :: rest =>
        let (x, rest) ← readValue fuel room (skip rest)
        match skip rest with
        | '\x7d' :: rest => pure ([(.str key, x)], rest)
        | ',' :: rest =>
          let (others, rest) ← readEntries fuel room (skip rest)
          pure ((.str key, x) :: others, rest)
        | rest => .error (.malformed rest.length)
      | rest => .error (.malformed rest.length)
    | _ => .error (.malformed cs.length)

end

def readText (cs : List Char) : Except Refusal Value := do
  let (v, rest) ← readValue (2 * cs.length + 2) deepestNesting (skip cs)
  match skip rest with
  | [] => pure v
  | rest => .error (.malformed rest.length)

/-- Why a text is refused, with the position counted from its start. -/
inductive Fault where
  | malformed (position : Nat)
  | tooManyDigits (count : Nat)
  | tooDeep
  deriving DecidableEq, Repr

def parse (text : String) : Except Fault Value :=
  let cs := text.toList
  match readText cs with
  | .ok v => .ok v
  | .error (.malformed left) => .error (.malformed (cs.length - left))
  | .error (.tooManyDigits n) => .error (.tooManyDigits n)
  | .error .tooDeep => .error .tooDeep

end Playground.Json
