import Playground.Text.Split
import Playground.Value.Written
import Playground.Yaml.Problem

/-!
# Days and moments

* `Timestamp.read?` — the fields of a day or a moment as a document writes it.
* `Timestamp.value` — the day or moment, if the calendar has it.
-/

namespace Playground.Yaml

open Playground.Decimal Playground.Text

/-- A time of day and its distance to universal time, as written. -/
structure ClockFields where
  hour : Nat
  minute : Nat
  second : Nat
  fraction : List Char
  offset : Option Int
  /-- Hours and minutes of the distance, before the sign. -/
  offsetSize : Nat
  deriving DecidableEq, Repr, Inhabited

/-- A day and, possibly, a time of it, as written. -/
structure Timestamp where
  year : Nat
  month : Nat
  day : Nat
  /-- Are month and day written with two digits each? -/
  isPadded : Bool
  clock : Option ClockFields
  deriving DecidableEq, Repr, Inhabited

namespace Timestamp

def isDigit (c : Char) : Bool := '0' ≤ c && c ≤ '9'

/-- At least `least` and at most `most` digits at the start of a text. -/
def digitsBetween (least most : Nat) (cs : List Char) : Option (List Char × List Char) :=
  let run := (cs.take most).takeWhile isDigit
  if run.length < least then none else some (run, cs.drop run.length)

/-- The rest of a text that starts with a character. -/
def expect (c : Char) : List Char → Option (List Char)
  | d :: rest => if d = c then some rest else none
  | [] => none

/-- What is between day and time: a letter, or blanks. -/
def readGap? (cs : List Char) : Option (List Char) :=
  match cs with
  | c :: rest =>
    if c = 'T' || c = 't' then some rest
    else if isSpaceOrTab c then some (rest.dropWhile isSpaceOrTab)
    else none
  | [] => none

/-- The distance to universal time, where one is written, up to the end of the text. -/
def readOffset? (cs : List Char) : Option (Option Int × Nat) :=
  match cs.dropWhile isSpaceOrTab with
  | [] => if cs.isEmpty then some (none, 0) else none
  | ['Z'] => some (some 0, 0)
  | sign :: rest =>
    if sign = '+' || sign = '-' then do
      let (hours, rest) ← digitsBetween 1 2 rest
      let minutes ←
        match rest with
        | [] => pure 0
        | _ => do
          let rest ← expect ':' rest
          let (minutes, rest) ← digitsBetween 2 2 rest
          if rest.isEmpty then pure (ofDigits minutes) else none
      let size := 60 * ofDigits hours + minutes
      pure (some (if sign = '-' then -(size : Int) else size), size)
    else none

def readClock? (cs : List Char) : Option ClockFields := do
  let cs ← readGap? cs
  let (hour, cs) ← digitsBetween 1 2 cs
  let cs ← expect ':' cs
  let (minute, cs) ← digitsBetween 2 2 cs
  let cs ← expect ':' cs
  let (second, cs) ← digitsBetween 2 2 cs
  let (fraction, cs) := match cs with
    | '.' :: rest => (rest.takeWhile isDigit, rest.dropWhile isDigit)
    | _ => ([], cs)
  let (offset, size) ← readOffset? cs
  pure ⟨ofDigits hour, ofDigits minute, ofDigits second, fraction, offset, size⟩

def withoutLineEnd (cs : List Char) : List Char :=
  if cs.getLast? = some '\n' then cs.dropLast else cs

/-- The fields of a day or a moment; a line end may close it. -/
def read? (text : List Char) : Option Timestamp := do
  let cs := withoutLineEnd text
  let (year, cs) ← digitsBetween 4 4 cs
  let cs ← expect '-' cs
  let (month, cs) ← digitsBetween 1 2 cs
  let cs ← expect '-' cs
  let (day, cs) ← digitsBetween 1 2 cs
  let clock ← if cs.isEmpty then pure none else (readClock? cs).map some
  pure {
    year := ofDigits year
    month := ofDigits month
    day := ofDigits day
    isPadded := month.length = 2 && day.length = 2
    clock := clock }

/-- Does a text look like a day or a moment? A day alone needs two digits for month and day. -/
def isTimestamp (cs : List Char) : Bool :=
  match read? cs with
  | some t => t.isPadded || t.clock.isSome
  | none => false

/-- What is missing in a calendar that should hold the day. -/
def dateComplaint? (t : Timestamp) : Option String :=
  if t.year = 0 then some "year 0 is out of range"
  else if t.month = 0 || 12 < t.month then some "month must be in 1..12"
  else if t.day = 0 || daysOfMonth t.year t.month < t.day then some "day is out of range for month"
  else none

/-- What is missing on a clock that should show the time. -/
def clockComplaint? (k : ClockFields) : Option String :=
  if 24 ≤ k.hour then some "hour must be in 0..23"
  else if 60 ≤ k.minute then some "minute must be in 0..59"
  else if 60 ≤ k.second then some "second must be in 0..59"
  else none

def dayLength : Nat := 1440

/-- What is wrong with a distance to universal time; it stays below a day. -/
def offsetComplaint? (k : ClockFields) : Option String :=
  match k.offset with
  | none => none
  | some offset =>
    if k.offsetSize < dayLength then none
    else some ("offset must be a timedelta strictly between -timedelta(hours=24) and " ++
      "timedelta(hours=24), not " ++ durationText offset ++ ".")

def value (t : Timestamp) : Except Problem Value :=
  let date : Date := ⟨t.year, t.month, t.day⟩
  let complaints :=
    match t.clock with
    | none => [t.dateComplaint?]
    | some k => [offsetComplaint? k, t.dateComplaint?, clockComplaint? k]
  match complaints.findSome? id with
  | some complaint => .error (.worthless complaint)
  | none =>
    match t.clock with
    | none => .ok (.date date)
    | some k =>
      let micro := (k.fraction ++ List.replicate 6 '0').take 6
      .ok (.moment ⟨date, k.hour, k.minute, k.second, ofDigits micro, k.offset⟩)

end Timestamp

end Playground.Yaml
