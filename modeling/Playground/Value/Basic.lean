import Playground.Decimal.Binary64

/-!
# Dynamic values

Configuration files, request bodies and event payloads hold values whose shape is not known in
advance.

* `Value` — such a value; a mapping keeps the order in which its keys came.
* `Value.kindName` — the name of a value's kind, as messages give it.
* `Value.unrolled` — a value that is no `loop` itself.
* `Value.sameKey` — do two values name the same key?
* `Value.lookup` — the value under a textual key.
-/

namespace Playground

open Playground.Decimal

/-- A day of the calendar. -/
structure Date where
  year : Nat
  month : Nat
  day : Nat
  deriving DecidableEq, Repr

def isLeap (year : Nat) : Bool := year % 4 = 0 && (year % 100 ≠ 0 || year % 400 = 0)

def daysOfMonth (year month : Nat) : Nat :=
  if month = 2 then (if isLeap year then 29 else 28)
  else if month = 4 || month = 6 || month = 9 || month = 11 then 30
  else 31

/-- The number of days from the first of the year 1 up to this one. -/
def Date.dayNumber (d : Date) : Nat :=
  let years := d.year - 1
  let months := (List.range (d.month - 1)).foldl (fun n m => n + daysOfMonth d.year (m + 1)) 0
  365 * years + years / 4 - years / 100 + years / 400 + months + d.day

/-- A moment of a day; `offset` is the distance to universal time in minutes, where it is known. -/
structure Moment where
  date : Date
  hour : Nat
  minute : Nat
  second : Nat
  microsecond : Nat
  offset : Option Int
  deriving DecidableEq, Repr

/-- The microseconds from the start of the year 1, as the clock at the place shows them, less the
distance to universal time. -/
def Moment.instant (m : Moment) : Int :=
  let minutes := 1440 * m.date.dayNumber + 60 * m.hour + m.minute
  1000000 * (60 * ((minutes : Int) - m.offset.getD 0) + m.second) + m.microsecond

/-- Are two moments the same? Where the distance to universal time is known the instant counts, and
such a moment is never one whose distance is not known. -/
def Moment.same (a b : Moment) : Bool :=
  a.offset.isSome = b.offset.isSome && a.instant = b.instant

/-- A value of a shape that is not known in advance. -/
inductive Value where
  | null
  | bool (b : Bool)
  | int (i : Int)
  | float (x : Binary64)
  | str (s : String)
  | bytes (bs : List UInt8)
  | date (d : Date)
  | moment (m : Moment)
  | list (xs : List Value)
  | pair (a b : Value)
  | set (xs : List Value)
  | dict (entries : List (Value × Value))
  /-- A list or mapping that places within refer to by its number. -/
  | loop (number : Nat) (v : Value)
  /-- The list or mapping of this number, which is around this place. -/
  | again (number : Nat)
  deriving Repr, Inhabited

namespace Value

def kindName : Value → String
  | null => "NoneType"
  | bool _ => "bool"
  | int _ => "int"
  | float _ => "float"
  | str _ => "str"
  | bytes _ => "bytes"
  | date _ => "date"
  | moment _ => "datetime"
  | list _ => "list"
  | pair _ _ => "tuple"
  | set _ => "set"
  | dict _ => "dict"
  | loop _ v => v.kindName
  | again _ => "object"

/-- The integer that a number without a fraction part is, truth values counting as one and zero. -/
def asInt? : Value → Option Int
  | bool b => some (if b then 1 else 0)
  | int i => some i
  | _ => none

/-- Is a number at most an integer? Of what is no number there is no answer. -/
def atMost? (v : Value) (i : Int) : Option Bool :=
  match v with
  | float x => some (x.ltInt i || x.eqInt i)
  | v => v.asInt?.map (· ≤ i)

/-- Do two values name the same key? Numbers do by their value, whatever their kind. -/
def sameKey (a b : Value) : Bool :=
  match a, b with
  | null, null => true
  | str s, str t => s == t
  | bytes s, bytes t => s == t
  | date s, date t => s == t
  | moment s, moment t => s.same t
  | float x, float y => x.eqValue y
  | float x, y => match y.asInt? with | some i => x.eqInt i | none => false
  | x, float y => match x.asInt? with | some i => y.eqInt i | none => false
  | x, y =>
    match x.asInt?, y.asInt? with
    | some i, some j => i == j
    | _, _ => false

mutual

/-- Puts `whole` where a value refers to the number. -/
def tie (number : Nat) (whole : Value) : Value → Value
  | again n => if n = number then whole else again n
  | loop n v => if n = number then loop n v else loop n (tie number whole v)
  | list xs => list (tieAll number whole xs)
  | pair a b => pair (tie number whole a) (tie number whole b)
  | dict entries => dict (tieEntries number whole entries)
  | v => v

/-- Puts `whole` where several values refer to the number. -/
def tieAll (number : Nat) (whole : Value) : List Value → List Value
  | [] => []
  | x :: xs => tie number whole x :: tieAll number whole xs

/-- Puts `whole` where the entries of a mapping refer to the number. -/
def tieEntries (number : Nat) (whole : Value) : List (Value × Value) → List (Value × Value)
  | [] => []
  | (k, v) :: rest => (k, tie number whole v) :: tieEntries number whole rest

end

/-- The same value, which refers to itself from one level further in. -/
def unrolled : Value → Value
  | loop n v => tie n (loop n v) v
  | v => v

/-- Puts a value under a key: an existing key keeps its place. -/
def insertEntry (entries : List (Value × Value)) (key value : Value) : List (Value × Value) :=
  if entries.any fun e => e.1.sameKey key then
    entries.map fun e => if e.1.sameKey key then (e.1, value) else e
  else entries ++ [(key, value)]

/-- A mapping from entries read in order; of equal keys the first keeps its place and the last its
value. -/
def ofEntries (entries : List (Value × Value)) : List (Value × Value) :=
  entries.foldl (fun acc e => insertEntry acc e.1 e.2) []

def lookup (key : String) : List (Value × Value) → Option Value
  | [] => none
  | (str s, v) :: rest => if s = key then some v else lookup key rest
  | _ :: rest => lookup key rest

def record (fields : List (String × Value)) : Value := dict (fields.map fun f => (str f.1, f.2))

/-- The text of an optional value, null where there is none. -/
def ofStr? : Option String → Value
  | some s => str s
  | none => null

end Value

end Playground
