import Playground.Value.Basic
import Playground.Text.Quoted
import Playground.Text.Split

/-!
# The written form of values

* `Value.written` — the form in which messages show a value.
* `Unwritten` — why a value has none.
-/

namespace Playground

open Playground.Decimal Playground.Text

/-- The written form of a length of time, in minutes: whole days and the seconds that are left. -/
def durationText (minutes : Int) : String :=
  let days := Int.fdiv minutes 1440
  let seconds := (minutes - days * 1440) * 60
  let parts := (if days = 0 then [] else ["days=" ++ integerText days]) ++
    (if seconds = 0 then [] else ["seconds=" ++ integerText seconds])
  "datetime.timedelta(" ++ (if parts.isEmpty then "0" else ", ".intercalate parts) ++ ")"

/-- The written form of a distance to universal time, in minutes. -/
def offsetText (minutes : Int) : String :=
  if minutes = 0 then "datetime.timezone.utc"
  else "datetime.timezone(" ++ durationText minutes ++ ")"

def Date.written (d : Date) : String :=
  s!"datetime.date({naturalText d.year}, {naturalText d.month}, {naturalText d.day})"

/-- The written form of a moment: seconds and microseconds are left out where they and all after
them are zero. -/
def Moment.written (m : Moment) : String :=
  let fine := if m.microsecond ≠ 0 then [m.second, m.microsecond]
    else if m.second ≠ 0 then [m.second] else []
  let numbers := [m.date.year, m.date.month, m.date.day, m.hour, m.minute] ++ fine
  let zone := match m.offset with
    | none => []
    | some o => ["tzinfo=" ++ offsetText o]
  "datetime.datetime(" ++ ", ".intercalate (numbers.map naturalText ++ zone) ++ ")"

/-- Why a value has no written form. -/
inductive Unwritten where
  /-- An integer within has too many digits. -/
  | longInteger
  /-- Too many collections lie within one another. -/
  | tooDeep
  deriving DecidableEq, Repr

/-- What stands for a collection within itself. -/
def Value.ellipsis : Value → String
  | .dict _ => "\x7b...\x7d"
  | .loop _ v => v.ellipsis
  | _ => "[...]"

mutual

/-- The form of a value inside collections that are given by their numbers and what stands for them,
with room for `room` collections. -/
def Value.writtenIn (room : Nat) (around : List (Nat × String)) : Value → Except Unwritten String
  | .null => .ok "None"
  | .bool b => .ok (if b then "True" else "False")
  | .int i =>
    if maxDigits < (digits i.natAbs).length then .error .longInteger else .ok (integerText i)
  | .float x => .ok x.text
  | .str s => .ok (quote s)
  | .bytes bs => .ok (quoteBytes bs)
  | .date d => .ok d.written
  | .moment m => .ok m.written
  | .list xs => do
    pure ("[" ++ ", ".intercalate (← Value.writtenAll room around xs) ++ "]")
  | .pair a b =>
    match room with
    | 0 => .error .tooDeep
    | less + 1 => do
      let first ← Value.writtenIn less around a
      pure ("(" ++ first ++ ", " ++ (← Value.writtenIn less around b) ++ ")")
  | .set xs => do
    let items ← Value.writtenAll room around xs
    pure (if items.isEmpty then "set()" else "\x7b" ++ ", ".intercalate items ++ "\x7d")
  | .dict entries => do
    pure ("\x7b" ++ ", ".intercalate (← Value.writtenEntries room around entries) ++ "\x7d")
  | .loop n v =>
    match around.find? fun e => e.1 = n with
    | some e => .ok e.2
    | none => Value.writtenIn room ((n, v.ellipsis) :: around) v
  | .again n => .ok (((around.find? fun e => e.1 = n).map (·.2)).getD "...")

def Value.writtenAll (room : Nat) (around : List (Nat × String)) :
    List Value → Except Unwritten (List String)
  | [] => .ok []
  | x :: xs =>
    match room with
    | 0 => .error .tooDeep
    | less + 1 => do
      let first ← Value.writtenIn less around x
      pure (first :: (← Value.writtenAll room around xs))

def Value.writtenEntries (room : Nat) (around : List (Nat × String)) :
    List (Value × Value) → Except Unwritten (List String)
  | [] => .ok []
  | (k, v) :: rest =>
    match room with
    | 0 => .error .tooDeep
    | less + 1 => do
      let key ← Value.writtenIn less around k
      let value ← Value.writtenIn less around v
      pure ((key ++ ": " ++ value) :: (← Value.writtenEntries room around rest))

end

/-- The form in which messages show a value, where `room` collections may lie within one another; a
collection within itself is shown by dots. -/
def Value.written (room : Nat) (v : Value) : Except Unwritten String := v.writtenIn room []

end Playground
