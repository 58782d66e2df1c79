import Playground.Clock
import Playground.Log

/-!
# Debouncing

A debouncer holds at most one timer; setting it again replaces the timer that is pending.

* `Debounce.schedule`, `Debounce.cancel` — set the timer and clear it.
* `Debounce.Desk` — a debouncer on a loop of its own whose callback plays a script.
* `Debounce.Desk.machine` — how the desk moves with the clock.
-/

namespace Playground.Debounce

open Playground.Decimal Playground.Clock

variable {κ : Type}

/-- The delay that is used where none is given, in milliseconds. -/
def defaultDelay : Int := 5000

/-- Clears the pending timer, if there is one. -/
def cancel (armed : Option Nat) (loop : Loop κ) : Loop κ :=
  match armed with
  | none => loop
  | some id => loop.cancel id

/-- Can a timer be armed with the delay? Delays are kept as floating point numbers. -/
def isAccepted (delay : Int) : Bool := (Binary64.ofInt (max delay 0)).isFinite

/-- Clears the pending timer and arms a new one. A delay that is too large is refused, after the
pending timer is cleared. -/
def schedule (armed : Option Nat) (loop : Loop κ) (delay : Int) :
    Loop κ × Except Fault Nat :=
  let loop := cancel armed loop
  if isAccepted delay then (loop.arm delay, .ok loop.nextTimer)
  else (loop, .error .tooLargeForFloat)

def scheduledMessage (delay : Int) : String :=
  "compile scheduled in " ++ integerText delay ++ " ms"

def loggerName : String := "compilepad.core.scheduler"

/-! ### A debouncer on its own -/

/-- What the callback of a debouncer may do. -/
inductive Action where
  | schedule (delay : Int)
  | cancel
  | fail (fault : Fault)
  deriving Repr

/-- What happens at a debouncer. -/
inductive Happening where
  | fired (now : Int)
  | logged (record : Log.Record)
  deriving DecidableEq, Repr

/-- What a debouncer notes of its own course. -/
inductive Deed where
  | scheduled (now delay : Int)
  /-- The timer was cleared and not set anew. -/
  | cancelled
  | fired (now : Int)
  deriving DecidableEq, Repr

/-- A debouncer with its loop, the log and the script of its callback: one list of actions for
each time it is called. -/
structure Desk where
  loop : Loop Empty := {}
  armed : Option Nat := none
  log : Log.Board := {}
  script : List (List Action) := []
  journal : List Happening := []
  course : List Deed := []

namespace Desk

def debug (d : Desk) (message : String) : Desk :=
  let (log, deliveries) := d.log.emit .debug loggerName message
  { d with log := log, journal := d.journal ++ deliveries.map fun x => .logged x.2 }

def isPending (d : Desk) : Bool := d.armed.isSome

def mark (d : Desk) (deed : Deed) : Desk := { d with course := deed :: d.course }

def cancel (d : Desk) : Desk :=
  { d with loop := Debounce.cancel d.armed d.loop, armed := none }.mark .cancelled

/-- Sets the timer; a delay that is too large only clears it. -/
def schedule (d : Desk) (delay : Int) : Desk × Option Fault :=
  match Debounce.schedule d.armed d.loop delay with
  | (loop, .ok id) =>
    (({ d with loop := loop, armed := some id }.mark (.scheduled d.loop.now delay)).debug
      (scheduledMessage delay), none)
  | (loop, .error f) => ({ d with loop := loop, armed := none }.mark .cancelled, some f)

def act (d : Desk) : Action → Desk × Option Fault
  | .schedule delay => d.schedule delay
  | .cancel => (d.cancel, none)
  | .fail f => (d, some f)

/-- The actions of the callback, up to the first that fails. -/
def actAll (d : Desk) : List Action → Desk
  | [] => d
  | a :: rest =>
    match d.act a with
    | (d, none) => d.actAll rest
    | (d, some _) => d

/-- The callback: it notes the time and plays the next part of its script. -/
def call (d : Desk) : Desk :=
  let d := { d with journal := d.journal ++ [Happening.fired d.loop.now] }.mark (.fired d.loop.now)
  match d.script with
  | [] => d
  | actions :: rest => { d with script := rest }.actAll actions

/-- A timer that has come due: it is pending no longer, and the callback is called. -/
def fire (id : Nat) (d : Desk) : Desk :=
  if d.armed = some id then { d with armed := none }.call else d

def machine : Machine Desk Empty where
  loop d := d.loop
  withLoop d l := { d with loop := l }
  runTimer := fire
  runJob j := j.elim

end Desk

end Playground.Debounce
