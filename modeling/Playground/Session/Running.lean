import Playground.Session.Action

/-!
# Running sessions

* `Session.machine` — how a session moves with the clock.
* `Session.await` — runs a call to its end while everything else goes on.
* `Session.inTurn` — acts when everything that waits in the queue has had its turn.
-/

namespace Playground.Session

open Playground.Clock

def machine : Machine (Session Action) Job where
  loop s := s.loop
  withLoop s l := { s with loop := l }
  runTimer := fireTimer
  runJob j s := runJob react j s

/-- How many ticks, and how many steps of the clock, are run at most at a time. -/
def patience : Nat := 100000

def tick (s : Session Action) : Session Action := machine.tick s

def ticks (n : Nat) (s : Session Action) : Session Action := machine.ticks n s

/-- Ticks until nothing is left to run before time moves. -/
def settle (s : Session Action) : Session Action := machine.settle patience s

def advance (ms : Int) (s : Session Action) : Session Action := machine.advance patience ms s

/-- The end of a call that was waited for: its result, the session at that moment and the session
at the end of the tick. -/
structure Awaited where
  result : Except Fault Value
  atEnd : Session Action
  after : Session Action

/-- Runs callbacks until the call of the caller has ended. -/
def runToEnd : Nat → Session Action → Session Action
  | 0, s => s
  | fuel + 1, s =>
    if s.completed.isSome then s
    else if s.loop.batch.isEmpty then
      if s.loop.isSettled then s else runToEnd fuel (machine.openTick s)
    else runToEnd fuel (machine.step s)

/-- Runs a call to its end while everything else goes on. -/
def await (call : Call) (s : Session Action) : Awaited :=
  let s := { s with completed := none }.enqueue (.resume .caller (.fresh call))
  let s := runToEnd patience s
  let result := s.completed.getD (.ok .null)
  { result, atEnd := s, after := { machine.drain s with completed := none } }

/-- Acts when everything that waits in the queue has had its turn; what is left of the tick
follows. -/
def inTurn {β : Type} (act : Session Action → Session Action × β) (s : Session Action) :
    Session Action × β :=
  let (s, b) := act { (s.await .turn).atEnd with completed := none }
  (machine.drain s, b)

end Playground.Session
