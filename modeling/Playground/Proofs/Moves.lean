import Playground.Session.Running

/-!
# The moves of a session

Everything that can happen to a session between two callbacks, and the callbacks themselves. What
holds of a new session and is kept by every move holds whenever a session can be seen.

* `Opening` — what a session is opened with.
* `Move`, `Session.move`, `Session.moves` — one move and several.
-/

namespace Playground

open Playground.Clock

/-- What a session is opened with. -/
structure Opening where
  settings : Settings
  source : String
  probe : Probe
  compilers : List (String × Compiler Action)
  listeners : List (String × Listener Action) := []
  bus : EventBus := {}
  log : Log.Board := {}

def Opening.session (o : Opening) : Session Action :=
  { Session.new o.settings o.source o.probe o.compilers with
    listeners := o.listeners, bus := o.bus, log := o.log }

/-- What happens to a session from one callback to the next. -/
inductive Move where
  /-- A front end acts at once. -/
  | act (a : Action)
  /-- A front end calls a coroutine and waits for its end. -/
  | call (c : Call)
  /-- The next callback of the tick runs. -/
  | step
  /-- A tick opens. -/
  | openTick
  /-- The clock shows another time. -/
  | setTime (now : Int)
  /-- The log is set up anew. -/
  | relog (log : Log.Board)

namespace Session

/-- Carries out one move. -/
def move (m : Move) (s : Session Action) : Session Action :=
  match m with
  | .act a => (perform a s).1
  | .call c => { s with completed := none }.enqueue (.resume .caller (.fresh c))
  | .step => machine.step s
  | .openTick => machine.openTick s
  | .setTime now => machine.setTime s now
  | .relog log => { s with log := log }

def moves (ms : List Move) (s : Session Action) : Session Action :=
  ms.foldl (fun s m => s.move m) s

theorem moves_append (s : Session Action) (ms ms' : List Move) :
    s.moves (ms ++ ms') = (s.moves ms).moves ms' := List.foldl_append

theorem moves_concat (s : Session Action) (ms : List Move) (m : Move) :
    s.moves (ms ++ [m]) = (s.moves ms).move m := moves_append s ms [m]

/-- What holds at first and is kept by every move holds after all moves. -/
theorem moves_induction (I : Session Action → Prop) {s : Session Action} {ms : List Move}
    (first : I s) (step : ∀ m ∈ ms, ∀ s, I s → I (s.move m)) : I (s.moves ms) := by
  induction ms generalizing s with
  | nil => exact first
  | cons m ms ih =>
    exact ih (step m List.mem_cons_self s first) fun n hn => step n (List.mem_cons_of_mem _ hn)

end Session

end Playground
