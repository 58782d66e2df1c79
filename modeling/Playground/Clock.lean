/-!
# The clock

Callbacks run one after the other in ticks, on a clock of whole milliseconds that stands still
while they run.

* `Clock.Loop` — the time, the callbacks of the present tick and of the next one, and the timers.
* `Clock.Machine` — a state with a loop in it, and what its callbacks do.
* `Machine.step`, `Machine.tick`, `Machine.settle`, `Machine.advance` — one callback, one tick, all
  ticks that are due, and all that come due while time moves.
-/

namespace Playground.Clock

/-- An entry of the queue: a timer that has come due, or a job. -/
inductive Entry (κ : Type) where
  | timer (id : Nat)
  | job (j : κ)
  deriving Repr

/-- A timer that has not come due. -/
structure Timer where
  due : Int
  id : Nat
  deriving DecidableEq, Repr

/-- The time and everything that waits to run. -/
structure Loop (κ : Type) where
  now : Int := 0
  batch : List (Entry κ) := []
  queue : List (Entry κ) := []
  /-- Timers, earliest first; timers of one time in the order in which they were armed. -/
  timers : List Timer := []
  nextTimer : Nat := 0
  deriving Repr

namespace Loop

variable {κ : Type}

def enqueue (l : Loop κ) (j : κ) : Loop κ := { l with queue := l.queue ++ [.job j] }

def insertTimer (t : Timer) : List Timer → List Timer
  | [] => [t]
  | u :: rest => if u.due ≤ t.due then u :: insertTimer t rest else t :: u :: rest

/-- Arms a timer; a negative delay counts as none. -/
def arm (l : Loop κ) (delay : Int) : Loop κ :=
  { l with
    timers := insertTimer ⟨l.now + max delay 0, l.nextTimer⟩ l.timers
    nextTimer := l.nextTimer + 1 }

def isOther (id : Nat) : Entry κ → Bool
  | .timer i => i ≠ id
  | .job _ => true

def cancel (l : Loop κ) (id : Nat) : Loop κ :=
  { l with
    batch := l.batch.filter (isOther id)
    queue := l.queue.filter (isOther id)
    timers := l.timers.filter (fun t => t.id ≠ id) }

def isDue (l : Loop κ) (t : Timer) : Bool := t.due ≤ l.now

/-- Opens a tick: timers that are due join the queue, and the queue becomes the batch. -/
def openTick (l : Loop κ) : Loop κ :=
  { l with
    batch := l.batch ++ l.queue ++ (l.timers.filter l.isDue).map fun t => .timer t.id
    queue := []
    timers := l.timers.filter fun t => !l.isDue t }

/-- Is there nothing to run before time moves? -/
def isSettled (l : Loop κ) : Bool :=
  l.batch.isEmpty && l.queue.isEmpty && !l.timers.any l.isDue

end Loop

/-- A state with a loop in it, and what the entries of the loop do to the state. -/
structure Machine (ω κ : Type) where
  loop : ω → Loop κ
  withLoop : ω → Loop κ → ω
  runTimer : Nat → ω → ω
  runJob : κ → ω → ω

namespace Machine

variable {ω κ : Type} (m : Machine ω κ)

def step (w : ω) : ω :=
  match (m.loop w).batch with
  | [] => w
  | .timer id :: rest => m.runTimer id (m.withLoop w { m.loop w with batch := rest })
  | .job j :: rest => m.runJob j (m.withLoop w { m.loop w with batch := rest })

/-- Runs up to `n` entries of the batch. -/
def steps : Nat → ω → ω
  | 0, w => w
  | n + 1, w => steps n (m.step w)

def openTick (w : ω) : ω := m.withLoop w (m.loop w).openTick

def drain (w : ω) : ω := m.steps (m.loop w).batch.length w

def tick (w : ω) : ω := m.drain (m.openTick w)

def ticks : Nat → ω → ω
  | 0, w => w
  | n + 1, w => ticks n (m.tick w)

/-- Ticks until nothing is left to run before time moves, at most `fuel` of them. -/
def settle : Nat → ω → ω
  | 0, w => w
  | fuel + 1, w => if (m.loop w).isSettled then w else settle fuel (m.tick w)

def setTime (w : ω) (now : Int) : ω := m.withLoop w { m.loop w with now := now }

/-- Lets time pass up to a moment: settles, then goes from timer to timer. -/
def advanceTo (fuel : Nat) (target : Int) : Nat → ω → ω
  | 0, w => m.setTime (m.settle fuel w) target
  | rounds + 1, w =>
    let w := m.settle fuel w
    match (m.loop w).timers with
    | [] => m.setTime w target
    | t :: _ =>
      if target < t.due then m.setTime w target
      else advanceTo fuel target rounds (m.setTime w t.due)

def advance (fuel : Nat) (ms : Int) (w : ω) : ω :=
  m.advanceTo fuel ((m.loop w).now + ms) fuel w

end Machine

end Playground.Clock
