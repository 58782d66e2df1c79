import Playground.Proofs.Moves
import Playground.Proofs.Loop

/-!
# The core of a session

What decides over the compiles of a session: its state, the request that waits, the timer, the
course so far and the coroutines that have not ended. The rest, the log, the journal and the
accounts of waits and timer tasks, never acts back on it.

* `Session.waiting` — where the coroutines of a session wait, in the order in which they go on.
* `Core`, `Session.core` — the core.
* `Turn`, `turn_move` — what one move can do to the core.
-/

namespace Playground

open Playground.Clock

/-- Where a coroutine goes on; one that waits for the timer's tasks only keeps accounts. -/
def Waiting.lasting? : Waiting → Option Waiting
  | .idle _ => none
  | w => some w

def Job.waiting? : Job → Option Waiting
  | .resume _ at_ => at_.lasting?
  | .forget _ => none
  | .report .. => none

def Waiting.call? : Waiting → Option Call
  | .fresh call => some call
  | _ => none

theorem Waiting.fresh_of_call {at_ : Waiting} {call : Call} (h : at_.call? = some call) :
    at_ = .fresh call := by
  cases at_ with
  | fresh call' => exact congrArg fresh (Option.some.inj h)
  | _ => cases h

def Waiting.stage? : Waiting → Option (Stage × Run)
  | .staging stage run _ => some (stage, run)
  | _ => none

/-- What decides over the compiles of a session. -/
structure Core where
  settings : Settings
  probe : Probe
  state : State
  indicator : Indicator
  pending : Option Ticket
  accepted : Nat
  armed : Option Nat
  listeners : List (String × Listener Action)
  compilers : List (String × Compiler Action)
  history : List Milestone
  waiting : List Waiting

def Core.await (c : Core) (at_ : Option Waiting) : Core :=
  { c with waiting := c.waiting ++ at_.toList }

@[simp] theorem Core.await_none (c : Core) : c.await none = c := by simp [await]

namespace Session

def waiting (s : Session Action) : List Waiting := s.loop.jobs.filterMap Job.waiting?

/-- The stages that runs wait before. -/
def inPipeline (s : Session Action) : List (Stage × Run) := s.waiting.filterMap Waiting.stage?

def core (s : Session Action) : Core :=
  { settings := s.settings, probe := s.probe, state := s.state, indicator := s.indicator
    pending := s.pending, accepted := s.accepted, armed := s.armed, listeners := s.listeners
    compilers := s.compilers, history := s.history, waiting := s.waiting }

variable {s t : Session Action}

/-- What waits in the queue belongs to a job. -/
theorem job_of_waiting {s : Session Action} {at_ : Waiting} (h : at_ ∈ s.waiting) :
    ∃ owner, .resume owner at_ ∈ s.loop.jobs := by
  obtain ⟨j, hj, found⟩ := List.mem_filterMap.1 h
  cases j with
  | resume owner w =>
    obtain rfl : w = at_ := by
      cases w with
      | idle => cases found
      | _ => exact Option.some.inj found
    exact ⟨owner, hj⟩
  | forget => cases found
  | report => cases found

/-! ### What the core takes no notice of -/

@[simp] theorem core_write (s : Session Action) (level : Log.Level) (logger message : String) :
    (s.write level logger message).core = s.core := rfl

theorem core_enqueue (s : Session Action) (j : Job) :
    (s.enqueue j).core = s.core.await j.waiting? := by
  simp [core, enqueue, waiting, Core.await, List.filterMap_append, List.filterMap_cons]
  cases j.waiting? <;> rfl

/-- A job that belongs to no lasting coroutine leaves the core as it is. -/
theorem core_enqueue_of_none (s : Session Action) {j : Job} (h : j.waiting? = none) :
    (s.enqueue j).core = s.core := by
  rw [core_enqueue, h, Core.await_none]

/-- Counting the call of a listener changes the listeners and nothing else. -/
theorem core_takeReaction (s : Session Action) (event listener : String) (data : Payload) :
    (s.takeReaction event listener data).1.core =
      { s.core with listeners := (s.takeReaction event listener data).1.listeners } := by
  unfold takeReaction
  split <;> rfl

/-- Clearing the timer leaves all else. -/
theorem core_cancelTimer (s : Session Action) :
    s.cancelTimer.core = { s.core with armed := none } := by
  have waiting : s.cancelTimer.waiting = s.waiting :=
    congrArg (List.filterMap Job.waiting?) (Debounce.jobs_cancel s.armed s.loop)
  exact congrArg (fun ws => ({ s.core with armed := none, waiting := ws } : Core)) waiting

theorem core_stop (s : Session Action) :
    s.stop.core = { s.core with
      state := { s.state with alive := false }, armed := none, pending := none
      history := .stopped :: s.history } :=
  congrArg (fun c : Core => { c with pending := none, history := .stopped :: s.history })
    (core_cancelTimer (s.modifyState fun st => { st with alive := false }))

/-- Setting the timer, accepted or not, leaves all else. -/
theorem core_rearm (s : Session Action) :
    s.rearm.1.core = { s.core with armed := s.rearm.1.armed } := by
  have waiting := congrArg (List.filterMap Job.waiting?)
    (Debounce.jobs_schedule s.armed s.loop s.settings.autoCompileDelayMs)
  unfold rearm
  split <;> next hx =>
    rw [hx] at waiting
    exact congrArg (fun ws => ({ s.core with armed := _, waiting := ws } : Core)) waiting

theorem core_watch (wait : Nat) (s : Session Action) (t : TimerTask) :
    (s.watch wait t).core = s.core := by
  unfold watch
  split
  · exact core_enqueue_of_none s rfl
  · rfl

theorem core_gather (owner : Owner) (s : Session Action) : (s.gather owner).core = s.core := by
  have watched (wait : Nat) (ts : List TimerTask) (u : Session Action) :
      (ts.foldl (watch wait) u).core = u.core := by
    induction ts generalizing u with
    | nil => rfl
    | cons t ts ih => exact (ih _).trans (core_watch wait u t)
  exact watched _ _ _

theorem core_close (owner : Owner) (result : Except Fault Value) (s : Session Action) :
    (s.close owner result).core = s.core := by
  have reported (failure : Option Fault) (ws : List Nat) (u : Session Action) :
      (ws.foldl (fun s w => s.enqueue (.report w failure)) u).core = u.core := by
    induction ws generalizing u with
    | nil => rfl
    | cons w ws ih => exact (ih _).trans (core_enqueue_of_none u rfl)
  cases owner with
  | caller => rfl
  | spawned n => rfl
  | timer id => exact (reported _ _ _).trans (core_enqueue_of_none _ rfl)

theorem core_report (wait : Nat) (failure : Option Fault) (s : Session Action) :
    (s.report wait failure).core = s.core := by
  unfold report
  split
  · rfl
  · split
    · rfl
    · simp only
      split
      · exact core_enqueue_of_none _ rfl
      · rfl

/-! ### Steps -/

def Progress.waiting? : Progress → Option Waiting
  | .waits w => w.lasting?
  | .gathers => none
  | .ends _ => none

theorem core_stepCoroutine (react : React Action) (owner : Owner) (at_ : Waiting)
    (s : Session Action) :
    (s.stepCoroutine react owner at_).core =
      (s.resume react at_).1.core.await (s.resume react at_).2.waiting? := by
  unfold stepCoroutine
  rcases s.resume react at_ with ⟨t, _ | _ | _⟩
  · exact core_enqueue t _
  · simpa [Progress.waiting?] using core_gather owner t
  · simpa [Progress.waiting?] using core_close owner _ t

def pop (rest : List (Entry Job)) (s : Session Action) : Session Action :=
  { s with loop := { s.loop with batch := rest } }

theorem core_pop_job {s : Session Action} {j : Job} {rest : List (Entry Job)}
    (h : s.loop.batch = .job j :: rest) :
    s.waiting = j.waiting?.toList ++ (s.pop rest).waiting ∧
      (s.pop rest).core = { s.core with waiting := (s.pop rest).waiting } := by
  refine ⟨?_, rfl⟩
  unfold waiting
  rw [Loop.jobs_of_job h, List.filterMap_cons]
  cases j.waiting? <;> rfl

theorem core_pop_timer {s : Session Action} {id : Nat} {rest : List (Entry Job)}
    (h : s.loop.batch = .timer id :: rest) : (s.pop rest).core = s.core := by
  have waiting : (s.pop rest).waiting = s.waiting :=
    congrArg (List.filterMap Job.waiting?) (Loop.jobs_of_timer h)
  exact congrArg (fun ws => ({ s.core with waiting := ws } : Core)) waiting

end Session

/-- What one move can do to the core; all that a front end does has the property `P`. -/
inductive Turn (P : Action → Prop) (s t : Session Action) : Prop where
  /-- A front end acted. -/
  | acted (a : Action) (h : P a) (eq : t = (Session.act Session.react a s).1)
  | kept (eq : t.core = s.core)
  /-- A coroutine was called. -/
  | called (c : Call) (h : P (.spawn c)) (eq : t.core = s.core.await (some (.fresh c)))
  /-- The timer came due. -/
  | fired (id : Nat) (armed : s.armed = some id)
      (eq : t.core = { s.core with armed := none }.await (some (.fresh (.compile none))))
  /-- The coroutine that has waited longest made a step. -/
  | resumed (u : Session Action) (at_ : Waiting) (lasting : at_.lasting? = some at_)
      (front : s.waiting = at_ :: u.waiting)
      (popped : u.core = { s.core with waiting := u.waiting })
      (eq : t.core = (u.resume Session.react at_).1.core.await
        (u.resume Session.react at_).2.waiting?)

/-- All actions and calls of a move have the property. -/
def Move.Admits (P : Action → Prop) : Move → Prop
  | .act a => P a
  | .call c => P (.spawn c)
  | _ => True

namespace Session

theorem core_fireTimer (s : Session Action) (id : Nat) :
    (s.fireTimer id).core = s.core ∨
      s.armed = some id ∧ (s.fireTimer id).core =
        { s.core with armed := none }.await (some (.fresh (.compile none))) := by
  unfold fireTimer
  split
  next armed => exact .inr ⟨armed, core_enqueue _ _⟩
  next => exact .inl rfl

/-- A wait for the timer's tasks changes nothing. -/
theorem waitIdle_rests (s : Session Action) :
    s.waitIdle.1 = s ∧ s.waitIdle.2.waiting? = none := by
  unfold waitIdle
  split <;> exact ⟨rfl, rfl⟩

theorem resume_idle_rests (react : React Action) (failure : Option Fault) (s : Session Action) :
    (s.resume react (.idle failure)).1 = s ∧
      (s.resume react (.idle failure)).2.waiting? = none := by
  cases failure with
  | some f => exact ⟨rfl, rfl⟩
  | none => exact waitIdle_rests s

/-- A job that belongs to no lasting coroutine only keeps the accounts of waits and timer tasks. -/
theorem core_runJob_of_none {s : Session Action} {j : Job} {rest : List (Entry Job)}
    (h : s.loop.batch = .job j :: rest) (none : j.waiting? = none) :
    (runJob Session.react j (s.pop rest)).core = s.core := by
  obtain ⟨front, popped⟩ := core_pop_job h
  have same : (s.pop rest).core = s.core := by
    rw [none] at front
    rw [popped, ← show s.waiting = (s.pop rest).waiting from front]
    rfl
  cases j with
  | forget task => exact same
  | report wait failure => exact (core_report wait failure _).trans same
  | resume owner at_ =>
    cases at_ with
    | idle failure =>
      have stepped := core_stepCoroutine Session.react owner (.idle failure) (s.pop rest)
      obtain ⟨unchanged, next⟩ := resume_idle_rests Session.react failure (s.pop rest)
      rw [unchanged, next, Core.await_none] at stepped
      exact stepped.trans same
    | _ => cases none

end Session

/-- The coroutine that has waited longest makes a step; `u` is the session without its job. -/
structure Resumes (at_ : Waiting) (u s t : Session Action) : Prop where
  lasting : at_.lasting? = some at_
  pop : ∃ rest, u = s.pop rest
  front : s.waiting = at_ :: u.waiting
  popped : u.core = { s.core with waiting := u.waiting }
  eq : t.core = (u.resume Session.react at_).1.core.await
    (u.resume Session.react at_).2.waiting?

namespace Session

theorem resumes_runJob {s : Session Action} {j : Job} {at_ : Waiting} {rest : List (Entry Job)}
    (h : s.loop.batch = .job j :: rest) (some : j.waiting? = some at_) :
    Resumes at_ (s.pop rest) s (runJob Session.react j (s.pop rest)) := by
  obtain ⟨front, popped⟩ := core_pop_job h
  rw [some] at front
  cases j with
  | forget => cases some
  | report => cases some
  | resume owner w =>
    obtain ⟨rfl, lasting⟩ : w = at_ ∧ at_.lasting? = .some at_ := by
      cases w with
      | idle => cases some
      | _ =>
        obtain rfl := Option.some.inj some
        exact ⟨rfl, rfl⟩
    exact ⟨lasting, ⟨rest, rfl⟩, front, popped, core_stepCoroutine Session.react owner w _⟩

theorem turn_runJob (P : Action → Prop) {s : Session Action} {j : Job} {rest : List (Entry Job)}
    (h : s.loop.batch = .job j :: rest) :
    Turn P s (runJob Session.react j (s.pop rest)) := by
  cases waiting : j.waiting? with
  | none => exact .kept (core_runJob_of_none h waiting)
  | some at_ =>
    have resumes := resumes_runJob h waiting
    exact .resumed _ at_ resumes.lasting resumes.front resumes.popped resumes.eq

theorem turn_step (P : Action → Prop) (s : Session Action) : Turn P s (machine.step s) := by
  unfold Machine.step
  split
  next => exact .kept rfl
  next id rest h =>
    have popped : (s.pop rest).core = s.core := core_pop_timer h
    rcases core_fireTimer (s.pop rest) id with eq | ⟨armed, eq⟩
    · exact .kept (eq.trans popped)
    · rw [popped] at eq
      exact .fired id armed eq
  next j rest h => exact turn_runJob P h

/-- **What one move does to the core is one of a few things.** -/
theorem turn_move {P : Action → Prop} {m : Move} (h : m.Admits P) (s : Session Action) :
    Turn P s (s.move m) := by
  cases m with
  | act a => exact .acted a h rfl
  | call c => exact .called c h (core_enqueue _ _)
  | step => exact turn_step P s
  | openTick =>
    refine .kept ?_
    have waiting : (machine.openTick s).waiting = s.waiting :=
      congrArg (List.filterMap Job.waiting?) (Loop.jobs_openTick s.loop)
    exact congrArg (fun ws => ({ s.core with waiting := ws } : Core)) waiting
  | setTime now => exact .kept rfl
  | relog log => exact .kept rfl

/-- Every move is a turn, whatever front ends do. -/
theorem turn_any (s : Session Action) (m : Move) : Turn (fun _ => True) s (s.move m) :=
  turn_move (by cases m <;> trivial) s

end Session

end Playground
