import Playground.Session.Trigger

/-!
# Coroutines

A call that takes several ticks goes on from where it waits until it waits again or ends.

* `Session.enterCompile` — the way into the pipeline: a request is run, parked or ignored.
* `Session.begin` — the first step of a call.
* `Session.resume` — a step from where a call waits.
* `Session.close` — the end of a coroutine.
-/

namespace Playground.Session

variable {α : Type}

/-- How far a coroutine has come. -/
inductive Progress where
  /-- It gives way and goes on in a later tick. -/
  | waits (at_ : Waiting)
  | gathers
  | ends (result : Except Fault Value)
  deriving Inhabited

/-- What a call answers after its compile. -/
def After.value : After → Value
  | .nothing => .null
  | .answer b => .bool b

/-! ### Compiling -/

/-- Takes the busy state back and ends with a fault. -/
def leaveFailed (generation : Nat) (outcome : Option Outcome) (f : Fault) (s : Session α) :
    Session α × Progress :=
  ((s.mark (.broke generation outcome f)).modifyState fun st => { st with compiling := false },
    .ends (.error f))

def openRun (ticket : Ticket) (after : After) (s : Session α) : Session α × Progress :=
  let generation := s.state.generation + 1
  match (s.mark (.began ticket.number generation ticket.request)).beginRun ticket.request with
  | (s, .error f) => leaveFailed generation none f s
  | (s, .ok run) => (s, .waits (.staging .announce run after))

/-- After a run: the waiting request is run next, while the session is alive. -/
def nextRun (after : After) (s : Session α) : Session α × Progress :=
  match s.pending with
  | none =>
    (s.modifyState fun st => { st with compiling := false }, .ends (.ok (After.value after)))
  | some ticket =>
    let s := { s with pending := none }
    if s.state.alive then openRun ticket after s
    else (s.modifyState fun st => { st with compiling := false }, .ends (.ok (After.value after)))

def requestOf (draft : Option Draft) (s : Session α) : Request :=
  match draft with
  | some d => d.toRequest s.state.options
  | none => s.buildRequest

/-- Accepts a request and gives it the next number. -/
def accept (request : Request) (s : Session α) : Session α × Ticket :=
  ({ s with accepted := s.accepted + 1 }.mark (.accepted s.accepted request), ⟨s.accepted, request⟩)

/-- Parks a request in the place of the one that was parked before. -/
def park (ticket : Ticket) (s : Session α) : Session α :=
  let s := match s.pending with
    | some earlier =>
      (s.mark (.superseded earlier.number ticket.number)).write .debug sessionLogger
        "pending compile request superseded"
    | none => s
  { s with pending := some ticket }

/-- The way into the pipeline: a session that is not ready ignores the request, a busy one parks it
in the place of the one that was parked before, and any other runs it. -/
def enterCompile (draft : Option Draft) (after : After) (s : Session α) :
    Session α × Progress :=
  if s.state.alive && s.state.ready then
    let (s, ticket) := s.accept (s.requestOf draft)
    if s.state.compiling then (s.park ticket, .ends (.ok (After.value after)))
    else openRun ticket after (s.modifyState fun st => { st with compiling := true })
  else
    (s.write .debug sessionLogger "compile ignored: session not ready",
      .ends (.ok (After.value after)))

def resumeStage (react : React α) (stage : Stage) (run : Run) (after : After) (s : Session α) :
    Session α × Progress :=
  match s.stepRun react stage run with
  | (s, .next stage run) => (s, .waits (.staging stage run after))
  | (s, .over run (some f)) => leaveFailed run.generation run.outcome f s
  | (s, .over run none) => nextRun after (s.mark (.ended run.generation run.outcome))

/-! ### Loading -/

def afterLoad (purpose : LoadPurpose) (compiler : String) (available : Bool) (s : Session α) :
    Session α × Progress :=
  match purpose with
  | .switchCompiler =>
    let s := if available then
        s.modifyState fun st =>
          { st with version := ((s.loaded? compiler).map (·.version)).getD st.version }
      else s
    enterCompile none (.answer available) s
  | .start =>
    if available then enterCompile none (.answer true) s
    else (s.modifyState fun st => { st with ready := false }, .ends (.ok (.bool false)))
  | .startUp =>
    if available then enterCompile none .nothing s
    else
      let s := s.modifyState fun st => { st with ready := false }
      (s.write .error webLogger "compiler backend unavailable; serving in not-ready state",
        .ends (.ok .null))

/-- The end of a loading. Its fault is noted in the log; where that has no wording, the call
fails. -/
def endLoad (compiler : String) (ending : Option Fault) (purpose : LoadPurpose) (s : Session α) :
    Session α × Progress :=
  match ending with
  | some f =>
    if f.isUnknownCompiler then
      afterLoad purpose compiler false
        (s.write .warning sessionLogger ("Compiler not supported: " ++ compiler))
    else
      match f.headline with
      | .ok headline =>
        afterLoad purpose compiler false
          (s.write .error sessionLogger
            ("Compiler '" ++ compiler ++ "' failed to load: " ++ headline))
      | .error why => (s.mark (.unloaded compiler why), .ends (.error why))
  | none =>
    let own := s.freshlyLoaded compiler
    let s := (s.setLoaded compiler own).modifyState fun st =>
      { st with ready := true, version := own.version }
    afterLoad purpose compiler true
      (s.write .info sessionLogger (compiler ++ " " ++ own.version ++ " ready"))

/-- A loading gives way as often as it still has to. -/
def continueLoad (compiler : String) (left : Nat) (ending : Option Fault) (purpose : LoadPurpose)
    (s : Session α) : Session α × Progress :=
  match left with
  | 0 => endLoad compiler ending purpose s
  | n + 1 => (s, .waits (.loading compiler n ending purpose))

def load (compiler : String) (purpose : LoadPurpose) (s : Session α) : Session α × Progress :=
  match s.beginLoad compiler with
  | (s, .error f) => endLoad compiler (some f) purpose s
  | (s, .ok (yields, ending)) => continueLoad compiler yields ending purpose s

/-! ### Waiting for the timer's tasks -/

def waitIdle (s : Session α) : Session α × Progress :=
  if s.timerTasks.isEmpty then (s, .ends (.ok .null)) else (s, .gathers)

/-- Lets a wait watch a task; one that has ended reports at once. -/
def watch (wait : Nat) (s : Session α) (t : TimerTask) : Session α :=
  match t.ending with
  | some failure => s.enqueue (.report wait failure)
  | none =>
    { s with
      timerTasks := s.timerTasks.map fun u =>
        if u.id = t.id then { u with watchers := u.watchers ++ [wait] } else u }

/-- Opens a wait for all tasks of the timer. -/
def gather (owner : Owner) (s : Session α) : Session α :=
  let wait := s.nextGathering
  let s : Session α := { s with
    nextGathering := wait + 1
    gatherings := s.gatherings ++ [⟨wait, owner, s.timerTasks.length, false⟩] }
  s.timerTasks.foldl (watch wait) s

/-- A task reports to a wait: the first failure ends the wait, and so does the last report. -/
def report (wait : Nat) (failure : Option Fault) (s : Session α) : Session α :=
  match s.gatherings.find? fun g => g.id = wait with
  | none => s
  | some g =>
    if g.isOver then s
    else
      let isOver := failure.isSome || g.left ≤ 1
      let s : Session α := { s with
        gatherings := s.gatherings.map fun h =>
          if h.id = wait then { g with left := g.left - 1, isOver := isOver } else h }
      if isOver then s.enqueue (.resume g.owner (.idle failure)) else s

/-! ### Steps -/

def wake (s : Session α) : Session α :=
  (s.modifyState fun st => { st with alive := true }).mark .started

/-- The first step of a call. -/
def begin (call : Call) (s : Session α) : Session α × Progress :=
  match call with
  | .start => load s.state.compiler .start s.wake
  | .startUp => load s.state.compiler .startUp s.wake
  | .compile draft => enterCompile draft .nothing s
  | .click mode =>
    let s := s.cancelTimer
    match mode with
    | none =>
      if s.state.compileMode = .decompile then
        (s.write .debug sessionLogger "decompile not supported yet", .ends (.ok .null))
      else enterCompile none .nothing s
    | some name =>
      match CompileMode.ofName name with
      | .error f => (s, .ends (.error f))
      | .ok .decompile =>
        (s.write .debug sessionLogger "decompile not supported yet", .ends (.ok .null))
      | .ok _ => enterCompile none .nothing s
  | .setOption key value =>
    if s.state.ready then
      match s.state.options.replace key value with
      | .error f => (s, .ends (.error f))
      | .ok options =>
        enterCompile none (.answer true)
          (s.modifyState fun st => { st with options := options }).cancelTimer
    else (s, .ends (.ok (.bool false)))
  | .switchCompiler compiler =>
    let s := s.cancelTimer.modifyState fun st => { st with compiler := compiler }
    if (s.loaded? compiler).isSome then afterLoad .switchCompiler compiler true s
    else load compiler .switchCompiler s
  | .waitIdle => waitIdle s
  | .shutDown => waitIdle s.stop
  | .turn => (s, .ends (.ok .null))

def resume (react : React α) (at_ : Waiting) (s : Session α) : Session α × Progress :=
  match at_ with
  | .fresh call => begin call s
  | .loading compiler left ending purpose => continueLoad compiler left ending purpose s
  | .staging stage run after => resumeStage react stage run after s
  | .idle none => waitIdle s
  | .idle (some f) => (s, .ends (.error f))

/-- The end of a coroutine: a caller gets the result, a spawned one leaves it in the journal, and a
task of the timer is forgotten in the next tick and reports to those that watch it. -/
def close (owner : Owner) (result : Except Fault Value) (s : Session α) : Session α :=
  match owner with
  | .caller => { s with completed := some result }
  | .spawned n => s.note (.ended n result)
  | .timer id =>
    let failure := failureOf result
    let watchers := (s.timerTasks.filter fun t => t.id = id).flatMap (·.watchers)
    let s : Session α := { s with
      timerTasks := s.timerTasks.map fun t =>
        if t.id = id then { t with ending := some failure } else t }
    watchers.foldl (fun s w => s.enqueue (.report w failure)) (s.enqueue (.forget id))

def stepCoroutine (react : React α) (owner : Owner) (at_ : Waiting) (s : Session α) :
    Session α :=
  match s.resume react at_ with
  | (s, .waits next) => s.enqueue (.resume owner next)
  | (s, .gathers) => s.gather owner
  | (s, .ends result) => s.close owner result

/-- Starts a coroutine and leaves it to itself. -/
def spawn (call : Call) (s : Session α) : Session α :=
  let n := s.spawned + 1
  ({ s with spawned := n } : Session α).enqueue (.resume (.spawned n) (.fresh call))

/-- The timer has come due: a compile of the present text is started. -/
def fireTimer (id : Nat) (s : Session α) : Session α :=
  if s.armed = some id then
    let task := s.nextTask
    let s : Session α := { s with
      armed := none, nextTask := task + 1, timerTasks := s.timerTasks ++ [{ id := task }] }
    s.enqueue (.resume (.timer task) (.fresh (.compile none)))
  else s

def runJob (react : React α) (j : Job) (s : Session α) : Session α :=
  match j with
  | .resume owner at_ => s.stepCoroutine react owner at_
  | .forget task => { s with timerTasks := s.timerTasks.filter fun t => t.id ≠ task }
  | .report wait failure => s.report wait failure

end Playground.Session
