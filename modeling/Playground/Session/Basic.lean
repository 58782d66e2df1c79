import Playground.Clock
import Playground.Compile.Module
import Playground.Compile.Request
import Playground.Debounce
import Playground.Diagnostic.Limit
import Playground.EventBus
import Playground.Notifications
import Playground.Status

/-!
# Sessions

A session owns everything of one playground: the text, the options, the compilers, the one active
pipeline and the timer that compiles after edits. Its coroutines are kept as data, suspended at
their resume points.

* `Settings` — what a session is started with.
* `State` — what the page shows and what the stages write.
* `Stage`, `Run` — the stages of a pipeline and the notes of one run.
* `Call`, `Waiting`, `Job` — what coroutines are called for, where they wait, and what waits in the
  queue.
* `Effect` — what a session does to the outside.
* `Ticket`, `Milestone` — requests in the order of their acceptance, and the course of a session.
* `Session` — all of it together.
-/

namespace Playground

open Playground.Clock

/-- What a session is started with. -/
structure Settings where
  compiler : String := "CPython"
  compileMode : CompileMode := .auto
  autoCompileDelayMs : Int := 800
  maxPrintingErrors : Int := 8
  notificationDismissMs : Int := 5000
  options : Options := {}
  deriving DecidableEq, Repr, Inhabited

/-- The text that a new playground shows. -/
def defaultSource : String :=
  "def fib(num: int) -> int:\n    if num <= 1:\n        return 1\n" ++
    "    return fib(num - 1) + fib(num - 2)\n"

/-- What the page shows and what the stages write. -/
structure State where
  compiler : String
  options : Options
  compileMode : CompileMode
  source : String
  /-- The last text that counted as an edit, without white space around it. -/
  lastTextInput : String := ""
  annotations : List Annotation := []
  outcome : Option Outcome := none
  artifact : Artifact := {}
  errorCount : Int := 0
  outputType : OutputType := .text
  ready : Bool := false
  alive : Bool := false
  compiling : Bool := false
  version : String := ""
  generation : Nat := 0
  notifications : Notifications := {}
  deriving DecidableEq, Repr, Inhabited

namespace State

/-- Did the last compilation succeed? -/
def isSuccess (s : State) : Bool :=
  match s.outcome with
  | some (.success ..) => true
  | _ => false

/-- Did the last compilation fail? -/
def isFailure (s : State) : Bool :=
  match s.outcome with
  | some (.failure _) => true
  | some (.internalError _) => true
  | _ => false

end State

/-! ### Pipelines -/

/-- The stages of a pipeline. -/
inductive Stage where
  | announce
  | invoke
  | reject
  | validate
  | optimize
  | emit
  deriving DecidableEq, Repr, Inhabited

namespace Stage

def name : Stage → String
  | announce => "announce"
  | invoke => "invoke"
  | reject => "reject"
  | validate => "validate"
  | optimize => "optimize"
  | emit => "emit"

end Stage

/-- The notes of one pipeline run. -/
structure Run where
  request : Request
  generation : Nat
  module : Option Module := none
  diagnostics : List String := []
  outcome : Option Outcome := none
  announced : Bool := false
  stages : List String := []
  deriving Inhabited

/-! ### Coroutines -/

/-- A request whose options may be left open. -/
structure Draft where
  source : String
  compiler : String
  options : Option Options := none
  finalized : Bool := false
  deriving DecidableEq, Repr, Inhabited

namespace Draft

/-- The request, with the given options where they were left open. -/
def toRequest (d : Draft) (options : Options) : Request :=
  ⟨d.source, d.compiler, d.options.getD options, d.finalized⟩

def settle (d : Draft) (options : Options) : Draft :=
  { d with options := some (d.options.getD options) }

end Draft

/-- What a coroutine is called for. -/
inductive Call where
  /-- Load the compiler and compile for the first time. -/
  | start
  | compile (draft : Option Draft)
  /-- The compile button; the mode is the session's where none is given. -/
  | click (mode : Option String)
  | setOption (key : String) (value : Value)
  | switchCompiler (compiler : String)
  /-- Wait until no compile that the timer started is running. -/
  | waitIdle
  | startUp
  | shutDown
  | turn
  deriving Repr, Inhabited

/-- What follows the compile that ends a call. -/
inductive After where
  | nothing
  | answer (b : Bool)
  deriving DecidableEq, Repr, Inhabited

/-- What a compiler is loaded for. -/
inductive LoadPurpose where
  | start
  | startUp
  | switchCompiler
  deriving DecidableEq, Repr, Inhabited

/-- Where a coroutine waits. -/
inductive Waiting where
  | fresh (call : Call)
  /-- In a loading that gives way `left` more times before it ends. -/
  | loading (compiler : String) (left : Nat) (ending : Option Fault) (purpose : LoadPurpose)
  | staging (stage : Stage) (run : Run) (after : After)
  /-- At the end of a wait for the timer's compiles, one of which may have failed. -/
  | idle (failure : Option Fault)
  deriving Inhabited

/-- To whom a coroutine belongs. -/
inductive Owner where
  | caller
  /-- To nobody: it was started and left to itself. -/
  | spawned (number : Nat)
  | timer (task : Nat)
  deriving DecidableEq, Repr, Inhabited

/-- What waits in the queue. -/
inductive Job where
  | resume (owner : Owner) (at_ : Waiting)
  /-- A task of the timer that has ended is forgotten. -/
  | forget (task : Nat)
  /-- A wait learns that one of its tasks has ended. -/
  | report (wait : Nat) (failure : Option Fault)
  deriving Inhabited

/-- A compile that the timer started. -/
structure TimerTask where
  id : Nat
  ending : Option (Option Fault) := none
  /-- The waits that want to know its end. -/
  watchers : List Nat := []
  deriving DecidableEq, Repr, Inhabited

/-- A wait for several tasks. -/
structure Gathering where
  id : Nat
  owner : Owner
  left : Nat
  isOver : Bool := false
  deriving DecidableEq, Repr, Inhabited

/-! ### The session -/

/-- What a session does to the outside, in the order in which it happens. -/
inductive Effect where
  | loaded (compiler : String)
  | compiled (compiler text : String) (options : Options)
  | moduleCalled (compiler : String) (number : Nat) (call : ModuleCall)
  | logged (sink : String) (record : Log.Record)
  /-- A listener was called; `acts` tells whether it did something about it. -/
  | heard (listener event : String) (data : Payload) (toAll acts : Bool)
  | ended (number : Nat) (result : Except Fault Value)
  deriving Repr

/-- What a listener does when it is called. -/
structure Reaction (α : Type) where
  alter : Payload → Payload := id
  actions : List α := []
  fault : Option Fault := none

/-- A listener: what it does about each of its calls, by the number of the call, the event and the
data; it may let a call pass. -/
structure Listener (α : Type) where
  respond : Nat → String → Payload → Option (Reaction α) := fun _ _ _ => none
  calls : Nat := 0

/-- A request with its number in the order in which requests were accepted. -/
structure Ticket where
  number : Nat
  request : Request
  deriving DecidableEq, Repr, Inhabited

/-- What a session notes of its own course. -/
inductive Milestone where
  /-- A request was accepted: it is run at once or waits for the active pipeline. -/
  | accepted (number : Nat) (request : Request)
  /-- The request that waited gave way to a later one. -/
  | superseded (number later : Nat)
  /-- The pipeline was asked to run a request. -/
  | began (number generation : Nat) (request : Request)
  /-- The compiler of a run was asked; `produced` tells whether it handed out a module. -/
  | asked (generation : Nat) (produced : Bool)
  /-- A call of the module of a run was over. -/
  | called (generation : Nat) (call : ModuleCall) (fault : Option Fault)
  | raised (stage : Stage) (fault : Fault)
  | ended (generation : Nat) (outcome : Option Outcome)
  /-- The run failed to report how it ended, or to begin. -/
  | broke (generation : Nat) (outcome : Option Outcome) (fault : Fault)
  /-- An event of the session's own was published. -/
  | published (event : String) (data : Payload)
  /-- Its publication broke off, since the fault of a listener has no wording. -/
  | cutOff (event : String) (fault : Fault)
  /-- The module that a run left behind was disposed with a fault that has no wording. -/
  | unreleased (generation : Nat) (fault : Fault)
  /-- A compiler failed to load with a fault that has no wording. -/
  | unloaded (compiler : String) (fault : Fault)
  | started
  | stopped
  deriving Repr, Inhabited

/-- A session; `α` is what compilers and listeners may do to it while they are called. -/
structure Session (α : Type) where
  settings : Settings
  state : State
  indicator : Indicator := {}
  bus : EventBus := {}
  listeners : List (String × Listener α) := []
  log : Log.Board := {}
  compilers : List (String × Compiler α) := []
  loaded : List (String × LoadedCompiler) := []
  probe : Probe := .imports
  /-- The request that waits for the active pipeline. -/
  pending : Option Ticket := none
  accepted : Nat := 0
  loop : Loop Job := {}
  armed : Option Nat := none
  timerTasks : List TimerTask := []
  nextTask : Nat := 0
  gatherings : List Gathering := []
  nextGathering : Nat := 0
  /-- The number of coroutines that were left to themselves. -/
  spawned : Nat := 0
  /-- How the coroutine of the caller ended, once it has. -/
  completed : Option (Except Fault Value) := none
  /-- What was done to the outside, latest first. -/
  journal : List Effect := []
  /-- The course of the session, latest first. -/
  history : List Milestone := []

namespace Session

variable {α : Type}

def new (settings : Settings) (source : String) (probe : Probe)
    (compilers : List (String × Compiler α)) : Session α where
  settings
  state := {
    compiler := settings.compiler
    options := settings.options
    compileMode := settings.compileMode
    source := source
    lastTextInput := Text.trimmed source
    notifications := { dismissAfterMs := settings.notificationDismissMs } }
  probe
  compilers

def modifyState (s : Session α) (f : State → State) : Session α := { s with state := f s.state }

def note (s : Session α) (e : Effect) : Session α := { s with journal := e :: s.journal }

def mark (s : Session α) (m : Milestone) : Session α := { s with history := m :: s.history }

def write (s : Session α) (level : Log.Level) (logger message : String) : Session α :=
  let (log, deliveries) := s.log.emit level logger message
  { s with
    log := log
    journal := (deliveries.map fun d => Effect.logged d.1 d.2).reverse ++ s.journal }

/-- The loggers of the parts of a session. -/
def sessionLogger : String := "compilepad.core.session"

@[inherit_doc sessionLogger]
def pipelineLogger : String := "compilepad.core.pipeline"

@[inherit_doc sessionLogger]
def eventLogger : String := "compilepad.core.events"

@[inherit_doc sessionLogger]
def webLogger : String := "compilepad.web.app"

def enqueue (s : Session α) (j : Job) : Session α := { s with loop := s.loop.enqueue j }

/-- The compiler that was loaded under a name. -/
def loaded? (s : Session α) (compiler : String) : Option LoadedCompiler :=
  (s.loaded.find? fun c => c.1 = compiler).map (·.2)

def compiler? (s : Session α) (compiler : String) : Option (Compiler α) :=
  (s.compilers.find? fun c => c.1 = compiler).map (·.2)

/-- Puts a value under a name, in the place of an earlier one. -/
def assign {β : Type} (name : String) (value : β) : List (String × β) → List (String × β)
  | [] => [(name, value)]
  | e :: rest => if e.1 = name then (name, value) :: rest else e :: assign name value rest

/-- The request for the present text, compiler and options. -/
def buildRequest (s : Session α) : Request :=
  ⟨s.state.source, s.state.compiler, s.state.options, false⟩

end Session

end Playground
