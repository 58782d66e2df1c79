import Playground.Session.Compilers

/-!
# The compile pipeline

One run compiles one request in stages:

    announce -> invoke -> reject
                       -> [validate] -> [optimize] -> emit

A run gives way before every stage, so what one stage wrote can be seen before the next one starts.

* `Session.beginRun` — opens a run: the request is finalized.
* `Session.runStage` — one stage.
* `Session.stepRun` — one stage with everything that its failure entails.
* `Session.closeRun` — the end of a run: what is left of its module is released.
-/

namespace Playground.Session

open Playground.Decimal

variable {α : Type}

/-! ### Reports -/

/-- Pushes a notification and publishes that it was pushed. -/
def notify (react : React α) (message : String) (s : Session α) : Session α × Option Fault :=
  match s.state.notifications.push s.state.compileMode message with
  | (_, none) => (s, none)
  | (queue, some n) =>
    (s.modifyState fun st => { st with notifications := queue }).tell react
      notificationPushed n.toRecord

def reportMessage (react : React α) (message : String) (s : Session α) :
    Session α × Option Fault :=
  (s.write .error pipelineLogger message).notify react message

/-- Reports messages up to the first that cannot be published. -/
def reportMessages (react : React α) : List String → Session α → Session α × Option Fault
  | [], s => (s, none)
  | m :: rest, s =>
    match s.reportMessage react m with
    | (s, none) => reportMessages react rest s
    | (s, some f) => (s, some f)

/-- Reports that the input was rejected; diagnostics that cannot be read make the report fail. -/
def reportFailure (react : React α) (run : Run) (diagnostics : List String) (s : Session α) :
    Session α × Run × Option Fault :=
  match limitDiagnostics diagnostics s.settings.maxPrintingErrors with
  | .error f => (s, run, some f)
  | .ok limited =>
    let outcome := Outcome.failure diagnostics
    let s := s.modifyState fun st =>
      { st with outcome := some outcome, errorCount := limited.total }
    let run := { run with outcome := some outcome }
    match s.reportMessages react (limited.shown ++ limited.summary.toList) with
    | (s, some f) => (s, run, some f)
    | (s, none) =>
      (s.modifyState fun st => { st with annotations := limited.annotations }, run, none)

/-- The message of an internal error: it names the compiler and words the cause. -/
def internalErrorMessage (compiler : String) (f : Fault) : Except Fault String :=
  f.cause.wording.map fun text => "<" ++ compiler ++ "> internal error:\n" ++ text

theorem internalErrorMessage_eq_error {compiler : String} {f why : Fault} :
    internalErrorMessage compiler f = .error why ↔ f.cause.wording = .error why := by
  unfold internalErrorMessage
  cases f.cause.wording <;> simp [Except.map]

theorem internalErrorMessage_eq_ok {compiler message : String} {f : Fault} :
    internalErrorMessage compiler f = .ok message ↔ ∃ text, f.cause.wording = .ok text ∧
      "<" ++ compiler ++ "> internal error:\n" ++ text = message := by
  unfold internalErrorMessage
  cases f.cause.wording <;> simp [Except.map]

/-- Reports that a stage failed; a cause that has no wording makes the report fail. -/
def reportInternalError (react : React α) (run : Run) (f : Fault) (s : Session α) :
    Session α × Run × Option Fault :=
  match internalErrorMessage run.request.compiler f with
  | .error why => (s, run, some why)
  | .ok message =>
    let outcome := Outcome.internalError message
    let s := s.modifyState fun st =>
      { st with outcome := some outcome, errorCount := 1, annotations := [] }
    let s := s.write .error pipelineLogger message
    let s := s.write .debug pipelineLogger ("<traceback> " ++ f.traced)
    let (s, fault) := s.notify react message
    (s, { run with outcome := some outcome }, fault)

/-- Reports the failure of a stage, while the session is alive: a rejection as a failure, all else
as an internal error. -/
def reportFault (react : React α) (run : Run) (f : Fault) (s : Session α) :
    Session α × Run × Option Fault :=
  if s.state.alive then
    match f.diagnostics? with
    | some diagnostics => reportFailure react run diagnostics s
    | none => reportInternalError react run f s
  else (s, run, none)

/-! ### The ends of a run -/

/-- The message that the standard library was added. -/
def stdlibMessage : String :=
  "source requires the standard library; stdlib enabled for this compile"

/-- Opens a run: its number is one higher than that of the last, and the request is finalized. -/
def beginRun (request : Request) (s : Session α) : Session α × Except Fault Run :=
  let s := s.modifyState fun st => { st with generation := st.generation + 1 }
  match request.finalize s.probe with
  | .error f => (s, .error f)
  | .ok final =>
    let s := if final.options.stdlib && !request.options.stdlib then
        s.write .verbose pipelineLogger stdlibMessage
      else s
    (s, .ok { request := final, generation := s.state.generation })

/-- Disposes a module that a failed or abandoned run left behind. A fault of the disposal is noted
in the log; where it has no wording, the release fails. -/
def releaseModule (react : React α) (run : Run) (s : Session α) : Session α × Option Fault :=
  match run.module with
  | none => (s, none)
  | some m =>
    match s.disposeModule react run.generation m with
    | (s, .ok ()) => (s, none)
    | (s, .error f) =>
      match f.headline with
      | .ok headline =>
        (s.write .warning pipelineLogger
          ("dispose failed after pipeline #" ++ naturalText run.generation ++ ": " ++ headline),
          none)
      | .error why => (s.mark (.unreleased run.generation why), some why)

def finishedData (run : Run) (errorCount : Int) : Payload :=
  [("generation", .int run.generation), ("outcome", Value.ofStr? (run.outcome.map Outcome.kind)),
    ("error_count", .int errorCount)]

/-- Ends a run: its module is released, the busy mark taken back and, while the session is alive,
the end announced. Nothing comes after a release that fails. -/
def closeRun (react : React α) (run : Run) (s : Session α) : Session α × Run × Option Fault :=
  match s.releaseModule react run with
  | (s, some f) => (s, { run with module := none }, some f)
  | (s, none) =>
    let run := { run with module := none }
    if run.announced then
      let s := { s with indicator := s.indicator.finish }
      if s.state.alive then
        let (s, fault) := s.tell react compileFinished (finishedData run s.state.errorCount)
        (s, run, fault)
      else (s, run, none)
    else (s, run, none)

/-! ### Stages -/

def startedData (run : Run) : Payload :=
  [("generation", .int run.generation), ("compiler", .str run.request.compiler),
    ("options", Value.record run.request.options.toRecord)]

/-- Takes back what the last run showed, and sets the busy mark. -/
def openCycle (s : Session α) : Session α :=
  let s := s.modifyState fun st =>
    { st with
      errorCount := 0, outcome := none, annotations := []
      notifications := st.notifications.clear }
  { s with indicator := s.indicator.start }

def announceStage (react : React α) (run : Run) (s : Session α) :
    Session α × Run × Except Fault (Option Stage) :=
  match s.openCycle.tell react compileStarted (startedData run) with
  | (s, none) => (s, { run with announced := true }, .ok (some .invoke))
  | (s, some f) => (s, { run with announced := true }, .error f)

def afterValidate (run : Run) : Stage := if run.request.options.optimize then .optimize else .emit

/-- The stage after a compile call that handed out a module. -/
def afterInvoke (run : Run) : Stage :=
  if run.request.options.validate then .validate else afterValidate run

def invokeStage (react : React α) (run : Run) (s : Session α) :
    Session α × Run × Except Fault (Option Stage) :=
  match s.compileSource react run.generation run.request.compiler run.request.source
    run.request.options with
  | (s, .error f) => (s, run, .error f)
  | (s, .ok (.error (.error f))) => (s, run, .error f)
  | (s, .ok (.error (.ok diagnostics))) =>
    (s, { run with diagnostics := diagnostics }, .ok (some .reject))
  | (s, .ok (.ok m)) => (s, { run with module := some m }, .ok (some (afterInvoke run)))

/-- The fault of a stage that needs a module and has none. -/
def noModule : Fault :=
  .foreign "RuntimeError" "pipeline stage reached without a compiled module"

def rejectStage (react : React α) (run : Run) (s : Session α) :
    Session α × Run × Except Fault (Option Stage) :=
  match reportFailure react run run.diagnostics s with
  | (s, run, some f) => (s, run, .error f)
  | (s, run, none) => (s, run, .ok none)

/-- Validates the module; a rejection stays one, any other fault is a crash of the stage. -/
def validateStage (react : React α) (run : Run) (s : Session α) :
    Session α × Run × Except Fault (Option Stage) :=
  match run.module with
  | none => (s, run, .error (noModule.inStage Stage.validate.name))
  | some m =>
    match s.validateModule react run.generation m with
    | (s, .ok ()) => (s, run, .ok (some (afterValidate run)))
    | (s, .error f) =>
      (s, run, .error (if f.diagnostics?.isSome then f else f.inStage Stage.validate.name))

/-- Optimizes the module; any fault is a crash of the stage. -/
def optimizeStage (react : React α) (run : Run) (s : Session α) :
    Session α × Run × Except Fault (Option Stage) :=
  match run.module with
  | none => (s, run, .error (noModule.inStage Stage.optimize.name))
  | some m =>
    match s.optimizeModule react run.generation m with
    | (s, m, .ok ()) => (s, { run with module := some m }, .ok (some .emit))
    | (s, m, .error f) =>
      (s, { run with module := some m }, .error (f.inStage Stage.optimize.name))

/-- The text and the binary of the module of a run, up to the first fault. -/
def emitModule (react : React α) (generation : Nat) (m : Module) (s : Session α) :
    Session α × Except Fault Artifact :=
  match s.emitModuleText react generation m with
  | (s, .error f) => (s, .error f)
  | (s, .ok text) =>
    match s.emitModuleBinary react generation m with
    | (s, .error f) => (s, .error f)
    | (s, .ok binary) => (s, .ok ⟨text, binary⟩)

/-- The text and the binary of the module of a run, which is disposed after that in any case; a
fault of the disposal hides all others. -/
def emitAndDispose (react : React α) (generation : Nat) (m : Module) (s : Session α) :
    Session α × Except Fault Artifact :=
  let (s, result) := s.emitModule react generation m
  match s.disposeModule react generation m with
  | (s, .ok ()) => (s, result)
  | (s, .error f) => (s, .error f)

def successMessage (a : Artifact) : String :=
  "compiled successfully (" ++ naturalText a.binary.length ++ " bytes)"

/-- Takes the output of the module and shows it. -/
def emitStage (react : React α) (run : Run) (s : Session α) :
    Session α × Run × Except Fault (Option Stage) :=
  match run.module with
  | none => (s, run, .error noModule)
  | some m =>
    let run := { run with module := none }
    match s.emitAndDispose react run.generation m with
    | (s, .error f) => (s, run, .error (f.inStage Stage.emit.name))
    | (s, .ok artifact) =>
      let outcome := Outcome.success artifact.text artifact.binary
      let s := s.modifyState fun st =>
        { st with artifact := artifact, errorCount := 0, outcome := some outcome }
      (s.write .verbose pipelineLogger (successMessage artifact),
        { run with outcome := some outcome }, .ok none)

def runStage (react : React α) (stage : Stage) (run : Run) (s : Session α) :
    Session α × Run × Except Fault (Option Stage) :=
  match stage with
  | .announce => announceStage react run s
  | .invoke => invokeStage react run s
  | .reject => rejectStage react run s
  | .validate => validateStage react run s
  | .optimize => optimizeStage react run s
  | .emit => emitStage react run s

/-- How a step of a run ends: before another stage, or with the run, whose report or closing may
have failed. -/
inductive RunStep where
  | next (stage : Stage) (run : Run)
  | over (run : Run) (fault : Option Fault)
  deriving Inhabited

def abandonedMessage (run : Run) : String :=
  "session stopped; pipeline #" ++ naturalText run.generation ++ " abandoned"

/-- One stage, unless the session has been stopped; a fault of the stage is reported, and the run
is closed where no stage follows. A fault of the closing hides that of the report. -/
def stepRun (react : React α) (stage : Stage) (run : Run) (s : Session α) :
    Session α × RunStep :=
  if s.state.alive then
    match runStage react stage { run with stages := run.stages ++ [stage.name] } s with
    | (s, run, .ok (some next)) => (s, .next next run)
    | (s, run, .ok none) =>
      let (s, run, fault) := closeRun react run s
      (s, .over run fault)
    | (s, run, .error f) =>
      let (s, run, fault) := reportFault react run f (s.mark (.raised stage f))
      let (s, run, last) := closeRun react run s
      (s, .over run (last.or fault))
  else
    let s := s.write .debug pipelineLogger (abandonedMessage run)
    let (s, run, fault) := closeRun react run s
    (s, .over run fault)

/-! ### Whole runs -/

/-- At most how many stages can follow, this one included. -/
def stagesLeft : Stage → Nat
  | .announce => 5
  | .invoke => 4
  | .validate => 3
  | .optimize => 2
  | .reject => 1
  | .emit => 1

/-- A run from one stage to its end, for `fuel` stages. -/
def runFrom (react : React α) : Nat → Stage → Run → Session α → Session α × Run × Option Fault
  | 0, _, run, s => (s, run, none)
  | fuel + 1, stage, run, s =>
    match stepRun react stage run s with
    | (s, .next next run) => runFrom react fuel next run s
    | (s, .over run fault) => (s, run, fault)

def runPipeline (react : React α) (request : Request) (s : Session α) :
    Session α × Except Fault Run :=
  match beginRun request s with
  | (s, .error f) => (s, .error f)
  | (s, .ok run) =>
    match runFrom react (stagesLeft .announce) .announce run s with
    | (s, run, none) => (s, .ok run)
    | (s, _, some f) => (s, .error f)

end Playground.Session
