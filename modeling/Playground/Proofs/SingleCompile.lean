import Playground.CommandLine.Run
import Playground.Proofs.Outcomes
import Playground.Proofs.Rejections
import Playground.Proofs.Solitary

/-!
# A text that is compiled once

The command line compiles a text in a session of its own: it starts the session, stops it and waits
until nothing is running. Nobody else does anything in that session, so what comes of it is what the
one run comes to.

* `Finishes`, `await_of_finishes` — a call that nobody disturbs, step by step.
* `finishes_staging` — a run is such a call from stage to stage.
* `Interpreter.ending` — what the compile of a text comes to, by the interpreter's answers.
* `compileOnce_of_known`, `compileOnce_of_unknown` — a session that is started once comes to this,
  or has no compiler.
-/

namespace Playground

namespace Session

/-! ### Calls that nobody disturbs -/

/-- The session has nothing to do, and nobody waits for it. -/
structure Calm (s : Session Action) : Prop where
  settled : s.loop.isSettled = true
  free : s.completed = none
  pending : s.pending = none
  armed : s.armed = none
  tasks : s.timerTasks = []

/-- In so many steps the coroutine of the caller comes from where it waits to its end, and nothing
else is to be done on the way. -/
inductive Finishes :
    Nat → Waiting → Session Action → Session Action → Except Fault Value → Prop where
  | ends {at_ : Waiting} {s t : Session Action} {result : Except Fault Value}
      (step : s.resume Session.react at_ = (t, .ends result)) : Finishes 1 at_ s t result
  | waits {n : Nat} {at_ next : Waiting} {s t u : Session Action} {result : Except Fault Value}
      (step : s.resume Session.react at_ = (t, .waits next)) (calm : t.Calm)
      (rest : Finishes n next t u result) : Finishes (n + 1) at_ s u result

variable {s t u : Session Action} {at_ : Waiting} {result : Except Fault Value}

theorem runToEnd_of_completed (h : s.completed.isSome = true) (fuel : Nat) :
    runToEnd fuel s = s := by
  cases fuel with
  | zero => rfl
  | succ fuel => exact if_pos h

/-- Each step of the coroutine takes the opening of a tick and a callback. -/
theorem runToEnd_of_finishes {n : Nat} (h : Finishes n at_ s t result) (calm : s.Calm) {fuel : Nat}
    (enough : 2 * n ≤ fuel) :
    runToEnd fuel (s.enqueue (.resume .caller at_)) = { t with completed := some result } := by
  induction h generalizing fuel with
  | @ends at_ s t result step =>
    obtain ⟨fuel, rfl⟩ := Nat.exists_eq_add_of_le' enough
    have stepped : s.stepCoroutine Session.react .caller at_ =
        { t with completed := some result } := by
      unfold stepCoroutine
      rw [step]
      rfl
    rw [runToEnd_of_settled calm.settled calm.free, stepped]
    exact runToEnd_of_completed rfl fuel
  | @waits n at_ next s t u result step calm' rest ih =>
    obtain ⟨fuel, rfl⟩ : ∃ k, fuel = k + 2 := Nat.exists_eq_add_of_le' (by omega)
    have stepped : s.stepCoroutine Session.react .caller at_ =
        t.enqueue (.resume .caller next) := by
      unfold stepCoroutine
      rw [step]
    rw [runToEnd_of_settled calm.settled calm.free, stepped]
    exact ih calm' (by omega)

/-- **A call that nobody disturbs** leaves the session as its last step does. -/
theorem await_of_finishes {n : Nat} {call : Call} (h : Finishes n (.fresh call) s t result)
    (calm : s.Calm) (enough : 2 * n ≤ patience) (rests : t.loop.isSettled = true) :
    s.await call =
      { result, atEnd := { t with completed := some result },
        after := { t with completed := none } } := by
  have ended := runToEnd_of_finishes h calm enough
  have settled : ({ t with completed := some result } : Session Action).loop.isSettled = true :=
    rests
  unfold await
  dsimp only
  rw [forget_completed calm.free, ended, drain_of_settled settled]
  rfl

/-! ### Runs -/

theorem Calm.stepRun (calm : s.Calm) (passive : s.Admits Action.Passive) (stage : Stage)
    (run : Run) : (s.stepRun Session.react stage run).1.Calm := by
  have untouched := untouched_stepRun passive stage run
  exact ⟨untouched.loop ▸ calm.settled,
    (congrArg Visit.completed (visit_stepRun stage run s)).trans calm.free,
    untouched.pending.trans calm.pending, untouched.armed.trans calm.armed,
    untouched.tasks.trans calm.tasks⟩

/-- How a coroutine ends whose run has failed to report, or has not. -/
def returned (after : After) : Option Fault → Except Fault Value
  | some f => .error f
  | none => .ok (After.value after)

/-- The session when the coroutine of a run is over. -/
def leave (m : Milestone) (s : Session Action) : Session Action :=
  (s.mark m).modifyState fun st => { st with compiling := false }

/-- **A run goes from stage to stage to its end**, where no request waits for it. -/
theorem finishes_staging {fuel : Nat} {stage : Stage} (run : Run) (after : After)
    (enough : stagesLeft stage ≤ fuel) (passive : s.Admits Action.Passive) (calm : s.Calm) :
    ∃ n ≤ fuel, ∃ m, ((runFrom Session.react fuel stage run s).1.leave m).Calm ∧
      Finishes n (.staging stage run after) s
        ((runFrom Session.react fuel stage run s).1.leave m)
        (returned after (runFrom Session.react fuel stage run s).2.2) := by
  induction fuel generalizing s stage run with
  | zero => cases stage <;> cases enough
  | succ fuel ih =>
    have stepped := stepped_stepRun reacts_react s stage run
    have passive' := (untouched_stepRun passive stage run).passive
    have calm' := calm.stepRun passive stage run
    have resumed : s.resume Session.react (.staging stage run after) =
        resumeStage Session.react stage run after s := rfl
    unfold resumeStage at resumed
    unfold runFrom
    rcases step : s.stepRun Session.react stage run with ⟨t, ⟨next, run'⟩ | ⟨run', fault⟩⟩ <;>
      rw [step] at stepped passive' calm' resumed
    · have advances : stagesLeft next < stagesLeft stage := by
        cases stepped with
        | announced _ _ first =>
          subst first
          decide
        | onward _ _ _ _ advances => exact advances
      have shorter : stagesLeft next ≤ fuel := by omega
      obtain ⟨n, few, m, left, rest⟩ := ih run' shorter passive' calm'
      exact ⟨n + 1, by omega, m, left, .waits resumed calm' rest⟩
    · have left (m : Milestone) : (t.leave m).Calm :=
        ⟨calm'.settled, calm'.free, calm'.pending, calm'.armed, calm'.tasks⟩
      cases fault with
      | some f => exact ⟨1, by omega, .broke run'.generation run'.outcome f, left _, .ends resumed⟩
      | none =>
        have waits : (t.mark (.ended run'.generation run'.outcome)).pending = none := calm'.pending
        refine ⟨1, by omega, .ended run'.generation run'.outcome, left _, .ends (resumed.trans ?_)⟩
        dsimp only
        unfold nextRun
        rw [waits]
        rfl

end Session

/-! ### What the interpreter answers -/

open Session CommandLine

/-- The conduct that an interpreter has ready for a request to a compiler that was just loaded. -/
def Bytecode.Interpreter.conduct (i : Bytecode.Interpreter) (r : Request) : Conduct :=
  match (({} : Bytecode.Backend).load i).compileSource i r.source r.options with
  | (_, _, .error f) => .fails f
  | (_, backend, .ok none) => .rejects (.ok backend.diagnostics)
  | (i, _, .ok (some m)) => .produces (m.conduct i r.options.validate r.options.optimize)

/-- A second disposal is a fault that has a wording. -/
theorem unreleased?_dispose (m : Bytecode.Module) : unreleased? (failureOf m.dispose.2) = none := by
  unfold Bytecode.Module.dispose
  cases m.held <;> rfl

/-- The modules of the bytecode compiler can be released. -/
theorem unreleased?_conduct (i : Bytecode.Interpreter) (r : Request) :
    (i.conduct r).unreleased? = none := by
  unfold Bytecode.Interpreter.conduct
  split
  next => rfl
  next => rfl
  next =>
    show (if _ then _ else _) = _
    split
    · exact unreleased?_dispose _
    · rfl

/-- What the compile of a text comes to: an outcome, or the fault of a report. -/
def Bytecode.Interpreter.ending (i : Bytecode.Interpreter) (settings : Settings) (source : String) :
    Except Fault Outcome :=
  (Request.finalize ⟨source, Bytecode.compilerName, settings.options, false⟩ .imports).bind
    fun final => (i.conduct final).ending Bytecode.compilerName settings.maxPrintingErrors

theorem finalize_imports (r : Request) : ∃ final, r.finalize .imports = .ok final := by
  unfold Request.finalize
  split
  · exact ⟨_, rfl⟩
  · split <;> exact ⟨_, rfl⟩

namespace CommandLine

variable (settings : Settings) (source : String) (i : Bytecode.Interpreter) (board : Log.Board)

def textSession : Session Action :=
  { Session.new settings source .imports [(Bytecode.compilerName, .bytecode i)] with log := board }

def loadedSession : Session Action :=
  ((((textSession settings source i board).wake.setLoaded settings.compiler
      { version := i.version, bytecode := ({} : Bytecode.Backend).load i }).modifyState fun st =>
    { st with ready := true, version := i.version }).write .info sessionLogger
      (settings.compiler ++ " " ++ i.version ++ " ready"))

/-- The session when its first request was accepted. -/
def busySession : Session Action :=
  { (loadedSession settings source i board).modifyState fun st => { st with compiling := true } with
    accepted := 1 }

variable {settings}

theorem begin_start_of_known (known : settings.compiler = Bytecode.compilerName) :
    (textSession settings source i board).begin .start =
      (loadedSession settings source i board).enterCompile none (.answer true) := by
  have there : (textSession settings source i board).wake.compiler? settings.compiler =
      some (.bytecode i) := by
    rw [known]
    rfl
  have loads : (textSession settings source i board).wake.beginLoad settings.compiler =
      ((textSession settings source i board).wake, .ok (0, none)) := by
    unfold beginLoad
    rw [there]
  have fresh : (textSession settings source i board).wake.freshlyLoaded settings.compiler =
      { version := i.version, bytecode := ({} : Bytecode.Backend).load i } := by
    unfold freshlyLoaded
    rw [there]
  show load settings.compiler .start (textSession settings source i board).wake = _
  unfold load
  rw [loads]
  dsimp only
  unfold continueLoad endLoad
  dsimp only
  rw [fresh]
  rfl

/-- The first run of the session begins. -/
theorem begin_start_waits (known : settings.compiler = Bytecode.compilerName) :
    ∃ t run, (textSession settings source i board).resume Session.react (.fresh .start) =
        (t, .waits (.staging .announce run (.answer true))) ∧
      Request.finalize ⟨source, Bytecode.compilerName, settings.options, false⟩ .imports =
        .ok run.request ∧
      run.module = none ∧
      Keeps unnoted ((busySession settings source i board).modifyState fun st =>
        { st with generation := st.generation + 1 }) t := by
  let request : Request := ⟨source, settings.compiler, settings.options, false⟩
  let opened := (busySession settings source i board).mark (.accepted 0 request)
  let begun := opened.mark (.began 0 (opened.state.generation + 1) request)
  obtain ⟨final, finalized⟩ := finalize_imports request
  have noted : Keeps unnoted (busySession settings source i board) begun := ⟨rfl, id⟩
  obtain ⟨t, run, begins, rfl, empty, keeps⟩ :=
    beginRun_of_finalized (s := begun) finalized
  refine ⟨t, run, ?_, known ▸ finalized, empty, (noted.modifyState _).trans keeps⟩
  refine (begin_start_of_known source i board known).trans ?_
  show openRun ⟨0, request⟩ (.answer true) opened = _
  unfold openRun
  dsimp only
  rw [begins]

/-- The compiler that was loaded has the interpreter's conduct ready. -/
theorem conduct_busySession (known : settings.compiler = Bytecode.compilerName) {r : Request}
    (asked : r.compiler = Bytecode.compilerName) :
    (busySession settings source i board).conduct r = i.conduct r := by
  have loaded : (busySession settings source i board).loaded? r.compiler =
      some { version := i.version, bytecode := ({} : Bytecode.Backend).load i } := by
    have there : settings.compiler = r.compiler := known.trans asked.symm
    show (([(settings.compiler, _)] : List (String × LoadedCompiler)).find? fun c =>
      c.1 = r.compiler).map (·.2) = _
    rw [List.find?_cons_of_pos (by simp [there])]
    rfl
  have there : (busySession settings source i board).compiler? r.compiler =
      some (.bytecode i) := by
    rw [asked]
    rfl
  unfold Session.conduct
  rw [loaded, there]
  rfl

/-- Nothing in the session acts on it. -/
theorem unhindered_textSession {t : Session Action} (listeners : t.Observed)
    (compilers : t.compilers = [(Bytecode.compilerName, .bytecode i)]) :
    (∀ name, t.Unhindered name) ∧ t.Admits Action.Passive := by
  have interpreted {name : String} {c : Compiler Action} (h : (name, c) ∈ t.compilers) :
      c = .bytecode i := by
    rw [compilers] at h
    exact congrArg Prod.snd (List.mem_singleton.1 h)
  have unscripted {name : String} {script : CompilerScript Action}
      (h : t.compiler? name = some (.scripted script)) : False := by
    obtain ⟨⟨name', c⟩, found, rfl⟩ := Option.map_eq_some_iff.1 h
    cases interpreted (List.mem_of_find?_eq_some found)
  refine ⟨fun name => ⟨listeners, fun _ h => (unscripted h).elim, fun _ h => (unscripted h).elim⟩,
    fun l there n event data r responds a does => ?_,
    fun _ _ there => by cases interpreted there⟩
  have observes := (listeners l there).1 n event data r responds a does
  cases a <;> trivial

variable {source i board}

theorem calm_textSession : (textSession settings source i board).Calm := ⟨rfl, rfl, rfl, rfl, rfl⟩

/-- A session in which nothing is left to do is ended at once. -/
theorem compileOnce_of_started {s t after : Session Action} {r : Except Fault Bool}
    (started : s.await .start =
      { result := r.map .bool, atEnd := { t with completed := some (r.map .bool) }, after })
    (calm : t.Calm) : compileOnce s = (t.stop, r) := by
  have loop : t.stop.loop = t.loop := by
    show Debounce.cancel t.armed t.loop = t.loop
    rw [calm.armed]
    rfl
  have still : t.stop.Calm := ⟨loop ▸ calm.settled, calm.free, rfl, rfl, calm.tasks⟩
  have idle : Finishes 1 (.fresh .waitIdle) t.stop t.stop (.ok .null) := by
    refine .ends ?_
    show waitIdle t.stop = _
    unfold waitIdle
    rw [still.tasks]
    rfl
  have waited := await_of_finishes idle still (by decide) still.settled
  rw [forget_completed still.free] at waited
  unfold compileOnce
  rw [started]
  dsimp only
  rw [forget_completed calm.free, waited]
  cases r <;> rfl

/-- **A session whose compiler is not known** has none. -/
theorem compileOnce_of_unknown (unknown : settings.compiler ≠ Bytecode.compilerName) :
    ∃ t, compileOnce (textSession settings source i board) = (t, .ok false) := by
  have nobody : (textSession settings source i board).wake.compiler? settings.compiler = none := by
    show (([(Bytecode.compilerName, _)] : List (String × Compiler Action)).find? fun c =>
      c.1 = settings.compiler).map (·.2) = none
    rw [List.find?_cons_of_neg (by simp [Ne.symm unknown])]
    rfl
  have loads : (textSession settings source i board).wake.beginLoad settings.compiler =
      ((textSession settings source i board).wake,
        .error (.unknownCompiler settings.compiler)) := by
    unfold beginLoad
    rw [nobody]
  let t := ((textSession settings source i board).wake.write .warning sessionLogger
    ("Compiler not supported: " ++ settings.compiler)).modifyState fun st =>
      { st with ready := false }
  have begins : (textSession settings source i board).resume Session.react (.fresh .start) =
      (t, .ends (.ok (.bool false))) := by
    show load settings.compiler .start (textSession settings source i board).wake = _
    unfold load
    rw [loads]
    rfl
  have calm : t.Calm := ⟨rfl, rfl, rfl, rfl, rfl⟩
  exact ⟨_, compileOnce_of_started (r := .ok false)
    (await_of_finishes (.ends begins) calm_textSession (by decide) calm.settled) calm⟩

/-- **A session that is started once** comes to what the compile of its text comes to; where that is
an outcome, the session shows it. -/
theorem compileOnce_of_known (known : settings.compiler = Bytecode.compilerName) :
    ∃ t, compileOnce (textSession settings source i board) =
        (t, (i.ending settings source).map fun _ => true) ∧
      ∀ o, i.ending settings source = .ok o →
        t.state = ({ (textSession settings source i board).state with
          ready := true, version := i.version }).after settings.maxPrintingErrors o := by
  obtain ⟨t, run, begins, finalized, empty, keeps⟩ := begin_start_waits source i board known
  have asked : run.request.compiler = Bytecode.compilerName :=
    (Request.upgraded_finalize rfl finalized).compiler
  have conduct : t.conduct run.request = i.conduct run.request :=
    (keeps.conduct run.request).trans (conduct_busySession source i board known asked)
  have settled : t.settings = settings := keeps.framed.settings
  have leads : (t.conduct run.request).ending run.request.compiler t.settings.maxPrintingErrors =
      i.ending settings source := by
    unfold Bytecode.Interpreter.ending
    rw [conduct, asked, settled, finalized]
    rfl
  have state : t.state = { (busySession settings source i board).state with
      generation := (busySession settings source i board).state.generation + 1 } :=
    keeps.framed.state
  have alive : t.state.alive = true := by
    rw [state]
    rfl
  have observed : t.Observed := keeps.observed (by rintro l ⟨⟩)
  obtain ⟨unhindered, passive⟩ :=
    unhindered_textSession i observed (congrArg Session.compilers keeps.seen)
  have calm : t.Calm := by
    have loop : t.loop = {} := congrArg Session.loop keeps.seen
    exact ⟨loop ▸ rfl, congrArg Session.completed keeps.seen, congrArg Session.pending keeps.seen,
      congrArg Session.armed keeps.seen, congrArg Session.timerTasks keeps.seen⟩
  have released : (t.conduct run.request).unreleased? = none :=
    (congrArg Conduct.unreleased? conduct).trans (unreleased?_conduct i run.request)
  have concludes := concludes_announce alive empty (unhindered run.request.compiler) leads released
  obtain ⟨n, few, m, rests, finishes⟩ :=
    finishes_staging run (.answer true) (show stagesLeft .announce ≤ 5 by decide) passive calm
  have result : returned (.answer true) (runFrom Session.react 5 .announce run t).2.2 =
      ((i.ending settings source).map fun _ => true).map .bool := by
    rw [concludes.returns]
    cases i.ending settings source <;> rfl
  rw [result] at finishes
  have started := await_of_finishes (.waits begins calm finishes) calm_textSession
    (by unfold patience; omega) rests.settled
  refine ⟨_, compileOnce_of_started started rests, fun o ends => ?_⟩
  have shown : (runFrom Session.react 5 .announce run t).1.state =
      (busySession settings source i board).state.after settings.maxPrintingErrors o := by
    have opened : t.openCycle.state = ((busySession settings source i board).modifyState fun st =>
        { st with generation := st.generation + 1 }).openCycle.state :=
      congrArg (fun st : State => { st with
        errorCount := 0, outcome := none, annotations := []
        notifications := st.notifications.clear }) state
    have reported : (runFrom Session.react 5 .announce run t).1.state =
        t.openCycle.state.reported t.settings.maxPrintingErrors o := (concludes.keeps o ends).state
    rw [reported, opened, settled, reported_openCycle]
  show { (runFrom Session.react 5 .announce run t).1.state with
    compiling := false, alive := false } = _
  rw [shown]
  rfl

end CommandLine

end Playground
