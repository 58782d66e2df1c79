import Playground.Proofs.Moves

/-!
# What decides over a session, and what does not

The subscriptions, the listeners, the log and the journal surround a session; all the rest is its
inside. Apart from the calls of listeners, nothing that a session does asks for its surroundings. So
two sessions with one inside go through the same compiler calls and stages, as long as their
listeners leave them with one inside.

* `Session.inside`, `Session.withInside` — the inside, and a session with another one.
* `Alike` — two steps with the same answer.
* `Indifferent` — relations that survive whatever happens around the inside.
* `Indifferent.compileSource`, `Indifferent.stepRun` — compiler calls and stages keep them.
-/

namespace Playground

def Session.inside (s : Session Action) : Session Action :=
  { s with bus := {}, listeners := [], log := {}, journal := [] }

def Session.withInside (s u : Session Action) : Session Action :=
  { u with bus := s.bus, listeners := s.listeners, log := s.log, journal := s.journal }

/-- Two steps lead to related sessions and have the same answer. -/
structure Alike (R : Session Action → Session Action → Prop) {β : Type}
    (x y : Session Action × β) : Prop where
  sessions : R x.1 y.1
  answers : x.2 = y.2

/-- What holds of all related sessions with one answer holds of steps that are alike. -/
@[elab_as_elim]
theorem Alike.elim {R : Session Action → Session Action → Prop} {β : Type}
    {motive : Session Action × β → Session Action × β → Prop} {x y : Session Action × β}
    (h : Alike R x y) (one : ∀ s t b, R s t → motive (s, b) (t, b)) : motive x y := by
  obtain ⟨s, b⟩ := x
  obtain ⟨t, c⟩ := y
  obtain ⟨related, rfl : b = c⟩ := h
  exact one s t b related

/-- A relation between sessions with one inside that survives all changes of the inside, all
messages and notes, and all that compilers and listeners do. -/
structure Indifferent (react : React Action) (R : Session Action → Session Action → Prop) :
    Prop where
  inside {s t : Session Action} (h : R s t) : s.inside = t.inside
  change {s t : Session Action} (h : R s t) (u : Session Action) :
    R (s.withInside u) (t.withInside u)
  write {s t : Session Action} (h : R s t) (level : Log.Level) (logger message : String) :
    R (s.write level logger message) (t.write level logger message)
  note {s t : Session Action} (h : R s t) (e : Effect) : R (s.note e) (t.note e)
  rebus {s t : Session Action} (h : R s t) (f : EventBus → EventBus) :
    R { s with bus := f s.bus } { t with bus := f t.bus }
  relog {s t : Session Action} (h : R s t) (log : Log.Board) :
    R { s with log := log } { t with log := log }
  publish {s t : Session Action} (h : R s t) (event : String) (data : Payload) :
    Alike R (s.publish react event data) (t.publish react event data)
  react {s t : Session Action} (h : R s t) (actions : List Action) :
    Alike R (react actions s) (react actions t)

namespace Indifferent

open Session

variable {react : React Action} {R : Session Action → Session Action → Prop}
  {s t : Session Action}

/-- What is read from the inside is the same. -/
theorem reads {β : Type} (I : Indifferent react R) (h : R s t) (f : Session Action → β)
    (own : ∀ s, f s = f s.inside) : f s = f t := by
  rw [own s, own t, I.inside h]

/-- What changes the inside, and that by itself, is no obstacle. -/
theorem acts (I : Indifferent react R) (h : R s t) (f : Session Action → Session Action)
    (own : ∀ s, f s = s.withInside (f s.inside)) : R (f s) (f t) := by
  rw [own s, own t, I.inside h]
  exact I.change h _

theorem mark (I : Indifferent react R) (h : R s t) (m : Milestone) : R (s.mark m) (t.mark m) :=
  I.acts h (·.mark m) fun _ => rfl

theorem modify (I : Indifferent react R) (h : R s t) (f : State → State) :
    R (s.modifyState f) (t.modifyState f) := I.acts h (·.modifyState f) fun _ => rfl

theorem tell (I : Indifferent react R) (h : R s t) (event : String) (data : Payload) :
    Alike R (s.tell react event data) (t.tell react event data) := by
  unfold Session.tell
  refine Alike.elim (I.publish (I.mark h (.published event data)) event data) fun s t fault h => ?_
  cases fault with
  | none => exact ⟨h, rfl⟩
  | some f => exact ⟨I.mark h _, rfl⟩

/-! ### Compilers -/

theorem beginLoad (I : Indifferent react R) (h : R s t) (name : String) :
    Alike R (s.beginLoad name) (t.beginLoad name) := by
  have known := I.reads h (·.compiler? name) fun _ => rfl
  unfold Session.beginLoad
  rw [known]
  split
  · exact ⟨h, rfl⟩
  · exact ⟨h, rfl⟩
  · exact ⟨I.acts (I.note h _) (·.setCompiler name _) fun _ => rfl, rfl⟩

theorem compileBytecode (I : Indifferent react R) (h : R s t) (name text : String)
    (options : Options) (own : LoadedCompiler) (interpreter : Bytecode.Interpreter) :
    Alike R (s.compileBytecode name text options own interpreter)
      (t.compileBytecode name text options own interpreter) := by
  unfold Session.compileBytecode
  rcases own.bytecode.compileSource interpreter text options with ⟨i, backend, answer⟩
  have kept := I.acts h (fun s => (s.setCompiler name (.bytecode i)).setLoaded name
    { own with bytecode := backend }) fun _ => rfl
  rcases answer with f | _ | m <;> exact ⟨kept, rfl⟩

theorem compileScripted (I : Indifferent react R) (h : R s t) (name text : String)
    (options : Options) (script : CompilerScript Action) :
    Alike R (s.compileScripted react name text options script)
      (t.compileScripted react name text options script) := by
  unfold Session.compileScripted
  rcases script.compiles.take with ⟨answer, later⟩
  have asked := I.acts (I.note h (.compiled name text options)) (fun s =>
    s.setCompiler name (.scripted { script with
      compiles := later, compiled := script.compiled + 1 })) fun _ => rfl
  dsimp only
  refine Alike.elim (I.react asked answer.actions) fun s t failure h => ?_
  cases failure with
  | some f => exact ⟨h, rfl⟩
  | none => cases answer.verdict <;> exact ⟨h, rfl⟩

theorem compileSource (I : Indifferent react R) (h : R s t) (generation : Nat)
    (name text : String) (options : Options) :
    Alike R (s.compileSource react generation name text options)
      (t.compileSource react generation name text options) := by
  have loaded := I.reads h (·.loaded? name) fun _ => rfl
  have known := I.reads h (·.compiler? name) fun _ => rfl
  have noted {x y : Session Action × Except Fault (Except (Except Fault (List String)) Module)}
      (h : Alike R x y) : Alike R (noteAnswer generation x) (noteAnswer generation y) :=
    Alike.elim h fun s t answer h => ⟨I.mark h (.asked generation _), rfl⟩
  unfold Session.compileSource
  rw [loaded, known]
  split
  · exact ⟨h, rfl⟩
  · split
    · exact ⟨h, rfl⟩
    · exact noted (I.compileScripted h name text options _)
    · exact noted (I.compileBytecode h name text options _ _)

/-! ### Modules -/

theorem noteCall {β : Type} (I : Indifferent react R) {x y : Session Action × Except Fault β}
    (h : Alike R x y) (generation : Nat) (call : ModuleCall) :
    Alike R (Session.noteCall generation call x) (Session.noteCall generation call y) :=
  Alike.elim h fun _ _ _ h => ⟨I.mark h (.called generation call _), rfl⟩

theorem callScripted (I : Indifferent react R) (h : R s t) (compiler : String) (number : Nat)
    (script : ModuleScript) (call : ModuleCall) :
    Alike R (s.callScripted react compiler number script call)
      (t.callScripted react compiler number script call) := by
  have during := I.reads (I.note h (.moduleCalled compiler number call)) (fun s =>
    s.actionsDuring compiler number call) fun _ => rfl
  unfold Session.callScripted
  dsimp only
  rw [during]
  refine Alike.elim (I.react (I.note h _) _) fun s t failure h => ?_
  cases failure with
  | some f => exact ⟨h, rfl⟩
  | none => cases script.fault call <;> exact ⟨h, rfl⟩

theorem setInterpreter {β : Type} (I : Indifferent react R) (h : R s t) (compiler : String)
    (i : Bytecode.Interpreter) (result : β) :
    Alike R (s.setInterpreter compiler i, result) (t.setInterpreter compiler i, result) := by
  have known := I.reads h (·.compiler? compiler) fun _ => rfl
  refine ⟨?_, rfl⟩
  unfold Session.setInterpreter
  dsimp only
  rw [known]
  split
  · exact I.acts h (·.setCompiler compiler _) fun _ => rfl
  · exact h

theorem validateModule (I : Indifferent react R) (h : R s t) (generation : Nat) (m : Module) :
    Alike R (s.validateModule react generation m) (t.validateModule react generation m) := by
  cases m with
  | scripted c n script => exact I.noteCall (I.callScripted h c n script _) generation _
  | bytecode c b =>
    have behind := I.reads h (·.interpreter c) fun _ => rfl
    unfold Session.validateModule
    dsimp only
    rw [behind]
    rcases b.validate (t.interpreter c) with ⟨i, result⟩
    exact I.noteCall (I.setInterpreter h c i result) generation _

theorem optimizeModule (I : Indifferent react R) (h : R s t) (generation : Nat) (m : Module) :
    Alike R (s.optimizeModule react generation m) (t.optimizeModule react generation m) := by
  unfold Session.optimizeModule
  cases m with
  | scripted c n script =>
    dsimp only
    refine Alike.elim (I.noteCall (I.callScripted h c n script .optimize) generation .optimize)
      fun s t result h => ?_
    exact ⟨h, rfl⟩
  | bytecode c b =>
    have behind := I.reads h (·.interpreter c) fun _ => rfl
    dsimp only
    rw [behind]
    rcases b.optimize (t.interpreter c) with ⟨i, b, result⟩
    refine Alike.elim (I.noteCall (I.setInterpreter h c i result) generation .optimize)
      fun s t result h => ?_
    exact ⟨h, rfl⟩

theorem emitModuleText (I : Indifferent react R) (h : R s t) (generation : Nat) (m : Module) :
    Alike R (s.emitModuleText react generation m) (t.emitModuleText react generation m) := by
  unfold Session.emitModuleText
  cases m with
  | scripted c n script =>
    dsimp only
    refine Alike.elim (I.noteCall (I.callScripted h c n script .emitText) generation .emitText)
      fun s t result h => ?_
    exact ⟨h, rfl⟩
  | bytecode c b =>
    have behind := I.reads h (·.interpreter c) fun _ => rfl
    dsimp only
    rw [behind]
    rcases b.emitText (t.interpreter c) with ⟨i, result⟩
    exact I.noteCall (I.setInterpreter h c i result) generation _

theorem emitModuleBinary (I : Indifferent react R) (h : R s t) (generation : Nat) (m : Module) :
    Alike R (s.emitModuleBinary react generation m) (t.emitModuleBinary react generation m) := by
  unfold Session.emitModuleBinary
  cases m with
  | scripted c n script =>
    dsimp only
    refine Alike.elim (I.noteCall (I.callScripted h c n script .emitBinary) generation .emitBinary)
      fun s t result h => ?_
    exact ⟨h, rfl⟩
  | bytecode c b =>
    have behind := I.reads h (·.interpreter c) fun _ => rfl
    dsimp only
    rw [behind]
    rcases b.emitBinary (t.interpreter c) with ⟨i, result⟩
    exact I.noteCall (I.setInterpreter h c i result) generation _

theorem disposeModule (I : Indifferent react R) (h : R s t) (generation : Nat) (m : Module) :
    Alike R (s.disposeModule react generation m) (t.disposeModule react generation m) := by
  cases m with
  | scripted c n script => exact I.noteCall (I.callScripted h c n script _) generation _
  | bytecode c b =>
    have called : Alike R (s, b.dispose.2) (t, b.dispose.2) := ⟨h, rfl⟩
    exact I.noteCall called generation _

/-! ### Reports -/

theorem notify (I : Indifferent react R) (h : R s t) (message : String) :
    Alike R (s.notify react message) (t.notify react message) := by
  have state := I.reads h (·.state) fun _ => rfl
  unfold Session.notify
  rw [state]
  split
  · exact ⟨h, rfl⟩
  · exact I.tell (I.modify h fun st => { st with notifications := _ }) _ _

theorem reportMessage (I : Indifferent react R) (h : R s t) (message : String) :
    Alike R (s.reportMessage react message) (t.reportMessage react message) :=
  I.notify (I.write h _ _ _) message

theorem reportMessages (I : Indifferent react R) (h : R s t) (messages : List String) :
    Alike R (s.reportMessages react messages) (t.reportMessages react messages) := by
  induction messages generalizing s t with
  | nil => exact ⟨h, rfl⟩
  | cons m rest ih =>
    unfold Session.reportMessages
    refine Alike.elim (I.reportMessage h m) fun s t fault h => ?_
    cases fault with
    | none => exact ih h
    | some f => exact ⟨h, rfl⟩

theorem reportFailure (I : Indifferent react R) (h : R s t) (run : Run)
    (diagnostics : List String) :
    Alike R (Session.reportFailure react run diagnostics s)
      (Session.reportFailure react run diagnostics t) := by
  have settings := I.reads h (·.settings) fun _ => rfl
  unfold Session.reportFailure
  rw [settings]
  split
  · exact ⟨h, rfl⟩
  next limited _ =>
    have counted := I.modify h fun st =>
      { st with outcome := some (.failure diagnostics), errorCount := limited.total }
    dsimp only
    refine Alike.elim (I.reportMessages counted (limited.shown ++ limited.summary.toList))
      fun s t fault h => ?_
    cases fault with
    | none => exact ⟨I.modify h fun st => { st with annotations := limited.annotations }, rfl⟩
    | some f => exact ⟨h, rfl⟩

theorem reportInternalError (I : Indifferent react R) (h : R s t) (run : Run) (f : Fault) :
    Alike R (Session.reportInternalError react run f s)
      (Session.reportInternalError react run f t) := by
  unfold Session.reportInternalError
  split
  · exact ⟨h, rfl⟩
  next message _ =>
    have shown := I.modify h fun st =>
      { st with outcome := some (.internalError message), errorCount := 1, annotations := [] }
    dsimp only
    refine Alike.elim (I.notify (I.write (I.write shown _ _ _) _ _ _) message)
      fun s t fault h => ?_
    exact ⟨h, rfl⟩

theorem reportFault (I : Indifferent react R) (h : R s t) (run : Run) (f : Fault) :
    Alike R (Session.reportFault react run f s) (Session.reportFault react run f t) := by
  have state := I.reads h (·.state) fun _ => rfl
  unfold Session.reportFault
  rw [state]
  split
  · split
    · exact I.reportFailure h run _
    · exact I.reportInternalError h run f
  · exact ⟨h, rfl⟩

/-! ### Stages -/

theorem beginRun (I : Indifferent react R) (h : R s t) (request : Request) :
    Alike R (s.beginRun request) (t.beginRun request) := by
  have counted := I.modify h fun st => { st with generation := st.generation + 1 }
  have probe := I.reads counted (·.probe) fun _ => rfl
  have opened {s t : Session Action} (h : R s t) (final : Request) :
      Alike R (s, (.ok { request := final, generation := s.state.generation } : Except Fault Run))
        (t, .ok { request := final, generation := t.state.generation }) := by
    rw [I.reads h (·.state) fun _ => rfl]
    exact ⟨h, rfl⟩
  unfold Session.beginRun
  dsimp only
  rw [probe]
  split
  · exact ⟨counted, rfl⟩
  · split
    · exact opened (I.write counted _ _ _) _
    · exact opened counted _

theorem releaseModule (I : Indifferent react R) (h : R s t) (run : Run) :
    Alike R (s.releaseModule react run) (t.releaseModule react run) := by
  unfold Session.releaseModule
  split
  · exact ⟨h, rfl⟩
  next m _ =>
    refine Alike.elim (I.disposeModule h run.generation m) fun s t result h => ?_
    cases result with
    | ok _ => exact ⟨h, rfl⟩
    | error f =>
      dsimp only
      split
      · exact ⟨I.write h _ _ _, rfl⟩
      · exact ⟨I.mark h _, rfl⟩

theorem closeRun (I : Indifferent react R) (h : R s t) (run : Run) :
    Alike R (s.closeRun react run) (t.closeRun react run) := by
  have told {s t : Session Action} (h : R s t) (run : Run) : Alike R
      (if s.state.alive then
        let (s, fault) := s.tell react compileFinished (finishedData run s.state.errorCount)
        (s, run, fault)
      else (s, run, none))
      (if t.state.alive then
        let (t, fault) := t.tell react compileFinished (finishedData run t.state.errorCount)
        (t, run, fault)
      else (t, run, none)) := by
    rw [I.reads h (·.state) fun _ => rfl]
    split
    · exact Alike.elim (I.tell h compileFinished _) fun s t fault h => ⟨h, rfl⟩
    · exact ⟨h, rfl⟩
  unfold Session.closeRun
  refine Alike.elim (I.releaseModule h run) fun s t fault h => ?_
  cases fault with
  | some f => exact ⟨h, rfl⟩
  | none =>
    have done := I.acts h (fun s => { s with indicator := s.indicator.finish }) fun _ => rfl
    dsimp only
    split
    · exact told done _
    · exact ⟨h, rfl⟩

theorem announceStage (I : Indifferent react R) (h : R s t) (run : Run) :
    Alike R (s.announceStage react run) (t.announceStage react run) := by
  have opened := I.acts h (·.openCycle) fun _ => rfl
  unfold Session.announceStage
  refine Alike.elim (I.tell opened compileStarted (startedData run)) fun s t fault h => ?_
  cases fault <;> exact ⟨h, rfl⟩

theorem invokeStage (I : Indifferent react R) (h : R s t) (run : Run) :
    Alike R (s.invokeStage react run) (t.invokeStage react run) := by
  unfold Session.invokeStage
  refine Alike.elim (I.compileSource h run.generation run.request.compiler run.request.source
    run.request.options) fun s t answer h => ?_
  rcases answer with f | (f | ds) | m <;> exact ⟨h, rfl⟩

theorem rejectStage (I : Indifferent react R) (h : R s t) (run : Run) :
    Alike R (s.rejectStage react run) (t.rejectStage react run) := by
  unfold Session.rejectStage
  refine Alike.elim (I.reportFailure h run run.diagnostics) fun s t r h => ?_
  rcases r with ⟨run, _ | f⟩ <;> exact ⟨h, rfl⟩

theorem validateStage (I : Indifferent react R) (h : R s t) (run : Run) :
    Alike R (s.validateStage react run) (t.validateStage react run) := by
  unfold Session.validateStage
  split
  · exact ⟨h, rfl⟩
  next m _ =>
    refine Alike.elim (I.validateModule h run.generation m) fun s t result h => ?_
    rcases result with f | _
    · cases f <;> exact ⟨h, rfl⟩
    · exact ⟨h, rfl⟩

theorem optimizeStage (I : Indifferent react R) (h : R s t) (run : Run) :
    Alike R (s.optimizeStage react run) (t.optimizeStage react run) := by
  unfold Session.optimizeStage
  split
  · exact ⟨h, rfl⟩
  next m _ =>
    refine Alike.elim (I.optimizeModule h run.generation m) fun s t r h => ?_
    rcases r with ⟨m, f | _⟩ <;> exact ⟨h, rfl⟩

theorem emitModule (I : Indifferent react R) (h : R s t) (generation : Nat) (m : Module) :
    Alike R (s.emitModule react generation m) (t.emitModule react generation m) := by
  unfold Session.emitModule
  refine Alike.elim (I.emitModuleText h generation m) fun s t text h => ?_
  cases text with
  | error f => exact ⟨h, rfl⟩
  | ok text =>
    dsimp only
    refine Alike.elim (I.emitModuleBinary h generation m) fun s t binary h => ?_
    cases binary <;> exact ⟨h, rfl⟩

theorem emitAndDispose (I : Indifferent react R) (h : R s t) (generation : Nat) (m : Module) :
    Alike R (s.emitAndDispose react generation m) (t.emitAndDispose react generation m) := by
  unfold Session.emitAndDispose
  refine Alike.elim (I.emitModule h generation m) fun s t artifact h => ?_
  dsimp only
  refine Alike.elim (I.disposeModule h generation m) fun s t result h => ?_
  cases result <;> exact ⟨h, rfl⟩

theorem emitStage (I : Indifferent react R) (h : R s t) (run : Run) :
    Alike R (s.emitStage react run) (t.emitStage react run) := by
  unfold Session.emitStage
  split
  · exact ⟨h, rfl⟩
  next m _ =>
    dsimp only
    refine Alike.elim (I.emitAndDispose h run.generation m) fun s t artifact h => ?_
    cases artifact with
    | error f => exact ⟨h, rfl⟩
    | ok artifact =>
      have shown := I.modify h fun st =>
        { st with
          artifact := artifact, errorCount := 0
          outcome := some (.success artifact.text artifact.binary) }
      exact ⟨I.write shown _ _ _, rfl⟩

theorem runStage (I : Indifferent react R) (h : R s t) (stage : Stage) (run : Run) :
    Alike R (s.runStage react stage run) (t.runStage react stage run) := by
  cases stage with
  | announce => exact I.announceStage h run
  | invoke => exact I.invokeStage h run
  | reject => exact I.rejectStage h run
  | validate => exact I.validateStage h run
  | optimize => exact I.optimizeStage h run
  | emit => exact I.emitStage h run

/-- A stage of a run, with all that its failure and the end of the run entail. -/
theorem stepRun (I : Indifferent react R) (h : R s t) (stage : Stage) (run : Run) :
    Alike R (s.stepRun react stage run) (t.stepRun react stage run) := by
  have state := I.reads h (·.state) fun _ => rfl
  unfold Session.stepRun
  rw [state]
  split
  · refine Alike.elim (I.runStage h stage { run with stages := run.stages ++ [stage.name] })
      fun s t r h => ?_
    rcases r with ⟨run, f | next⟩
    · dsimp only
      refine Alike.elim (I.reportFault (I.mark h (.raised stage f)) run f) fun s t r h => ?_
      dsimp only
      refine Alike.elim (I.closeRun h r.1) fun s t run h => ?_
      exact ⟨h, rfl⟩
    · cases next with
      | some next => exact ⟨h, rfl⟩
      | none =>
        dsimp only
        refine Alike.elim (I.closeRun h run) fun s t run h => ?_
        exact ⟨h, rfl⟩
  · dsimp only
    refine Alike.elim (I.closeRun (I.write h _ _ _) run) fun s t run h => ?_
    exact ⟨h, rfl⟩

end Indifferent

end Playground
