import Playground.Proofs.Indifference

/-!
# Sessions in lockstep

What compiler calls and stages keep, triggers, coroutines and callbacks keep too: two related
sessions answer every trigger alike, their coroutines wait at the same places, and whatever happens
to both of them, they stay related.

* `Indifferent.act` — one action.
* `Indifferent.resume` — one step of a coroutine.
* `Indifferent.move`, `Indifferent.moves` — one move, and a run of them.
-/

namespace Playground

open Playground.Clock

namespace Indifferent

open Session

variable {react : React Action} {R : Session Action → Session Action → Prop}
  {s t : Session Action}

/-! ### Triggers -/

theorem cancelTimer (I : Indifferent react R) (h : R s t) : R s.cancelTimer t.cancelTimer :=
  I.acts h (·.cancelTimer) fun _ => rfl

theorem rearm (I : Indifferent react R) (h : R s t) : Alike R s.rearm t.rearm := by
  have scheduled := I.reads h (fun s =>
    Debounce.schedule s.armed s.loop s.settings.autoCompileDelayMs) fun _ => rfl
  unfold Session.rearm
  rw [scheduled]
  split
  · exact ⟨I.acts h (fun s => { s with loop := _, armed := none }) fun _ => rfl, rfl⟩
  · exact ⟨I.acts h (fun s => { s with loop := _, armed := some _ }) fun _ => rfl, rfl⟩

theorem schedule (I : Indifferent react R) (h : R s t) :
    Alike R (s.schedule react) (t.schedule react) := by
  have settings := I.reads h (·.settings) fun _ => rfl
  unfold Session.schedule
  dsimp only
  rw [settings]
  refine Alike.elim (I.rearm h) fun s t failure h => ?_
  cases failure with
  | some f => exact ⟨h, rfl⟩
  | none => exact I.tell (I.write h _ _ _) _ _

theorem input (I : Indifferent react R) (h : R s t) (text : String) :
    Alike R (s.input react text) (t.input react text) := by
  have typed := I.modify h fun st => { st with source := text }
  unfold Session.input
  dsimp only
  -- what is left of the text without white space does not matter
  generalize Text.trimmed text = core
  have edited := I.modify typed fun st => { st with lastTextInput := core }
  rw [I.reads typed (·.state) fun _ => rfl, I.reads edited (·.state) fun _ => rfl]
  split
  · exact ⟨typed, rfl⟩
  · split
    · refine Alike.elim (I.schedule edited) fun s t failure h => ?_
      cases failure <;> exact ⟨h, rfl⟩
    · exact ⟨edited, rfl⟩

theorem setMode (I : Indifferent react R) (h : R s t) (name : String) :
    Alike R (s.setMode react name) (t.setMode react name) := by
  have cleared := I.cancelTimer h
  unfold Session.setMode
  dsimp only
  split
  · exact ⟨cleared, rfl⟩
  next mode _ =>
    have set := I.modify cleared fun st => { st with compileMode := mode }
    rw [I.reads set (·.state) fun _ => rfl]
    split
    · exact I.schedule set
    · exact ⟨set, rfl⟩

theorem selectOutput (I : Indifferent react R) (h : R s t) (name : String) :
    Alike R (s.selectOutput name) (t.selectOutput name) := by
  unfold Session.selectOutput
  split
  · exact ⟨h, rfl⟩
  · exact ⟨I.modify h fun st => { st with outputType := _ }, rfl⟩

theorem dismiss (I : Indifferent react R) (h : R s t) (key : Int) :
    Alike R (s.dismiss key) (t.dismiss key) := by
  unfold Session.dismiss
  rw [I.reads h (·.state) fun _ => rfl]
  exact ⟨I.modify h fun st => { st with notifications := _ }, rfl⟩

theorem stop (I : Indifferent react R) (h : R s t) : R s.stop t.stop := by
  have dead := I.cancelTimer (I.modify h fun st => { st with alive := false })
  have cleared := I.rebus (I.acts dead (fun s => { s with pending := none }) fun _ => rfl)
    EventBus.clear
  exact I.write (I.mark cleared .stopped) _ _ _

/-! ### Coroutines -/

theorem leaveFailed (I : Indifferent react R) (h : R s t) (generation : Nat)
    (outcome : Option Outcome) (f : Fault) :
    Alike R (s.leaveFailed generation outcome f) (t.leaveFailed generation outcome f) :=
  ⟨I.modify (I.mark h (.broke generation outcome f)) fun st => { st with compiling := false }, rfl⟩

theorem openRun (I : Indifferent react R) (h : R s t) (ticket : Ticket) (after : After) :
    Alike R (s.openRun ticket after) (t.openRun ticket after) := by
  unfold Session.openRun
  dsimp only
  rw [I.reads h (·.state) fun _ => rfl]
  refine Alike.elim (I.beginRun (I.mark h _) ticket.request) fun s t result h => ?_
  cases result with
  | error f => exact I.leaveFailed h _ _ f
  | ok run => exact ⟨h, rfl⟩

/-- The end of the compiles of a session. -/
theorem rests (I : Indifferent react R) (h : R s t) (p : Progress) :
    Alike R (s.modifyState fun st => { st with compiling := false }, p)
      (t.modifyState fun st => { st with compiling := false }, p) :=
  ⟨I.modify h fun st => { st with compiling := false }, rfl⟩

theorem nextRun (I : Indifferent react R) (h : R s t) (after : After) :
    Alike R (s.nextRun after) (t.nextRun after) := by
  unfold Session.nextRun
  rw [I.reads h (·.pending) fun _ => rfl]
  split
  · exact I.rests h _
  next ticket _ =>
    have taken := I.acts h (fun s => { s with pending := none }) fun _ => rfl
    dsimp only
    rw [I.reads h (·.state.alive) fun _ => rfl]
    split
    · exact I.openRun taken ticket after
    · exact I.rests taken _

theorem accept (I : Indifferent react R) (h : R s t) (request : Request) :
    Alike R (s.accept request) (t.accept request) := by
  have accepted := I.reads h (·.accepted) fun _ => rfl
  refine ⟨I.acts h (fun s => (s.accept request).1) fun _ => rfl, ?_⟩
  exact congrArg (fun n => Ticket.mk n request) accepted

theorem park (I : Indifferent react R) (h : R s t) (ticket : Ticket) :
    R (s.park ticket) (t.park ticket) := by
  have parked {s t : Session Action} (h : R s t) :=
    I.acts h (fun s => { s with pending := some ticket }) fun _ => rfl
  unfold Session.park
  rw [I.reads h (·.pending) fun _ => rfl]
  split
  · exact parked (I.write (I.mark h _) _ _ _)
  · exact parked h

theorem enterCompile (I : Indifferent react R) (h : R s t) (draft : Option Draft)
    (after : After) : Alike R (s.enterCompile draft after) (t.enterCompile draft after) := by
  unfold Session.enterCompile
  rw [I.reads h (·.state) fun _ => rfl, I.reads h (·.requestOf draft) fun _ => rfl]
  split
  · dsimp only
    refine Alike.elim (I.accept h _) fun s t ticket h => ?_
    dsimp only
    rw [I.reads h (·.state.compiling) fun _ => rfl]
    split
    · exact ⟨I.park h ticket, rfl⟩
    · exact I.openRun (I.modify h fun st => { st with compiling := true })
        ticket after
  · exact ⟨I.write h _ _ _, rfl⟩

theorem resumeStage (I : Indifferent react R) (h : R s t) (stage : Stage) (run : Run)
    (after : After) :
    Alike R (s.resumeStage react stage run after) (t.resumeStage react stage run after) := by
  unfold Session.resumeStage
  refine Alike.elim (I.stepRun h stage run) fun s t r h => ?_
  rcases r with ⟨stage, run⟩ | ⟨run, _ | f⟩
  · exact ⟨h, rfl⟩
  · exact I.nextRun (I.mark h (.ended run.generation run.outcome)) after
  · exact I.leaveFailed h run.generation run.outcome f

/-! ### Loading -/

theorem unready (I : Indifferent react R) (h : R s t) :
    R (s.modifyState fun st => { st with ready := false })
      (t.modifyState fun st => { st with ready := false }) :=
  I.modify h fun st => { st with ready := false }

theorem afterLoad (I : Indifferent react R) (h : R s t) (purpose : LoadPurpose)
    (compiler : String) (available : Bool) :
    Alike R (s.afterLoad purpose compiler available) (t.afterLoad purpose compiler available) := by
  cases purpose <;> cases available
  case switchCompiler.false => exact I.enterCompile h none _
  case switchCompiler.true =>
    have shown := I.acts h (fun s => s.modifyState fun st =>
      { st with version := ((s.loaded? compiler).map (·.version)).getD st.version }) fun _ => rfl
    exact I.enterCompile shown none _
  case start.false => exact ⟨I.unready h, rfl⟩
  case start.true => exact I.enterCompile h none _
  case startUp.false => exact ⟨I.write (I.unready h) _ _ _, rfl⟩
  case startUp.true => exact I.enterCompile h none _

theorem endLoad (I : Indifferent react R) (h : R s t) (compiler : String)
    (ending : Option Fault) (purpose : LoadPurpose) :
    Alike R (s.endLoad compiler ending purpose) (t.endLoad compiler ending purpose) := by
  unfold Session.endLoad
  split
  · split
    · exact I.afterLoad (I.write h _ _ _) purpose compiler false
    · split
      · exact I.afterLoad (I.write h _ _ _) purpose compiler false
      · exact ⟨I.mark h _, rfl⟩
  · dsimp only
    rw [I.reads h (·.freshlyLoaded compiler) fun _ => rfl]
    have fitted := I.acts h (·.setLoaded compiler (t.freshlyLoaded compiler)) fun _ => rfl
    exact I.afterLoad (I.write (I.modify fitted _) _ _ _) purpose compiler true

theorem continueLoad (I : Indifferent react R) (h : R s t) (compiler : String) (left : Nat)
    (ending : Option Fault) (purpose : LoadPurpose) :
    Alike R (s.continueLoad compiler left ending purpose)
      (t.continueLoad compiler left ending purpose) := by
  cases left with
  | zero => exact I.endLoad h compiler ending purpose
  | succ n => exact ⟨h, rfl⟩

theorem load (I : Indifferent react R) (h : R s t) (compiler : String) (purpose : LoadPurpose) :
    Alike R (s.load compiler purpose) (t.load compiler purpose) := by
  unfold Session.load
  refine Alike.elim (I.beginLoad h compiler) fun s t opened h => ?_
  rcases opened with f | ⟨yields, ending⟩
  · exact I.endLoad h compiler _ purpose
  · exact I.continueLoad h compiler yields ending purpose

/-! ### Steps -/

theorem waitIdle (I : Indifferent react R) (h : R s t) : Alike R s.waitIdle t.waitIdle := by
  unfold Session.waitIdle
  rw [I.reads h (·.timerTasks) fun _ => rfl]
  split <;> exact ⟨h, rfl⟩

theorem begin (I : Indifferent react R) (h : R s t) (call : Call) :
    Alike R (s.begin call) (t.begin call) := by
  have state := I.reads h (·.state) fun _ => rfl
  have woken := I.acts h (·.wake) fun _ => rfl
  have cleared := I.cancelTimer h
  cases call with
  | start =>
    unfold Session.begin
    dsimp only
    rw [state]
    exact I.load woken _ _
  | startUp =>
    unfold Session.begin
    dsimp only
    rw [state]
    exact I.load woken _ _
  | compile draft => exact I.enterCompile h draft _
  | click mode =>
    unfold Session.begin
    dsimp only
    cases mode with
    | none =>
      dsimp only
      rw [I.reads cleared (·.state) fun _ => rfl]
      split
      · exact ⟨I.write cleared _ _ _, rfl⟩
      · exact I.enterCompile cleared none _
    | some name =>
      dsimp only
      split
      · exact ⟨cleared, rfl⟩
      · exact ⟨I.write cleared _ _ _, rfl⟩
      · exact I.enterCompile cleared none _
  | setOption key value =>
    unfold Session.begin
    dsimp only
    rw [state]
    split
    · split
      · exact ⟨h, rfl⟩
      next options _ =>
        have set := I.modify h fun st => { st with options := options }
        exact I.enterCompile (I.cancelTimer set) none _
    · exact ⟨h, rfl⟩
  | switchCompiler compiler =>
    have chosen := I.modify cleared fun st => { st with compiler := compiler }
    unfold Session.begin
    dsimp only
    rw [I.reads chosen (·.loaded? compiler) fun _ => rfl]
    split
    · exact I.afterLoad chosen _ _ _
    · exact I.load chosen _ _
  | waitIdle => exact I.waitIdle h
  | shutDown => exact I.waitIdle (I.stop h)
  | turn => exact ⟨h, rfl⟩

/-- A coroutine goes on alike, wherever it waits. -/
theorem resume (I : Indifferent react R) (h : R s t) (at_ : Waiting) :
    Alike R (s.resume react at_) (t.resume react at_) := by
  cases at_ with
  | fresh call => exact I.begin h call
  | loading compiler left ending purpose => exact I.continueLoad h compiler left ending purpose
  | staging stage run after => exact I.resumeStage h stage run after
  | idle failure =>
    cases failure with
    | none => exact I.waitIdle h
    | some f => exact ⟨h, rfl⟩

theorem enqueue (I : Indifferent react R) (h : R s t) (j : Job) :
    R (s.enqueue j) (t.enqueue j) := I.acts h (·.enqueue j) fun _ => rfl

theorem watch (I : Indifferent react R) (h : R s t) (wait : Nat) (task : TimerTask) :
    R (s.watch wait task) (t.watch wait task) := by
  unfold Session.watch
  split
  · exact I.enqueue h _
  · exact I.acts h (fun s => { s with timerTasks := s.timerTasks.map _ }) fun _ => rfl

theorem watchAll (I : Indifferent react R) (h : R s t) {wait wait' : Nat} (waits : wait = wait')
    {ts ts' : List TimerTask} (tasks : ts = ts') :
    R (ts.foldl (Session.watch wait) s) (ts'.foldl (Session.watch wait') t) := by
  subst waits tasks
  induction ts generalizing s t with
  | nil => exact h
  | cons task ts ih => exact ih (I.watch h wait task)

theorem gather (I : Indifferent react R) (h : R s t) (owner : Owner) :
    R (s.gather owner) (t.gather owner) := by
  have opened := I.acts h (fun s =>
    { s with
      nextGathering := s.nextGathering + 1
      gatherings := s.gatherings ++ [⟨s.nextGathering, owner, s.timerTasks.length, false⟩] })
    fun _ => rfl
  have wait := I.reads h (·.nextGathering) fun _ => rfl
  have tasks := I.reads h (·.timerTasks) fun _ => rfl
  exact I.watchAll opened wait tasks

theorem close (I : Indifferent react R) (h : R s t) (owner : Owner)
    (result : Except Fault Value) : R (s.close owner result) (t.close owner result) := by
  have reported (failure : Option Fault) (ws : List Nat) {s t : Session Action} (h : R s t) :
      R (ws.foldl (fun s w => s.enqueue (.report w failure)) s)
        (ws.foldl (fun s w => s.enqueue (.report w failure)) t) := by
    induction ws generalizing s t with
    | nil => exact h
    | cons w ws ih => exact ih (I.enqueue h _)
  cases owner with
  | caller => exact I.acts h (fun s => { s with completed := some result }) fun _ => rfl
  | spawned n => exact I.note h _
  | timer id =>
    unfold Session.close
    dsimp only
    rw [I.reads h (·.timerTasks) fun _ => rfl]
    exact reported _ _ (I.enqueue (I.acts h (fun s => { s with timerTasks := _ }) fun _ => rfl) _)

theorem stepCoroutine (I : Indifferent react R) (h : R s t) (owner : Owner) (at_ : Waiting) :
    R (s.stepCoroutine react owner at_) (t.stepCoroutine react owner at_) := by
  unfold Session.stepCoroutine
  refine Alike.elim (I.resume h at_) fun s t p h => ?_
  cases p with
  | waits next => exact I.enqueue h _
  | gathers => exact I.gather h owner
  | ends result => exact I.close h owner result

theorem report (I : Indifferent react R) (h : R s t) (wait : Nat) (failure : Option Fault) :
    R (s.report wait failure) (t.report wait failure) := by
  unfold Session.report
  rw [I.reads h (·.gatherings) fun _ => rfl]
  split
  · exact h
  next g _ =>
    split
    · exact h
    · have told (gs : List Gathering) :=
        I.acts h (fun s => { s with gatherings := gs }) fun _ => rfl
      dsimp only
      split
      · exact I.enqueue (told _) _
      · exact told _

theorem runJob (I : Indifferent react R) (h : R s t) (j : Job) :
    R (s.runJob react j) (t.runJob react j) := by
  cases j with
  | resume owner at_ => exact I.stepCoroutine h owner at_
  | forget task =>
    exact I.acts h (fun s => { s with timerTasks := s.timerTasks.filter _ }) fun _ => rfl
  | report wait failure => exact I.report h wait failure

theorem fireTimer (I : Indifferent react R) (h : R s t) (id : Nat) :
    R (s.fireTimer id) (t.fireTimer id) := by
  unfold Session.fireTimer
  rw [I.reads h (·.armed) fun _ => rfl, I.reads h (·.nextTask) fun _ => rfl]
  split
  · exact I.enqueue (I.acts h (fun s => { s with
      armed := none, nextTask := _, timerTasks := s.timerTasks ++ [_] }) fun _ => rfl) _
  · exact h

theorem spawn (I : Indifferent react R) (h : R s t) (call : Call) :
    R (s.spawn call) (t.spawn call) := by
  unfold Session.spawn
  rw [I.reads h (·.spawned) fun _ => rfl]
  exact I.enqueue (I.acts h (fun s => { s with spawned := _ }) fun _ => rfl) _

/-! ### Actions and moves -/

/-- Related sessions carry out an action alike. -/
theorem act (I : Indifferent react R) (h : R s t) (a : Action) :
    Alike R (s.act react a) (t.act react a) := by
  unfold Session.act
  cases a with
  | input text =>
    have typed := I.input h text
    dsimp only
    generalize s.input react text = x, t.input react text = y at typed ⊢
    exact Alike.elim typed fun s t result h => ⟨h, rfl⟩
  | setMode name =>
    dsimp only
    refine Alike.elim (I.setMode h name) fun s t failure h => ?_
    cases failure <;> exact ⟨h, rfl⟩
  | selectOutput name =>
    dsimp only
    refine Alike.elim (I.selectOutput h name) fun s t failure h => ?_
    cases failure <;> exact ⟨h, rfl⟩
  | dismiss key =>
    dsimp only
    refine Alike.elim (I.dismiss h key) fun s t removed h => ?_
    exact ⟨h, rfl⟩
  | stop => exact ⟨I.stop h, rfl⟩
  | «export» => exact ⟨h, congrArg (Except.map Answer.saved) (I.reads h (·.export?) fun _ => rfl)⟩
  | publish event data =>
    dsimp only
    refine Alike.elim (I.publish h event data) fun s t failure h => ?_
    cases failure <;> exact ⟨h, rfl⟩
  | subscribe event listener => exact ⟨I.rebus h fun b => b.subscribe event listener, rfl⟩
  | unsubscribe event listener => exact ⟨I.rebus h fun b => b.unsubscribe event listener, rfl⟩
  | subscribeAll listener => exact ⟨I.rebus h fun b => b.subscribeAll listener, rfl⟩
  | clearListeners => exact ⟨I.rebus h EventBus.clear, rfl⟩
  | spawn call =>
    dsimp only
    rw [I.reads h (·.state) fun _ => rfl]
    exact ⟨I.spawn h _, rfl⟩
  | look => exact ⟨h, rfl⟩

theorem actAll (I : Indifferent react R) (h : R s t) (actions : List Action) :
    Alike R (s.actAll react actions) (t.actAll react actions) := by
  induction actions generalizing s t with
  | nil => exact ⟨h, rfl⟩
  | cons a rest ih =>
    have acted := I.act h a
    unfold Session.actAll
    generalize s.act react a = x, t.act react a = y at acted ⊢
    refine Alike.elim acted fun s t result h => ?_
    cases result with
    | error f => exact ⟨h, rfl⟩
    | ok _ => exact ih h

/-- A callback of the loop keeps sessions related. -/
theorem step (I : Indifferent Session.react R) (h : R s t) :
    R (machine.step s) (machine.step t) := by
  have loop : machine.loop s = machine.loop t := I.reads h (·.loop) fun _ => rfl
  unfold Machine.step
  rw [loop]
  split
  · exact h
  · exact I.fireTimer (I.acts h (fun s => { s with loop := _ }) fun _ => rfl) _
  · exact I.runJob (I.acts h (fun s => { s with loop := _ }) fun _ => rfl) _

/-- **Every move keeps sessions related.** -/
theorem move (I : Indifferent Session.react R) (h : R s t) (m : Move) :
    R (s.move m) (t.move m) := by
  cases m with
  | act a => exact (I.act h a).sessions
  | call c => exact I.enqueue (I.acts h (fun s => { s with completed := none }) fun _ => rfl) _
  | step => exact I.step h
  | openTick => exact I.acts h (fun s => machine.openTick s) fun _ => rfl
  | setTime now => exact I.acts h (fun s => machine.setTime s now) fun _ => rfl
  | relog log => exact I.relog h log

theorem moves (I : Indifferent Session.react R) (h : R s t) (ms : List Move) :
    R (s.moves ms) (t.moves ms) := by
  induction ms generalizing s t with
  | nil => exact h
  | cons m ms ih => exact ih (I.move h m)

end Indifferent

end Playground
