import Playground.Proofs.Calls

/-!
# What a stage does to a session

Besides calling compilers, modules and listeners, a stage changes what is shown and the busy mark,
and notes what it called and published and whether it failed. It never touches the requests, the
text, the timer or the coroutines. One stage asks the compiler of the run before anything else.

* `Work`, `Works` — the small changes of a stage.
* `Worked`, `worked_stepRun` — a step of a run is made of them, after the compiler was asked.
-/

namespace Playground

/-- One small change by a stage. -/
inductive Work (P : Action → Prop) : Session Action → Session Action → Prop where
  | use {s t : Session Action} (h : Use P s t) : Work P s t
  | show (s : Session Action) (outcome : Option Outcome) (errorCount : Int)
      (annotations : List Annotation) (artifact : Artifact) (notifications : Notifications) :
      Work P s (s.modifyState fun st => { st with
        outcome := outcome, errorCount := errorCount, annotations := annotations
        artifact := artifact, notifications := notifications })
  | indicate (s : Session Action) (i : Indicator) : Work P s { s with indicator := i }
  | publish (s : Session Action) (event : String) (data : Payload) :
      Work P s (s.mark (.published event data))
  | cut (s : Session Action) (event : String) (f : Fault) : Work P s (s.mark (.cutOff event f))
  | unrelease (s : Session Action) (generation : Nat) (f : Fault) :
      Work P s (s.mark (.unreleased generation f))
  | raise (s : Session Action) (stage : Stage) (f : Fault) : Work P s (s.mark (.raised stage f))

/-- Several small changes by a stage. -/
abbrev Works (P : Action → Prop) := Relation.ReflTransGen (Work P)

namespace Session

variable {P : Action → Prop} {react : React Action} {s t : Session Action}

theorem works_of_uses (h : Uses P s t) : Works P s t :=
  Relation.ReflTransGen.mono (fun _ _ step => .use step) _ _ h

theorem works_of_nudges (h : Nudges P s t) : Works P s t := works_of_uses (uses_of_nudges h)

theorem Admits.work (hs : s.Admits P) (h : Work P s t) : t.Admits P := by
  cases h with
  | use h => exact hs.uses (.single h)
  | _ => exact hs.of_eq rfl rfl

theorem Admits.works (hs : s.Admits P) (h : Works P s t) : t.Admits P := by
  induction h with
  | refl => exact hs
  | tail _ step ih => exact ih.work step

theorem works_write (s : Session Action) (level : Log.Level) (logger message : String) :
    Works P s (s.write level logger message) :=
  works_of_nudges (.single (.write s level logger message))

/-! ### Reports -/

theorem works_tell (hr : Reacts P react) (hs : s.Admits P) (event : String) (data : Payload) :
    Works P s (s.tell react event data).1 := by
  have told : Works P s (s.mark (.published event data)) := .single (.publish s event data)
  have published := told.trans (works_of_nudges (nudges_publish hr (hs.works told) event data))
  unfold tell
  split <;> next hx =>
    rw [hx] at published
    first
    | exact published
    | exact published.tail (.cut _ _ _)

theorem works_notify (hr : Reacts P react) (hs : s.Admits P) (message : String) :
    Works P s (s.notify react message).1 := by
  unfold notify
  split
  · exact .refl
  next queue n _ =>
    have pushed : Works P s (s.modifyState fun st => { st with notifications := queue }) :=
      .single
        (.show s s.state.outcome s.state.errorCount s.state.annotations s.state.artifact queue)
    exact pushed.trans (works_tell hr (hs.works pushed) _ _)

theorem works_reportMessage (hr : Reacts P react) (hs : s.Admits P) (message : String) :
    Works P s (s.reportMessage react message).1 := by
  have written : Works P s (s.write .error pipelineLogger message) := works_write s _ _ _
  exact written.trans (works_notify hr (hs.works written) message)

theorem works_reportMessages (hr : Reacts P react) (messages : List String) {s : Session Action}
    (hs : s.Admits P) : Works P s (s.reportMessages react messages).1 := by
  induction messages generalizing s with
  | nil => exact .refl
  | cons m messages ih =>
    have first := works_reportMessage hr hs m
    unfold reportMessages
    split <;> next hx =>
      rw [hx] at first
      first
      | exact first.trans (ih (hs.works first))
      | exact first

theorem works_reportFailure (hr : Reacts P react) (hs : s.Admits P) (run : Run)
    (diagnostics : List String) : Works P s (s.reportFailure react run diagnostics).1 := by
  unfold reportFailure
  split
  · exact .refl
  next limited _ =>
    have shown : Works P s (s.modifyState fun st => { st with
        outcome := some (.failure diagnostics), errorCount := limited.total }) :=
      .single (.show s _ _ s.state.annotations s.state.artifact s.state.notifications)
    have listed := shown.trans
      (works_reportMessages hr (limited.shown ++ limited.summary.toList) (hs.works shown))
    simp only
    split <;> next hx =>
      rw [hx] at listed
      first
      | exact listed.tail (.show _ _ _ limited.annotations _ _)
      | exact listed

theorem works_reportInternalError (hr : Reacts P react) (hs : s.Admits P) (run : Run) (f : Fault) :
    Works P s (s.reportInternalError react run f).1 := by
  unfold reportInternalError
  split
  · exact .refl
  next message _ =>
    have shown : Works P s (s.modifyState fun st => { st with
        outcome := some (.internalError message), errorCount := 1, annotations := [] }) :=
      .single (.show s _ _ _ s.state.artifact s.state.notifications)
    have written := (shown.trans (works_write _ .error pipelineLogger message)).trans
      (works_write _ .debug pipelineLogger ("<traceback> " ++ f.traced))
    exact written.trans (works_notify hr (hs.works written) _)

theorem works_reportFault (hr : Reacts P react) (hs : s.Admits P) (run : Run) (f : Fault) :
    Works P s (s.reportFault react run f).1 := by
  unfold reportFault
  split
  · split
    · exact works_reportFailure hr hs run _
    · exact works_reportInternalError hr hs run f
  · exact .refl

theorem works_closeRun (hr : Reacts P react) (hs : s.Admits P) (run : Run) :
    Works P s (s.closeRun react run).1 := by
  obtain ⟨u, uses, eq | ⟨why, eq⟩⟩ := uses_releaseModule hr hs run
  · have released := works_of_uses uses
    unfold closeRun
    rw [eq]
    simp only
    split
    · have finished := released.tail (.indicate u u.indicator.finish)
      split
      · exact finished.trans (works_tell hr (hs.works finished) _ _)
      · exact finished
    · exact released
  · unfold closeRun
    rw [eq]
    exact (works_of_uses uses).tail (.unrelease u _ why)

/-! ### Stages -/

theorem works_announceStage (hr : Reacts P react) (hs : s.Admits P) (run : Run) :
    Works P s (s.announceStage react run).1 := by
  have cleared : Works P s (s.modifyState fun st => { st with
      errorCount := 0, outcome := none, annotations := []
      notifications := st.notifications.clear }) :=
    .single (.show s none 0 [] s.state.artifact s.state.notifications.clear)
  have opened : Works P s s.openCycle := cleared.tail (.indicate _ s.indicator.start)
  have told := opened.trans (works_tell hr (hs.works opened) compileStarted (startedData run))
  unfold announceStage
  split <;> next hx => rw [hx] at told; exact told

/-- The compiler of a run is asked with its request. -/
def AskedBy (P : Action → Prop) (run : Run) (produced : Bool) (s t : Session Action) : Prop :=
  Asked P run.generation run.request.compiler run.request.source run.request.options produced s t

/-- A run that finds no compiler leaves the session as it is. -/
theorem asked_invokeStage (hr : Reacts P react) (hs : s.Admits P) (run : Run) :
    (¬ s.offers run.request.compiler ∧
      s.invokeStage react run = (s, run, .error (.unknownCompiler run.request.compiler))) ∨
    s.offers run.request.compiler ∧
      ∃ produced, AskedBy P run produced s (s.invokeStage react run).1 := by
  have asked := asked_compileSource hr hs run.generation run.request.compiler run.request.source
    run.request.options
  have last : (s.invokeStage react run).1 = (s.compileSource react run.generation
      run.request.compiler run.request.source run.request.options).1 := by
    unfold invokeStage
    split <;> next hx => rw [hx]
  rcases asked with ⟨missing, eq⟩ | ⟨there, asked⟩
  · refine .inl ⟨missing, ?_⟩
    unfold invokeStage
    rw [eq]
  · exact .inr ⟨there, _, last ▸ asked⟩

theorem works_rejectStage (hr : Reacts P react) (hs : s.Admits P) (run : Run) :
    Works P s (s.rejectStage react run).1 := by
  have reported := works_reportFailure hr hs run run.diagnostics
  unfold rejectStage
  split <;> next hx => rw [hx] at reported; exact reported

theorem works_validateStage (hr : Reacts P react) (hs : s.Admits P) (run : Run) :
    Works P s (s.validateStage react run).1 := by
  unfold validateStage
  split
  · exact .refl
  next m _ =>
    have called := works_of_uses (called_validateModule hr hs run.generation m).uses
    split <;> next hx => rw [hx] at called; exact called

theorem works_optimizeStage (hr : Reacts P react) (hs : s.Admits P) (run : Run) :
    Works P s (s.optimizeStage react run).1 := by
  unfold optimizeStage
  split
  · exact .refl
  next m _ =>
    have called := works_of_uses (called_optimizeModule hr hs run.generation m).uses
    split <;> next hx => rw [hx] at called; exact called

theorem works_emitStage (hr : Reacts P react) (hs : s.Admits P) (run : Run) :
    Works P s (s.emitStage react run).1 := by
  unfold emitStage
  split
  · exact .refl
  next m _ =>
    have called := works_of_uses (uses_emitAndDispose hr hs run.generation m)
    simp only
    split
    next hx => rw [hx] at called; exact called
    next u artifact hx =>
      rw [hx] at called
      have shown := called.tail (.show u (some (.success artifact.text artifact.binary)) 0
        u.state.annotations artifact u.state.notifications)
      exact shown.trans (works_write _ _ _ _)

theorem works_runStage (hr : Reacts P react) (hs : s.Admits P) {stage : Stage} (run : Run)
    (later : stage ≠ .invoke) : Works P s (s.runStage react stage run).1 := by
  cases stage with
  | announce => exact works_announceStage hr hs run
  | invoke => exact absurd rfl later
  | reject => exact works_rejectStage hr hs run
  | validate => exact works_validateStage hr hs run
  | optimize => exact works_optimizeStage hr hs run
  | emit => exact works_emitStage hr hs run

/-- What a step of a run does: only the stage that finds its compiler there asks it, and it asks
first. -/
inductive Worked (P : Action → Prop) (stage : Stage) (run : Run) (s t : Session Action) : Prop where
  | works (h : Works P s t)
      (why : stage = .invoke → s.state.alive = true → ¬ s.offers run.request.compiler)
  | asks (invoke : stage = .invoke) (alive : s.state.alive = true)
      (there : s.offers run.request.compiler) (produced : Bool) (u : Session Action)
      (asked : AskedBy P run produced s u) (works : Works P u t)

/-- What follows a stage: another one, or its report and the end of the run. -/
def afterStage (react : React Action) (stage : Stage) :
    Session Action × Run × Except Fault (Option Stage) → Session Action × RunStep
  | (s, run, .ok (some next)) => (s, .next next run)
  | (s, run, .ok none) =>
    let (s, run, fault) := closeRun react run s
    (s, .over run fault)
  | (s, run, .error f) =>
    let (s, run, fault) := reportFault react run f (s.mark (.raised stage f))
    let (s, run, last) := closeRun react run s
    (s, .over run (last.or fault))

theorem afterStage_last (react : React Action) (stage : Stage) (s : Session Action) (run : Run) :
    afterStage react stage (s, run, .ok none) = ((s.closeRun react run).1,
      .over (s.closeRun react run).2.1 (s.closeRun react run).2.2) := rfl

theorem afterStage_error (react : React Action) (stage : Stage) (s : Session Action) (run : Run)
    (f : Fault) : afterStage react stage (s, run, .error f) =
      let reported := (s.mark (.raised stage f)).reportFault react run f
      let closed := reported.1.closeRun react reported.2.1
      (closed.1, .over closed.2.1 (closed.2.2.or reported.2.2)) := rfl

theorem stepRun_of_dead (dead : s.state.alive = false) (react : React Action) (stage : Stage)
    (run : Run) :
    s.stepRun react stage run =
      let closed := (s.write .debug pipelineLogger (abandonedMessage run)).closeRun react run
      (closed.1, .over closed.2.1 closed.2.2) := by
  unfold stepRun
  rw [if_neg (by simp [dead])]

theorem stepRun_of_alive (alive : s.state.alive = true) (react : React Action) (stage : Stage)
    (run : Run) :
    s.stepRun react stage run = afterStage react stage
      (s.runStage react stage { run with stages := run.stages ++ [stage.name] }) := by
  unfold stepRun
  rw [if_pos alive]
  rcases s.runStage react stage { run with stages := run.stages ++ [stage.name] } with
    ⟨t, run', f | _ | next⟩ <;> rfl

theorem works_afterStage (hr : Reacts P react) (hs : s.Admits P) (stage : Stage) (run : Run)
    (result : Except Fault (Option Stage)) :
    Works P s (afterStage react stage (s, run, result)).1 := by
  rcases result with f | _ | next
  · have raised : Works P s (s.mark (.raised stage f)) := .single (.raise s stage f)
    have reported := raised.trans (works_reportFault hr (hs.works raised) run f)
    exact reported.trans (works_closeRun hr (hs.works reported) _)
  · exact works_closeRun hr hs run
  · exact .refl

theorem Admits.asked (hs : s.Admits P) {generation : Nat} {name text : String} {options : Options}
    {produced : Bool} (h : Asked P generation name text options produced s t) : t.Admits P := by
  obtain ⟨u, nudges, rfl⟩ := h
  exact ((hs.consult name text options).nudges nudges).of_eq rfl rfl

/-- **A step of a run is made of small changes, after its compiler was asked.** -/
theorem worked_stepRun (hr : Reacts P react) (hs : s.Admits P) (stage : Stage) (run : Run) :
    Worked P stage run s (s.stepRun react stage run).1 := by
  by_cases alive : s.state.alive = true
  · rw [stepRun_of_alive alive]
    by_cases invoke : stage = .invoke
    · subst invoke
      rcases asked_invokeStage hr hs { run with stages := run.stages ++ [Stage.invoke.name] } with
        ⟨missing, eq⟩ | ⟨there, produced, asked⟩
      · rw [show s.runStage react .invoke { run with stages := run.stages ++ [Stage.invoke.name] } =
          (s, _, _) from eq]
        exact .works (works_afterStage hr hs .invoke _ _) fun _ _ => missing
      · exact .asks rfl alive there produced _ asked
          (works_afterStage hr (hs.asked asked) .invoke _ _)
    · have ran := works_runStage hr hs { run with stages := run.stages ++ [stage.name] } invoke
      exact .works (ran.trans (works_afterStage hr (hs.works ran) stage _ _)) fun h =>
        absurd h invoke
  · have abandoned : Works P s (s.write .debug pipelineLogger (abandonedMessage run)) :=
      works_write s _ _ _
    unfold stepRun
    rw [if_neg alive]
    exact .works (abandoned.trans (works_closeRun hr (hs.works abandoned) run))
      fun _ living => absurd living alive

/-- What small changes keep, and the notes of a compile call and of its answer too, is kept by a
whole step. -/
theorem Worked.keeps {stage : Stage} {run : Run} (h : Worked P stage run s t)
    {I : Session Action → Prop} (first : I s)
    (called : ∀ u name text options, I u → I (u.note (.compiled name text options)))
    (answered : ∀ u generation produced, I u → I (u.mark (.asked generation produced)))
    (work : ∀ u v, Work P u v → I u → I v) : I t := by
  have worked {u v : Session Action} (works : Works P u v) (h : I u) : I v := by
    induction works with
    | refl => exact h
    | tail _ step ih => exact work _ _ step ih
  cases h with
  | works h _ => exact worked h first
  | asks _ _ _ produced u asked works =>
    obtain ⟨v, nudges, rfl⟩ := asked
    have consulted : I (s.consult run.request.compiler run.request.source run.request.options) := by
      unfold consult
      split
      · exact called s _ _ _ first
      · exact first
    exact worked works (answered v _ _ (worked (works_of_nudges nudges) consulted))

end Session

end Playground
