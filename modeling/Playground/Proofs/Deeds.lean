import Playground.Proofs.Stages

/-!
# What a step of a run does to the outside

One statement for every part of a pipeline: which compilers and modules it calls, which events it
publishes, and in which order.

* `Pushes` — notifications are pushed one after the other.
* `Calls`, `bodied_runStage` — what a stage calls.
* `Releases`, `released_closeRun` — what the end of a run calls and publishes.
* `Halts`, `Walked`, `walked_stepRun` — a whole step of a session that is alive, and where it may
  halt.
* `GivenUp`, `givenUp_stepRun` — a whole step of one that was stopped.
-/

namespace Playground

open Playground.Core

def Notification.deed (n : Notification) : Milestone := .published notificationPushed n.toRecord

/-- Notifications whose keys follow a number of earlier pushes. -/
def Numbered (count : Nat) (ns : List Notification) : Prop :=
  ns.map (·.key) = List.range' (count + 1) ns.length

/-- Notifications are pushed one after the other. -/
structure Core.Pushes (ns : List Notification) (c d : Core) : Prop where
  does : Does (ns.map Notification.deed) ns c d
  numbered : Numbered c.state.notifications.count ns

namespace Core

variable {c d e : Core} {ns ms : List Notification}

theorem Does.pushes (h : Beside c d) : Pushes [] c d := ⟨h, rfl⟩

theorem Pushes.trans (h : Pushes ns c d) (k : Pushes ms d e) : Pushes (ns ++ ms) c e where
  does := by
    rw [List.map_append]
    exact h.does.trans k.does
  numbered := by
    have next := k.numbered
    unfold Numbered at next ⊢
    rw [h.does.count, Nat.add_right_comm] at next
    rw [List.map_append, List.length_append, ← List.range'_append_1, h.numbered, next]

theorem Pushes.before (h : Beside c d) (k : Pushes ns d e) : Pushes ns c e := h.pushes.trans k

theorem Pushes.after (h : Pushes ns c d) (k : Beside d e) : Pushes ns c e := by
  simpa using h.trans k.pushes

end Core

namespace Session

variable {react : React Action} {s t : Session Action}

variable (hr : Reacts (fun _ => True) react)
include hr

/-! ### Reports -/

theorem does_tell (s : Session Action) (event : String) (data : Payload)
    (h : (Milestone.published event data).isDeed = true) :
    Does [.published event data] [] s.core (s.tell react event data).1.core := by
  have marked : Does
      (if (Milestone.published event data).isDeed then [.published event data] else [])
      [] s.core (s.mark (.published event data)).core := .of_note _ rfl rfl id
  rw [if_pos h] at marked
  have told := marked.after (beside_nudges (nudges_publish hr (admits_all _) event data))
  unfold tell
  split <;> next hx =>
    rw [hx] at told
    first
    | exact told
    | exact told.after (.of_note (.cutOff event _) rfl rfl id)

/-- Where messages are not suppressed, a message is pushed and told of. -/
theorem pushed_notify {s : Session Action} (heard : s.state.compileMode ≠ .auto)
    (message : String) :
    Pushes [s.state.notifications.next message] s.core (s.notify react message).1.core := by
  unfold notify Notifications.push
  rw [if_neg heard]
  have told := does_tell hr (s.modifyState fun st => { st with
      notifications := { s.state.notifications with
        items := s.state.notifications.items ++ [s.state.notifications.next message]
        count := s.state.notifications.count + 1 } }) notificationPushed
    (s.state.notifications.next message).toRecord rfl
  have items := told.items
  rw [List.append_nil] at items
  exact ⟨⟨told.later, told.deeds, told.count, items, told.living⟩, rfl⟩

theorem pushes_notify (s : Session Action) (message : String) :
    ∃ ns, Pushes ns s.core (s.notify react message).1.core := by
  by_cases mode : s.state.compileMode = .auto
  · refine ⟨[], Does.pushes (.of_eq ?_)⟩
    unfold notify Notifications.push
    rw [if_pos mode]
  · exact ⟨_, pushed_notify hr mode message⟩

theorem pushes_reportMessage (s : Session Action) (message : String) :
    ∃ ns, Pushes ns s.core (s.reportMessage react message).1.core := by
  obtain ⟨ns, pushes⟩ := pushes_notify hr (s.write .error pipelineLogger message) message
  exact ⟨ns, Pushes.before (.of_eq (core_write s _ _ _)) pushes⟩

theorem pushes_reportMessages (messages : List String) (s : Session Action) :
    ∃ ns, Pushes ns s.core (s.reportMessages react messages).1.core := by
  induction messages generalizing s with
  | nil => exact ⟨[], (Does.refl _).pushes⟩
  | cons m messages ih =>
    obtain ⟨ns, first⟩ := pushes_reportMessage hr s m
    unfold reportMessages
    rcases hx : s.reportMessage react m with ⟨t, _ | f⟩ <;> rw [hx] at first
    · obtain ⟨ms, rest⟩ := ih t
      exact ⟨ns ++ ms, first.trans rest⟩
    · exact ⟨ns, first⟩

theorem pushes_reportFailure (s : Session Action) (run : Run) (diagnostics : List String) :
    (∃ ns, Pushes ns s.core (s.reportFailure react run diagnostics).1.core) ∧
      ∃ outcome, (s.reportFailure react run diagnostics).2.1 = { run with outcome := outcome } := by
  unfold reportFailure
  split
  · exact ⟨⟨[], (Does.refl _).pushes⟩, run.outcome, rfl⟩
  next limited _ =>
    have shown : Beside s.core (s.modifyState fun st => { st with
        outcome := some (.failure diagnostics), errorCount := limited.total }).core :=
      .of_state rfl rfl rfl
    obtain ⟨ns, listed⟩ := pushes_reportMessages hr (limited.shown ++ limited.summary.toList)
      (s.modifyState fun st => { st with
        outcome := some (.failure diagnostics), errorCount := limited.total })
    have pushed := Pushes.before shown listed
    simp only
    split <;> next hx =>
      rw [hx] at pushed
      first
      | exact ⟨⟨ns, pushed⟩, _, rfl⟩
      | exact ⟨⟨ns, pushed.after (.of_state rfl rfl rfl)⟩, _, rfl⟩

theorem pushes_reportInternalError (s : Session Action) (run : Run) (f : Fault) :
    (∃ ns, Pushes ns s.core (s.reportInternalError react run f).1.core) ∧
      ∃ outcome, (s.reportInternalError react run f).2.1 = { run with outcome := outcome } := by
  unfold reportInternalError
  split
  · exact ⟨⟨[], (Does.refl _).pushes⟩, run.outcome, rfl⟩
  next message _ =>
    obtain ⟨ns, pushes⟩ := pushes_notify hr (((s.modifyState fun st => { st with
        outcome := some (.internalError message), errorCount := 1, annotations := [] }).write
      .error pipelineLogger message).write .debug pipelineLogger
        ("<traceback> " ++ f.traced)) message
    have shown : Beside s.core (((s.modifyState fun st => { st with
        outcome := some (.internalError message), errorCount := 1, annotations := [] }).write
      .error pipelineLogger message).write .debug pipelineLogger
        ("<traceback> " ++ f.traced)).core :=
      .of_state rfl rfl rfl
    exact ⟨⟨ns, Pushes.before shown pushes⟩, _, rfl⟩

/-- The report of a fault pushes notifications, and the run keeps all but its outcome. -/
theorem pushes_reportFault (s : Session Action) (run : Run) (f : Fault) :
    (∃ ns, Pushes ns s.core (s.reportFault react run f).1.core) ∧
      ∃ outcome, (s.reportFault react run f).2.1 = { run with outcome := outcome } := by
  unfold reportFault
  split
  · split
    · exact pushes_reportFailure hr s run _
    · exact pushes_reportInternalError hr s run f
  · exact ⟨⟨[], (Does.refl _).pushes⟩, run.outcome, rfl⟩

end Session

/-! ### The end of a run -/

/-- The module that a run of this generation left behind, if any, is disposed. -/
inductive Releases (generation : Nat) : Option Module → List Milestone → Prop where
  | nothing : Releases generation none []
  | disposed (m : Module) (fault : Option Fault) :
      Releases generation (some m) [.called generation .dispose fault]

/-- The end of a run is published where the run was announced and the session is alive. -/
def closing (run : Run) (told : Bool) (errorCount : Int) : List Milestone :=
  if run.announced && told then
    [.published compileFinished (Session.finishedData run errorCount)]
  else []

namespace Session

variable {react : React Action} {s t : Session Action}

variable (hr : Reacts (fun _ => True) react)
include hr

theorem released_releaseModule (s : Session Action) (run : Run) :
    ∃ rs t, Releases run.generation run.module rs ∧ Does rs [] s.core t.core ∧
      Uses (fun _ => True) s t ∧
      (s.releaseModule react run = (t, none) ∨
        ∃ why, s.releaseModule react run =
          (t.mark (.unreleased run.generation why), some why)) := by
  cases held : run.module with
  | none => exact ⟨[], s, .nothing, .refl _, .refl, .inl (releaseModule_of_none held)⟩
  | some m =>
    obtain ⟨fault, t, disposed, ⟨u, written, eq⟩ | fails⟩ :=
      disposed_releaseModule hr (admits_all s) held
    · exact ⟨_, u, .disposed m fault, (does_called disposed).after (beside_nudges written),
        disposed.uses.trans (uses_of_nudges written), .inl eq⟩
    · exact ⟨_, t, .disposed m fault, does_called disposed, disposed.uses, .inr fails⟩

/-- **The end of a run releases its module and, where that does not fail, is published while the
session is alive.** -/
theorem released_closeRun (s : Session Action) (run : Run) :
    ∃ rs told count, Releases run.generation run.module rs ∧
      Does (rs ++ closing (s.closeRun react run).2.1 told count) [] s.core
        (s.closeRun react run).1.core ∧
      ((s.closeRun react run).1.state.alive = true → (s.closeRun react run).2.2 = none →
        told = true) := by
  obtain ⟨rs, u, releases, does, -, eq | ⟨why, eq⟩⟩ := released_releaseModule hr s run
  · unfold closeRun
    rw [eq]
    by_cases announced : run.announced = true
    · have finished : Does rs [] s.core
          ({ u with indicator := u.indicator.finish } : Session Action).core :=
        does.after (.of_state rfl rfl rfl)
      simp only [announced, if_true]
      split
      · refine ⟨rs, true, u.state.errorCount, releases, ?_, fun _ _ => rfl⟩
        simp only [closing, Bool.true_and, if_true]
        exact finished.trans (does_tell hr _ compileFinished _ rfl)
      next dead =>
        refine ⟨rs, false, 0, releases, ?_, fun alive => absurd alive dead⟩
        simpa [closing] using finished
    · simp only [announced]
      exact ⟨rs, true, 0, releases, by simpa [closing, announced] using does, fun _ _ => rfl⟩
  · unfold closeRun
    rw [eq]
    refine ⟨rs, false, 0, releases, ?_, nofun⟩
    have noted : Beside u.core (u.mark (.unreleased run.generation why)).core :=
      .of_note (.unreleased run.generation why) rfl rfl id
    simpa [closing] using does.after noted

end Session

/-! ### Stages -/

def Core.clear (c : Core) : Core :=
  { c with state := { c.state with notifications := c.state.notifications.clear } }

/-- The announcement of a run takes all notifications back first. -/
def Core.entering (stage : Stage) (c : Core) : Core := if stage = .announce then c.clear else c

@[simp] theorem Core.history_entering (stage : Stage) (c : Core) :
    (c.entering stage).history = c.history := by
  unfold entering
  split <;> rfl

@[simp] theorem Core.alive_entering (stage : Stage) (c : Core) :
    (c.entering stage).state.alive = c.state.alive := by
  unfold entering
  split <;> rfl

theorem Core.living_entering {stage : Stage} {c : Core} (h : c.Living) :
    (c.entering stage).Living := by
  simpa [Living] using h

theorem Core.entering_of_later {stage : Stage} (later : stage ≠ .announce) (c : Core) :
    c.entering stage = c := if_neg later

/-- The calls for the output of a module. -/
inductive Emission (generation : Nat) : List Milestone → Prop where
  | text (f : Fault) : Emission generation [.called generation .emitText (some f)]
  | both (fault : Option Fault) :
      Emission generation
        [.called generation .emitText none, .called generation .emitBinary fault]

/-- What a stage calls, the module that the run holds then, and the stage that follows. -/
inductive Calls (run : Run) :
    Stage → List Milestone → Option Module → Except Fault (Option Stage) → Prop where
  /-- The compiler is not there. -/
  | unasked (f : Fault) : Calls run .invoke [] run.module (.error f)
  | failed (f : Fault) : Calls run .invoke [.asked run.generation false] run.module (.error f)
  | rejected :
      Calls run .invoke [.asked run.generation false] run.module (.ok (some .reject))
  | produced (m : Module) :
      Calls run .invoke [.asked run.generation true] (some m)
        (.ok (some (Session.afterInvoke run)))
  /-- There is no module. -/
  | missing (stage : Stage) (later : stage ≠ .announce) (f : Fault) (h : run.module = none) :
      Calls run stage [] none (.error f)
  | validated :
      Calls run .validate [.called run.generation .validate none] run.module
        (.ok (some (Session.afterValidate run)))
  | invalid (f e : Fault) :
      Calls run .validate [.called run.generation .validate (some f)] run.module (.error e)
  | optimized (m : Module) :
      Calls run .optimize [.called run.generation .optimize none] (some m) (.ok (some .emit))
  | unoptimized (m : Module) (f e : Fault) :
      Calls run .optimize [.called run.generation .optimize (some f)] (some m) (.error e)
  /-- Whatever became of the output, the module is disposed. -/
  | emitted (m : Module) (held : run.module = some m) (ds : List Milestone)
      (h : Emission run.generation ds) (fault : Option Fault) (result : Except Fault (Option Stage))
      (last : ∀ stage, result ≠ .ok (some stage)) :
      Calls run .emit (ds ++ [.called run.generation .dispose fault]) none result

/-- Only the other stages call anything. -/
theorem Calls.later {run : Run} {stage : Stage} {ds : List Milestone} {m : Option Module}
    {result : Except Fault (Option Stage)} (h : Calls run stage ds m result) :
    stage ≠ .announce := by
  cases h with
  | missing _ later => exact later
  | _ => decide

/-- What a stage does: the run is announced, a rejection is reported, or something is called. The
announcement and the report may break off. -/
inductive Bodied (stage : Stage) (run : Run) (s : Session Action) :
    Session Action × Run × Except Fault (Option Stage) → Prop where
  | announced (t : Session Action) (first : stage = .announce)
      (does : Does [.published compileStarted (Session.startedData run)] [] s.core.clear t.core)
      (result : Except Fault (Option Stage))
      (next : result = .ok (some .invoke) ∨ ∃ f, result = .error f) :
      Bodied stage run s (t, { run with announced := true }, result)
  | reported (t : Session Action) (outcome : Option Outcome) (ns : List Notification)
      (rejects : stage = .reject) (pushes : Pushes ns s.core t.core)
      (result : Except Fault (Option Stage)) (last : ∀ next, result ≠ .ok (some next)) :
      Bodied stage run s (t, { run with outcome := outcome }, result)
  | called (t : Session Action) (run' : Run) (ds : List Milestone)
      (result : Except Fault (Option Stage)) (calls : Calls run stage ds run'.module result)
      (number : run'.generation = run.generation) (does : Does ds [] s.core t.core) :
      Bodied stage run s (t, run', result)

namespace Session

variable {react : React Action} {s t : Session Action}

variable (hr : Reacts (fun _ => True) react)
include hr

theorem bodied_announceStage (s : Session Action) (run : Run) :
    Bodied .announce run s (s.announceStage react run) := by
  have opened : Beside s.core.clear s.openCycle.core := .of_state rfl rfl rfl
  have told := Does.before opened
    (does_tell hr s.openCycle compileStarted (startedData run) rfl)
  unfold announceStage
  split <;> next hx =>
    rw [hx] at told
    first
    | exact .announced _ rfl told _ (.inl rfl)
    | exact .announced _ rfl told _ (.inr ⟨_, rfl⟩)

theorem bodied_invokeStage (s : Session Action) (run : Run) :
    Bodied .invoke run s (s.invokeStage react run) := by
  have answered := asked_compileSource hr (admits_all s) run.generation run.request.compiler
    run.request.source run.request.options
  unfold invokeStage
  rcases hx : s.compileSource react run.generation run.request.compiler run.request.source
    run.request.options with ⟨t, f | (f | diagnostics) | m⟩ <;> rw [hx] at answered
  · rcases answered with ⟨-, same⟩ | ⟨-, asked⟩
    · obtain ⟨rfl, -⟩ := Prod.mk.inj same
      exact .called t run [] _ (.unasked f) rfl (.refl _)
    · exact .called t run _ _ (.failed f) rfl (does_asked asked)
  · obtain ⟨-, same⟩ | ⟨-, asked⟩ := answered
    · cases same
    · exact .called t run _ _ (.failed f) rfl (does_asked asked)
  · obtain ⟨-, same⟩ | ⟨-, asked⟩ := answered
    · cases same
    · exact .called t { run with diagnostics := diagnostics } _ _ .rejected rfl (does_asked asked)
  · obtain ⟨-, same⟩ | ⟨-, asked⟩ := answered
    · cases same
    · exact .called t { run with module := some m } _ _ (.produced m) rfl (does_asked asked)

theorem bodied_rejectStage (s : Session Action) (run : Run) :
    Bodied .reject run s (s.rejectStage react run) := by
  obtain ⟨⟨ns, pushes⟩, outcome, kept⟩ := pushes_reportFailure hr s run run.diagnostics
  unfold rejectStage
  rcases hx : s.reportFailure react run run.diagnostics with ⟨t, run', fault⟩
  rw [hx] at pushes kept
  obtain rfl : run' = { run with outcome := outcome } := kept
  cases fault <;> exact .reported t outcome ns rfl pushes _ nofun

theorem bodied_validateStage (s : Session Action) (run : Run) :
    Bodied .validate run s (s.validateStage react run) := by
  unfold validateStage
  split
  next h => exact .called s run [] _ (h ▸ .missing .validate (by decide) _ h) rfl (.refl _)
  next m held =>
    have called := does_called (called_validateModule hr (admits_all s) run.generation m)
    split <;> next hx =>
      rw [hx] at called
      first
      | exact .called _ run _ _ .validated rfl called
      | exact .called _ run _ _ (.invalid _ _) rfl called

theorem bodied_optimizeStage (s : Session Action) (run : Run) :
    Bodied .optimize run s (s.optimizeStage react run) := by
  unfold optimizeStage
  split
  next h => exact .called s run [] _ (h ▸ .missing .optimize (by decide) _ h) rfl (.refl _)
  next m held =>
    have called := does_called (called_optimizeModule hr (admits_all s) run.generation m)
    split <;> next hx =>
      rw [hx] at called
      first
      | exact .called _ { run with module := some _ } _ _ (.optimized _) rfl called
      | exact .called _ { run with module := some _ } _ _ (.unoptimized _ _ _) rfl called

omit hr in
theorem does_emitted {generation : Nat} {r : Session Action × Except Fault Artifact}
    (h : Emitted (fun _ => True) generation s r) :
    ∃ ds, Emission generation ds ∧ Does ds [] s.core r.1.core := by
  cases h with
  | text t f e called => exact ⟨_, .text f, does_called called⟩
  | binary u t fault result text binary =>
    exact ⟨_, .both fault, (does_called text).trans (does_called binary)⟩

theorem bodied_emitStage (s : Session Action) (run : Run) :
    Bodied .emit run s (s.emitStage react run) := by
  unfold emitStage
  split
  next h => exact .called s run [] _ (h ▸ .missing .emit (by decide) _ h) rfl (.refl _)
  next m held =>
    obtain ⟨r, fault, emitted, disposed⟩ :=
      disposed_emitAndDispose hr (admits_all s) run.generation m
    obtain ⟨ds, emission, does⟩ := does_emitted emitted
    have called := does.trans (does_called disposed)
    simp only
    split
    next hx =>
      rw [hx] at called
      exact .called _ { run with module := none } _ _
        (.emitted m held ds emission fault _ nofun) rfl called
    next u a hx =>
      rw [hx] at called
      exact .called _ { run with module := none, outcome := _ } _ _
        (.emitted m held ds emission fault _ nofun) rfl (called.after (.of_state rfl rfl rfl))

theorem bodied_runStage (s : Session Action) (stage : Stage) (run : Run) :
    Bodied stage run s (s.runStage react stage run) := by
  cases stage with
  | announce => exact bodied_announceStage hr s run
  | invoke => exact bodied_invokeStage hr s run
  | reject => exact bodied_rejectStage hr s run
  | validate => exact bodied_validateStage hr s run
  | optimize => exact bodied_optimizeStage hr s run
  | emit => exact bodied_emitStage hr s run

end Session

/-! ### Steps -/

/-- What a stage calls does not depend on the list of the stages before it. -/
theorem Calls.of_stages {run : Run} {names : List String} {stage : Stage} {ds : List Milestone}
    {m : Option Module} {result : Except Fault (Option Stage)}
    (h : Calls { run with stages := names } stage ds m result) : Calls run stage ds m result := by
  cases h with
  | unasked f => exact .unasked f
  | failed f => exact .failed f
  | rejected => exact .rejected
  | produced m => exact .produced m
  | missing _ later f none => exact .missing stage later f none
  | validated => exact .validated
  | invalid f e => exact .invalid f e
  | optimized m => exact .optimized m
  | unoptimized m f e => exact .unoptimized m f e
  | emitted m held ds emission fault _ last =>
    have held : run.module = some m := held
    exact .emitted m held ds emission fault _ last

/-- Why no stage follows: what was called up to then and the module that is left. -/
inductive Halts (stage : Stage) (run : Run) : List Milestone → Option Module → Prop where
  | reported (rejects : stage = .reject) : Halts stage run [] run.module
  /-- The announcement broke off. -/
  | unheard (first : stage = .announce) :
      Halts stage run [.published compileStarted (Session.startedData run)] run.module
  | called (ds : List Milestone) (m : Option Module) (result : Except Fault (Option Stage))
      (calls : Calls run stage ds m result) (last : ∀ next, result ≠ .ok (some next)) :
      Halts stage run ds m

/-- What a step of a run of a session that is alive does to the outside. -/
inductive Walked (stage : Stage) (run : Run) (s : Session Action) :
    Session Action × Session.RunStep → Prop where
  | announced (t : Session Action) (run' : Run) (first : stage = .announce)
      (does : Does [.published compileStarted (Session.startedData run)] [] s.core.clear t.core)
      (kept : run'.module = run.module) : Walked stage run s (t, .next .invoke run')
  | onward (t : Session Action) (run' : Run) (next : Stage) (ds : List Milestone)
      (calls : Calls run stage ds run'.module (.ok (some next)))
      (does : Does ds [] s.core t.core) : Walked stage run s (t, .next next run')
  | closed (t : Session Action) (run' : Run) (fault : Option Fault) (ds rs : List Milestone)
      (m : Option Module) (ns : List Notification) (told : Bool) (count : Int)
      (halts : Halts stage run ds m) (releases : Releases run.generation m rs)
      (numbered : Numbered (s.core.entering stage).state.notifications.count ns)
      (does : Does (ds ++ (ns.map Notification.deed ++ (rs ++ closing run' told count))) ns
        (s.core.entering stage) t.core)
      (telling : t.state.alive = true → fault = none → told = true) :
      Walked stage run s (t, .over run' fault)

namespace Session

variable {react : React Action} {s t : Session Action}

variable (hr : Reacts (fun _ => True) react)
include hr

/-- A run is closed after what ended it. -/
theorem walked_over {s u v : Session Action} {stage : Stage} {run run₁ : Run} {ds : List Milestone}
    {m : Option Module} {ns : List Notification} (fault : Option Fault)
    (halts : Halts stage run ds m) (does : Does ds [] (s.core.entering stage) u.core)
    (pushes : Pushes ns u.core v.core) (kept : run₁.module = m)
    (number : run₁.generation = run.generation) :
    Walked stage run s ((v.closeRun react run₁).1,
      .over (v.closeRun react run₁).2.1 ((v.closeRun react run₁).2.2.or fault)) := by
  obtain ⟨rs, told, count, releases, closes, telling⟩ := released_closeRun hr v run₁
  rw [number, kept] at releases
  have numbered := pushes.numbered
  rw [does.count] at numbered
  refine .closed _ _ _ ds rs m ns told count halts releases numbered ?_ fun alive none =>
    telling alive (Option.or_eq_none_iff.1 none).1
  simpa using does.trans (pushes.does.trans closes)

/-- The report of a stage that fails follows what it did. -/
theorem walked_failed {s u : Session Action} {stage : Stage} {run run₁ : Run} {ds : List Milestone}
    {m : Option Module} {ns : List Notification} (f : Fault)
    (halts : Halts stage run ds m) {v : Session Action}
    (does : Does ds [] (s.core.entering stage) v.core) (pushes : Pushes ns v.core u.core)
    (kept : run₁.module = m) (number : run₁.generation = run.generation) :
    Walked stage run s (afterStage react stage (u, run₁, .error f)) := by
  have raised := pushes.after (.of_note (d := (u.mark (.raised stage f)).core)
    (.raised stage f) rfl rfl id)
  obtain ⟨⟨ms, reported⟩, outcome, same⟩ := pushes_reportFault hr (u.mark (.raised stage f)) run₁ f
  unfold afterStage
  rcases hy : (u.mark (.raised stage f)).reportFault react run₁ f with ⟨w, run₂, fault⟩
  rw [hy] at reported same
  simp only [hy]
  obtain rfl : run₂ = { run₁ with outcome := outcome } := same
  exact walked_over hr fault halts does (raised.trans reported) kept number

/-- **What a step of a run does to the outside**: it announces the run, makes the calls of its stage
or, at the end, reports, disposes what is left and publishes the end. -/
theorem walked_stepRun {s : Session Action} (alive : s.state.alive = true) (stage : Stage)
    (run : Run) : Walked stage run s (s.stepRun react stage run) := by
  have bodied := bodied_runStage hr s stage { run with stages := run.stages ++ [stage.name] }
  rw [stepRun_of_alive alive]
  rcases hx : s.runStage react stage { run with stages := run.stages ++ [stage.name] } with
    ⟨u, run₁, result⟩
  rw [hx] at bodied
  cases bodied with
  | announced _ first does _ next =>
    rcases next with rfl | ⟨f, rfl⟩
    · exact .announced u _ first does rfl
    · subst first
      exact walked_failed hr f (.unheard rfl) does (Does.refl _).pushes rfl rfl
  | reported _ outcome ns rejects pushes _ last =>
    have from_ : Beside (s.core.entering stage) s.core :=
      .of_eq (Core.entering_of_later (by simp [rejects]) _).symm
    rcases result with f | _ | next
    · exact walked_failed hr f (.reported rejects) from_ pushes rfl rfl
    · let run₁ := { run with stages := run.stages ++ [stage.name], outcome := outcome }
      have ended := @walked_over _ hr s s u stage run run₁ _ _ _ none (.reported rejects)
        from_ pushes rfl rfl
      rwa [Option.or_none] at ended
    · exact absurd rfl (last next)
  | called _ _ ds _ calls number does =>
    have from_ : Does ds [] (s.core.entering stage) u.core :=
      (Core.entering_of_later calls.later s.core).symm ▸ does
    rcases result with f | _ | next
    · exact walked_failed hr f (.called ds _ _ calls.of_stages nofun) from_ (Does.refl _).pushes
        rfl number
    · have ended := walked_over hr none (.called ds _ _ calls.of_stages nofun) from_
        (Does.refl _).pushes rfl number
      rwa [Option.or_none] at ended
    · exact .onward u run₁ next ds calls.of_stages does

end Session

/-! ### Runs that are given up -/

/-- A run is given up: its module is disposed and its mark taken back, and that is all. -/
structure GivenUp (run : Run) (closing : Closing) (s t : Session Action) : Prop where
  releases : ∃ rs, Releases run.generation run.module rs ∧ Does rs [] s.core t.core
  closed : Alters (Face.close run closing) [] s.core t.core
  untold : run.announced = true → ∀ fault, closing ≠ .told fault
  dead : t.state.alive = false

namespace Session

variable {react : React Action} {s t : Session Action}

variable (hr : Reacts (fun _ => True) react)
include hr

/-- A session that was stopped closes a run without a word. -/
theorem givenUp_closeRun {s : Session Action} (dead : s.state.alive = false) (run : Run) :
    ∃ closing : Closing, (s.closeRun react run).2 = ({ run with module := none }, closing.fault) ∧
      GivenUp run closing s (s.closeRun react run).1 := by
  obtain ⟨closing, same, closes, -, untold⟩ := alters_closeRun hr s run
  obtain ⟨rs, u, releases, does, uses, released⟩ := released_releaseModule hr s run
  have dead' : u.state.alive = false := dead_of_uses uses dead
  have closed : Does rs [] s.core (s.closeRun react run).1.core ∧
      (s.closeRun react run).1.state.alive = false := by
    unfold closeRun
    rcases released with eq | ⟨why, eq⟩
    · rw [eq]
      simp only [dead', Bool.false_eq_true, if_false]
      split
      · exact ⟨does.after (.of_state rfl rfl rfl), dead'⟩
      · exact ⟨does, dead'⟩
    · rw [eq]
      have noted : Beside u.core (u.mark (.unreleased run.generation why)).core :=
        .of_note (.unreleased run.generation why) rfl rfl id
      exact ⟨does.after noted, dead'⟩
  exact ⟨closing, same, ⟨rs, releases, closed.1⟩, closes, untold dead, closed.2⟩

/-- **A session that was stopped gives the run up before the next stage.** -/
theorem givenUp_stepRun {s : Session Action} (dead : s.state.alive = false) (stage : Stage)
    (run : Run) :
    ∃ t closing, s.stepRun react stage run = (t, .over { run with module := none } closing.fault) ∧
      GivenUp run closing s t := by
  obtain ⟨closing, same, ⟨rs, releases, does⟩, closed, untold, gone⟩ :=
    givenUp_closeRun hr (s := s.write .debug pipelineLogger (abandonedMessage run)) dead run
  refine ⟨_, closing, ?_, ⟨rs, releases, does⟩, closed, untold, gone⟩
  rw [stepRun_of_dead dead]
  simp only [same]

end Session

end Playground
