import Mathlib.Data.List.Induction
import Playground.Proofs.Commitments
import Playground.Proofs.Conduct
import Playground.Proofs.Legible

/-!
# What a run computes

Whatever earlier cycles have left behind, a run that nothing interrupts ends in an outcome that is a
function of its request and of the compiler's conduct, and shows this outcome and nothing else.

* `Conduct.outcome` — the outcome that a conduct leads to, or the fault of wording its cause;
  `Conduct.ending` — what a run comes to where a report may fail.
* `Conduct.unreleased?` — the fault with which a run ends that cannot release its module.
* `Outcome.errorCount`, `Outcome.annotations`, `Outcome.messages` — what is shown for an outcome.
* `State.after` — the state after a run with an outcome.
* `runPipeline_computes` — a run computes this outcome and leaves this state.
-/

namespace Playground

open Session

/-! ### The reference -/

/-- The outcome of a failure that is no rejection: the message names the compiler and words the
cause. A cause that has no wording leads to none. -/
def Outcome.internal (compiler : String) (cause : Fault) : Except Fault Outcome :=
  cause.wording.map fun text =>
    .internalError ("<" ++ compiler ++ "> internal error:\n" ++ text)

/-- The outcome where the compile call fails, or the question for its diagnostics: a rejection is a
failure, and a crash counts as its cause. -/
def Outcome.ofRefusal (compiler : String) (f : Fault) : Except Fault Outcome :=
  match f.diagnostics? with
  | some diagnostics => .ok (.failure diagnostics)
  | none => Outcome.internal compiler f.cause

/-- The fault itself, or where it has no wording the fault of wording it. -/
def Fault.voiced (f : Fault) : Fault :=
  match f.wording with
  | .ok _ => f
  | .error why => why

/-- The outcome that the conduct of a module leads to. Only the validation can reject the input; in
the emission a fault of the disposal wins over all others. -/
def ModuleConduct.outcome (compiler : String) (c : ModuleConduct) : Except Fault Outcome :=
  match c.validate, c.optimize, c.dispose, c.emit with
  | some cause, _, _, _ =>
    match cause.diagnostics? with
    | some diagnostics => .ok (.failure diagnostics)
    | none => Outcome.internal compiler cause.voiced
  | none, some cause, _, _ => Outcome.internal compiler cause.voiced
  | none, none, some cause, _ => Outcome.internal compiler cause.voiced
  | none, none, none, .error cause => Outcome.internal compiler cause.voiced
  | none, none, none, .ok artifact => .ok (.success artifact.text artifact.binary)

/-- The outcome that the conduct of a compiler leads to. -/
def Conduct.outcome (compiler : String) : Conduct → Except Fault Outcome
  | .fails f => Outcome.ofRefusal compiler f
  | .rejects (.error f) => Outcome.ofRefusal compiler f
  | .rejects (.ok diagnostics) => .ok (.failure diagnostics)
  | .produces module => module.outcome compiler

/-- What a release comes to that ends so: a fault without a wording cannot be noted. -/
def unreleased? (disposal : Option Fault) : Option Fault :=
  disposal.bind fun f => failureOf f.headline

/-- The fault with which a run ends whose module cannot be released. A module is left behind where
its validation or its optimization fails. -/
def Conduct.unreleased? : Conduct → Option Fault
  | .produces c =>
    if c.validate.isSome || c.optimize.isSome then Playground.unreleased? c.dispose else none
  | _ => none

theorem Conduct.unreleased?_of_failed {c : ModuleConduct}
    (failed : (c.validate.isSome || c.optimize.isSome) = true) :
    (Conduct.produces c).unreleased? = Playground.unreleased? c.dispose := if_pos failed

namespace Outcome

def errorCount : Outcome → Int
  | success .. => 0
  | failure diagnostics => diagnostics.length
  | internalError _ => 1

def annotations (maxErrors : Int) : Outcome → List Annotation
  | failure diagnostics =>
    match annotationsOf (firstMembers maxErrors diagnostics) with
    | .ok annotations => annotations
    | .error _ => []
  | _ => []

def messages (maxErrors : Int) : Outcome → List String
  | success .. => []
  | failure diagnostics =>
    firstMembers maxErrors diagnostics ++
      if maxErrors < diagnostics.length then [tooManyErrorsMessage diagnostics.length] else []
  | internalError message => [message]

def artifact? : Outcome → Option Artifact
  | success text binary => some ⟨text, binary⟩
  | _ => none

/-- The diagnostics of an outcome can be reported. -/
def Reportable (maxErrors : Int) : Outcome → Prop
  | failure diagnostics => ∃ limited, limitDiagnostics diagnostics maxErrors = .ok limited
  | _ => True

/-- What the report of an outcome comes to: the outcome, unless its diagnostics cannot be read. -/
def report (maxErrors : Int) : Outcome → Except Fault Outcome
  | failure diagnostics =>
    (limitDiagnostics diagnostics maxErrors).map fun _ => .failure diagnostics
  | o => .ok o

theorem report_of_reportable {maxErrors : Int} {o : Outcome} (h : o.Reportable maxErrors) :
    o.report maxErrors = .ok o := by
  cases o with
  | failure diagnostics =>
    obtain ⟨limited, limits⟩ := h
    simp only [report, limits, Except.map]
  | _ => rfl

theorem report_eq_ok {maxErrors : Int} {o o' : Outcome} (h : o.report maxErrors = .ok o') :
    o = o' ∧ o.Reportable maxErrors := by
  cases o with
  | failure diagnostics =>
    cases limits : limitDiagnostics diagnostics maxErrors with
    | ok limited =>
      simp only [report, limits, Except.map, Except.ok.injEq] at h
      exact ⟨h, limited, limits⟩
    | error f => simp [report, limits, Except.map] at h
  | _ => cases h; exact ⟨rfl, trivial⟩

theorem report_eq_error {maxErrors : Int} {o : Outcome} {f : Fault}
    (h : o.report maxErrors = .error f) :
    ∃ diagnostics, o = .failure diagnostics ∧
      limitDiagnostics diagnostics maxErrors = .error f := by
  cases o with
  | failure diagnostics =>
    cases limits : limitDiagnostics diagnostics maxErrors with
    | ok limited => simp [report, limits, Except.map] at h
    | error g =>
      simp only [report, limits, Except.map, Except.error.injEq] at h
      exact ⟨diagnostics, rfl, h ▸ limits⟩
  | _ => cases h

/-- An internal error is always reported. -/
theorem report_internal (compiler : String) (maxErrors : Int) (f : Fault) :
    (internal compiler f).bind (report maxErrors) = internal compiler f := by
  unfold internal
  cases f.wording <;> rfl

end Outcome

/-- What the report of a run comes to: an outcome, or the fault of a report that nobody watches
over. Where the compile call rejected the text with diagnostics that cannot be read, somebody does,
and the outcome is an internal error. -/
def Conduct.ending (compiler : String) (maxErrors : Int) : Conduct → Except Fault Outcome
  | .rejects (.ok diagnostics) =>
    match limitDiagnostics diagnostics maxErrors with
    | .ok _ => .ok (.failure diagnostics)
    | .error f => Outcome.internal compiler f
  | c => (c.outcome compiler).bind (Outcome.report maxErrors)

theorem Conduct.ending_of_reportable {compiler : String} {maxErrors : Int} {c : Conduct}
    {o : Outcome} (leads : c.outcome compiler = .ok o) (h : o.Reportable maxErrors) :
    c.ending compiler maxErrors = .ok o := by
  unfold Conduct.ending
  split
  next diagnostics =>
    cases leads
    obtain ⟨limited, limits⟩ := h
    simp only [limits]
  next =>
    rw [leads]
    exact Outcome.report_of_reportable h

def Notifications.ofMessages (dismissAfterMs : Int) (messages : List String) : Notifications where
  dismissAfterMs
  items := (messages.zipIdx 1).map fun m => ⟨m.2, m.2, m.1, dismissAfterMs⟩
  count := messages.length

def Notifications.pushed (mode : CompileMode) (q : Notifications) (message : String) :
    Notifications := (q.push mode message).1

def State.reported (st : State) (maxErrors : Int) (o : Outcome) : State :=
  { st with
    outcome := some o
    errorCount := o.errorCount
    annotations := o.annotations maxErrors
    artifact := o.artifact?.getD st.artifact
    notifications := (o.messages maxErrors).foldl (.pushed st.compileMode) st.notifications }

/-- The state after a run: what earlier runs have shown is gone, except for the artifact where the
run has none. -/
def State.after (st : State) (maxErrors : Int) (o : Outcome) : State :=
  { st with
    generation := st.generation + 1
    outcome := some o
    errorCount := o.errorCount
    annotations := o.annotations maxErrors
    artifact := o.artifact?.getD st.artifact
    notifications := .ofMessages st.notifications.dismissAfterMs
      (if st.compileMode = .auto then [] else o.messages maxErrors) }

def Run.entered (run : Run) (stage : Stage) : Run :=
  { run with stages := run.stages ++ [stage.name] }

/-! ### Messages -/

theorem Notifications.foldl_pushed_auto (q : Notifications) (messages : List String) :
    messages.foldl (pushed .auto) q = q := by
  induction messages with
  | nil => rfl
  | cons m ms ih => exact ih

/-- A queue that was cleared holds the messages that were pushed since. -/
theorem Notifications.foldl_pushed_clear (q : Notifications) {mode : CompileMode}
    (heard : mode ≠ .auto) (messages : List String) :
    messages.foldl (pushed mode) q.clear = .ofMessages q.dismissAfterMs messages := by
  induction messages using List.reverseRecOn with
  | nil => rfl
  | append_singleton ms m ih =>
    rw [List.foldl_append, ih]
    unfold pushed push ofMessages
    simp [heard, next, List.zipIdx_append]
    omega

namespace Session

variable {s t u : Session Action}

def pushAll (messages : List String) (st : State) : State :=
  { st with notifications := messages.foldl (.pushed st.compileMode) st.notifications }

theorem keeps_notify (observed : s.Observed) (message : String) :
    Keeps unnoted (s.modifyState (pushAll [message])) (s.notify Session.react message).1 ∧
      (s.notify Session.react message).2 = none := by
  have same : s.modifyState (pushAll [message]) = s.modifyState fun st =>
      { st with notifications := (s.state.notifications.push s.state.compileMode message).1 } := rfl
  rw [same]
  unfold notify
  rcases pushes : s.state.notifications.push s.state.compileMode message with ⟨queue, _ | n⟩
  · -- nothing is pushed while every edit compiles
    obtain rfl : queue = s.state.notifications := by
      unfold Notifications.push at pushes
      split at pushes <;> cases pushes
      rfl
    exact ⟨.refl s, rfl⟩
  · exact keeps_tell (s := s.modifyState fun st => { st with notifications := queue }) observed _ _

theorem keeps_reportMessage (observed : s.Observed) (message : String) :
    Keeps unnoted (s.modifyState (pushAll [message])) (s.reportMessage Session.react message).1 ∧
      (s.reportMessage Session.react message).2 = none := by
  have written := keeps_write s .error pipelineLogger message
  obtain ⟨keeps, whole⟩ := keeps_notify (written.observed observed) message
  exact ⟨(written.modifyState _).trans keeps, whole⟩

theorem keeps_reportMessages (observed : s.Observed) (messages : List String) :
    Keeps unnoted (s.modifyState (pushAll messages)) (s.reportMessages Session.react messages).1 ∧
      (s.reportMessages Session.react messages).2 = none := by
  induction messages generalizing s with
  | nil => exact ⟨.refl s, rfl⟩
  | cons m ms ih =>
    obtain ⟨first, whole⟩ := keeps_reportMessage observed m
    unfold reportMessages
    rcases hx : s.reportMessage Session.react m with ⟨t, _ | f⟩ <;> rw [hx] at first whole
    · obtain ⟨further, whole⟩ := ih (first.observed observed)
      exact ⟨(first.modifyState (pushAll ms)).trans further, whole⟩
    · cases whole

/-! ### Reports -/

/-- What limited diagnostics show is what is shown for the failure. -/
theorem shown_of_limited {diagnostics : List String} {maxErrors : Int}
    {limited : LimitedDiagnostics} (h : limitDiagnostics diagnostics maxErrors = .ok limited) :
    limited.total = diagnostics.length ∧
      limited.annotations = (Outcome.failure diagnostics).annotations maxErrors ∧
      limited.shown ++ limited.summary.toList =
        (Outcome.failure diagnostics).messages maxErrors := by
  obtain ⟨annotations, made, rfl⟩ := limitDiagnostics_eq_ok.1 h
  unfold Outcome.annotations Outcome.messages
  refine ⟨rfl, by simp only [made], congrArg _ ?_⟩
  dsimp only
  split <;> rfl

theorem reportFailure_of_reportable (observed : s.Observed) (run : Run)
    {diagnostics : List String}
    (legible : (Outcome.failure diagnostics).Reportable s.settings.maxPrintingErrors) :
    ∃ t, reportFailure Session.react run diagnostics s =
        (t, { run with outcome := some (.failure diagnostics) }, none) ∧
      Keeps unnoted (s.modifyState fun st =>
        st.reported s.settings.maxPrintingErrors (.failure diagnostics)) t := by
  obtain ⟨limited, limits⟩ := legible
  obtain ⟨total, annotations, messages⟩ := shown_of_limited limits
  obtain ⟨pushed, whole⟩ := keeps_reportMessages
    (s := s.modifyState fun st =>
      { st with outcome := some (.failure diagnostics), errorCount := limited.total }) observed
    ((Outcome.failure diagnostics).messages s.settings.maxPrintingErrors)
  unfold reportFailure
  simp only [limits, messages]
  rcases hx : (s.modifyState fun st => { st with
      outcome := some (.failure diagnostics), errorCount := limited.total }).reportMessages
    Session.react ((Outcome.failure diagnostics).messages s.settings.maxPrintingErrors) with
    ⟨t, _ | f⟩ <;> rw [hx] at pushed whole
  · refine ⟨_, rfl, ?_⟩
    have annotated := pushed.modifyState fun st => { st with annotations := limited.annotations }
    rw [annotations, total] at annotated
    rw [annotations]
    exact annotated
  · cases whole

theorem internalErrorMessage_of_leads {compiler : String} {f : Fault} {o : Outcome}
    (leads : Outcome.internal compiler f.cause = .ok o) :
    ∃ message, internalErrorMessage compiler f = .ok message ∧ o = .internalError message := by
  unfold Outcome.internal at leads
  unfold internalErrorMessage
  cases hw : f.cause.wording with
  | error why =>
    rw [hw] at leads
    cases leads
  | ok text =>
    rw [hw] at leads
    exact ⟨_, rfl, (Except.ok.inj leads).symm⟩

theorem internalErrorMessage_of_unvoiced {compiler : String} {f why : Fault}
    (leads : Outcome.internal compiler f.cause = .error why) :
    internalErrorMessage compiler f = .error why := by
  unfold Outcome.internal at leads
  unfold internalErrorMessage
  cases hw : f.cause.wording with
  | error why' =>
    rw [hw] at leads
    cases leads
    rfl
  | ok text =>
    rw [hw] at leads
    cases leads

theorem reportInternalError_of_observed (observed : s.Observed) (run : Run) {f : Fault}
    {o : Outcome} (leads : Outcome.internal run.request.compiler f.cause = .ok o) :
    ∃ t, reportInternalError Session.react run f s = (t, { run with outcome := some o }, none) ∧
      Keeps unnoted (s.modifyState fun st => st.reported s.settings.maxPrintingErrors o) t := by
  obtain ⟨message, words, rfl⟩ := internalErrorMessage_of_leads leads
  have written := (keeps_write (s.modifyState fun st =>
    { st with
      outcome := some (.internalError message), errorCount := 1, annotations := [] })
    .error pipelineLogger message).trans
      (keeps_write _ .debug pipelineLogger ("<traceback> " ++ f.traced))
  obtain ⟨keeps, whole⟩ := keeps_notify (written.observed observed) message
  unfold reportInternalError
  rw [words]
  exact ⟨_, congrArg (fun fault => (_, _, fault)) whole, (written.modifyState _).trans keeps⟩

/-- A fault of a stage is reported as a failure where it is a rejection, and else as an internal
error that words the cause. -/
theorem reportFault_of_reportable (observed : s.Observed) (alive : s.state.alive = true)
    (run : Run) {f : Fault} {o : Outcome}
    (leads : Outcome.ofRefusal run.request.compiler f = .ok o)
    (legible : o.Reportable s.settings.maxPrintingErrors) :
    ∃ t, reportFault Session.react run f s = (t, { run with outcome := some o }, none) ∧
      Keeps unnoted (s.modifyState fun st => st.reported s.settings.maxPrintingErrors o) t := by
  unfold Outcome.ofRefusal at leads
  unfold reportFault
  rw [if_pos alive]
  cases hf : f.diagnostics? with
  | some diagnostics =>
    rw [hf] at leads
    cases leads
    exact reportFailure_of_reportable observed run legible
  | none =>
    rw [hf] at leads
    exact reportInternalError_of_observed observed run leads

/-- A rejection whose diagnostics cannot be read is not reported, and neither is a fault whose cause
has no wording. -/
theorem reportFault_of_unreadable (alive : s.state.alive = true) (run : Run) {f g : Fault}
    (fails : (Outcome.ofRefusal run.request.compiler f).bind
      (Outcome.report s.settings.maxPrintingErrors) = .error g) :
    reportFault Session.react run f s = (s, run, some g) := by
  unfold Outcome.ofRefusal at fails
  unfold reportFault
  rw [if_pos alive]
  cases hf : f.diagnostics? with
  | some diagnostics =>
    rw [hf] at fails
    have fails :
        (Outcome.failure diagnostics).report s.settings.maxPrintingErrors = .error g := fails
    obtain ⟨diagnostics', same, limits⟩ := Outcome.report_eq_error fails
    cases same
    unfold reportFailure
    simp only [limits]
  | none =>
    rw [hf] at fails
    dsimp only at fails ⊢
    cases internal : Outcome.internal run.request.compiler f.cause with
    | error why =>
      rw [internal] at fails
      cases fails
      unfold reportInternalError
      rw [internalErrorMessage_of_unvoiced internal]
    | ok o =>
      obtain ⟨message, -, rfl⟩ := internalErrorMessage_of_leads internal
      rw [internal] at fails
      cases fails

theorem Fault.plain_of_unowned {f : Fault} (h : f.isOwn = false) :
    f.diagnostics? = none ∧ f.crashed? = none := by
  induction f with
  | mute guise kind message ih => exact ih h
  | _ => first | exact ⟨rfl, rfl⟩ | cases h

/-- What keeps a report from being made counts as itself. -/
theorem ofRefusal_of_unreadable {diagnostics : List String} {maxErrors : Int} {f : Fault}
    (compiler : String) (h : limitDiagnostics diagnostics maxErrors = .error f) :
    Outcome.ofRefusal compiler f = Outcome.internal compiler f := by
  obtain ⟨plain, uncrashed⟩ := Fault.plain_of_unowned (unowned_limitDiagnostics _ _ f h).1
  unfold Outcome.ofRefusal Fault.cause
  rw [plain, uncrashed]
  rfl

/-! ### The end of a run -/

/-- A module that is left is released, unless its disposal fails without a wording. -/
theorem keeps_releaseModule (run : Run) (passive : ∀ m, run.module = some m → s.Passive m) :
    ∃ t, s.releaseModule Session.react run =
        (t, run.module.bind fun m => unreleased? (disposal m)) ∧ Keeps unnoted s t := by
  unfold releaseModule
  cases left : run.module with
  | none => exact ⟨s, rfl, .refl s⟩
  | some m =>
    obtain ⟨t, disposes, keeps⟩ := disposeModule_of_passive (passive m left) run.generation
    simp only [disposes]
    show ∃ t, _ = (t, unreleased? (disposal m)) ∧ _
    cases disposal m with
    | none => exact ⟨t, rfl, keeps⟩
    | some f =>
      show ∃ t, _ = (t, failureOf f.headline) ∧ _
      cases headline : f.headline with
      | ok text =>
        simp only [Option.elim_some, headline]
        exact ⟨_, rfl, keeps.trans (keeps_write _ _ _ _)⟩
      | error why =>
        simp only [Option.elim_some, headline]
        exact ⟨_, rfl, keeps.trans (keeps_mark _ _)⟩

/-- The session with the busy mark taken back. -/
def unmarked (s : Session Action) : Session Action := { s with indicator := s.indicator.finish }

/-- The session after the end of a run, which takes the busy mark back unless a module could not be
released. -/
def closed (stuck : Option Fault) (s : Session Action) : Session Action :=
  if stuck.isSome then s else s.unmarked

theorem closeRun_of_passive (observed : s.Observed) {run : Run} (announced : run.announced = true)
    (passive : ∀ m, run.module = some m → s.Passive m) {stuck : Option Fault}
    (left : (run.module.bind fun m => unreleased? (disposal m)) = stuck) :
    ∃ t, closeRun Session.react run s = (t, { run with module := none }, stuck) ∧
      Keeps unnoted (s.closed stuck) t := by
  obtain ⟨t, releases, keeps⟩ := keeps_releaseModule run passive
  rw [left] at releases
  unfold closeRun
  rw [releases]
  cases stuck with
  | some f => exact ⟨t, rfl, keeps⟩
  | none =>
    have finished : Keeps unnoted s.unmarked t.unmarked :=
      ⟨congrArg unmarked keeps.seen, keeps.observed⟩
    dsimp only
    rw [if_pos announced]
    split
    · obtain ⟨told, whole⟩ := keeps_tell (s := t.unmarked) (keeps.observed observed) compileFinished
        (finishedData { run with module := none } t.state.errorCount)
      exact ⟨_, congrArg (fun fault => (_, _, fault)) whole, finished.trans told⟩
    · exact ⟨_, rfl, finished⟩

theorem Keeps.framedState (h : Keeps frame s t) (f : State → State) :
    Keeps frame (s.modifyState f) (t.modifyState f) :=
  ⟨congrArg (fun u : Session Action => u.modifyState f) h.seen, h.observed⟩

/-- The session after a run that it had announced, but for its compilers and notes. -/
def concluded (s : Session Action) (stuck : Option Fault) (o : Outcome) : Session Action :=
  (s.modifyState fun st => st.reported s.settings.maxPrintingErrors o).closed stuck

/-- A run came to its end: it fails where its report fails or its module cannot be released, and the
outcome is shown where there is one. -/
structure Concludes (s : Session Action) (e : Except Fault Outcome) (stuck : Option Fault)
    (r : Session Action × Run × Option Fault) : Prop where
  returns : r.2.2 = stuck.or (failureOf e)
  outcome : ∀ o, e = .ok o → r.2.1.outcome = some o
  keeps : ∀ o, e = .ok o → Keeps frame (s.concluded stuck o) r.1

theorem Keeps.closed (h : Keeps frame s t) (stuck : Option Fault) :
    Keeps frame (s.closed stuck) (t.closed stuck) := by
  cases stuck with
  | none => exact ⟨congrArg unmarked h.seen, h.observed⟩
  | some f => exact h

theorem Keeps.concluded (h : Keeps frame s t) (stuck : Option Fault) (o : Outcome) :
    Keeps frame (s.concluded stuck o) (t.concluded stuck o) := by
  unfold Session.concluded
  rw [h.settings]
  exact (h.framedState _).closed stuck

/-- A run that nothing interrupts, after it was announced. -/
structure Proceeds (s : Session Action) (run : Run) : Prop where
  observed : s.Observed
  alive : s.state.alive = true
  blank : s.state.annotations = []
  announced : run.announced = true

variable {run run' : Run} {o : Outcome} {e : Except Fault Outcome} {stage next : Stage} {f : Fault}
  {stuck : Option Fault}

theorem Proceeds.keeps (h : Proceeds s run) (keeps : Keeps frame s t)
    (announced : run'.announced = run.announced) : Proceeds t run' where
  observed := keeps.observed h.observed
  alive := keeps.state ▸ h.alive
  blank := keeps.state ▸ h.blank
  announced := announced.trans h.announced

/-- A stage that another one follows. -/
theorem runFrom_of_next (fuel : Nat) (stage : Stage) (alive : s.state.alive = true)
    (step : runStage Session.react stage (run.entered stage) s = (t, run', .ok (some next))) :
    runFrom Session.react (fuel + 1) stage run s = runFrom Session.react fuel next run' t := by
  unfold Run.entered at step
  conv_lhs => unfold runFrom stepRun
  rw [if_pos alive, step]

/-- A stage that ends the run. -/
theorem runFrom_of_end (fuel : Nat) (stage : Stage) (alive : s.state.alive = true)
    (step : runStage Session.react stage (run.entered stage) s = (t, run', .ok none)) :
    runFrom Session.react (fuel + 1) stage run s = closeRun Session.react run' t := by
  unfold Run.entered at step
  conv_lhs => unfold runFrom stepRun
  rw [if_pos alive, step]

/-- A stage that fails. -/
theorem runFrom_of_fault (fuel : Nat) (stage : Stage) (alive : s.state.alive = true)
    (step : runStage Session.react stage (run.entered stage) s = (t, run', .error f))
    {run'' : Run} {fault : Option Fault}
    (reports : reportFault Session.react run' f (t.mark (.raised stage f)) = (u, run'', fault)) :
    runFrom Session.react (fuel + 1) stage run s =
      ((closeRun Session.react run'' u).1, (closeRun Session.react run'' u).2.1,
        (closeRun Session.react run'' u).2.2.or fault) := by
  unfold Run.entered at step
  conv_lhs => unfold runFrom stepRun
  rw [if_pos alive, step]
  simp only [reports]

theorem Concludes.of_keeps {r : Session Action × Run × Option Fault} (h : Concludes t e stuck r)
    (keeps : Keeps frame s t) : Concludes s e stuck r :=
  ⟨h.returns, h.outcome, fun o eq => (keeps.concluded stuck o).trans (h.keeps o eq)⟩

theorem concludes_of_next (fuel : Nat) (proceeds : Proceeds s run)
    (step : runStage Session.react stage (run.entered stage) s = (t, run', .ok (some next)))
    (keeps : Keeps frame s t)
    (rest : Concludes t e stuck (runFrom Session.react fuel next run' t)) :
    Concludes s e stuck (runFrom Session.react (fuel + 1) stage run s) := by
  rw [runFrom_of_next fuel stage proceeds.alive step]
  exact rest.of_keeps keeps

/-- What has been reported before the run is closed is what the run concludes with. -/
theorem concludes_of_reported (observed : t.Observed) (announced : run.announced = true)
    (passive : ∀ m, run.module = some m → t.Passive m)
    (left : (run.module.bind fun m => unreleased? (disposal m)) = stuck)
    (outcome : run.outcome = some o)
    (keeps : Keeps frame
      (s.modifyState fun st => st.reported s.settings.maxPrintingErrors o) t) :
    Concludes s (.ok o) stuck (closeRun Session.react run t) := by
  obtain ⟨u, closes, closed⟩ := closeRun_of_passive observed announced passive left
  rw [closes]
  refine ⟨(Option.or_none).symm, ?_, ?_⟩ <;> rintro _ ⟨⟩
  · exact outcome
  · exact (keeps.closed stuck).trans closed.framed

/-- A stage that fails concludes the run with the outcome of its fault, if that can be reported. -/
theorem concludes_of_fault (fuel : Nat) (proceeds : Proceeds s run)
    (step : runStage Session.react stage (run.entered stage) s = (t, run', .error f))
    (keeps : Keeps frame s t) (announced : run'.announced = true)
    (passive : ∀ m, run'.module = some m → t.Passive m)
    (left : (run'.module.bind fun m => unreleased? (disposal m)) = stuck)
    (ends : (Outcome.ofRefusal run'.request.compiler f).bind
      (Outcome.report s.settings.maxPrintingErrors) = e) :
    Concludes s e stuck (runFrom Session.react (fuel + 1) stage run s) := by
  have noted := keeps_mark t (.raised stage f)
  have onward := keeps.trans noted.framed
  have settings : (t.mark (.raised stage f)).settings = s.settings := onward.settings
  have alive : (t.mark (.raised stage f)).state.alive = true := onward.state ▸ proceeds.alive
  have observed := onward.observed proceeds.observed
  cases e with
  | error g =>
    have fails := reportFault_of_unreadable alive run' (settings ▸ ends)
    rw [runFrom_of_fault fuel stage proceeds.alive step fails]
    obtain ⟨u, closes, -⟩ := closeRun_of_passive observed announced
      (fun m h => (passive m h).keeps noted) left
    rw [closes]
    exact ⟨rfl, nofun, nofun⟩
  | ok o =>
    cases leads : Outcome.ofRefusal run'.request.compiler f with
    | error g =>
      rw [leads] at ends
      cases ends
    | ok o' =>
      rw [leads] at ends
      obtain ⟨rfl, legible⟩ := Outcome.report_eq_ok ends
      obtain ⟨u, reports, reported⟩ :=
        reportFault_of_reportable observed alive run' leads (settings ▸ legible)
      have passive' (m : Module) (h : run'.module = some m) : u.Passive m :=
        (((passive m h).keeps noted).modifyState _).keeps reported
      have shown : Keeps frame
          (s.modifyState fun st => st.reported s.settings.maxPrintingErrors o') u := by
        rw [settings] at reported
        exact (onward.framedState _).trans reported.framed
      rw [runFrom_of_fault fuel stage proceeds.alive step reports, Option.or_none]
      exact concludes_of_reported (reported.observed observed) announced passive' left rfl shown

/-! ### The stages -/

variable {m : Module}

/-- A fault in a stage after compilation counts as itself, as far as it has a wording. -/
theorem ofRefusal_inStage (compiler stage : String) (f : Fault) :
    Outcome.ofRefusal compiler (f.inStage stage) = Outcome.internal compiler f.voiced := by
  unfold Fault.inStage Fault.voiced
  cases hw : f.wording with
  | ok text => rfl
  | error why =>
    obtain ⟨kind, message, rfl⟩ : ∃ kind message, why = .foreign kind message := by
      cases f <;> cases hw
      exact ⟨_, _, rfl⟩
    rfl

/-- What a module does before its disposal does not decide over its release. -/
theorem unreleased?_moduleConduct (s : Session Action) (m : Module) (validates optimizes : Bool) :
    Playground.unreleased? (s.moduleConduct m validates optimizes).dispose =
      Playground.unreleased? (disposal m) := by
  have held (b : Bytecode.Module) : Playground.unreleased? (failureOf b.dispose.2) = none := by
    unfold Bytecode.Module.dispose
    cases b.held <;> rfl
  cases m with
  | scripted => rfl
  | bytecode compiler b => exact (held _).trans (held b).symm

def presented (artifact : Artifact) (st : State) : State :=
  { st with
    artifact := artifact, errorCount := 0
    outcome := some (.success artifact.text artifact.binary) }

/-- On a page without annotations, to show the output of a module is to report the success. -/
theorem reported_success {st : State} (blank : st.annotations = []) (maxErrors : Int)
    (artifact : Artifact) :
    st.reported maxErrors (.success artifact.text artifact.binary) = presented artifact st := by
  unfold State.reported presented
  simp only [Outcome.annotations, ← blank]
  rfl

theorem emitStage_of_passive (run : Run) (there : run.module = some m)
    (passive : s.Passive m) : ∃ t, Keeps frame s t ∧ emitStage Session.react run s =
      match (s.moduleConduct m false false).emitted with
      | .error f => (t, { run with module := none }, .error (f.inStage Stage.emit.name))
      | .ok artifact =>
        ((t.modifyState (presented artifact)).write .verbose pipelineLogger
            (successMessage artifact),
          { run with module := none, outcome := some (.success artifact.text artifact.binary) },
          .ok none) := by
  obtain ⟨t, emits, keeps⟩ := emitAndDispose_of_passive passive run.generation
  refine ⟨t, keeps, ?_⟩
  unfold emitStage
  simp only [there, emits]
  cases (s.moduleConduct m false false).emitted <;> rfl

/-- The outcome that the emission leads to. -/
theorem outcome_of_emitted (s : Session Action) (m : Module) (compiler : String) :
    (s.moduleConduct m false false).outcome compiler =
      match (s.moduleConduct m false false).emitted with
      | .error f => Outcome.internal compiler f.voiced
      | .ok artifact => .ok (.success artifact.text artifact.binary) := by
  have still : (s.moduleConduct m false false).validate = none ∧
      (s.moduleConduct m false false).optimize = none := by cases m <;> exact ⟨rfl, rfl⟩
  unfold ModuleConduct.outcome ModuleConduct.emitted
  rw [still.1, still.2]
  cases (s.moduleConduct m false false).dispose with
  | some f => rfl
  | none => cases (s.moduleConduct m false false).emit <;> rfl

/-- What is left of the conduct of a module leads to a report and a release. -/
def Leads (c : ModuleConduct) (compiler : String) (maxErrors : Int) (e : Except Fault Outcome)
    (stuck : Option Fault) : Prop :=
  (c.outcome compiler).bind (Outcome.report maxErrors) = e ∧
    (Conduct.produces c).unreleased? = stuck

/-- The emission leads to the ending that is left of the conduct. -/
theorem concludes_emit (fuel : Nat) (proceeds : Proceeds s run) (there : run.module = some m)
    (passive : s.Passive m)
    (leads : Leads (s.moduleConduct m false false) run.request.compiler s.settings.maxPrintingErrors
      e stuck) : Concludes s e stuck (runFrom Session.react (fuel + 1) .emit run s) := by
  obtain ⟨t, keeps, step⟩ := emitStage_of_passive (run.entered .emit) there passive
  obtain ⟨leads, rfl⟩ := leads
  have released : (Conduct.produces (s.moduleConduct m false false)).unreleased? = none := by
    cases m <;> rfl
  rw [outcome_of_emitted] at leads
  rw [released]
  cases result : (s.moduleConduct m false false).emitted with
  | error f =>
    rw [result] at step leads
    dsimp only at leads
    -- emission cannot reject the input, so its crash counts as its cause
    rw [← ofRefusal_inStage _ Stage.emit.name] at leads
    exact concludes_of_fault fuel proceeds step keeps proceeds.announced nofun rfl leads
  | ok artifact =>
    rw [result] at step leads
    subst leads
    have shown : Keeps frame
        (s.modifyState fun st => st.reported s.settings.maxPrintingErrors
          (.success artifact.text artifact.binary))
        (t.modifyState (presented artifact)) := by
      have same : (s.modifyState fun st => st.reported s.settings.maxPrintingErrors
          (.success artifact.text artifact.binary)) = s.modifyState (presented artifact) :=
        congrArg (fun st => { s with state := st }) (reported_success proceeds.blank _ _)
      rw [same]
      exact keeps.framedState _
    have written := shown.trans
      (keeps_write _ .verbose pipelineLogger (successMessage artifact)).framed
    rw [runFrom_of_end fuel .emit proceeds.alive step]
    exact concludes_of_reported (written.observed proceeds.observed) proceeds.announced nofun rfl
      rfl
      written

/-- The optimization leads on to the ending that is left of the conduct. -/
theorem concludes_optimize (fuel : Nat) (proceeds : Proceeds s run) (there : run.module = some m)
    (passive : s.Passive m)
    (leads : Leads (s.moduleConduct m false true) run.request.compiler s.settings.maxPrintingErrors
      e stuck) : Concludes s e stuck (runFrom Session.react (fuel + 2) .optimize run s) := by
  obtain ⟨t, m', optimizes, keeps, passive', ahead⟩ :=
    optimizeModule_of_passive passive (run.entered .optimize).generation
  have there' : (run.entered .optimize).module = some m := there
  have still : (s.moduleConduct m false true).validate = none := by cases m <;> rfl
  cases result : (s.moduleConduct m false true).optimize with
  | none =>
    have step : runStage Session.react .optimize (run.entered .optimize) s =
        (t, { run.entered .optimize with module := some m' }, .ok (some .emit)) := by
      unfold runStage optimizeStage
      simp only [there', optimizes, result]
      rfl
    have same : t.moduleConduct m' false false = s.moduleConduct m false true := by
      rw [ahead, ← result]
    exact concludes_of_next (fuel + 1) proceeds step keeps (concludes_emit fuel
      (proceeds.keeps keeps rfl) rfl passive' (same ▸ keeps.settings ▸ leads))
  | some f =>
    have step : runStage Session.react .optimize (run.entered .optimize) s =
        (t, { run.entered .optimize with module := some m' },
          .error (f.inStage Stage.optimize.name)) := by
      unfold runStage optimizeStage
      simp only [there', optimizes, result]
      rfl
    obtain ⟨leads, released⟩ := leads
    have left : Playground.unreleased? (disposal m') = stuck := by
      rw [← unreleased?_moduleConduct t m' false false, ahead, ← released]
      exact (Conduct.unreleased?_of_failed (by rw [result, Option.isSome_some, Bool.or_true])).symm
    unfold ModuleConduct.outcome at leads
    rw [still, result] at leads
    dsimp only at leads
    rw [← ofRefusal_inStage _ Stage.optimize.name] at leads
    exact concludes_of_fault (fuel + 1) proceeds step keeps proceeds.announced
      (fun _ left => Option.some.inj left ▸ passive') left leads

/-- What follows the validation leads to the ending that is left of the conduct. -/
theorem concludes_afterValidate (fuel : Nat) (proceeds : Proceeds s run)
    (there : run.module = some m) (passive : s.Passive m)
    (leads : Leads (s.moduleConduct m false run.request.options.optimize) run.request.compiler
      s.settings.maxPrintingErrors e stuck) :
    Concludes s e stuck (runFrom Session.react (fuel + 2) (afterValidate run) run s) := by
  unfold afterValidate
  cases optimizes : run.request.options.optimize with
  | true =>
    rw [optimizes] at leads
    exact concludes_optimize fuel proceeds there passive leads
  | false =>
    rw [optimizes] at leads
    exact concludes_emit (fuel + 1) proceeds there passive leads

/-- The validation leads on to the ending that is left of the conduct. -/
theorem concludes_validate (fuel : Nat) (proceeds : Proceeds s run) (there : run.module = some m)
    (passive : s.Passive m)
    (leads : Leads (s.moduleConduct m true run.request.options.optimize) run.request.compiler
      s.settings.maxPrintingErrors e stuck) :
    Concludes s e stuck (runFrom Session.react (fuel + 3) .validate run s) := by
  obtain ⟨t, validates, keeps, passive', ahead⟩ := validateModule_of_passive passive
    (run.entered .validate).generation run.request.options.optimize
  have there' : (run.entered .validate).module = some m := there
  cases result : (s.moduleConduct m true run.request.options.optimize).validate with
  | none =>
    have step : runStage Session.react .validate (run.entered .validate) s =
        (t, run.entered .validate, .ok (some (afterValidate (run.entered .validate)))) := by
      unfold runStage validateStage
      simp only [there', validates, result]
      rfl
    have same : t.moduleConduct m false run.request.options.optimize =
        s.moduleConduct m true run.request.options.optimize := by
      rw [ahead, ← result]
    exact concludes_of_next (fuel + 2) proceeds step keeps (concludes_afterValidate fuel
      (proceeds.keeps keeps rfl) there' passive' (same ▸ keeps.settings ▸ leads))
  | some f =>
    have held (m' : Module) (h : (run.entered .validate).module = some m') : t.Passive m' :=
      Option.some.inj (there'.symm.trans h) ▸ passive'
    obtain ⟨leads, released⟩ := leads
    have left : ((run.entered .validate).module.bind fun m =>
        Playground.unreleased? (disposal m)) = stuck := by
      rw [there', ← released, Conduct.unreleased?_of_failed
        (by rw [result, Option.isSome_some, Bool.true_or]), unreleased?_moduleConduct]
      rfl
    obtain ⟨raised, step, refused⟩ : ∃ raised,
        runStage Session.react .validate (run.entered .validate) s =
          (t, run.entered .validate, .error raised) ∧
        (Outcome.ofRefusal run.request.compiler raised).bind
          (Outcome.report s.settings.maxPrintingErrors) = e := by
      unfold runStage validateStage
      simp only [there', validates, result]
      unfold ModuleConduct.outcome at leads
      rw [result] at leads
      dsimp only at leads
      cases hf : f.diagnostics? with
      | some diagnostics =>
        refine ⟨f, by simp [hf], ?_⟩
        unfold Outcome.ofRefusal
        rw [hf] at leads ⊢
        exact leads
      | none =>
        refine ⟨f.inStage Stage.validate.name, by simp [hf], ?_⟩
        rw [hf] at leads
        rw [ofRefusal_inStage]
        exact leads
    exact concludes_of_fault (fuel + 2) proceeds step keeps proceeds.announced held left refused

/-- What follows a compile call that handed out a module leads to the ending of its conduct. -/
theorem concludes_afterInvoke (fuel : Nat) (proceeds : Proceeds s run)
    (there : run.module = some m) (passive : s.Passive m)
    (leads : Leads (s.moduleConduct m run.request.options.validate run.request.options.optimize)
      run.request.compiler s.settings.maxPrintingErrors e stuck) :
    Concludes s e stuck (runFrom Session.react (fuel + 3) (afterInvoke run) run s) := by
  unfold afterInvoke
  cases validates : run.request.options.validate with
  | true =>
    rw [validates] at leads
    exact concludes_validate fuel proceeds there passive leads
  | false =>
    rw [validates] at leads
    exact concludes_afterValidate (fuel + 1) proceeds there passive leads

/-- A rejection leads to a failure, or to an internal error where its diagnostics cannot be read. -/
theorem concludes_reject (fuel : Nat) (proceeds : Proceeds s run) (empty : run.module = none)
    {diagnostics : List String} (noted : run.diagnostics = diagnostics)
    (leads : (Conduct.rejects (.ok diagnostics)).ending run.request.compiler
      s.settings.maxPrintingErrors = e) :
    Concludes s e none (runFrom Session.react (fuel + 1) .reject run s) := by
  subst noted
  have absent (m : Module) (left : run.module = some m) : s.Passive m := by
    cases empty.symm.trans left
  cases limits : limitDiagnostics run.diagnostics s.settings.maxPrintingErrors with
  | error f =>
    have step : runStage Session.react .reject (run.entered .reject) s =
        (s, run.entered .reject, .error f) := by
      unfold runStage rejectStage reportFailure
      rw [show (run.entered .reject).diagnostics = run.diagnostics from rfl]
      simp only [limits]
    have internal : (Outcome.ofRefusal run.request.compiler f).bind
        (Outcome.report s.settings.maxPrintingErrors) = e := by
      rw [← leads, ofRefusal_of_unreadable run.request.compiler limits]
      simp only [Conduct.ending, limits]
      exact Outcome.report_internal _ _ _
    exact concludes_of_fault fuel proceeds step (.refl s) proceeds.announced absent
      (by rw [show (run.entered .reject).module = none from empty]; rfl) internal
  | ok limited =>
    obtain rfl : .ok (.failure run.diagnostics) = e := by
      rw [← leads]
      simp only [Conduct.ending, limits]
    obtain ⟨t, reports, keeps⟩ :=
      reportFailure_of_reportable proceeds.observed (run.entered .reject) ⟨limited, limits⟩
    have step : runStage Session.react .reject (run.entered .reject) s =
        (t, { run.entered .reject with outcome := some (.failure run.diagnostics) }, .ok none) := by
      unfold runStage rejectStage
      rw [show (run.entered .reject).diagnostics = run.diagnostics from rfl, reports]
    rw [runFrom_of_end fuel .reject proceeds.alive step]
    exact concludes_of_reported (keeps.observed proceeds.observed) proceeds.announced
      (fun m left => by cases empty.symm.trans left)
      (by rw [show (run.entered .reject).module = none from empty]; rfl) rfl keeps.framed

/-- The compile call leads to the ending of the compiler's conduct. -/
theorem concludes_invoke (proceeds : Proceeds s run) (empty : run.module = none)
    (unhindered : s.Unhindered run.request.compiler)
    (leads : (s.conduct run.request).ending run.request.compiler s.settings.maxPrintingErrors = e)
    (released : (s.conduct run.request).unreleased? = stuck) :
    Concludes s e stuck (runFrom Session.react 4 .invoke run s) := by
  obtain ⟨t, answer, asks, keeps, answers⟩ :=
    compileSource_of_unhindered unhindered (run.entered .invoke).generation
  have none (m : Module) (h : (run.entered .invoke).module = some m) : t.Passive m := by
    cases empty.symm.trans h
  have step : runStage Session.react .invoke (run.entered .invoke) s = match answer with
      | .error f => (t, run.entered .invoke, .error f)
      | .ok (.error (.error f)) => (t, run.entered .invoke, .error f)
      | .ok (.error (.ok diagnostics)) =>
        (t, { run.entered .invoke with diagnostics := diagnostics }, .ok (some .reject))
      | .ok (.ok m) =>
        (t, { run.entered .invoke with module := some m },
          .ok (some (afterInvoke (run.entered .invoke)))) := by
    unfold runStage invokeStage
    rw [show s.compileSource Session.react (run.entered .invoke).generation
      (run.entered .invoke).request.compiler (run.entered .invoke).request.source
      (run.entered .invoke).request.options = (t, answer) from asks]
    rcases answer with f | ((f | diagnostics) | m) <;> rfl
  have gone : ((run.entered .invoke).module.bind fun m => unreleased? (disposal m)) = .none := by
    rw [show (run.entered .invoke).module = .none from empty]
    rfl
  cases conduct : s.conduct run.request with
  | fails f =>
    rw [conduct] at answers leads released
    obtain rfl : answer = .error f := answers
    exact concludes_of_fault 3 proceeds step keeps proceeds.announced none
      (gone.trans released) leads
  | rejects diagnostics =>
    rw [conduct] at answers leads released
    obtain rfl : answer = .ok (.error diagnostics) := answers
    subst released
    cases diagnostics with
    | error f => exact concludes_of_fault 3 proceeds step keeps proceeds.announced none gone leads
    | ok diagnostics =>
      have onward : Proceeds t { run.entered .invoke with diagnostics := diagnostics } :=
        proceeds.keeps keeps rfl
      exact concludes_of_next 3 proceeds step keeps
        (concludes_reject 2 onward empty rfl (keeps.settings ▸ leads))
  | produces c =>
    rw [conduct] at answers leads released
    obtain ⟨m, rfl, passive, ahead⟩ := answers
    exact concludes_of_next 3 proceeds step keeps (concludes_afterInvoke 0
      (proceeds.keeps keeps rfl) rfl passive (ahead ▸ keeps.settings ▸ ⟨leads, released⟩))

/-! ### The whole run -/

theorem announceStage_of_observed (observed : s.Observed) (run : Run) :
    ∃ t, announceStage Session.react run s =
        (t, { run with announced := true }, .ok (some .invoke)) ∧ Keeps unnoted s.openCycle t := by
  obtain ⟨told, whole⟩ := keeps_tell (s := s.openCycle) observed compileStarted (startedData run)
  unfold announceStage
  rcases hx : s.openCycle.tell Session.react compileStarted (startedData run) with ⟨t, _ | f⟩ <;>
    rw [hx] at told whole
  · exact ⟨t, rfl, told⟩
  · cases whole

theorem concludes_announce (alive : s.state.alive = true) (empty : run.module = none)
    (unhindered : s.Unhindered run.request.compiler)
    (leads : (s.conduct run.request).ending run.request.compiler s.settings.maxPrintingErrors = e)
    (released : (s.conduct run.request).unreleased? = stuck) :
    Concludes s.openCycle e stuck (runFrom Session.react 5 .announce run s) := by
  obtain ⟨t, announces, told⟩ :=
    announceStage_of_observed unhindered.observed (run.entered .announce)
  have ready : s.openCycle.Unhindered run.request.compiler :=
    ⟨unhindered.observed, unhindered.compiles, unhindered.calls⟩
  have proceeds : Proceeds t { run.entered .announce with announced := true } :=
    ⟨told.observed unhindered.observed, told.framed.state ▸ alive, told.framed.state ▸ rfl, rfl⟩
  have step : runStage Session.react .announce (run.entered .announce) s =
      (t, { run.entered .announce with announced := true }, .ok (some .invoke)) := announces
  rw [runFrom_of_next 4 .announce alive step]
  refine Concludes.of_keeps (concludes_invoke proceeds empty (ready.keeps told) ?_ ?_) told.framed
  · rw [told.conduct, told.framed.settings]
    exact leads
  · rw [told.conduct]
    exact released

/-- A run is opened with the next number, and its request as the probe has it. -/
theorem beginRun_of_finalized {request final : Request}
    (finalized : request.finalize s.probe = .ok final) :
    ∃ t run, beginRun request s = (t, .ok run) ∧ run.request = final ∧ run.module = none ∧
      Keeps unnoted (s.modifyState fun st => { st with generation := st.generation + 1 }) t := by
  have probed : request.finalize (s.modifyState fun st =>
      { st with generation := st.generation + 1 }).probe = .ok final := finalized
  unfold beginRun
  simp only [probed]
  refine ⟨_, _, rfl, rfl, rfl, ?_⟩
  split
  · exact keeps_write _ _ _ _
  · exact .refl _

theorem reported_openCycle (s : Session Action) (maxErrors : Int) (o : Outcome) :
    (s.modifyState fun st => { st with generation := st.generation + 1 }).openCycle.state.reported
      maxErrors o = s.state.after maxErrors o := by
  have queue : (o.messages maxErrors).foldl (.pushed s.state.compileMode)
      s.state.notifications.clear = .ofMessages s.state.notifications.dismissAfterMs
        (if s.state.compileMode = .auto then [] else o.messages maxErrors) := by
    split
    next auto => rw [auto, Notifications.foldl_pushed_auto]; rfl
    next heard => exact Notifications.foldl_pushed_clear _ heard _
  unfold State.reported State.after
  rw [← queue]
  rfl

/-- **A run computes its outcome.** In whatever state a session that is alive has been left by
earlier runs, in whatever mode and with whatever limit of errors: take a run whose probe answers,
that nothing interrupts, whose cause of failure, if it has one, has a wording, and whose
diagnostics, if it has any, can be reported. Its outcome is that of the conduct that the compiler
has ready for the request, and the state after it shows this outcome, and nothing that an earlier
run has shown but an artifact where this run has none; nothing else in the session has changed but
what is known of the compilers, and the course. The run returns, unless a module that it leaves
behind cannot be released. -/
theorem runPipeline_computes {request final : Request} {o : Outcome} (alive : s.state.alive = true)
    (finalized : request.finalize s.probe = .ok final)
    (unhindered : s.Unhindered final.compiler)
    (leads : (s.conduct final).outcome final.compiler = .ok o)
    (legible : o.Reportable s.settings.maxPrintingErrors) :
    let stuck := (s.conduct final).unreleased?
    let t := (runPipeline Session.react request s).1
    t.state = s.state.after s.settings.maxPrintingErrors o ∧
      t.frame = { s.frame with
        state := t.state
        indicator := if stuck.isSome then s.indicator.start else s.indicator.start.finish } ∧
      (∀ f, stuck = some f → (runPipeline Session.react request s).2 = .error f) ∧
      (stuck = none → ∃ run, (runPipeline Session.react request s).2 = .ok run ∧
        run.outcome = some o) := by
  obtain ⟨u, run, begins, rfl, empty, begun⟩ := beginRun_of_finalized finalized
  let counted := s.modifyState fun st => { st with generation := st.generation + 1 }
  have ready : counted.Unhindered run.request.compiler :=
    ⟨unhindered.observed, unhindered.compiles, unhindered.calls⟩
  have opened : u.state = counted.state := begun.framed.state
  have settings : u.settings = s.settings := begun.framed.settings
  have ends : (u.conduct run.request).ending run.request.compiler u.settings.maxPrintingErrors =
      .ok o := by
    rw [begun.conduct, settings]
    exact Conduct.ending_of_reportable leads legible
  generalize left : (s.conduct run.request).unreleased? = stuck
  have concludes : Concludes u.openCycle (.ok o) stuck
      (runFrom Session.react (stagesLeft .announce) .announce run u) :=
    concludes_announce (opened ▸ alive) empty (ready.keeps begun) ends
      (begun.conduct run.request ▸ left)
  have whole : runPipeline Session.react request s =
      ((runFrom Session.react (stagesLeft .announce) .announce run u).1,
        (runFrom Session.react (stagesLeft .announce) .announce run u).2.2.elim
          (.ok (runFrom Session.react (stagesLeft .announce) .announce run u).2.1) .error) := by
    unfold runPipeline
    rw [begins]
    dsimp only
    rcases runFrom Session.react (stagesLeft .announce) .announce run u with ⟨t, run, _ | f⟩ <;> rfl
  generalize runFrom Session.react (stagesLeft .announce) .announce run u = r at concludes whole
  obtain ⟨t, run', fault⟩ := r
  have returns : fault = stuck := concludes.returns.trans Option.or_none
  have outcome := concludes.outcome _ rfl
  have keeps : Keeps frame (counted.openCycle.concluded stuck o) t := by
    have reopened : Keeps frame counted.openCycle u.openCycle :=
      ⟨congrArg openCycle begun.framed.seen, begun.observed⟩
    exact (reopened.concluded stuck o).trans (concludes.keeps _ rfl)
  have state : t.state = s.state.after s.settings.maxPrintingErrors o := by
    rw [keeps.state, ← reported_openCycle]
    unfold concluded closed
    split <;> rfl
  have same : (runPipeline Session.react request s).1 = t := by rw [whole]
  refine ⟨same ▸ state, ?_, ?_, ?_⟩
  · rw [same, state, ← reported_openCycle]
    refine keeps.seen.trans ?_
    unfold concluded closed
    cases stuck <;> rfl
  · rintro f rfl
    rw [whole, returns]
    rfl
  · rintro rfl
    rw [whole, returns]
    exact ⟨run', rfl, outcome⟩

/-- A session under the eyes of meddlers that still shows what two earlier runs have left. Its
compiler hands out a module whose text cannot be emitted and whose disposal fails. -/
def litteredSession : Session Action :=
  let compiler : CompilerScript Action :=
    { compiles := ⟨{ verdict := .produces {
        emitText := some (.foreign "OSError" "disk full")
        dispose := some (.foreign "ValueError" "still in use") } }, []⟩ }
  let s := ({ plainOpening with compilers := [("CPython", .scripted compiler)] }.watchedBy
    meddlers).session
  { s with
    state := { s.state with
      alive := true, compileMode := .manual, generation := 2, errorCount := 3
      outcome := some (.failure ["ERROR (3,1): name", "ERROR (4,1): name", "ERROR (5,1): name"])
      annotations := [⟨2, .error, "name"⟩], artifact := ⟨"listing", [1, 2]⟩
      notifications := { items := [⟨2, 3, "ERROR (5,1): name", 5000⟩], count := 3 } }
    loaded := [("CPython", { version := "1.0" })] }

theorem runPipeline_computes_littered :
    let s := litteredSession
    let message := "<CPython> internal error:\nstill in use"
    s.Unhindered "CPython" ∧ ∃ t run,
      runPipeline Session.react s.buildRequest s = (t, .ok run) ∧
      run.outcome = some (.internalError message) ∧ t.state.errorCount = 1 ∧
      t.state.annotations = [] ∧ t.state.artifact = ⟨"listing", [1, 2]⟩ ∧
      t.state.notifications = { items := [⟨1, 1, message, 5000⟩], count := 1 } := by
  intro s message
  have unhindered : s.Unhindered "CPython" := by
    obtain ⟨harmless, worded⟩ := meddlers_harmless
    refine ⟨fun l hl => ⟨harmless l hl, worded l hl⟩, ?_, ?_⟩ <;> rintro script ⟨⟩
    · rfl
    · exact fun _ => rfl
  let final : Request := { s.buildRequest with finalized := true }
  have finalized : s.buildRequest.finalize s.probe = .ok final := rfl
  have leads : (s.conduct final).outcome final.compiler = .ok (.internalError message) := rfl
  obtain ⟨state, -, -, returns⟩ :=
    runPipeline_computes (s := s) (by decide) finalized unhindered leads trivial
  obtain ⟨run, returned, ends⟩ := returns rfl
  generalize runPipeline Session.react s.buildRequest s = r at state returned
  refine ⟨unhindered, r.1, run, Prod.ext rfl returned, ends, ?_⟩
  rw [state]
  decide

end Session

end Playground
