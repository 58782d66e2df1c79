import Playground.Proofs.Refusals
import Playground.Proofs.Visits

/-!
# Calls that are under way

A server makes a few calls only. Each of them looks at what it was given in its first step, and
either ends there and leaves the session as it is, or is under way. What goes wrong later is never
one of the playground's own faults, since texts that are judged by their imports are always judged,
and a report that fails does so for a diagnostic that cannot be read, or for a fault that cannot be
worded.

* `Unowned`, `unowned_limitDiagnostics` — faults that are none of the playground's own.
* `Call.isServed`, `Call.refuses` — the calls of a server, and the ends for which it refuses a
  request.
* `Waiting.Commits`, `Progress.Commits` — a call that is under way is not refused any more.
* `commits_resume` — it stays so until it ends.
* `begin_served` — the first step of a call.
-/

namespace Playground

/-! ### Faults that are nobody's request -/

/-- Whatever goes wrong has a wording, and is not one of the playground's own faults. -/
def Unowned {β : Type} (result : Except Fault β) : Prop :=
  ∀ f, result = .error f → f.isOwn = false ∧ f.isWorded = true

theorem unowned_bind {β γ : Type} {result : Except Fault β} {next : β → Except Fault γ}
    (h : Unowned result) (k : ∀ b, Unowned (next b)) : Unowned (result >>= next) := by
  cases result with
  | error f =>
    intro g eq
    exact h g (congrArg Except.error (Except.error.inj eq))
  | ok b => exact k b

theorem unowned_pure {β : Type} (b : β) : Unowned (pure b : Except Fault β) := nofun

namespace Diagnostic

theorem unowned_numberOf (ds : List Char) : Unowned (numberOf ds) := by
  intro f h
  unfold numberOf at h
  split at h <;> cases h
  exact ⟨rfl, rfl⟩

theorem unowned_findLocator (text : String) : Unowned (findLocator text) := by
  unfold findLocator
  split
  · exact unowned_pure _
  · exact unowned_bind (unowned_numberOf _) fun _ =>
      unowned_bind (unowned_numberOf _) fun _ => unowned_pure _

end Diagnostic

theorem unowned_diagnosticKind (text : String) : Unowned (diagnosticKind text) := by
  intro f h
  unfold diagnosticKind at h
  split at h
  · cases h
  · unfold AnnotationKind.ofName at h
    split at h <;> cases h
    exact ⟨rfl, rfl⟩

theorem unowned_mark (text : String) : Unowned <| toAnnotation text none := by
  refine unowned_bind (Diagnostic.unowned_findLocator text) fun located => ?_
  rcases located with _ | ⟨line, column⟩
  · exact unowned_pure _
  · dsimp only
    split
    · exact unowned_pure _
    · exact unowned_bind (unowned_diagnosticKind text) fun _ => unowned_pure _

theorem unowned_annotationsOf (ds : List String) : Unowned (annotationsOf ds) := by
  induction ds with
  | nil => exact unowned_pure _
  | cons d ds ih =>
    exact unowned_bind (unowned_mark d) fun _ => unowned_bind ih fun _ => unowned_pure _

/-- A report that fails does so for a diagnostic that cannot be read. -/
theorem unowned_limitDiagnostics (ds : List String) (n : Int) : Unowned (limitDiagnostics ds n) :=
  unowned_bind (unowned_annotationsOf _) fun _ => unowned_pure _

/-! ### Requests that are accepted -/

/-- Is it a call that a server makes, at its start or for a request? -/
def Call.isServed : Call → Bool
  | .startUp => true
  | .click mode => mode.all fun name => (CompileMode.ofName? name).isSome
  | .setOption .. => true
  | .switchCompiler _ => true
  | .turn => true
  | _ => false

def Call.isSetting : Call → Bool
  | .setOption .. => true
  | _ => false

/-- Is a request refused whose call ends so? -/
def Call.refuses (call : Call) : Except Fault Value → Bool
  | .error f => f.isOwn
  | .ok (.bool false) => call.isSetting
  | .ok _ => false

/-- After the compile of a call that sets an option, the answer is yes. -/
def After.Suits (call : Call) (after : After) : Prop := call.isSetting = true → after = .answer true

/-- A call that waits here has done what it was asked for, and its request will not be refused. -/
def Waiting.Commits (call : Call) : Waiting → Prop
  | .staging _ _ after => after.Suits call
  | .loading .. => call.isSetting = false
  | _ => False

namespace Session

/-- A call that has come so far is not refused. -/
def Progress.Commits (call : Call) : Progress → Prop
  | .waits at_ => at_.Commits call
  | .gathers => False
  | .ends result => call.refuses result = false

variable {s t : Session Action} {call : Call} {after : After}

theorem commits_value (suits : after.Suits call) :
    (Progress.ends (.ok (After.value after))).Commits call := by
  cases h : call.isSetting with
  | true =>
    obtain rfl := suits h
    rfl
  | false =>
    cases after with
    | nothing => rfl
    | answer b => cases b with
      | true => rfl
      | false => exact h

/-- Where texts are judged by their imports, no run fails to begin. -/
theorem commits_openRun (probe : s.probe = .imports) (suits : after.Suits call) (ticket : Ticket) :
    (s.openRun ticket after).2.Commits call := by
  cases h : (s.openRun ticket after).2 with
  | waits at_ =>
    unfold openRun at h
    dsimp only at h
    split at h <;> cases h
    exact suits
  | gathers =>
    unfold openRun at h
    dsimp only at h
    split at h <;> cases h
  | ends result =>
    cases result with
    | error f =>
      have raised : (s.openRun ticket after).2.fault? = some f := congrArg Progress.fault? h
      obtain ⟨text, judged⟩ := fault_openRun raised
      rw [probe] at judged
      cases judged
    | ok v =>
      unfold openRun at h
      dsimp only at h
      split at h <;> cases h

theorem commits_nextRun (probe : s.probe = .imports) (suits : after.Suits call) :
    (s.nextRun after).2.Commits call := by
  unfold nextRun
  split
  · exact commits_value suits
  next ticket _ =>
    dsimp only
    split
    · exact commits_openRun (s := { s with pending := none }) probe suits ticket
    · exact commits_value suits

/-- **A call that has reached the way into the pipeline is not refused.** -/
theorem commits_enterCompile (probe : s.probe = .imports) (suits : after.Suits call)
    (draft : Option Draft) : (s.enterCompile draft after).2.Commits call := by
  unfold enterCompile
  split
  · dsimp only
    split
    · exact commits_value suits
    · exact commits_openRun (s := (s.accept (s.requestOf draft)).1.modifyState _) probe suits _
  · exact commits_value suits

theorem fault_reportFault {run : Run} {f g : Fault}
    (h : (s.reportFault Session.react run f).2.2 = some g) : g.isOwn = false := by
  unfold reportFault at h
  split at h
  · split at h
    next ds _ =>
      have refused := refused_reportFailure reacts_react s run ds
      rcases hx : s.reportFailure Session.react run ds with ⟨t, run', fault⟩
      rw [hx] at refused h
      cases refused with
      | unread e fails => exact Option.some.inj h ▸ (unowned_limitDiagnostics ds _ e fails).1
      | shown => cases h
      | cut _ _ e foreign => exact Option.some.inj h ▸ Fault.unowned_of_foreign foreign
    next =>
      unfold reportInternalError at h
      split at h
      next why unworded =>
        obtain rfl := Option.some.inj h
        exact Fault.unowned_of_foreign
          (Fault.foreign_of_wording (internalErrorMessage_eq_error.1 unworded))
      next => exact Fault.unowned_of_foreign (foreign_of_notify h)
  · cases h

/-- What goes wrong at the end of a run is none of the playground's own faults. -/
theorem fault_closeRun {run : Run} {g : Fault}
    (h : (s.closeRun Session.react run).2.2 = some g) : g.isOwn = false := by
  unfold closeRun at h
  split at h
  next released =>
    obtain rfl := Option.some.inj h
    unfold releaseModule at released
    split at released
    · cases released
    · split at released
      · cases released
      · split at released
        · cases released
        next unworded =>
          cases released
          exact Fault.unowned_of_foreign
            (Fault.foreign_of_wording (Fault.headline_eq_error.1 unworded))
  next =>
    dsimp only at h
    split at h
    · split at h
      · exact Fault.unowned_of_foreign (foreign_of_tell h)
      · cases h
    · cases h

/-- What makes the report of a run fail is none of the playground's own faults. -/
theorem fault_stepRun {stage : Stage} {run run' : Run} {g : Fault}
    (h : (s.stepRun Session.react stage run).2 = .over run' (some g)) : g.isOwn = false := by
  cases alive : s.state.alive with
  | false =>
    unfold stepRun at h
    rw [alive] at h
    exact fault_closeRun (RunStep.over.inj h).2
  | true =>
    rw [stepRun_of_alive alive] at h
    generalize s.runStage Session.react stage { run with stages := run.stages ++ [stage.name] } = r
      at h
    rcases r with ⟨t, run₁, f | _ | next⟩
    · rcases Option.or_eq_some_iff.1 (RunStep.over.inj h).2 with last | ⟨-, reported⟩
      · exact fault_closeRun last
      · exact fault_reportFault reported
    · exact fault_closeRun (RunStep.over.inj h).2
    · cases h

theorem commits_resumeStage (probe : s.probe = .imports) (suits : after.Suits call) (stage : Stage)
    (run : Run) : (s.resumeStage Session.react stage run after).2.Commits call := by
  have visit := visit_stepRun stage run s
  unfold resumeStage
  rcases hx : s.stepRun Session.react stage run with ⟨t, ⟨next, run'⟩ | ⟨run', _ | g⟩⟩ <;>
    rw [hx] at visit
  · exact suits
  · have judged : t.probe = .imports := (congrArg Visit.probe visit).trans probe
    exact commits_nextRun (s := t.mark _) judged suits
  · exact fault_stepRun (congrArg Prod.snd hx)

theorem suits_of_not_setting (other : call.isSetting = false) (after : After) :
    after.Suits call := fun setting => by cases other.symm.trans setting

theorem commits_afterLoad (probe : s.probe = .imports) (other : call.isSetting = false)
    (purpose : LoadPurpose) (compiler : String) (available : Bool) :
    (s.afterLoad purpose compiler available).2.Commits call := by
  have suits := suits_of_not_setting other
  cases purpose with
  | switchCompiler =>
    cases available with
    | true => exact commits_enterCompile (s := s.modifyState _) probe (suits _) none
    | false => exact commits_enterCompile probe (suits _) none
  | start =>
    cases available with
    | true => exact commits_enterCompile probe (suits _) none
    | false => exact other
  | startUp =>
    cases available with
    | true => exact commits_enterCompile probe (suits _) none
    | false => rfl

theorem commits_endLoad (probe : s.probe = .imports) (other : call.isSetting = false)
    (compiler : String) (ending : Option Fault) (purpose : LoadPurpose) :
    (s.endLoad compiler ending purpose).2.Commits call := by
  unfold endLoad
  split
  · split
    · exact commits_afterLoad (s := s.write _ _ _) probe other purpose compiler false
    · split
      · exact commits_afterLoad (s := s.write _ _ _) probe other purpose compiler false
      next unworded =>
        exact Fault.unowned_of_foreign
          (Fault.foreign_of_wording (Fault.headline_eq_error.1 unworded))
  · refine commits_afterLoad ?_ other purpose compiler true
    exact probe

theorem commits_continueLoad (probe : s.probe = .imports) (other : call.isSetting = false)
    (compiler : String) (left : Nat) (ending : Option Fault) (purpose : LoadPurpose) :
    (s.continueLoad compiler left ending purpose).2.Commits call := by
  cases left with
  | zero => exact commits_endLoad probe other compiler ending purpose
  | succ n => exact other

theorem commits_load (probe : s.probe = .imports) (other : call.isSetting = false)
    (compiler : String) (purpose : LoadPurpose) : (s.load compiler purpose).2.Commits call := by
  unfold load beginLoad
  cases s.compiler? compiler with
  | none => exact commits_endLoad probe other compiler _ purpose
  | some c =>
    cases c with
    | bytecode i => exact commits_continueLoad probe other compiler 0 none purpose
    | scripted script =>
      refine commits_continueLoad ?_ other compiler _ _ purpose
      exact probe

/-- **A call that is under way stays so until it ends, and is not refused then.** -/
theorem commits_resume {at_ : Waiting} (probe : s.probe = .imports) (commits : at_.Commits call) :
    (s.resume Session.react at_).2.Commits call := by
  cases at_ with
  | fresh => cases commits
  | loading compiler left ending purpose =>
    exact commits_continueLoad probe commits compiler left ending purpose
  | staging stage run after => exact commits_resumeStage probe commits stage run
  | idle => cases commits

/-! ### First steps -/

/-- **The first step of a call leaves the session as it is and is the last, or the call is not
refused any more.** -/
theorem begin_served (probe : s.probe = .imports) (served : call.isServed = true) :
    (∃ result, s.begin call = (s, .ends result)) ∨ (s.begin call).2.Commits call := by
  have cleared : s.cancelTimer.probe = .imports := probe
  cases call with
  | startUp => exact .inr (commits_load (s := s.wake) probe rfl s.state.compiler .startUp)
  | turn => exact .inl ⟨.ok .null, rfl⟩
  | click mode =>
    refine .inr ?_
    have suits : After.nothing.Suits (.click mode) := suits_of_not_setting rfl _
    unfold begin
    cases mode with
    | none =>
      dsimp only
      split
      · rfl
      · exact commits_enterCompile cleared suits none
    | some name =>
      obtain ⟨mode, known⟩ := Option.isSome_iff_exists.1 served
      have good : CompileMode.ofName name = .ok mode := by
        unfold CompileMode.ofName
        rw [known]
      simp only [good]
      cases mode with
      | decompile => rfl
      | _ => exact commits_enterCompile cleared suits none
  | setOption key value =>
    unfold begin
    dsimp only
    split
    · split
      · exact .inl ⟨_, rfl⟩
      · refine .inr (commits_enterCompile ?_ (fun _ => rfl) none)
        exact probe
    · exact .inl ⟨_, rfl⟩
  | switchCompiler compiler =>
    refine .inr ?_
    unfold begin
    dsimp only
    split
    · exact commits_afterLoad (s := s.cancelTimer.modifyState _) probe rfl .switchCompiler _ true
    · exact commits_load (s := s.cancelTimer.modifyState _) probe rfl compiler .switchCompiler
  | _ => cases served

end Session

end Playground
