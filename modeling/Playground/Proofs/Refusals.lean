import Playground.Proofs.Decompile
import Playground.Proofs.Timers

/-!
# Refused arguments

Four triggers take an argument that may be no good: a mode, an option with its value, an output. An
option and an output are looked at before anything is done, so that a refusal leaves the session as
it is. A mode is looked at after the timer was cleared: with the refusal the compile of the last
edits is lost.

* `Trigger`, `Trigger.call` — the triggers, and what a call of one does at once.
* `Trigger.refusal?` — the fault with which its argument is refused.
* `call_of_refusal` — what a refused trigger does.
* `raised_unrefused` — what else a trigger can raise.
* `refusal_clears_timer` — what refusals change in a session.
* `refused_click_drops_edit` — a refusal that is the end of the compile of an edit.
-/

namespace Playground

open Playground.Clock

/-- A trigger with an argument that may be no good. -/
inductive Trigger where
  | click (mode : Option String)
  | setMode (name : String)
  | setOption (key : String) (value : Value)
  | selectOutput (name : String)

/-- The fault that a coroutine raises in its first step. -/
def Session.Progress.fault? : Session.Progress → Option Fault
  | .ends (.error f) => some f
  | _ => none

namespace Trigger

open Session

/-- Does it clear the timer before it looks at its argument? -/
def isHasty : Trigger → Bool
  | click _ => true
  | setMode _ => true
  | setOption .. => false
  | selectOutput _ => false

/-- The fault with which the argument is refused; a session that is not ready does not look at
options. -/
def refusal? (t : Trigger) (s : Session Action) : Option Fault :=
  match t with
  | click none => none
  | click (some name) => failureOf (CompileMode.ofName name)
  | setMode name => failureOf (CompileMode.ofName name)
  | setOption key value =>
    if s.state.ready then failureOf (s.state.options.replace key value) else none
  | selectOutput name => failureOf (OutputType.ofName name)

/-- What a call does at once, and the fault that it raises. -/
def call (t : Trigger) (s : Session Action) : Session Action × Option Fault :=
  match t with
  | click mode => ((s.begin (.click mode)).1, (s.begin (.click mode)).2.fault?)
  | setMode name => s.setMode react name
  | setOption key value =>
    ((s.begin (.setOption key value)).1, (s.begin (.setOption key value)).2.fault?)
  | selectOutput name => s.selectOutput name

end Trigger

/-! ### Refusals -/

theorem CompileMode.kind_of_refused {name : String} {f : Fault}
    (h : CompileMode.ofName name = .error f) : f.kind = "ValueError" := by
  unfold ofName at h
  split at h
  · cases h
  · cases h
    rfl

theorem OutputType.kind_of_refused {name : String} {f : Fault}
    (h : OutputType.ofName name = .error f) : f.kind = "ValueError" := by
  unfold ofName at h
  split at h
  · cases h
  · cases h
    rfl

theorem Options.kind_of_refused {o : Options} {key : String} {value : Value} {f : Fault}
    (h : o.replace key value = .error f) : f.kind = "ConfigError" := by
  unfold replace at h
  split at h
  · split at h
    · split at h <;> cases h
    · cases h
      rfl
  · cases h
    rfl

namespace Session

variable {s : Session Action}

theorem eq_of_failureOf {β : Type} {result : Except Fault β} {f : Fault}
    (h : failureOf result = some f) : result = .error f := by
  cases result with
  | ok _ => cases h
  | error g => exact congrArg Except.error (Option.some.inj h)

theorem isOk_of_failureOf {β : Type} {result : Except Fault β} (h : failureOf result = none) :
    ∃ b, result = .ok b := by
  cases result with
  | ok b => exact ⟨b, rfl⟩
  | error g => cases h

/-- **A refused trigger raises the refusal, and does nothing but that it may clear the timer.** -/
theorem call_of_refusal {t : Trigger} {f : Fault} (refused : t.refusal? s = some f) :
    t.call s = (if t.isHasty then s.cancelTimer else s, some f) ∧
      (f.kind = "ValueError" ∨ f.kind = "ConfigError") := by
  cases t with
  | click mode =>
    cases mode with
    | none => cases refused
    | some name =>
      have bad : CompileMode.ofName name = .error f := eq_of_failureOf refused
      refine ⟨?_, .inl (CompileMode.kind_of_refused bad)⟩
      unfold Trigger.call begin
      simp only [bad]
      rfl
  | setMode name =>
    have bad : CompileMode.ofName name = .error f := eq_of_failureOf refused
    refine ⟨?_, .inl (CompileMode.kind_of_refused bad)⟩
    unfold Trigger.call setMode
    simp only [bad]
    rfl
  | setOption key value =>
    unfold Trigger.refusal? at refused
    dsimp only at refused
    split at refused
    next ready =>
      have bad : s.state.options.replace key value = .error f := eq_of_failureOf refused
      refine ⟨?_, .inr (Options.kind_of_refused bad)⟩
      unfold Trigger.call begin
      simp only [ready, bad]
      rfl
    next => cases refused
  | selectOutput name =>
    have bad : OutputType.ofName name = .error f := eq_of_failureOf refused
    refine ⟨?_, .inl (OutputType.kind_of_refused bad)⟩
    unfold Trigger.call selectOutput
    simp only [bad]
    rfl

/-! ### What else can be raised -/

/-- What goes wrong on the way into the pipeline is the judgement of the text. -/
theorem fault_openRun {ticket : Ticket} {after : After} {f : Fault}
    (raised : (s.openRun ticket after).2.fault? = some f) :
    ∃ text, s.probe.ask text = .error f := by
  unfold openRun beginRun at raised
  dsimp only at raised
  cases final : ticket.request.finalize s.probe with
  | error g =>
    have judged : ticket.request.finalize s.probe = .error g := final
    unfold Request.finalize at judged
    split at judged
    · cases judged
    · split at judged
      · cases judged
      · split at judged
        next asked =>
          cases judged
          have same : g = f := by
            simp only [Session.mark, Session.modifyState, final, leaveFailed] at raised
            exact Option.some.inj raised
          exact ⟨_, same ▸ asked⟩
        next => cases judged
  | ok request =>
    simp only [Session.mark, Session.modifyState, final] at raised
    cases raised

theorem fault_enterCompile {draft : Option Draft} {after : After} {f : Fault}
    (raised : (s.enterCompile draft after).2.fault? = some f) :
    ∃ text, s.probe.ask text = .error f := by
  unfold enterCompile at raised
  split at raised
  · dsimp only at raised
    split at raised
    · cases raised
    · have judged := fault_openRun raised
      exact judged
  · cases raised

theorem fault_rearm {f : Fault} (raised : s.rearm.2 = some f) : f = .tooLargeForFloat := by
  unfold rearm Debounce.schedule at raised
  dsimp only at raised
  split at raised
  next loop g failed =>
    split at failed
    · cases failed
    · obtain rfl := Option.some.inj raised
      cases failed
      rfl
  next => cases raised

theorem fault_tell {react : React Action} {event : String} {data : Payload} {f : Fault}
    (raised : (s.tell react event data).2 = some f) :
    (s.tell react event data).1.history.head? = some (.cutOff event f) := by
  unfold tell at raised ⊢
  split
  next whole =>
    rw [whole] at raised
    cases raised
  next broken =>
    rw [broken] at raised
    cases raised
    rfl

theorem fault_schedule {react : React Action} {f : Fault}
    (raised : (s.schedule react).2 = some f) :
    f = .tooLargeForFloat ∨
      (s.schedule react).1.history.head? = some (.cutOff compileScheduled f) := by
  unfold schedule at raised ⊢
  dsimp only at raised ⊢
  split at raised
  next armed =>
    obtain rfl := Option.some.inj raised
    exact .inl (fault_rearm (congrArg Prod.snd armed))
  next => exact .inr (fault_tell raised)

/-- **Whatever else a trigger raises at once is not about its argument**: a delay of the timer that
is too large, a judgement of the text that fails, or a listener that breaks off the publication of
what was scheduled. -/
theorem raised_unrefused {t : Trigger} {f : Fault} (unrefused : t.refusal? s = none)
    (raised : (t.call s).2 = some f) :
    f = .tooLargeForFloat ∨ (∃ text, s.probe.ask text = .error f) ∨
      (t.call s).1.history.head? = some (.cutOff compileScheduled f) := by
  cases t with
  | click mode =>
    refine .inr (.inl ?_)
    unfold Trigger.call begin at raised
    cases mode with
    | none =>
      dsimp only at raised
      split at raised
      · cases raised
      · have judged := fault_enterCompile raised
        exact judged
    | some name =>
      obtain ⟨mode, good⟩ := isOk_of_failureOf unrefused
      simp only [good] at raised
      cases mode with
      | decompile => cases raised
      | _ =>
        have judged := fault_enterCompile raised
        exact judged
  | setMode name =>
    obtain ⟨mode, good⟩ := isOk_of_failureOf unrefused
    unfold Trigger.call setMode at raised ⊢
    simp only [good] at raised ⊢
    split at raised
    next auto =>
      rw [if_pos auto]
      exact (fault_schedule raised).imp id .inr
    next => cases raised
  | setOption key value =>
    refine .inr (.inl ?_)
    unfold Trigger.call begin at raised
    unfold Trigger.refusal? at unrefused
    dsimp only at raised unrefused
    split at raised
    next ready =>
      rw [if_pos ready] at unrefused
      obtain ⟨options, good⟩ := isOk_of_failureOf unrefused
      simp only [good] at raised
      have judged := fault_enterCompile raised
      exact judged
    next => cases raised
  | selectOutput name =>
    obtain ⟨output, good⟩ := isOk_of_failureOf unrefused
    unfold Trigger.call selectOutput at raised
    simp only [good] at raised
    cases raised

/-! ### Reachable sessions -/

/-- **A refused trigger changes nothing but that it may clear the timer.** An argument is refused
with a fault of its own kind; nothing else that a trigger raises at once is about its argument. An
option or an output that is refused leaves the session as it is. A mode that is refused leaves it
without any timer, so that it is as before exactly when no timer was pending. -/
theorem refusal_clears_timer (o : Opening) (ms : List Move) (t : Trigger) :
    let s := o.session.moves ms
    (∀ f, t.refusal? s = some f →
      t.call s = (if t.isHasty then s.cancelTimer else s, some f) ∧
        (f.kind = "ValueError" ∨ f.kind = "ConfigError") ∧
        ((t.call s).1 = s ↔ t.isHasty = false ∨ s.armed = none) ∧
        (t.isHasty = true → (t.call s).1.armed = none ∧ (t.call s).1.loop.timerIds = [])) ∧
      (t.refusal? s = none → ∀ f, (t.call s).2 = some f →
        f = .tooLargeForFloat ∨ (∃ text, s.probe.ask text = .error f) ∨
          (t.call s).1.history.head? = some (.cutOff compileScheduled f)) := by
  intro s
  refine ⟨fun f refused => ?_, fun unrefused f raised => raised_unrefused unrefused raised⟩
  obtain ⟨called, kind⟩ := call_of_refusal refused
  have tidy : s.cancelTimer.Tidy := tidy_cancelTimer (tidy_moves o ms)
  rw [called]
  refine ⟨rfl, kind, ?_, fun hasty => ?_⟩
  · cases hasty : t.isHasty with
    | false => simp
    | true =>
      refine ⟨fun same => .inr (congrArg Session.armed same).symm, fun idle => ?_⟩
      rcases idle with calm | unarmed
      · cases calm
      · exact cancelTimer_of_unarmed unarmed
  · rw [if_pos hasty]
    exact ⟨rfl, tidy.sole.timerIds_nil⟩

/-- **A click with a wrong mode after an edit is the end of the compile of the edit**: the timer is
pending no longer, and the text is not compiled, as it is without the click. -/
theorem refused_click_drops_edit :
    let s := plainOpening.session.moves armedMoves
    let t := ((Trigger.click (some "fast")).call s).1
    ((Trigger.click (some "fast")).call s).2.map Fault.kind = some "ValueError" ∧
      s.armed = some 0 ∧ t.armed = none ∧
      (s.callsOf dueMoves).map (fun c => (c.1, c.2.source)) = [(800, "y")] ∧
      t.callsOf dueMoves = [] := by
  decide +kernel

end Session

end Playground
