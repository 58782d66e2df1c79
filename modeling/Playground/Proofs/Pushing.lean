import Playground.Proofs.Brackets
import Playground.Proofs.Limiting
import Playground.Proofs.Quiescence
import Playground.Proofs.WholeRuns

/-!
# What the report of a rejection pushes

Unless every edit compiles, a run that ends in a failure pushes the diagnostics that are shown and
the summary, if there is one, each of them once and in this order, and nothing else, whatever goes
on beside it, as long as no listener breaks a publication off.

* `Action.Audible`, `Session.Audible` — messages are pushed, and nobody suppresses them.
* `Core.Delivers` — messages are pushed, one after the other.
* `delivers_stepRun`, `delivers_runAmid` — the messages of a run that ends in a failure.
* `limiter_faithful` — what limiting keeps, and what a failure pushes.
-/

namespace Playground

open Playground.Core

/-! ### Where messages are heard -/

/-- The action does not set the mode in which messages are suppressed. -/
def Action.Audible : Action → Prop
  | .setMode name => CompileMode.ofName? name ≠ some .auto
  | _ => True

instance : DecidablePred Action.Audible
  | .setMode name => inferInstanceAs (Decidable (CompileMode.ofName? name ≠ some .auto))
  | .input _ | .selectOutput _ | .dismiss _ | .stop | .export | .publish .. | .subscribe ..
  | .unsubscribe .. | .subscribeAll _ | .clearListeners | .spawn _ | .look => .isTrue trivial

theorem CompileMode.ofName?_of_ofName {name : String} {mode : CompileMode}
    (h : CompileMode.ofName name = .ok mode) : CompileMode.ofName? name = some mode := by
  unfold ofName at h
  split at h
  next found => exact Except.ok.inj h ▸ found
  next => cases h

namespace Session

/-- Messages are pushed, and no compiler or listener suppresses them. -/
structure Audible (s : Session Action) : Prop where
  mode : s.state.compileMode ≠ .auto
  scripts : s.Admits Action.Audible

variable {s t : Session Action}

theorem mode_rearm (s : Session Action) : s.rearm.1.state.compileMode = s.state.compileMode :=
  congrArg (fun c : Core => c.state.compileMode) (core_rearm s)

theorem Audible.nudge (h : s.Audible) (step : Nudge Action.Audible s t) : t.Audible := by
  refine ⟨?_, h.scripts.nudge step⟩
  cases step with
  | turn name mode audible hm =>
    have other : mode ≠ .auto := by
      rintro rfl
      exact audible (CompileMode.ofName?_of_ofName hm)
    unfold turn
    simp [other, modifyState]
  | edit text =>
    unfold edit
    simp only
    split
    · exact h.mode
    · split
      · rw [mode_rearm]
        exact h.mode
      · exact h.mode
  | heed event listener data =>
    have same := congrArg (fun c : Core => c.state.compileMode)
      (core_takeReaction s event listener data)
    exact fun auto => h.mode (same.symm.trans auto)
  | _ => exact h.mode

theorem Audible.work (h : s.Audible) (step : Work Action.Audible s t) : t.Audible := by
  refine ⟨?_, h.scripts.work step⟩
  cases step with
  | use step =>
    cases step with
    | nudge step => exact (h.nudge step).mode
    | _ => exact h.mode
  | _ => exact h.mode

theorem Audible.works (h : s.Audible) (steps : Works Action.Audible s t) : t.Audible := by
  induction steps with
  | refl => exact h
  | tail _ step ih => exact ih.work step

theorem Audible.lead (h : s.Audible) (step : Lead Action.Audible s t) : t.Audible := by
  refine ⟨?_, h.scripts.lead step⟩
  cases step <;> exact h.mode

theorem Audible.booking (h : s.Audible) (step : Booking s t) : t.Audible := by
  refine ⟨?_, h.scripts.booking step⟩
  cases step <;> exact h.mode

/-- Whoever takes part in a move, messages are heard after it. -/
theorem Audible.move (h : s.Audible) {m : Move} (audible : m.Admits Action.Audible) :
    (s.move m).Audible := by
  have turn := turn_move audible s
  refine ⟨?_, admits_of_turn h.scripts turn⟩
  cases turn with
  | acted a audible eq =>
    rw [eq]
    have nudges := nudges_act reacts_react h.scripts audible
    exact (h.works (works_of_nudges nudges)).mode
  | kept eq =>
    rw [show (s.move m).state = s.state from congrArg Core.state eq]
    exact h.mode
  | called c _ eq =>
    rw [show (s.move m).state = s.state from congrArg Core.state eq]
    exact h.mode
  | fired id _ eq =>
    rw [show (s.move m).state = s.state from congrArg Core.state eq]
    exact h.mode
  | resumed u at_ lasting front popped eq =>
    have taken : u.Audible := by
      refine ⟨?_, h.scripts.of_eq (congrArg Core.listeners popped) (congrArg Core.compilers popped)⟩
      rw [show u.state = s.state from congrArg Core.state popped]
      exact h.mode
    have stepped : (u.resume Session.react at_).1.Audible :=
      keeps_resume taken.scripts taken (fun lead h => h.lead lead)
        (fun booking h => h.booking booking)
        (fun _ _ _ h => ⟨h.mode, h.scripts.of_eq rfl rfl⟩) (fun work h => h.work work) at_
    rw [show (s.move m).state = (u.resume Session.react at_).1.state from congrArg Core.state eq]
    exact stepped.mode

theorem Audible.moves (h : s.Audible) {ms : List Move}
    (audible : ∀ m ∈ ms, m.Admits Action.Audible) : (s.moves ms).Audible :=
  moves_induction Audible h fun m hm _ h => h.move (audible m hm)

theorem Audible.runStage (h : s.Audible) (stage : Stage) (run : Run) :
    (s.runStage react stage run).1.Audible := by
  by_cases invoke : stage = .invoke
  · subst invoke
    show (s.invokeStage react run).1.Audible
    rcases asked_invokeStage reacts_react h.scripts run with ⟨-, eq⟩ | ⟨-, produced, u, nudges, eq⟩
    · rw [eq]
      exact h
    · have consulted : (s.consult run.request.compiler run.request.source
          run.request.options).Audible := by
        refine ⟨?_, h.scripts.consult _ _ _⟩
        unfold consult
        split <;> exact h.mode
      have asked := consulted.works (works_of_nudges nudges)
      rw [eq]
      exact ⟨asked.mode, asked.scripts.of_eq rfl rfl⟩
  · exact h.works (works_runStage reacts_react h.scripts run invoke)

/-- A step of a run leaves the mode alone. -/
theorem Audible.stepRun (h : s.Audible) (stage : Stage) (run : Run) :
    (s.stepRun react stage run).1.Audible :=
  (worked_stepRun reacts_react h.scripts stage run).keeps h
    (fun _ _ _ _ h => ⟨h.mode, h.scripts.of_eq rfl rfl⟩)
    (fun _ _ _ h => ⟨h.mode, h.scripts.of_eq rfl rfl⟩) fun _ _ work h => h.work work

end Session

/-! ### What is pushed -/

def pushOf? (e : String × Payload) : Option Payload :=
  if e.1 = notificationPushed then some e.2 else none

/-- What was published about pushes, earliest first. -/
def pushesOf (ms : List Milestone) : List Payload := (eventsOf ms).filterMap pushOf?

/-- Messages are pushed one after the other, and each push is told of. -/
structure Core.Delivers (texts : List String) (c d : Core) : Prop where
  pushed : ∃ ns : List Notification, ns.map (·.message) = texts ∧
    pushesOf d.history = pushesOf c.history ++ ns.map (·.toRecord)
  count : d.state.notifications.count = c.state.notifications.count + texts.length

namespace Core

variable {c d e : Core} {texts more : List String}

theorem Delivers.refl (c : Core) : Delivers [] c c := ⟨⟨[], rfl, by simp⟩, rfl⟩

theorem Delivers.trans (h : Delivers texts c d) (k : Delivers more d e) :
    Delivers (texts ++ more) c e := by
  obtain ⟨⟨ns, rfl, pushed⟩, count⟩ := h
  obtain ⟨⟨ns', rfl, pushed'⟩, count'⟩ := k
  refine ⟨⟨ns ++ ns', List.map_append, ?_⟩, ?_⟩
  · rw [pushed', pushed, List.map_append, List.append_assoc]
  · rw [count', count, List.length_append, Nat.add_assoc]

theorem Delivers.before (h : Delivers [] c d) (k : Delivers more d e) : Delivers more c e :=
  h.trans k

theorem Delivers.after (h : Delivers texts c d) (k : Delivers [] d e) : Delivers texts c e := by
  simpa using h.trans k

theorem Does.pushesOf_eq {ds : List Milestone} {ns : List Notification} (h : Does ds ns c d) :
    pushesOf d.history =
      pushesOf c.history ++ (ds.filterMap Milestone.event?).filterMap pushOf? := by
  unfold pushesOf
  rw [h.events, List.filterMap_append]

/-- Deeds that tell of no push deliver nothing. -/
theorem Does.delivers {ds : List Milestone} (h : Does ds [] c d)
    (silent : (ds.filterMap Milestone.event?).filterMap pushOf? = []) : Delivers [] c d := by
  refine ⟨⟨[], rfl, ?_⟩, h.count⟩
  rw [h.pushesOf_eq, silent]
  rfl

theorem Pushes.delivers {ns : List Notification} (h : Pushes ns c d) :
    Delivers (ns.map (·.message)) c d := by
  refine ⟨⟨ns, rfl, ?_⟩, by simpa using h.does.count⟩
  have told : pushOf? ∘ Notification.event = some ∘ Notification.toRecord := rfl
  rw [h.does.pushesOf_eq, events_pushed, List.filterMap_map, told, List.filterMap_eq_map]

end Core

namespace Session

variable {s t : Session Action}

theorem delivers_reportMessage (h : s.Audible) (message : String) :
    Delivers [message] s.core (s.reportMessage react message).1.core :=
  (pushed_notify reacts_react (s := s.write .error pipelineLogger message) h.mode message).delivers

/-- **Messages are pushed one after the other**, whatever those who hear of them do, unless one of
them breaks the report off. -/
theorem delivers_reportMessages (h : s.Audible) {messages : List String}
    (whole : (s.reportMessages react messages).2 = none) :
    Delivers messages s.core (s.reportMessages react messages).1.core := by
  induction messages generalizing s with
  | nil => exact .refl _
  | cons m messages ih =>
    have first := delivers_reportMessage h m
    have heard := h.works (works_reportMessage reacts_react h.scripts m)
    unfold reportMessages at whole ⊢
    rcases hx : s.reportMessage react m with ⟨t, _ | f⟩ <;> rw [hx] at first heard whole
    · exact first.trans (ih heard whole)
    · cases whole

/-- A rejection is reported with all that is shown of it, in this order. -/
theorem delivers_reportFailure (h : s.Audible) (run : Run) {ds : List String}
    {limited : LimitedDiagnostics}
    (limits : limitDiagnostics ds s.settings.maxPrintingErrors = .ok limited)
    (whole : (s.reportFailure react run ds).2.2 = none) :
    Delivers limited.messages s.core (s.reportFailure react run ds).1.core := by
  let opened := s.modifyState fun st => { st with
    outcome := some (.failure ds), errorCount := limited.total }
  have shown : Beside s.core opened.core := .of_state rfl rfl rfl
  have heard : opened.Audible := ⟨h.mode, h.scripts.of_eq rfl rfl⟩
  have all := @delivers_reportMessages opened heard limited.messages
  revert whole
  unfold reportFailure
  unfold LimitedDiagnostics.messages at all ⊢
  simp only [limits]
  split <;> next hx =>
    intro whole
    rw [show opened.reportMessages react _ = _ from hx] at all
    first
    | exact ((shown.delivers rfl).before (all rfl)).after
        (Does.delivers (.of_state rfl rfl rfl) rfl)
    | cases whole

/-! ### What a run pushes -/

/-- A failure has been reported, and nothing else was pushed. -/
def ReportsFailure (ds : List String) (maxErrors : Int) (c d : Core) : Prop :=
  ∃ limited, limitDiagnostics ds maxErrors = .ok limited ∧
    Delivers limited.messages c d

theorem ReportsFailure.before {ds : List String} {maxErrors : Int} {c d e : Core}
    (h : Delivers [] c d) (k : ReportsFailure ds maxErrors d e) : ReportsFailure ds maxErrors c e :=
  k.imp fun _ k => ⟨k.1, h.before k.2⟩

theorem ReportsFailure.after {ds : List String} {maxErrors : Int} {c d e : Core}
    (h : ReportsFailure ds maxErrors c d) (k : Delivers [] d e) : ReportsFailure ds maxErrors c e :=
  h.imp fun _ h => ⟨h.1, h.2.after k⟩

/-- A report that was broken off is counted. -/
theorem broken_cuts {f : Fault} {ds : List String} {limited : LimitedDiagnostics}
    {ms : List String}
    (alters : Alters (Face.note (.cutOff notificationPushed f) ∘ Face.refuse ds limited) ms
      s.core t.core) : ¬ t.core.cuts ≤ s.core.cuts := by
  have broken : .cutOff notificationPushed f :: s.core.face.course <:+ t.core.face.course := by
    rw [alters.face]
    exact List.suffix_refl _
  exact Nat.not_le.2 (Core.cuts_lt rfl (List.suffix_refl _) broken)

/-- The report that a stage makes, or that is made of its fault, is that of the outcome. -/
theorem reportsFailure_of_outcome (h : s.Audible) {run : Run} (fresh : run.outcome = none)
    {ds ds' : List String} (uncut : (s.reportFailure react run ds').1.core.cuts ≤ s.core.cuts)
    (failed : (s.reportFailure react run ds').2.1.outcome = some (.failure ds)) :
    ReportsFailure ds s.settings.maxPrintingErrors s.core
      (s.reportFailure react run ds').1.core := by
  have refused := refused_reportFailure reacts_react s run ds'
  have delivers {limited : LimitedDiagnostics}
      (limits : limitDiagnostics ds' s.settings.maxPrintingErrors = .ok limited) :=
    delivers_reportFailure h run limits
  rcases hx : s.reportFailure react run ds' with ⟨t, run', fault⟩
  rw [hx] at refused failed uncut delivers
  cases refused with
  | unread => cases fresh.symm.trans failed
  | shown limited _ limits =>
    cases failed
    exact ⟨limited, limits, delivers limits rfl⟩
  | cut limited _ f _ limits alters => exact absurd uncut (broken_cuts alters)

theorem reportsFailure_of_fault (h : s.Audible) {run : Run} (fresh : run.outcome = none) {f : Fault}
    {ds : List String} (uncut : (s.reportFault react run f).1.core.cuts ≤ s.core.cuts)
    (failed : (s.reportFault react run f).2.1.outcome = some (.failure ds)) :
    ReportsFailure ds s.settings.maxPrintingErrors s.core (s.reportFault react run f).1.core := by
  unfold reportFault at failed uncut ⊢
  split at failed
  next alive =>
    rw [if_pos alive] at uncut ⊢
    split at failed
    next diagnostics rejected =>
      rw [rejected] at uncut
      exact reportsFailure_of_outcome h fresh uncut failed
    next =>
      rcases alters_reportInternalError reacts_react s run f with
        ⟨_, -, eq⟩ | ⟨_, _, _, -, eq, -⟩ <;> rw [eq] at failed
      · cases fresh.symm.trans failed
      · cases failed
  next => cases fresh.symm.trans failed

/-- A stage that has nothing to report pushes nothing. -/
theorem delivers_runStage {stage : Stage} {run run' : Run} {result : Except Fault (Option Stage)}
    (later : stage ≠ .announce) (h : s.runStage react stage run = (t, run', result))
    (reports : stage ≠ .reject ∨ ∃ next, result = .ok (some next)) :
    Delivers [] s.core t.core := by
  have bodied := bodied_runStage reacts_react s stage run
  rw [h] at bodied
  cases bodied with
  | announced _ first => exact absurd first later
  | reported _ _ _ rejects _ _ last =>
    rcases reports with other | ⟨next, goes⟩
    · exact absurd rejects other
    · exact absurd goes (last next)
  | called _ _ ds _ calls _ does => exact does.delivers (by rw [calls.silent]; rfl)

/-- The end of a run pushes nothing. -/
theorem delivers_closeRun (s : Session Action) (run : Run) :
    Delivers [] s.core (s.closeRun react run).1.core := by
  obtain ⟨rs, told, count, releases, does, -⟩ := released_closeRun reacts_react s run
  refine does.delivers ?_
  rw [List.filterMap_append, releases.silent, List.nil_append]
  unfold closing
  split <;> rfl

/-- Publications that broke off stay so. -/
theorem cuts_runStage (s : Session Action) (stage : Stage) (run : Run) :
    s.core.cuts ≤ (s.runStage react stage run).1.core.cuts := by
  have bodied := bodied_runStage reacts_react s stage run
  generalize s.runStage react stage run = r at bodied
  cases bodied with
  | announced _ _ does => exact cuts_le does.later
  | reported _ _ _ _ pushes => exact cuts_le pushes.does.later
  | called _ _ _ _ _ _ does => exact cuts_le does.later

theorem cuts_reportFault (s : Session Action) (run : Run) (f : Fault) :
    s.core.cuts ≤ (s.reportFault react run f).1.core.cuts := by
  obtain ⟨⟨ns, pushes⟩, -⟩ := pushes_reportFault reacts_react s run f
  exact cuts_le pushes.does.later

theorem cuts_closeRun (s : Session Action) (run : Run) :
    s.core.cuts ≤ (s.closeRun react run).1.core.cuts := by
  obtain ⟨rs, told, count, -, does, -⟩ := released_closeRun reacts_react s run
  exact cuts_le does.later

/-- A stage that ends the run in a failure is the one that reports it. -/
theorem rejects_of_outcome {stage : Stage} {run run' : Run}
    (h : s.runStage react stage run = (t, run', .ok none)) {ds : List String}
    (failed : run'.outcome = some (.failure ds)) : stage = .reject := by
  have bodied := bodied_runStage reacts_react s stage run
  rw [h] at bodied
  cases bodied with
  | announced _ _ _ _ next => rcases next with next | ⟨_, next⟩ <;> cases next
  | reported _ _ _ rejects => exact rejects
  | called _ _ _ _ calls _ _ =>
    generalize run'.module = m at calls
    cases calls
    -- the output of a module is a success
    change s.emitStage react run = _ at h
    unfold emitStage at h
    split at h
    next => cases h
    next =>
      simp only at h
      split at h
      next => cases h
      next => cases h; cases failed

theorem reportsFailure_of_rejected (h : s.Audible) {stage : Stage} {run run' : Run}
    (fresh : run.outcome = none) (ran : s.runStage react stage run = (t, run', .ok none))
    {ds : List String} (uncut : t.core.cuts ≤ s.core.cuts)
    (failed : run'.outcome = some (.failure ds)) :
    ReportsFailure ds s.settings.maxPrintingErrors s.core t.core := by
  obtain rfl := rejects_of_outcome ran failed
  have reports := @reportsFailure_of_outcome s h run fresh ds run.diagnostics
  change s.rejectStage react run = _ at ran
  unfold rejectStage at ran
  rcases hx : s.reportFailure react run run.diagnostics with ⟨v, run₁, fault⟩
  rw [hx] at ran reports
  cases fault with
  | some f => cases ran
  | none =>
    cases ran
    exact reports uncut failed

/-- A run after a stage that failed, none of whose reports was broken off: it has no outcome, and
nothing was pushed. -/
structure Unreported (run : Run) (s t : Session Action) : Prop where
  fresh : run.outcome = none
  settings : t.settings = s.settings
  delivers : Delivers [] s.core t.core

theorem unreported_of_reject {run run' : Run} {f : Fault} (fresh : run.outcome = none)
    (ran : s.rejectStage react run = (t, run', .error f)) (uncut : t.core.cuts ≤ s.core.cuts) :
    Unreported run' s t := by
  obtain ⟨v, run₁, fault, refused, rejects⟩ := refused_rejectStage reacts_react s run
  rw [rejects] at ran
  cases refused with
  | unread =>
    cases ran
    exact ⟨fresh, rfl, .refl _⟩
  | shown => cases ran
  | cut _ _ _ _ _ alters =>
    cases ran
    exact absurd uncut (broken_cuts alters)

theorem unreported_of_failed {stage : Stage} {run run' : Run} {f : Fault}
    (later : stage ≠ .announce)
    (fresh : run.outcome = none) (ran : s.runStage react stage run = (t, run', .error f))
    (uncut : t.core.cuts ≤ s.core.cuts) : Unreported run' s t := by
  by_cases rejects : stage = .reject
  · subst rejects
    exact unreported_of_reject fresh ran uncut
  have silent := delivers_runStage later ran (.inl rejects)
  have does := ran_runStage reacts_react s stage run
  rw [ran] at does
  cases does with
  | failed _ _ g messages _ failing alters alike =>
    have settings : t.settings = s.settings :=
      (congrArg Face.settings alters.face).trans (failing.frame _).2.2.2
    refine ⟨?_, settings, silent⟩
    generalize run'.outcome = o at failing
    cases failing with
    | plain => exact fresh
    | unheard first => exact absurd first later
    | cut first => exact absurd first rejects

/-- **A step that ends a run in a failure reports it, and pushes nothing else**, unless the report
was broken off. -/
theorem reportsFailure_of_stepRun (h : s.Audible) {stage : Stage} {run run' : Run}
    {fault : Option Fault} (later : stage ≠ .announce) (fresh : run.outcome = none)
    (ended : s.stepRun react stage run = (t, .over run' fault)) {ds : List String}
    (uncut : t.core.cuts ≤ s.core.cuts) (failed : run'.outcome = some (.failure ds)) :
    ReportsFailure ds s.settings.maxPrintingErrors s.core t.core := by
  by_cases alive : s.state.alive = true
  · rw [stepRun_of_alive alive] at ended
    generalize entered : ({ run with stages := run.stages ++ [stage.name] } : Run) = run₀ at ended
    have fresh₀ : run₀.outcome = none := entered ▸ fresh
    have before := cuts_runStage s stage run₀
    have audible := h.runStage stage run₀
    rcases ran : s.runStage react stage run₀ with ⟨u, run₁, f | _ | next⟩ <;>
      rw [ran] at ended before audible
    · let raised := u.mark (.raised stage f)
      have noted : Beside u.core raised.core := .of_note (.raised stage f) rfl rfl id
      have same : raised.core.cuts = u.core.cuts :=
        List.countP_cons_of_neg (by simp [Milestone.isCut])
      have grown := cuts_reportFault raised run₁ f
      rcases reported : raised.reportFault react run₁ f with ⟨v, run₂, fault₂⟩
      rw [reported] at grown
      have ended : (v.closeRun react run₂).1 = t ∧ (v.closeRun react run₂).2.1 = run' := by
        rw [afterStage_error, reported] at ended
        obtain ⟨state, ending⟩ := Prod.mk.inj ended
        exact ⟨state, (RunStep.over.inj ending).1⟩
      obtain ⟨rfl, rfl⟩ := ended
      rw [run_closeRun reacts_react] at failed
      have kept : v.core.cuts ≤ s.core.cuts := Nat.le_trans (cuts_closeRun v run₂) uncut
      have kept' : u.core.cuts ≤ s.core.cuts := by
        rw [← same]
        exact Nat.le_trans grown kept
      obtain ⟨fresh', settings, silent⟩ := unreported_of_failed later fresh₀ ran kept'
      have heard : raised.Audible := ⟨audible.mode, audible.scripts.of_eq rfl rfl⟩
      have reports := @reportsFailure_of_fault raised heard run₁ fresh' f ds
      rw [reported, same] at reports
      have reports := reports (Nat.le_trans kept before) failed
      rw [show raised.settings = s.settings from settings] at reports
      exact ((reports.before (noted.delivers rfl)).before silent).after (delivers_closeRun v run₂)
    · have ended : (u.closeRun react run₁).1 = t ∧ (u.closeRun react run₁).2.1 = run' := by
        rw [afterStage_last] at ended
        obtain ⟨state, ending⟩ := Prod.mk.inj ended
        exact ⟨state, (RunStep.over.inj ending).1⟩
      obtain ⟨rfl, rfl⟩ := ended
      rw [run_closeRun reacts_react] at failed
      have kept : u.core.cuts ≤ s.core.cuts := Nat.le_trans (cuts_closeRun u run₁) uncut
      exact (reportsFailure_of_rejected h fresh₀ ran kept failed).after (delivers_closeRun u run₁)
    · cases ended
  · obtain ⟨u, closing, eq, -⟩ := givenUp_stepRun reacts_react (by simpa using alive) stage run
    cases eq.symm.trans ended
    cases fresh.symm.trans failed

/-- Only in a session that is alive a step leads to another stage. -/
theorem walked_of_next {stage next : Stage} {run run' : Run}
    (goes : s.stepRun react stage run = (t, .next next run')) :
    Walked stage run s (t, .next next run') := by
  have alive : s.state.alive = true := by
    by_contra dead
    obtain ⟨u, closing, ended, -⟩ := givenUp_stepRun reacts_react (by simpa using dead) stage run
    cases goes.symm.trans ended
  exact goes ▸ walked_stepRun reacts_react alive stage run

/-- A step that leads to another stage pushes nothing. -/
theorem delivers_of_next {stage next : Stage} {run run' : Run} (later : stage ≠ .announce)
    (goes : s.stepRun react stage run = (t, .next next run')) : Delivers [] s.core t.core := by
  cases walked_of_next goes with
  | announced _ _ first => exact absurd first later
  | onward _ _ _ ds calls does => exact does.delivers (by rw [calls.silent]; rfl)

/-! ### Whole runs -/

/-- Nothing that is done beside a run pushes a message. -/
theorem unobtrusive_beside : Unobtrusive Beside where
  refl := .refl
  trans h k := h.before k
  nudges := beside_nudges
  leads := beside_leads
  park c request ticket := beside_park request ticket c
  await c _ _ := (Does.refl c).await _
  pop _ _ _ _ _ := .of_state rfl rfl rfl
  disarm _ := .of_state rfl rfl rfl

variable {others : Stage → List Move}

/-- **A run that ends in a failure reports it and pushes nothing else**, whatever goes on between
its stages, unless the report was broken off. -/
theorem reportsFailure_of_runAmid {fuel : Nat} {stage : Stage} {run : Run} (h : s.Audible)
    (later : stage ≠ .announce) (fresh : run.outcome = none) (tolerates : Tolerates others s)
    (heard : ∀ stage, ∀ m ∈ others stage, m.Admits Action.Audible) {ds : List String}
    (uncut : (runAmid others fuel stage run s).1.core.cuts ≤ s.core.cuts)
    (failed : (runAmid others fuel stage run s).2.1.outcome = some (.failure ds)) :
    ReportsFailure ds s.settings.maxPrintingErrors s.core
      (runAmid others fuel stage run s).1.core := by
  induction fuel generalizing stage run s with
  | zero => cases fresh.symm.trans failed
  | succ fuel ih =>
    have before := tolerates.beside unobtrusive_beside stage
    have aside := tolerates.aside stage
    have moved := h.moves (heard stage)
    have settings : (s.moves (others stage)).settings = s.settings :=
      congrArg Face.settings aside.face
    have stepped := stepped_stepRun reacts_react (s.moves (others stage)) stage run
    have audible := moved.stepRun stage run
    have grown : s.core.cuts ≤ (s.moves (others stage)).core.cuts := cuts_le (later_moves s _)
    have grown' : (s.moves (others stage)).core.cuts ≤
        ((s.moves (others stage)).stepRun react stage run).1.core.cuts :=
      cuts_le (living_stepRun (s.moves (others stage)) stage run).1
    unfold runAmid at failed uncut ⊢
    rcases hx : (s.moves (others stage)).stepRun react stage run with
      ⟨t, ⟨next, run'⟩ | ⟨run', fault⟩⟩ <;> rw [hx] at stepped audible failed uncut grown'
    · cases stepped with
      | announced _ _ first => exact absurd first later
      | onward _ _ _ _ advances aside' alike =>
        have settings' : t.settings = s.settings :=
          (congrArg Face.settings aside'.face).trans settings
        have reports := ih audible (later_of_advances advances) (alike.outcome.trans fresh)
          (tolerates.of_aside (aside.after aside'))
          (Nat.le_trans uncut (Nat.le_trans grown grown')) failed
        rw [settings'] at reports
        exact (reports.before (delivers_of_next later hx)).before (before.delivers rfl)
    · have reports := reportsFailure_of_stepRun moved later fresh hx
        (Nat.le_trans uncut grown) failed
      rw [settings] at reports
      exact reports.before (before.delivers rfl)

end Session

/-- What is done beside a run does not matter where all notifications are taken back. -/
theorem Core.Does.clear {c d : Core} (h : Beside c d) : Beside c.clear d.clear :=
  ⟨h.later, h.deeds, rfl, List.nil_sublist _, h.living⟩

namespace Session

variable {s t : Session Action} {others : Stage → List Move}

/-- No run is rejected before its compiler was asked. -/
theorem unrejected_of_announce {run : Run} {f : Face → Face} {ms : List String}
    {outcome : Option Outcome} {fault : Option Fault} (fresh : run.outcome = none)
    (ending : Ending .announce run s t f ms outcome fault) (ds : List String) :
    outcome ≠ some (.failure ds) := by
  intro failed
  cases alive : s.state.alive with
  | false =>
    cases ending with
    | abandoned => cases fresh.symm.trans failed
    | rejected later => exact absurd rfl later
    | succeeded later => exact absurd rfl later
    | failed alive' => exact absurd (alive'.symm.trans alive) (by decide)
  | true =>
    obtain ⟨why, g, foreign, reporting, -⟩ := ending.of_announce alive
    have unowned := (Fault.reported_of_foreign foreign).1
    cases reporting with
    | silent => cases fresh.symm.trans failed
    | stuck => cases fresh.symm.trans failed
    | rejected _ _ rejection => cases unowned.symm.trans rejection
    | cut _ _ _ rejection => cases unowned.symm.trans rejection
    | crashed => cases failed

/-- The announcement of a run takes all notifications back. -/
theorem reportsFailure_of_announced {fuel : Nat} {run : Run} (h : s.Audible)
    (fresh : run.outcome = none) (tolerates : Tolerates others s)
    (heard : ∀ stage, ∀ m ∈ others stage, m.Admits Action.Audible) {ds : List String}
    (uncut : (runAmid others (fuel + 1) .announce run s).1.core.cuts ≤ s.core.cuts)
    (failed : (runAmid others (fuel + 1) .announce run s).2.1.outcome = some (.failure ds)) :
    ReportsFailure ds s.settings.maxPrintingErrors s.core.clear
      (runAmid others (fuel + 1) .announce run s).1.core := by
  have before := tolerates.beside unobtrusive_beside .announce
  have audible := (h.moves (heard .announce)).stepRun .announce run
  have stepped := stepped_stepRun reacts_react (s.moves (others .announce)) .announce run
  have grown : s.core.cuts ≤ (s.moves (others .announce)).core.cuts := cuts_le (later_moves s _)
  have grown' : (s.moves (others .announce)).core.cuts ≤
      ((s.moves (others .announce)).stepRun react .announce run).1.core.cuts :=
    cuts_le (living_stepRun (s.moves (others .announce)) .announce run).1
  unfold runAmid at failed uncut ⊢
  rcases announced_or_over tolerates run with ⟨t, run', first⟩ | ⟨t, run', fault, ended⟩
  · rw [first.step] at failed uncut audible grown' ⊢
    have settings : t.settings = s.settings := congrArg Face.settings first.face
    have reports := reportsFailure_of_runAmid audible (by decide)
      (first.alike.outcome.trans fresh) first.tolerates heard
      (Nat.le_trans uncut (Nat.le_trans grown grown')) failed
    rw [settings] at reports
    have announced : Delivers [] (s.moves (others .announce)).core.clear t.core := by
      cases walked_of_next first.step with
      | announced _ _ _ does => exact does.delivers rfl
      | onward _ _ _ _ calls =>
        generalize run'.module = m at calls
        cases calls
    exact (reports.before announced).before (before.clear.delivers rfl)
  · rw [ended] at failed stepped
    cases stepped with
    | ended _ _ _ _ _ _ ending => exact absurd failed (unrejected_of_announce fresh ending ds)

/-- What the report of a failure has pushed when its run returns: each message once, in order. -/
structure PushedFailure (ds : List String) (m : Nat) (s t : Session Action) : Prop where
  pushed : ∃ ns : List Notification,
    ns.map (·.message) =
        ds.take m ++ (if m < ds.length then [tooManyErrorsMessage ds.length] else []) ∧
      pushesOf t.history = pushesOf s.history ++ ns.map (·.toRecord) ∧
      ns.length = min ds.length m + (if m < ds.length then 1 else 0)
  count : t.state.notifications.count = min ds.length m + (if m < ds.length then 1 else 0)

theorem texts_of_limited {ds : List String} {m : Nat} {limited : LimitedDiagnostics}
    (h : limitDiagnostics ds m = .ok limited) :
    limited.messages =
      ds.take m ++ (if m < ds.length then [tooManyErrorsMessage ds.length] else []) := by
  obtain ⟨annotations, -, rfl⟩ := limitDiagnostics_eq_ok.1 h
  simp only [LimitedDiagnostics.messages, firstMembers_natCast, Int.ofNat_lt]
  split <;> rfl

theorem pushedFailure_of_reports {ds : List String} {m : Nat}
    (h : ReportsFailure ds m s.core.clear t.core) : PushedFailure ds m s t := by
  obtain ⟨limited, limits, ⟨ns, texts, told⟩, count⟩ := h
  rw [texts_of_limited limits] at texts count
  have length : (ds.take m ++
      (if m < ds.length then [tooManyErrorsMessage ds.length] else [])).length =
      min ds.length m + (if m < ds.length then 1 else 0) := by
    rw [List.length_append, List.length_take, Nat.min_comm]
    split <;> rfl
  refine ⟨⟨ns, texts, told, ?_⟩, ?_⟩
  · rw [← length, ← texts, List.length_map]
  · rw [← length]
    exact count.trans (Nat.zero_add _)

/-- **A failure pushes what is shown of it and nothing else**, unless a listener breaks a
publication off. -/
theorem pushedFailure_of_pipelineAmid {request : Request} {run : Run} {ds : List String} {m : Nat}
    (h : s.Audible) (limit : s.settings.maxPrintingErrors = m) (tolerates : Tolerates others s)
    (heard : ∀ stage, ∀ mv ∈ others stage, mv.Admits Action.Audible)
    (returns : (pipelineAmid others request s).2 = .ok run)
    (uncut : (pipelineAmid others request s).1.core.cuts = s.core.cuts)
    (failed : run.outcome = some (.failure ds)) :
    PushedFailure ds m s (pipelineAmid others request s).1 := by
  rcases begins : s.beginRun request with ⟨u, f | run₀⟩
  · unfold pipelineAmid at returns
    rw [begins] at returns
    cases returns
  · obtain ⟨core, fresh⟩ := core_of_beginRun begins
    have audible : u.Audible := by
      refine ⟨?_, h.scripts.of_eq (congrArg Core.listeners core) (congrArg Core.compilers core)⟩
      rw [show u.state = _ from congrArg Core.state core]
      exact h.mode
    have tolerates' := tolerates.of_begins begins
    have settings : u.settings = s.settings := congrArg Core.settings core
    have opened : Beside s.core u.core := by
      rw [core]
      exact .of_state rfl rfl rfl
    have same : u.core.cuts = s.core.cuts := by rw [core]; rfl
    rw [pipelineAmid_of_begins begins] at returns uncut ⊢
    have ended : (runAmid others (stagesLeft .announce) .announce run₀ u).2.1.outcome =
        some (.failure ds) := by
      revert returns
      dsimp only
      split
      · rintro ⟨⟩
        exact failed
      · nofun
    have reports : ReportsFailure ds u.settings.maxPrintingErrors u.core.clear
        (runAmid others (stagesLeft .announce) .announce run₀ u).1.core :=
      reportsFailure_of_announced audible fresh tolerates' heard (uncut.trans same.symm).le ended
    rw [settings, limit] at reports
    exact pushedFailure_of_reports (reports.before (opened.clear.delivers rfl))

end Session

open Session

/-! ### What is kept -/

/-- **Limiting loses, invents and reorders nothing.** What is shown and marked are the first
diagnostics and their marks; where more may be shown, these stay in front. A run that ends in the
failure pushes what is shown of it, unless messages are suppressed or a listener breaks a
publication off, whatever goes on beside it. -/
theorem limiter_faithful {ds : List String} {m : Nat} {limited : LimitedDiagnostics}
    (limits : limitDiagnostics ds m = .ok limited) :
    LimitedTo m ds limited ∧
    (∀ m' limited', m ≤ m' → limitDiagnostics ds m' = .ok limited' →
      limited.shown <+: limited'.shown ∧ limited.annotations <+: limited'.annotations) ∧
    ∀ (s : Session Action) (others : Stage → List Move) (request : Request) (run : Run),
      s.Audible → s.settings.maxPrintingErrors = m → Tolerates others s →
      (∀ stage, ∀ mv ∈ others stage, mv.Admits Action.Audible) →
      (pipelineAmid others request s).2 = .ok run →
      (pipelineAmid others request s).1.core.cuts = s.core.cuts →
      run.outcome = some (.failure ds) →
      PushedFailure ds m s (pipelineAmid others request s).1 :=
  ⟨limitedTo_of_limitDiagnostics limits,
    fun _ _ le limits' => prefix_of_limitDiagnostics le limits limits',
    fun _ _ _ _ audible limit tolerates heard returns uncut failed =>
      pushedFailure_of_pipelineAmid audible limit tolerates heard returns uncut failed⟩

/-- Diagnostics of which the second names no row. -/
def mixedTexts : List String := ["WARNING w1: a\n in input.py(2,1)", "b (0,7)", "c (1,1)"]

theorem limited_mixedTexts : ∃ limited, limitDiagnostics mixedTexts 2 = .ok limited := by
  have reads : (limitDiagnostics mixedTexts 2).toBool = true := by decide +kernel
  cases h : limitDiagnostics mixedTexts 2 with
  | ok limited => exact ⟨limited, rfl⟩
  | error f =>
    rw [h] at reads
    cases reads

/-- Only two messages are shown of a rejection, and not every edit compiles. -/
def terseOpening : Opening :=
  { plainOpening with
    settings := { maxPrintingErrors := 2, compileMode := .manual }
    compilers := [("CPython", .scripted { compiles :=
      ⟨{ verdict := .rejects (.ok mixedTexts) }, []⟩ })] }

/-- Another request comes in before the rejection is reported. -/
def parkedBefore : Stage → List Move
  | .reject => [.call (.compile none)] ++ smallTicks 1
  | _ => []

theorem limiter_faithful_mixed :
    let s := busySession terseOpening
    ∃ limited, limitDiagnostics mixedTexts 2 = .ok limited ∧ LimitedTo 2 mixedTexts limited ∧
      (∀ limited', limitDiagnostics mixedTexts 3 = .ok limited' →
        limited.annotations <+: limited'.annotations) ∧
      (pipelineAmid parkedBefore s.buildRequest s).1.pending.isSome = true ∧
      PushedFailure mixedTexts 2 s (pipelineAmid parkedBefore s.buildRequest s).1 := by
  intro s
  obtain ⟨limited, limits⟩ := limited_mixedTexts
  have fails : (pipelineAmid parkedBefore s.buildRequest s).2.toOption.bind (·.outcome) =
      some (.failure mixedTexts) := by decide +kernel
  obtain ⟨run, returns, failed⟩ : ∃ run, (pipelineAmid parkedBefore s.buildRequest s).2 = .ok run ∧
      run.outcome = some (.failure mixedTexts) := by
    cases h : (pipelineAmid parkedBefore s.buildRequest s).2 with
    | ok run =>
      rw [h] at fails
      exact ⟨run, rfl, fails⟩
    | error f =>
      rw [h] at fails
      cases fails
  have uncut : (pipelineAmid parkedBefore s.buildRequest s).1.core.cuts = s.core.cuts := by
    decide +kernel
  have audible : s.Audible :=
    ⟨by decide, .of_compilers (fun _ listener => absurd listener List.not_mem_nil) (by decide)⟩
  have heard : ∀ stage, ∀ m ∈ parkedBefore stage, m.Admits Action.Audible := by
    intro stage
    cases stage with
    | reject => simp [parkedBefore, smallTicks, Move.Admits, Action.Audible]
    | _ =>
      intro m hm
      cases hm
  obtain ⟨kept, further, pushed⟩ := limiter_faithful limits
  exact ⟨limited, limits, kept, fun limited' limits' => (further 3 limited' (by decide) limits').2,
    by decide +kernel,
    pushed s parkedBefore s.buildRequest run audible rfl (.inr ⟨by decide, rfl⟩) heard returns
      uncut failed⟩

end Playground
