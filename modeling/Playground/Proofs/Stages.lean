import Playground.Proofs.Course
import Playground.Proofs.Face

/-!
# What a step of a run shows

One statement for every part of a pipeline: how it changes the face and which messages it may add.
A listener whose fault has no wording breaks a publication off, and with it the stage or the report
that it belongs to.

* `Fault.foreign_of_wording` — what goes wrong in wording a fault can be worded itself.
* `Refused`, `Reporting` — the report of a rejection, and that of any fault.
* `alters_closeRun` — the end of a run.
* `Failing`, `Ending` — how a stage fails, and how a run ends.
* `Stepped`, `stepped_stepRun` — a whole step.
-/

namespace Playground

open Playground.Core

namespace Face

def note (m : Milestone) (c : Face) : Face := { c with course := m :: c.course }

/-- The publication of an event may have broken off. -/
def cutOff (event : String) : Option Fault → Face → Face
  | none => id
  | some f => note (.cutOff event f)

def announce (run : Run) (c : Face) : Face :=
  { c with
    indicator := c.indicator.start, outcome := none, errorCount := 0, annotations := []
    course := .published compileStarted (Session.startedData run) :: c.course }

def raise (stage : Stage) (f : Fault) : Face → Face := note (.raised stage f)

def succeed (a : Artifact) (c : Face) : Face :=
  { c with artifact := a, errorCount := 0, outcome := some (.success a.text a.binary) }

/-- A rejection is shown, but for its annotations. -/
def refuse (diagnostics : List String) (limited : LimitedDiagnostics) (c : Face) : Face :=
  { c with outcome := some (.failure diagnostics), errorCount := limited.total }

def reject (diagnostics : List String) (limited : LimitedDiagnostics) (c : Face) : Face :=
  { c.refuse diagnostics limited with annotations := limited.annotations }

def crash (message : String) (c : Face) : Face :=
  { c with outcome := some (.internalError message), errorCount := 1, annotations := [] }

end Face

/-- How a run is closed: without a word, with the announcement of its end, or with a module that
could not be released. -/
inductive Closing where
  | silent
  | told (fault : Option Fault)
  | unreleased (why : Fault)

def Closing.fault : Closing → Option Fault
  | silent => none
  | told fault => fault
  | unreleased why => some why

namespace Face

def close (run : Run) (closing : Closing) (c : Face) : Face :=
  match closing with
  | .unreleased why => c.note (.unreleased run.generation why)
  | .silent => if run.announced then { c with indicator := c.indicator.finish } else c
  | .told fault =>
    if run.announced then
      cutOff compileFinished fault { c with
        indicator := c.indicator.finish
        course := .published compileFinished (Session.finishedData run c.errorCount) :: c.course }
    else c

/-- Closing a run changes only the busy mark and the course. -/
theorem close_eq (run : Run) (closing : Closing) (c : Face) :
    c.close run closing = { c with
      indicator := (c.close run closing).indicator, course := (c.close run closing).course } := by
  unfold close
  split
  · rfl
  · split <;> rfl
  next fault => cases fault <;> split <;> rfl

theorem outcome_close (run : Run) (closing : Closing) (c : Face) :
    (c.close run closing).outcome = c.outcome := by
  rw [close_eq]

/-- Closing a run takes no step back. -/
theorem course_close (run : Run) (closing : Closing) (f : Face) :
    f.course <:+ (f.close run closing).course := by
  unfold close
  split
  · exact List.suffix_cons _ _
  · split <;> exact List.suffix_refl _
  next fault =>
    split
    · cases fault with
      | none => exact List.suffix_cons _ _
      | some why => exact (List.suffix_cons _ _).trans (List.suffix_cons _ _)
    · exact List.suffix_refl _

end Face

/-- The fault of reporting a fault, before anything of it is shown: the diagnostics of a rejection
cannot be read, or the cause of another fault has no wording. -/
def Fault.unreported? (max : Int) (f : Fault) : Option Fault :=
  match f.diagnostics? with
  | some diagnostics => Session.failureOf (limitDiagnostics diagnostics max)
  | none => Session.failureOf f.cause.wording

theorem Fault.unreported?_rejection {f : Fault} {diagnostics : List String}
    (h : f.diagnostics? = some diagnostics) (max : Int) :
    f.unreported? max = Session.failureOf (limitDiagnostics diagnostics max) := by
  unfold unreported?
  rw [h]

theorem Fault.unreported?_other {f : Fault} (h : f.diagnostics? = none) (max : Int) :
    f.unreported? max = Session.failureOf f.cause.wording := by
  unfold unreported?
  rw [h]

/-- Is it a fault of a kind that only its reporter knows? -/
def Fault.isForeign : Fault → Bool
  | foreign .. => true
  | _ => false

/-- What goes wrong in wording a fault can be worded itself. -/
theorem Fault.foreign_of_wording {f why : Fault} (h : f.wording = .error why) :
    why.isForeign = true := by
  cases f <;> cases h
  rfl

/-- Such a fault is none of the playground's own. -/
theorem Fault.unowned_of_foreign {f : Fault} (h : f.isForeign = true) : f.isOwn = false := by
  cases f with
  | foreign => rfl
  | _ => cases h

/-- Such a fault is reported as an internal error that words it. -/
theorem Fault.reported_of_foreign {f : Fault} (h : f.isForeign = true) :
    f.diagnostics? = none ∧ ∃ text, f.cause.wording = .ok text := by
  cases f with
  | foreign kind message => exact ⟨rfl, _, rfl⟩
  | _ => cases h

def LimitedDiagnostics.messages (l : LimitedDiagnostics) : List String :=
  l.shown ++ l.summary.toList

/-- A report of a rejection fails before it shows anything, shows the rejection or breaks off. -/
inductive Refused (run : Run) (diagnostics : List String) (s : Session Action) :
    Session Action × Run × Option Fault → Prop where
  | unread (e : Fault)
      (hl : limitDiagnostics diagnostics s.settings.maxPrintingErrors = .error e) :
      Refused run diagnostics s (s, run, some e)
  | shown (limited : LimitedDiagnostics) (t : Session Action)
      (hl : limitDiagnostics diagnostics s.settings.maxPrintingErrors = .ok limited)
      (alters : Alters (Face.reject diagnostics limited) limited.messages s.core t.core) :
      Refused run diagnostics s (t, { run with outcome := some (.failure diagnostics) }, none)
  | cut (limited : LimitedDiagnostics) (t : Session Action) (f : Fault)
      (foreign : f.isForeign = true)
      (hl : limitDiagnostics diagnostics s.settings.maxPrintingErrors = .ok limited)
      (alters : Alters (Face.note (.cutOff notificationPushed f) ∘ Face.refuse diagnostics limited)
        limited.messages s.core t.core) :
      Refused run diagnostics s (t, { run with outcome := some (.failure diagnostics) }, some f)

namespace Session

variable {react : React Action} {s t : Session Action}

/-! ### Reports -/

theorem foreign_of_callListener {event listener : String} {toAll : Bool} {data : Payload}
    {f : Fault}
    (h : (s.callListener react event toAll listener data).2.2 = some f) : f.isForeign = true := by
  unfold callListener at h
  split at h
  · cases h
  · simp only at h
    split at h
    · cases h
    next g _ =>
      split at h
      · cases h
      next why unworded =>
        obtain rfl := Option.some.inj h
        cases hw : g.wording with
        | ok text =>
          obtain ⟨message, words⟩ := listenerFailure_of_wording hw
          cases words.symm.trans unworded
        | error e =>
          obtain rfl := Except.error.inj ((listenerFailure_of_mute hw).symm.trans unworded)
          exact Fault.foreign_of_wording hw

theorem foreign_of_callListeners {event : String} {toAll : Bool} {listeners : List String}
    {data : Payload} {f : Fault}
    (h : (s.callListeners react event toAll listeners data).2.2 = some f) : f.isForeign = true := by
  induction listeners generalizing s data with
  | nil => cases h
  | cons l rest ih =>
    unfold callListeners at h
    rcases hx : s.callListener react event toAll l data with ⟨t, data', _ | g⟩ <;> rw [hx] at h
    · exact ih h
    · obtain rfl := Option.some.inj h
      exact foreign_of_callListener (congrArg (·.2.2) hx)

/-- A publication breaks off with what goes wrong in wording the fault of a listener. -/
theorem foreign_of_tell {event : String} {data : Payload} {f : Fault}
    (h : (s.tell react event data).2 = some f) : f.isForeign = true := by
  have broken {u : Session Action} {g : Fault}
      (h : (u.publish react event data).2 = some g) : g.isForeign = true := by
    unfold publish at h
    split at h
    next hx =>
      obtain rfl := Option.some.inj h
      exact foreign_of_callListeners (congrArg (·.2.2) hx)
    next => exact foreign_of_callListeners h
  unfold tell at h
  split at h
  · cases h
  next hx =>
    obtain rfl := Option.some.inj h
    exact broken (congrArg (·.2) hx)

theorem foreign_of_notify {message : String} {f : Fault}
    (h : (s.notify react message).2 = some f) : f.isForeign = true := by
  unfold notify at h
  split at h
  · cases h
  · exact foreign_of_tell h

theorem foreign_of_reportMessages {messages : List String} {f : Fault}
    (h : (s.reportMessages react messages).2 = some f) : f.isForeign = true := by
  induction messages generalizing s with
  | nil => cases h
  | cons m messages ih =>
    unfold reportMessages at h
    rcases hx : s.reportMessage react m with ⟨t, _ | g⟩ <;> rw [hx] at h
    · exact ih h
    · obtain rfl := Option.some.inj h
      exact foreign_of_notify (s := s.write _ _ _) (congrArg (·.2) hx)

/-- A push keeps the keys in order. -/
theorem pushed_ordered {q : Notifications} (h : q.Ordered) (message : String) :
    ({ q with items := q.items ++ [q.next message], count := q.count + 1 } :
      Notifications).Ordered where
  rising := by
    rw [List.map_append, List.pairwise_append]
    refine ⟨h.rising, List.pairwise_singleton _ _, fun a ha b hb => ?_⟩
    obtain ⟨m, hm, rfl⟩ := List.mem_map.1 ha
    obtain rfl : b = q.count + 1 := by simpa [Notifications.next] using hb
    exact Nat.lt_succ_of_le (h.bounded m hm)
  bounded m hm := by
    rcases List.mem_append.1 hm with hm | hm
    · exact Nat.le_succ_of_le (h.bounded m hm)
    · obtain rfl := List.mem_singleton.1 hm
      exact Nat.le_refl _

/-- A step of a run is noted and nothing else. -/
theorem alters_mark (s : Session Action) {m : Milestone} (h : m.ofRun = true)
    (unstopped : m.isStop = false) : Alters (Face.note m) [] s.core (s.mark m).core :=
  .of_face (congrArg (fun course => ({ s.core.face with course := course } : Face))
    (List.filter_cons_of_pos h)) rfl (List.countP_cons_of_neg (by simp [unstopped])) rfl

variable (hr : Reacts (fun _ => True) react)
include hr

/-- What the listeners of a published event do leaves the face; that one of them broke the
publication off is noted. -/
theorem alters_told (s : Session Action) {event : String} (data : Payload)
    (h : event ≠ compileScheduled) :
    Alters (Face.cutOff event (s.tell react event data).2) [] (s.mark (.published event data)).core
      (s.tell react event data).1.core := by
  have published : Aside (s.mark (.published event data)).core
      ((s.mark (.published event data)).publish react event data).1.core :=
    aside_nudges (nudges_publish hr (admits_all _) event data)
  unfold tell
  rcases hx : (s.mark (.published event data)).publish react event data with ⟨u, _ | f⟩ <;>
    rw [hx] at published
  · exact published
  · exact published.before (alters_mark u (by simp [Milestone.ofRun, h]) rfl)

/-- The start and the end of a run are steps of its course. -/
theorem alters_tell (s : Session Action) (event : String) (data : Payload)
    (h : (Milestone.published event data).ofRun = true) :
    Alters (Face.cutOff event (s.tell react event data).2 ∘ Face.note (.published event data)) []
      s.core (s.tell react event data).1.core := by
  have other : event ≠ compileScheduled := by
    rintro rfl
    simp [Milestone.ofRun, compileScheduled, compileStarted, compileFinished] at h
  exact (alters_mark s h rfl).trans (alters_told hr s data other)

theorem alters_notify (s : Session Action) (message : String) :
    Alters (Face.cutOff notificationPushed (s.notify react message).2) [message] s.core
      (s.notify react message).1.core := by
  unfold notify Notifications.push
  by_cases mode : s.state.compileMode = .auto
  · rw [if_pos mode]
    exact ⟨rfl, List.sublist_append_left _ _, id, Nat.le_refl _, fun ha _ => ha⟩
  · rw [if_neg mode]
    have pushed : Alters id [message] s.core ((s.modifyState fun st => { st with
        notifications := { s.state.notifications with
          items := s.state.notifications.items ++ [s.state.notifications.next message]
          count := s.state.notifications.count + 1 } }).mark
            (.published notificationPushed
              (s.state.notifications.next message).toRecord)).core := by
      refine ⟨rfl, ?_, fun h => pushed_ordered h message, Nat.le_of_eq ?_, fun ha _ => ha⟩
      · simp [Notifications.messages, core, modifyState, mark, Notifications.next]
      · exact (List.countP_cons_of_neg (by simp [Milestone.isStop])).symm
    exact pushed.trans (alters_told hr _ _ (by decide))

theorem alters_reportMessage (s : Session Action) (message : String) :
    Alters (Face.cutOff notificationPushed (s.reportMessage react message).2) [message] s.core
      (s.reportMessage react message).1.core :=
  Alters.before (.of_eq (core_write s _ _ _)) (alters_notify hr _ message)

theorem alters_reportMessages (messages : List String) (s : Session Action) :
    Alters (Face.cutOff notificationPushed (s.reportMessages react messages).2) messages s.core
      (s.reportMessages react messages).1.core := by
  induction messages generalizing s with
  | nil => exact Aside.refl _
  | cons m messages ih =>
    have first := alters_reportMessage hr s m
    unfold reportMessages
    rcases hx : s.reportMessage react m with ⟨t, _ | f⟩ <;> rw [hx] at first
    · exact first.trans (ih t)
    · exact first.more (List.Sublist.cons_cons m (List.nil_sublist messages))

theorem refused_reportFailure (s : Session Action) (run : Run) (diagnostics : List String) :
    Refused run diagnostics s (s.reportFailure react run diagnostics) := by
  unfold reportFailure
  cases h : limitDiagnostics diagnostics s.settings.maxPrintingErrors with
  | error f => exact .unread f h
  | ok limited =>
    have counted : Alters (Face.refuse diagnostics limited) [] s.core
        (s.modifyState fun st => { st with
          outcome := some (.failure diagnostics), errorCount := limited.total }).core :=
      .of_face rfl rfl rfl rfl
    have listed := counted.trans (alters_reportMessages hr limited.messages _)
    unfold LimitedDiagnostics.messages at listed
    simp only
    split
    next hx =>
      rw [hx] at listed
      exact .cut limited _ _ (foreign_of_reportMessages (congrArg (·.2) hx)) h listed
    next t hx =>
      rw [hx] at listed
      have annotated : Alters (fun c => { c with annotations := limited.annotations }) [] t.core
          (t.modifyState fun st => { st with annotations := limited.annotations }).core :=
        .of_face rfl rfl rfl rfl
      exact .shown limited _ h ((listed.trans annotated).more
        (by simp [LimitedDiagnostics.messages]))

theorem alters_reportInternalError (s : Session Action) (run : Run) (f : Fault) :
    (∃ why, f.cause.wording = .error why ∧ s.reportInternalError react run f = (s, run, some why)) ∨
      ∃ message t fault, internalErrorMessage run.request.compiler f = .ok message ∧
        s.reportInternalError react run f =
          (t, { run with outcome := some (.internalError message) }, fault) ∧
        Alters (Face.cutOff notificationPushed fault ∘ Face.crash message) [message]
          s.core t.core := by
  unfold reportInternalError
  cases h : internalErrorMessage run.request.compiler f with
  | error why =>
    exact .inl ⟨why, internalErrorMessage_eq_error.1 h, rfl⟩
  | ok message =>
    have shown : Alters (Face.crash message) [] s.core (s.modifyState fun st => { st with
        outcome := some (.internalError message), errorCount := 1, annotations := [] }).core :=
      .of_face rfl rfl rfl rfl
    exact .inr ⟨message, _, _, rfl, rfl, shown.trans (alters_notify hr (((s.modifyState fun st =>
      { st with
        outcome := some (.internalError message), errorCount := 1, annotations := [] }).write
        .error pipelineLogger message).write .debug pipelineLogger ("<traceback> " ++ f.traced))
      message)⟩

end Session

/-- What the report of a fault shows: what becomes of the face, the messages that may be added, the
outcome that the run has after it, where it had another before, and the fault of the report. -/
inductive Reporting (compiler : String) (f : Fault) (max : Int) (silenced : Prop)
    (before : Option Outcome) :
    (Face → Face) → List String → Option Outcome → Option Fault → Prop where
  /-- A session that was stopped is told nothing. -/
  | silent (h : silenced) : Reporting compiler f max silenced before id [] before none
  /-- The report fails before it shows anything. -/
  | stuck (e : Fault) (h : f.unreported? max = some e) :
      Reporting compiler f max silenced before id [] before (some e)
  | rejected (diagnostics : List String) (limited : LimitedDiagnostics)
      (hf : f.diagnostics? = some diagnostics)
      (hl : limitDiagnostics diagnostics max = .ok limited) :
      Reporting compiler f max silenced before (Face.reject diagnostics limited) limited.messages
        (some (.failure diagnostics)) none
  /-- The report of a rejection breaks off. -/
  | cut (diagnostics : List String) (limited : LimitedDiagnostics) (e : Fault)
      (hf : f.diagnostics? = some diagnostics)
      (hl : limitDiagnostics diagnostics max = .ok limited) :
      Reporting compiler f max silenced before
        (Face.note (.cutOff notificationPushed e) ∘ Face.refuse diagnostics limited)
        limited.messages (some (.failure diagnostics)) (some e)
  | crashed (message : String) (fault : Option Fault) (hf : f.diagnostics? = none)
      (hm : Session.internalErrorMessage compiler f = .ok message) :
      Reporting compiler f max silenced before
        (Face.cutOff notificationPushed fault ∘ Face.crash message) [message]
        (some (.internalError message)) fault

/-- Only whether the report is made depends on the session. -/
theorem Reporting.imp {compiler : String} {f : Fault} {max : Int} {silenced silenced' : Prop}
    {before outcome : Option Outcome} {g : Face → Face} {ms : List String} {fault : Option Fault}
    (h : Reporting compiler f max silenced before g ms outcome fault)
    (imp : silenced → silenced') :
    Reporting compiler f max silenced' before g ms outcome fault := by
  cases h with
  | silent h => exact .silent (imp h)
  | stuck e h => exact .stuck e h
  | rejected ds limited hf hl => exact .rejected ds limited hf hl
  | cut ds limited e hf hl => exact .cut ds limited e hf hl
  | crashed message fault hf hm => exact .crashed message fault hf hm

namespace Session

variable {react : React Action} {s t : Session Action}

variable (hr : Reacts (fun _ => True) react)
include hr

/-- **What becomes of the fault of a stage.** -/
theorem reporting_reportFault (s : Session Action) (run : Run) (f : Fault) :
    ∃ t run' g ms fault, s.reportFault react run f = (t, run', fault) ∧
      Reporting run.request.compiler f s.settings.maxPrintingErrors (s.state.alive = false)
        run.outcome g ms
        run'.outcome fault ∧
      Alters g ms s.core t.core ∧ run' = { run with outcome := run'.outcome } := by
  unfold reportFault
  split
  next alive =>
    split
    next ds hf =>
      have refused := refused_reportFailure hr s run ds
      rcases hx : s.reportFailure react run ds with ⟨t, run', fault⟩
      rw [hx] at refused
      cases refused with
      | unread e hl =>
        exact ⟨s, run, _, _, _, rfl,
          .stuck e ((f.unreported?_rejection hf _).trans (congrArg failureOf hl)), Aside.refl _,
            rfl⟩
      | shown limited _ hl alters =>
        exact ⟨t, _, _, _, _, rfl, .rejected ds limited hf hl, alters, rfl⟩
      | cut limited _ e _ hl alters =>
        exact ⟨t, _, _, _, _, rfl, .cut ds limited e hf hl, alters, rfl⟩
    next hf =>
      rcases alters_reportInternalError hr s run f with
        ⟨why, hw, eq⟩ | ⟨message, t, fault, hm, eq, alters⟩
      · exact ⟨s, run, _, _, _, eq,
          .stuck why ((f.unreported?_other hf _).trans (congrArg failureOf hw)), Aside.refl _, rfl⟩
      · exact ⟨t, _, _, _, fault, eq, .crashed message fault hf hm, alters, rfl⟩
  next dead => exact ⟨s, run, _, _, _, rfl, .silent (by simpa using dead), Aside.refl _, rfl⟩

/-- **The end of a run takes the busy mark back and, while the session is alive, is announced**,
unless its module cannot be released. -/
theorem alters_closeRun (s : Session Action) (run : Run) :
    ∃ closing : Closing,
      (s.closeRun react run).2 = ({ run with module := none }, closing.fault) ∧
      Alters (Face.close run closing) [] s.core (s.closeRun react run).1.core ∧
      (s.state.alive = true → (s.closeRun react run).1.core.stops = s.core.stops →
        closing ≠ .silent) ∧
      (s.state.alive = false → run.announced = true → ∀ fault, closing ≠ .told fault) := by
  obtain ⟨u, uses, eq | ⟨why, eq⟩⟩ := uses_releaseModule hr (admits_all s) run
  · have released : Aside s.core u.core := aside_uses uses
    have count : u.state.errorCount = s.state.errorCount :=
      congrArg Face.errorCount released.face
    unfold closeRun
    rw [eq]
    by_cases announced : run.announced = true
    · have finished : Alters (fun c => { c with indicator := c.indicator.finish }) [] s.core
          ({ u with indicator := u.indicator.finish } : Session Action).core :=
        released.before (.of_face rfl rfl rfl rfl)
      simp only [announced, if_true]
      by_cases alive : u.state.alive = true
      · rw [if_pos alive]
        have told := finished.trans (alters_tell hr _ compileFinished
          (finishedData { run with module := none } u.state.errorCount) rfl)
        refine ⟨.told _, rfl, told.congr ?_, fun _ _ => nofun, fun dead => ?_⟩
        · simp only [Face.close, announced, if_true, count]
          rfl
        · exact Bool.noConfusion (alive.symm.trans (dead_of_uses uses dead))
      · rw [if_neg alive]
        refine ⟨.silent, rfl, finished.congr ?_, fun ha same => ?_, fun _ _ => nofun⟩
        · simp [Face.close, announced]
        · exact absurd (released.alive ha same) alive
    · simp only [announced]
      exact ⟨.told none, rfl, released.congr (by simp [Face.close, announced]), fun _ _ => nofun,
        fun _ => Bool.noConfusion⟩
  · unfold closeRun
    rw [eq]
    have released : Alters (Face.note (.unreleased run.generation why)) [] s.core
        (u.mark (.unreleased run.generation why)).core :=
      Alters.before (aside_uses uses) (alters_mark u rfl rfl)
    exact ⟨.unreleased why, rfl, released, fun _ _ => nofun, fun _ _ => nofun⟩

/-- A run that is closed keeps all but its module. -/
theorem run_closeRun (s : Session Action) (run : Run) :
    (s.closeRun react run).2.1 = { run with module := none } := by
  obtain ⟨closing, same, -⟩ := alters_closeRun hr s run
  exact congrArg (·.1) same

end Session

/-! ### Stages -/

/-- Runs that differ only in their module, their diagnostics and the list of their stages. -/
structure Run.Alike (run run' : Run) : Prop where
  request : run'.request = run.request
  generation : run'.generation = run.generation
  outcome : run'.outcome = run.outcome
  announced : run'.announced = run.announced

/-- A run after one of its stages: the first announces it. -/
def Run.openedBy (run : Run) (stage : Stage) (outcome : Option Outcome) : Run :=
  { run with outcome := outcome, announced := run.announced || stage = .announce }

/-- What a stage that fails has shown: what became of the face, the messages that may have been
added, the outcome of the run and the fault. -/
inductive Failing (stage : Stage) (run : Run) (max : Int) :
    (Face → Face) → List String → Option Outcome → Fault → Prop where
  | plain (later : stage ≠ .announce) (f : Fault) : Failing stage run max id [] run.outcome f
  /-- The announcement broke off. -/
  | unheard (first : stage = .announce) (f : Fault) (foreign : f.isForeign = true) :
      Failing stage run max (Face.note (.cutOff compileStarted f) ∘ Face.announce run) []
        run.outcome f
  /-- The report of a rejection broke off. -/
  | cut (rejects : stage = .reject) (diagnostics : List String) (limited : LimitedDiagnostics)
      (hl : limitDiagnostics diagnostics max = .ok limited) (f : Fault)
      (foreign : f.isForeign = true) :
      Failing stage run max
        (Face.note (.cutOff notificationPushed f) ∘ Face.refuse diagnostics limited)
        limited.messages (some (.failure diagnostics)) f

/-- What one stage does. -/
inductive Ran (stage : Stage) (run : Run) (s : Session Action) :
    Session Action × Run × Except Fault (Option Stage) → Prop where
  | announced (t : Session Action) (first : stage = .announce)
      (alters : Alters (Face.announce run) [] s.core t.core)
      (cleared : t.state.notifications.messages = []) (ordered : t.state.notifications.Ordered) :
      Ran stage run s (t, { run with announced := true }, .ok (some .invoke))
  | onward (t : Session Action) (run' : Run) (next : Stage) (later : stage ≠ .announce)
      (advances : Session.stagesLeft next < Session.stagesLeft stage) (aside : Aside s.core t.core)
      (alike : run.Alike run') : Ran stage run s (t, run', .ok (some next))
  | failed (t : Session Action) (run' : Run) (g : Face → Face) (messages : List String) (f : Fault)
      (failing : Failing stage run s.settings.maxPrintingErrors g messages run'.outcome f)
      (alters : Alters g messages s.core t.core)
      (alike : (run.openedBy stage run'.outcome).Alike run') : Ran stage run s (t, run', .error f)
  | rejected (t : Session Action) (diagnostics : List String) (limited : LimitedDiagnostics)
      (later : stage ≠ .announce)
      (hl : limitDiagnostics diagnostics s.settings.maxPrintingErrors = .ok limited)
      (alters : Alters (Face.reject diagnostics limited) limited.messages s.core t.core) :
      Ran stage run s (t, { run with outcome := some (.failure diagnostics) }, .ok none)
  | succeeded (t : Session Action) (run' : Run) (a : Artifact) (later : stage ≠ .announce)
      (alters : Alters (Face.succeed a) [] s.core t.core)
      (alike : { run with outcome := some (.success a.text a.binary) }.Alike run') :
      Ran stage run s (t, run', .ok none)

/-- A stage that fails without having shown anything. -/
theorem Ran.of_aside {stage : Stage} {run run' : Run} {s t : Session Action} {f : Fault}
    (later : stage ≠ .announce) (aside : Aside s.core t.core) (alike : run.Alike run') :
    Ran stage run s (t, run', .error f) :=
  .failed t run' id [] f (alike.outcome ▸ .plain later f) aside
    ⟨alike.request, alike.generation, rfl,
      alike.announced.trans (by simp [Run.openedBy, later])⟩

namespace Session

variable {react : React Action} {s t : Session Action}

/-- No stage leads back to the announcement. -/
theorem later_of_advances {stage next : Stage} (h : stagesLeft next < stagesLeft stage) :
    next ≠ .announce := by
  rintro rfl
  cases stage <;> simp [stagesLeft] at h

theorem advances_afterValidate (run : Run) :
    stagesLeft (afterValidate run) < stagesLeft .validate := by
  unfold afterValidate
  split <;> decide

theorem advances_afterInvoke (run : Run) : stagesLeft (afterInvoke run) < stagesLeft .invoke := by
  unfold afterInvoke
  split
  · decide
  · exact Nat.lt_trans (advances_afterValidate run) (by decide)

variable (hr : Reacts (fun _ => True) react)
include hr

theorem ran_announceStage (s : Session Action) (run : Run) :
    Ran .announce run s (s.runStage react .announce run) := by
  have opened : Alters (fun c => { c with
      indicator := c.indicator.start, outcome := none, errorCount := 0, annotations := [] }) []
      s.core s.openCycle.core :=
    ⟨rfl, by simp [Notifications.messages, core, openCycle, modifyState, Notifications.clear],
      fun _ => ⟨List.Pairwise.nil, by simp [core, openCycle, modifyState, Notifications.clear]⟩,
      Nat.le_refl _, fun ha _ => ha⟩
  have told := alters_tell hr s.openCycle compileStarted (startedData run) rfl
  have all := opened.trans told
  show Ran .announce run s (s.announceStage react run)
  unfold announceStage
  split
  next t hx =>
    rw [hx] at told all
    -- the messages were cleared before the listeners heard of the run
    refine .announced t rfl all (List.sublist_nil.1 told.messages) (told.ordered ⟨.nil, ?_⟩)
    simp [core, openCycle, modifyState, Notifications.clear]
  next t f hx =>
    rw [hx] at all
    exact .failed t _ _ _ f (.unheard rfl f (foreign_of_tell (congrArg (·.2) hx))) all
      ⟨rfl, rfl, rfl, by simp [Run.openedBy]⟩

theorem ran_invokeStage (s : Session Action) (run : Run) :
    Ran .invoke run s (s.invokeStage react run) := by
  have called : Aside s.core (s.compileSource react run.generation run.request.compiler
      run.request.source run.request.options).1.core := by
    rcases asked_compileSource hr (admits_all s) run.generation run.request.compiler
      run.request.source run.request.options with ⟨-, eq⟩ | ⟨-, asked⟩
    · rw [eq]
      exact .refl _
    · exact aside_asked asked
  unfold invokeStage
  split <;> next hx =>
    rw [hx] at called
    first
    | exact .of_aside (by decide) called ⟨rfl, rfl, rfl, rfl⟩
    | exact .onward _ _ _ (by decide) (by decide) called ⟨rfl, rfl, rfl, rfl⟩
    | exact .onward _ _ _ (by decide) (advances_afterInvoke run) called ⟨rfl, rfl, rfl, rfl⟩

/-- The stage that reports a rejection ends as the report does. -/
theorem refused_rejectStage (s : Session Action) (run : Run) :
    ∃ t run' fault, Refused run run.diagnostics s (t, run', fault) ∧
      s.rejectStage react run = (t, run', match fault with
        | none => .ok none
        | some f => .error f) := by
  have refused := refused_reportFailure hr s run run.diagnostics
  unfold rejectStage
  rcases hx : s.reportFailure react run run.diagnostics with ⟨t, run', _ | f⟩ <;>
    exact ⟨t, run', _, hx ▸ refused, rfl⟩

theorem ran_rejectStage (s : Session Action) (run : Run) :
    Ran .reject run s (s.rejectStage react run) := by
  obtain ⟨t, run', fault, refused, rejects⟩ := refused_rejectStage hr s run
  rw [rejects]
  cases refused with
  | unread e hl => exact .of_aside (by decide) (.refl _) ⟨rfl, rfl, rfl, rfl⟩
  | shown limited _ hl alters => exact .rejected t run.diagnostics limited (by decide) hl alters
  | cut limited _ f foreign hl alters =>
    exact .failed t _ _ _ f (.cut rfl run.diagnostics limited hl f foreign) alters
      ⟨rfl, rfl, rfl, by simp [Run.openedBy]⟩

theorem ran_validateStage (s : Session Action) (run : Run) :
    Ran .validate run s (s.validateStage react run) := by
  unfold validateStage
  split
  · exact .of_aside (by decide) (.refl _) ⟨rfl, rfl, rfl, rfl⟩
  next m _ =>
    have called : Aside s.core (s.validateModule react run.generation m).1.core :=
      aside_uses (called_validateModule hr (admits_all s) _ m).uses
    split <;> next hx =>
      rw [hx] at called
      first
      | exact .onward _ run _ (by decide) (advances_afterValidate run) called ⟨rfl, rfl, rfl, rfl⟩
      | exact .of_aside (by decide) called ⟨rfl, rfl, rfl, rfl⟩

theorem ran_optimizeStage (s : Session Action) (run : Run) :
    Ran .optimize run s (s.optimizeStage react run) := by
  unfold optimizeStage
  split
  · exact .of_aside (by decide) (.refl _) ⟨rfl, rfl, rfl, rfl⟩
  next m _ =>
    have called : Aside s.core (s.optimizeModule react run.generation m).1.core :=
      aside_uses (called_optimizeModule hr (admits_all s) _ m).uses
    split <;> next hx =>
      rw [hx] at called
      first
      | exact .onward _ _ _ (by decide) (by decide) called ⟨rfl, rfl, rfl, rfl⟩
      | exact .of_aside (by decide) called ⟨rfl, rfl, rfl, rfl⟩

theorem ran_emitStage (s : Session Action) (run : Run) :
    Ran .emit run s (s.emitStage react run) := by
  unfold emitStage
  split
  · exact .of_aside (by decide) (.refl _) ⟨rfl, rfl, rfl, rfl⟩
  next m _ =>
    have called : Aside s.core (s.emitAndDispose react run.generation m).1.core :=
      aside_uses (uses_emitAndDispose hr (admits_all s) _ m)
    simp only
    split
    next hx =>
      rw [hx] at called
      exact .of_aside (by decide) called ⟨rfl, rfl, rfl, rfl⟩
    next u a hx =>
      rw [hx] at called
      have shown : Alters (Face.succeed a) [] u.core (u.modifyState fun st => { st with
          artifact := a, errorCount := 0
          outcome := some (.success a.text a.binary) }).core := .of_face rfl rfl rfl rfl
      exact .succeeded _ _ a (by decide) (called.before shown) ⟨rfl, rfl, rfl, rfl⟩

theorem ran_runStage (s : Session Action) (stage : Stage) (run : Run) :
    Ran stage run s (s.runStage react stage run) := by
  cases stage with
  | announce => exact ran_announceStage hr s run
  | invoke => exact ran_invokeStage hr s run
  | reject => exact ran_rejectStage hr s run
  | validate => exact ran_validateStage hr s run
  | optimize => exact ran_optimizeStage hr s run
  | emit => exact ran_emitStage hr s run

end Session

/-! ### Steps -/

/-- How a run ends: what becomes of the face, the messages that are added, the outcome of the run
and the fault of its report. -/
inductive Ending (stage : Stage) (run : Run) (s t : Session Action) :
    (Face → Face) → List String → Option Outcome → Option Fault → Prop where
  | abandoned (dead : s.state.alive = false) : Ending stage run s t id [] run.outcome none
  | rejected (later : stage ≠ .announce) (diagnostics : List String) (limited : LimitedDiagnostics)
      (hl : limitDiagnostics diagnostics s.settings.maxPrintingErrors = .ok limited) :
      Ending stage run s t (Face.reject diagnostics limited) limited.messages
        (some (.failure diagnostics)) none
  | succeeded (later : stage ≠ .announce) (a : Artifact) :
      Ending stage run s t (Face.succeed a) [] (some (.success a.text a.binary)) none
  /-- A stage failed; nothing of that is told to a session that was stopped meanwhile. -/
  | failed {g h : Face → Face} {ms ns : List String} {before outcome : Option Outcome} {f : Fault}
      {fault : Option Fault} (alive : s.state.alive = true)
      (failing : Failing stage run s.settings.maxPrintingErrors g ms before f)
      (reporting : Reporting run.request.compiler f s.settings.maxPrintingErrors
        (s.state.alive = true → t.core.stops ≠ s.core.stops) before h ns outcome fault) :
      Ending stage run s t (h ∘ Face.raise stage f ∘ g) (ms ++ ns) outcome fault

/-- A stage that fails changes nothing but what is shown. -/
theorem Failing.frame {stage : Stage} {run : Run} {max : Int} {g : Face → Face}
    {ms : List String} {outcome : Option Outcome} {f : Fault}
    (h : Failing stage run max g ms outcome f) (c : Face) :
    (g c).stages = c.stages ∧ (g c).compiling = c.compiling ∧ (g c).generation = c.generation ∧
      (g c).settings = c.settings := by
  cases h <;> exact ⟨rfl, rfl, rfl, rfl⟩

/-- The list of the stages before it does not matter. -/
theorem Failing.of_stages {stage : Stage} {run : Run} {names : List String} {max : Int}
    {g : Face → Face} {ms : List String} {outcome : Option Outcome} {f : Fault}
    (h : Failing stage { run with stages := names } max g ms outcome f) :
    Failing stage run max g ms outcome f := by
  cases h with
  | plain later => exact (.plain later f : Failing stage run max id [] run.outcome f)
  | unheard first _ foreign =>
    exact (.unheard first f foreign : Failing stage run max _ [] run.outcome f)
  | cut rejects ds limited hl _ foreign => exact .cut rejects ds limited hl f foreign

/-- A report changes nothing but what is shown. -/
theorem Reporting.frame {compiler : String} {f : Fault} {max : Int} {silenced : Prop}
    {before outcome : Option Outcome} {g : Face → Face} {ms : List String} {fault : Option Fault}
    (h : Reporting compiler f max silenced before g ms outcome fault) (c : Face) :
    (g c).stages = c.stages ∧ (g c).compiling = c.compiling ∧ (g c).generation = c.generation ∧
      (g c).indicator = c.indicator := by
  cases h with
  | crashed _ fault _ _ => cases fault <;> exact ⟨rfl, rfl, rfl, rfl⟩
  | _ => exact ⟨rfl, rfl, rfl, rfl⟩

/-- A stage that fails takes no step back. -/
theorem Failing.course {stage : Stage} {run : Run} {max : Int} {g : Face → Face}
    {ms : List String} {outcome : Option Outcome} {f : Fault}
    (h : Failing stage run max g ms outcome f) (c : Face) : c.course <:+ (g c).course := by
  cases h with
  | plain => exact List.suffix_refl _
  | unheard => exact (List.suffix_cons _ _).trans (List.suffix_cons _ _)
  | cut => exact List.suffix_cons _ _

theorem Reporting.course {compiler : String} {f : Fault} {max : Int} {silenced : Prop}
    {before outcome : Option Outcome} {g : Face → Face} {ms : List String} {fault : Option Fault}
    (h : Reporting compiler f max silenced before g ms outcome fault) (c : Face) :
    c.course <:+ (g c).course := by
  cases h with
  | cut => exact List.suffix_cons _ _
  | crashed _ fault =>
    cases fault with
    | none => exact List.suffix_refl _
    | some e => exact List.suffix_cons _ _
  | _ => exact List.suffix_refl _

/-- The end of a run takes no step back. -/
theorem Ending.course {stage : Stage} {run : Run} {s t : Session Action} {f : Face → Face}
    {ms : List String} {outcome : Option Outcome} {fault : Option Fault}
    (h : Ending stage run s t f ms outcome fault) (c : Face) : c.course <:+ (f c).course := by
  cases h with
  | failed _ failing reporting =>
    exact (failing.course c).trans
      ((List.suffix_cons _ _).trans (reporting.course (Face.raise stage _ _)))
  | _ => exact List.suffix_refl _

/-- The end of a run is noted by the coroutine that waits for it, not by the run. -/
theorem Ending.frame {stage : Stage} {run run' : Run} {s t : Session Action} {f : Face → Face}
    {ms : List String} {outcome : Option Outcome} {fault : Option Fault} {closing : Closing}
    (h : Ending stage run s t f ms outcome fault)
    (alters : Alters (Face.close run' closing ∘ f) ms s.core t.core) :
    t.core.face.stages = s.core.face.stages ∧ t.state.compiling = s.state.compiling ∧
      t.state.generation = s.state.generation := by
  have ended (c : Face) : (f c).stages = c.stages ∧ (f c).compiling = c.compiling ∧
      (f c).generation = c.generation := by
    cases h with
    | failed _ failing reporting =>
      obtain ⟨stages, compiling, generation, -⟩ := reporting.frame (Face.raise stage _ (_ : Face))
      obtain ⟨stages', compiling', generation', -⟩ := failing.frame c
      exact ⟨stages.trans stages', compiling.trans compiling', generation.trans generation'⟩
    | _ => exact ⟨rfl, rfl, rfl⟩
  have closed (c : Face) : (c.close run' closing).stages = c.stages ∧
      (c.close run' closing).compiling = c.compiling ∧
      (c.close run' closing).generation = c.generation := by
    rw [Face.close_eq]
    exact ⟨rfl, rfl, rfl⟩
  obtain ⟨stages, compiling, generation⟩ := closed (f s.core.face)
  obtain ⟨stages', compiling', generation'⟩ := ended s.core.face
  refine ⟨?_, ?_, ?_⟩
  · exact (congrArg Face.stages alters.face).trans (stages.trans stages')
  · exact (congrArg Face.compiling alters.face).trans (compiling.trans compiling')
  · exact (congrArg Face.generation alters.face).trans (generation.trans generation')

/-- What ends a run does not touch the busy mark, unless it is announced by the same step; closing
the run does. -/
theorem Ending.indicator {stage : Stage} {run : Run} {s t : Session Action} {f : Face → Face}
    {ms : List String} {outcome : Option Outcome} {fault : Option Fault}
    (h : Ending stage run s t f ms outcome fault) (later : stage ≠ .announce) (c : Face) :
    (f c).indicator = c.indicator := by
  cases h with
  | failed _ failing reporting =>
    refine (reporting.frame _).2.2.2.trans ?_
    cases failing with
    | unheard first => exact absurd first later
    | _ => rfl
  | _ => rfl

/-- A report that does not fail sets an outcome, unless it is not made. -/
theorem Reporting.shown {compiler : String} {f : Fault} {max : Int} {silenced : Prop}
    {before outcome : Option Outcome} {g : Face → Face} {ms : List String}
    (h : Reporting compiler f max silenced before g ms outcome none) (heard : ¬ silenced)
    (c : Face) :
    (g c).outcome = outcome ∧ outcome.isSome = true := by
  cases h with
  | silent silenced => exact absurd silenced heard
  | rejected => exact ⟨rfl, rfl⟩
  | crashed => exact ⟨rfl, rfl⟩

/-- A run that ends in a session that lives on has an outcome, and the outcome is shown. -/
theorem Ending.outcome_shown {stage : Stage} {run run' : Run} {s t : Session Action}
    {f : Face → Face} {ms : List String} {outcome : Option Outcome} {closing : Closing}
    (h : Ending stage run s t f ms outcome none)
    (alters : Alters (Face.close run' closing ∘ f) ms s.core t.core) (alive : s.state.alive = true)
    (stops : t.core.stops = s.core.stops) :
    t.state.outcome = outcome ∧ outcome.isSome = true := by
  have shown : t.state.outcome = (f s.core.face).outcome :=
    (congrArg Face.outcome alters.face).trans (Face.outcome_close run' closing _)
  rw [shown]
  cases h with
  | abandoned dead => exact absurd (alive.symm.trans dead) (by decide)
  | rejected => exact ⟨rfl, rfl⟩
  | succeeded => exact ⟨rfl, rfl⟩
  | failed _ failing reporting => exact reporting.shown (fun stopped => stopped alive stops) _

/-- The announcement of a run ends it only in a session that was stopped, or when it breaks off. -/
theorem Ending.of_announce {run : Run} {s t : Session Action} {f : Face → Face}
    {ms : List String} {outcome : Option Outcome} {fault : Option Fault}
    (h : Ending .announce run s t f ms outcome fault) (alive : s.state.alive = true) :
    ∃ why g, why.isForeign = true ∧
      Reporting run.request.compiler why s.settings.maxPrintingErrors
        (s.state.alive = true → t.core.stops ≠ s.core.stops) run.outcome g ms outcome fault ∧
      f = g ∘ Face.raise .announce why ∘ Face.note (.cutOff compileStarted why) ∘
        Face.announce run := by
  cases h with
  | abandoned dead => exact absurd (alive.symm.trans dead) (by decide)
  | failed _ failing reporting =>
    cases failing with
    | plain later => exact absurd rfl later
    | unheard _ _ foreign => exact ⟨_, _, foreign, reporting, rfl⟩
    | cut rejects => cases rejects
  | rejected later => exact absurd rfl later
  | succeeded later => exact absurd rfl later

/-- What a step of a run does: the run is announced, goes on or ends. -/
inductive Stepped (stage : Stage) (run : Run) (s : Session Action) :
    Session Action × Session.RunStep → Prop where
  | announced (t : Session Action) (run' : Run) (first : stage = .announce)
      (alters : Alters (Face.announce run) [] s.core t.core)
      (cleared : t.state.notifications.messages = []) (ordered : t.state.notifications.Ordered)
      (alike : { run with announced := true }.Alike run') :
      Stepped stage run s (t, .next .invoke run')
  | onward (t : Session Action) (run' : Run) (next : Stage) (later : stage ≠ .announce)
      (advances : Session.stagesLeft next < Session.stagesLeft stage) (aside : Aside s.core t.core)
      (alike : run.Alike run') : Stepped stage run s (t, .next next run')
  | ended (t : Session Action) (run' : Run) (f : Face → Face) (messages : List String)
      (fault : Option Fault) (closing : Closing)
      (ending : Ending stage run s t f messages run'.outcome fault)
      (alters : Alters (Face.close run' closing ∘ f) messages s.core t.core)
      (alike : { run with outcome := run'.outcome, announced := run'.announced }.Alike run')
      (announced : run'.announced = (run.announced || s.state.alive && stage = .announce))
      (telling : s.state.alive = true → t.core.stops = s.core.stops → closing ≠ .silent) :
      Stepped stage run s (t, .over run' (closing.fault.or fault))

namespace Session

variable {react : React Action} {s t : Session Action}

variable (hr : Reacts (fun _ => True) react)
include hr

/-- A run is closed after what ended it. -/
theorem stepped_ended {s u : Session Action} {stage : Stage} {run run₁ : Run} {f : Face → Face}
    {messages : List String} {fault : Option Fault}
    (ending : ∀ t, u.core.stops ≤ t.core.stops → Ending stage run s t f messages run₁.outcome fault)
    (alters : Alters f messages s.core u.core)
    (alike : { run with outcome := run₁.outcome, announced := run₁.announced }.Alike run₁)
    (announced : run₁.announced = (run.announced || s.state.alive && stage = .announce)) :
    Stepped stage run s ((u.closeRun react run₁).1,
      .over (u.closeRun react run₁).2.1 ((u.closeRun react run₁).2.2.or fault)) := by
  obtain ⟨closing, same, closed, telling, -⟩ := alters_closeRun hr u run₁
  have all : Alters (Face.close run₁ closing ∘ f) messages s.core (u.closeRun react run₁).1.core :=
    by simpa using alters.trans closed
  rw [same]
  refine .ended _ _ f messages fault closing (ending _ closed.stops_le) all
    ⟨alike.request, alike.generation, rfl, rfl⟩ announced fun alive stops => ?_
  -- the session was not stopped, neither before nor while the run was closed
  have before := alters.stops_le
  have after := closed.stops_le
  exact telling (alters.alive alive (by omega)) (by omega)

theorem stepped_over {s u : Session Action} {stage : Stage} {run run₁ : Run} {f : Face → Face}
    {messages : List String}
    (ending : ∀ t, Ending stage run s t f messages run₁.outcome none)
    (alters : Alters f messages s.core u.core)
    (alike : { run with outcome := run₁.outcome, announced := run₁.announced }.Alike run₁)
    (announced : run₁.announced = (run.announced || s.state.alive && stage = .announce)) :
    Stepped stage run s ((u.closeRun react run₁).1,
      .over (u.closeRun react run₁).2.1 (u.closeRun react run₁).2.2) := by
  have ended := stepped_ended hr (fun t _ => ending t) alters alike announced
  rwa [Option.or_none] at ended

/-- The fault of a stage ends the run. -/
theorem stepped_failed {s u : Session Action} {stage : Stage} {run run₁ : Run} {g : Face → Face}
    {messages : List String} {f : Fault} (alive : s.state.alive = true)
    (failing : Failing stage run s.settings.maxPrintingErrors g messages run₁.outcome f)
    (alters : Alters g messages s.core u.core)
    (alike : (run.openedBy stage run₁.outcome).Alike run₁) :
    Stepped stage run s
      (let (s, run, fault) := (u.mark (.raised stage f)).reportFault react run₁ f
      let (s, run, last) := closeRun react run s
      (s, .over run (last.or fault))) := by
  have settings : u.settings = s.settings :=
    (congrArg Face.settings alters.face).trans (failing.frame _).2.2.2
  have raised : Alters (Face.raise stage f ∘ g) messages s.core (u.mark (.raised stage f)).core :=
    (alters.trans (alters_mark u (m := .raised stage f) rfl rfl)).more (by simp)
  obtain ⟨v, run₂, h, ns, fault, eq, reporting, reported, kept⟩ :=
    reporting_reportFault hr (u.mark (.raised stage f)) run₁ f
  have announced : run₁.announced = (run.announced || s.state.alive && stage = .announce) :=
    alike.announced.trans (by simp [Run.openedBy, alive])
  rw [show (u.mark (.raised stage f)).settings = s.settings from settings, alike.request]
    at reporting
  rw [eq]
  refine stepped_ended hr (fun t le => .failed alive failing
    (reporting.imp fun dead living same => ?_))
    (raised.trans reported) (kept ▸ ⟨alike.request, alike.generation, rfl, rfl⟩) (kept ▸ announced)
  -- a session that was stopped before the report was not alive at its end
  have before := raised.stops_le
  have after := reported.stops_le
  exact Bool.noConfusion ((raised.alive living (by omega)).symm.trans dead)

/-- **A step of a run announces it, leads to a later stage or ends it.** -/
theorem stepped_stepRun (s : Session Action) (stage : Stage) (run : Run) :
    Stepped stage run s (s.stepRun react stage run) := by
  unfold stepRun
  by_cases alive : s.state.alive = true
  · rw [if_pos alive]
    have ran := ran_runStage hr s stage { run with stages := run.stages ++ [stage.name] }
    rcases hx : s.runStage react stage { run with stages := run.stages ++ [stage.name] } with
      ⟨u, run₁, f | _ | next⟩ <;> rw [hx] at ran
    · cases ran with
      | failed _ _ g messages _ failing alters alike =>
        exact stepped_failed hr alive failing.of_stages alters
          ⟨alike.request, alike.generation, alike.outcome, alike.announced⟩
    · cases ran with
      | rejected _ ds limited later hl alters =>
        have ending (t : Session Action) :
            Ending stage run s t (Face.reject ds limited) limited.messages
              (some (.failure ds)) none := .rejected later ds limited hl
        exact stepped_over hr ending alters ⟨rfl, rfl, rfl, rfl⟩ (by simp [later])
      | succeeded _ _ a later alters alike =>
        have ending (t : Session Action) :
            Ending stage run s t (Face.succeed a) [] run₁.outcome none :=
          alike.outcome ▸ .succeeded later a
        exact stepped_over hr ending alters ⟨alike.request, alike.generation, rfl, rfl⟩
          (alike.announced.trans (by simp [later]))
    · cases ran with
      | announced _ first alters cleared ordered =>
        exact .announced _ _ first alters cleared ordered ⟨rfl, rfl, rfl, rfl⟩
      | onward _ _ _ later advances aside alike =>
        exact .onward _ _ _ later advances aside
          ⟨alike.request, alike.generation, alike.outcome, alike.announced⟩
  · rw [if_neg alive]
    have dead : s.state.alive = false := by simpa using alive
    have ending (t : Session Action) : Ending stage run s t id [] run.outcome none :=
      .abandoned dead
    exact stepped_over hr ending
      (Aside.of_eq (core_write s .debug pipelineLogger (abandonedMessage run)))
      ⟨rfl, rfl, rfl, rfl⟩ (by simp [dead])

end Session

end Playground
