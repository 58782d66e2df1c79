import Playground.Proofs.Entries
import Playground.Proofs.Legible
import Playground.Proofs.Stages

/-!
# What is shown belongs together

The outcome, the number of errors, the annotations, the messages and the artifact are written by
different stages and reports, and a run may be given up before any of them. Still, whenever a
session can be seen, they belong to one run, unless a listener broke a report off.

* `State.Shows` — what is shown for an outcome.
* `Core.Sound` — the invariant: what is shown, and the one run that may be in the pipeline.
* `sound_moves` — the invariant holds after all moves.
* `shown_together` — what it says of a session.
* `shown_apart_mute` — a rejection without its annotations, after a listener has failed.
-/

namespace Playground

open Playground.Core

/-- Nothing is reported. -/
structure State.Blank (st : State) : Prop where
  errorCount : st.errorCount = 0
  annotations : st.annotations = []
  messages : st.notifications.messages = []

/-- What is shown for an outcome where at most `maxErrors` errors are reported one by one. -/
def State.Shows (st : State) (maxErrors : Int) : Option Outcome → Prop
  | none => st.Blank
  | some (.success text binary) => st.Blank ∧ st.artifact = ⟨text, binary⟩
  | some (.failure diagnostics) =>
    st.errorCount = diagnostics.length ∧ ∃ limited,
      limitDiagnostics diagnostics maxErrors = .ok limited ∧ st.annotations = limited.annotations ∧
      st.notifications.messages.Sublist
        (firstMembers maxErrors diagnostics ++ limited.summary.toList)
  | some (.internalError message) =>
    st.errorCount = 1 ∧ st.annotations = [] ∧
      (st.notifications.messages = [] ∨ st.notifications.messages = [message])

/-- The run that ended in success with a step of a course, and its output; the run may have failed
to report that. -/
def Milestone.success? : Milestone → Option (Nat × Artifact)
  | .ended g (some (.success text binary)) => some (g, ⟨text, binary⟩)
  | .broke g (some (.success text binary)) _ => some (g, ⟨text, binary⟩)
  | _ => none

/-- The latest run that ended in success, and its output, of a course that is given latest first. -/
def latestSuccess? (ms : List Milestone) : Option (Nat × Artifact) :=
  ms.findSome? Milestone.success?

/-- The output of that run. -/
def lastSuccess (ms : List Milestone) : Artifact := ((latestSuccess? ms).map (·.2)).getD {}

theorem lastSuccess_cons (m : Milestone) (ms : List Milestone) :
    lastSuccess (m :: ms) = (m.success?.map (·.2)).getD (lastSuccess ms) := by
  unfold lastSuccess latestSuccess?
  rw [List.findSome?_cons]
  cases m.success? <;> rfl

theorem lastSuccess_cons_of_none {m : Milestone} (h : m.success? = none) (ms : List Milestone) :
    lastSuccess (m :: ms) = lastSuccess ms := by
  rw [lastSuccess_cons, h]
  rfl

/-- Only the steps of runs count for the latest success. -/
theorem lastSuccess_filter (ms : List Milestone) :
    lastSuccess (ms.filter Milestone.ofRun) = lastSuccess ms := by
  have only (m : Milestone) (other : m.ofRun = false) : m.success? = none := by
    cases m with
    | ended | broke => cases other
    | _ => rfl
  unfold lastSuccess latestSuccess?
  rw [← List.head?_filterMap, ← List.head?_filterMap, filterMap_of_filter only]

/-- The artifact is that of the latest success that a course tells of. -/
def Face.Attributed (c : Face) : Prop := c.artifact = lastSuccess c.course

theorem sublist_singleton {l : List String} {m : String} (h : l.Sublist [m]) :
    l = [] ∨ l = [m] := by
  rcases List.sublist_cons_iff.1 h with h | ⟨r, rfl, hr⟩
  · exact .inl (List.sublist_nil.1 h)
  · exact .inr (congrArg (m :: ·) (List.sublist_nil.1 hr))

/-- What is shown stays in order when messages are dismissed. -/
theorem State.Shows.mono {st st' : State} {m : Int} {outcome : Option Outcome}
    (h : st.Shows m outcome) (count : st'.errorCount = st.errorCount)
    (annotations : st'.annotations = st.annotations) (artifact : st'.artifact = st.artifact)
    (messages : st'.notifications.messages.Sublist st.notifications.messages) :
    st'.Shows m outcome := by
  have blank (b : st.Blank) : st'.Blank :=
    ⟨count.trans b.errorCount, annotations.trans b.annotations,
      List.sublist_nil.1 (b.messages ▸ messages)⟩
  match outcome with
  | none => exact blank h
  | some (.success text binary) => exact ⟨blank h.1, artifact.trans h.2⟩
  | some (.failure diagnostics) =>
    obtain ⟨total, limited, hl, marks, listed⟩ := h
    exact ⟨count.trans total, limited, hl, annotations.trans marks, messages.trans listed⟩
  | some (.internalError message) =>
    obtain ⟨one, none, listed⟩ := h
    refine ⟨count.trans one, annotations.trans none, ?_⟩
    rcases listed with listed | listed <;> rw [listed] at messages
    · exact .inl (List.sublist_nil.1 messages)
    · exact sublist_singleton messages

/-- What limited diagnostics are made of. -/
theorem limitDiagnostics_parts {diagnostics : List String} {maxCount : Int}
    {limited : LimitedDiagnostics} (h : limitDiagnostics diagnostics maxCount = .ok limited) :
    limited.shown = firstMembers maxCount diagnostics ∧ limited.total = diagnostics.length := by
  obtain ⟨annotations, -, rfl⟩ := limitDiagnostics_eq_ok.1 h
  exact ⟨rfl, rfl⟩

namespace Core

/-- A run waits before a stage; before all but the first nothing is shown. -/
structure Stands (stage : Stage) (run : Run) (c : Core) : Prop where
  fresh : run.outcome = none
  number : run.generation = c.state.generation
  announced : run.announced = true ↔ stage ≠ .announce
  blank : stage ≠ .announce → c.state.outcome = none

/-- What is shown belongs together, unless the publication of a report broke off. -/
structure Coherent (c : Core) : Prop where
  shows : Uncut c.face.course → c.state.Shows c.settings.maxPrintingErrors c.state.outcome
  ordered : c.state.notifications.Ordered
  attributed : c.face.Attributed

/-- What is shown belongs together, and at most one run is in the pipeline. -/
structure Sound (c : Core) : Prop extends Coherent c where
  idle : c.state.compiling = false → c.face.stages = []
  busy : c.state.compiling = true → ∃ stage run, c.face.stages = [(stage, run)] ∧ c.Stands stage run

/-- What is shown belongs together, and no run is in the pipeline. -/
structure Resting (c : Core) : Prop extends Coherent c where
  stages : c.face.stages = []

variable {c d : Core}

theorem Stands.aside {stage : Stage} {run : Run} (h : c.Stands stage run) (aside : Aside c d) :
    d.Stands stage run where
  fresh := h.fresh
  number := h.number.trans (congrArg Face.generation aside.face).symm
  announced := h.announced
  blank later := (congrArg Face.outcome aside.face).trans (h.blank later)

theorem Coherent.artifact (h : c.Coherent) : c.state.artifact = lastSuccess c.history :=
  h.attributed.trans (lastSuccess_filter c.history)

/-- What is done from the side leaves what is shown in order. -/
theorem Coherent.aside (h : c.Coherent) (aside : Aside c d) : d.Coherent where
  shows uncut := by
    have outcome : d.state.outcome = c.state.outcome := congrArg Face.outcome aside.face
    have settings : d.settings = c.settings := congrArg Face.settings aside.face
    have messages := aside.messages
    rw [List.append_nil] at messages
    rw [aside.face] at uncut
    rw [outcome, settings]
    exact (h.shows uncut).mono (congrArg Face.errorCount aside.face)
      (congrArg Face.annotations aside.face) (congrArg Face.artifact aside.face) messages
  ordered := aside.ordered h.ordered
  attributed := by
    rw [aside.face]
    exact h.attributed

theorem Resting.aside (h : c.Resting) (aside : Aside c d) : d.Resting :=
  ⟨h.toCoherent.aside aside, (congrArg Face.stages aside.face).trans h.stages⟩

theorem Sound.aside (h : c.Sound) (aside : Aside c d) : d.Sound := by
  have compiling : d.state.compiling = c.state.compiling := congrArg Face.compiling aside.face
  have stages : d.face.stages = c.face.stages := congrArg Face.stages aside.face
  refine ⟨h.toCoherent.aside aside, fun idle => ?_, fun busy => ?_⟩
  · exact stages.trans (h.idle (compiling.symm.trans idle))
  · obtain ⟨stage, run, waits, stands⟩ := h.busy (compiling.symm.trans busy)
    exact ⟨stage, run, stages.trans waits, stands.aside aside⟩

theorem Resting.sound (h : c.Resting) (idle : c.state.compiling = false) : c.Sound :=
  ⟨h.toCoherent, fun _ => h.stages, fun busy => absurd (busy.symm.trans idle) (by decide)⟩

/-- The run that waits at the front is the only one in the pipeline. -/
theorem Sound.front {at_ : Waiting} {rest : List Waiting} (h : c.Sound)
    (front : c.waiting = at_ :: rest) {stage : Stage} {run : Run}
    (staging : at_.stage? = some (stage, run)) :
    c.face.stages = [(stage, run)] ∧ rest.filterMap Waiting.stage? = [] ∧ c.Stands stage run ∧
      c.state.compiling = true := by
  have stages : c.face.stages = (stage, run) :: rest.filterMap Waiting.stage? := by
    show c.waiting.filterMap Waiting.stage? = _
    rw [front, List.filterMap_cons_some staging]
  have compiling : c.state.compiling = true := by
    cases idle : c.state.compiling with
    | true => rfl
    | false => simp [h.idle idle] at stages
  obtain ⟨stage', run', waits, stands⟩ := h.busy compiling
  obtain ⟨eq, none⟩ := List.cons.inj (stages.symm.trans waits)
  obtain ⟨rfl, rfl⟩ := Prod.mk.inj eq
  exact ⟨waits, none, stands, compiling⟩

/-- The coroutine of a run leaves the queue for its step. -/
theorem Sound.pop {at_ : Waiting} {rest : List Waiting} (h : c.Sound)
    (front : c.waiting = at_ :: rest) {stage : Stage} {run : Run}
    (staging : at_.stage? = some (stage, run)) :
    ({ c with waiting := rest } : Core).Resting ∧ c.Stands stage run ∧
      c.state.compiling = true := by
  obtain ⟨-, none, stands, compiling⟩ := h.front front staging
  exact ⟨⟨⟨h.shows, h.ordered, h.attributed⟩, none⟩, stands, compiling⟩

end Core

/-! ### The end of a run -/

namespace Face

def shown (f : Face) : Option Outcome × Int × List Annotation × Artifact × Settings :=
  (f.outcome, f.errorCount, f.annotations, f.artifact, f.settings)

/-- Closing a run takes nothing back that is shown. -/
@[simp] theorem shown_close (run : Run) (closing : Closing) (f : Face) :
    (f.close run closing).shown = f.shown := by
  rw [close_eq]
  rfl

/-- Closing a run tells of no success. -/
@[simp] theorem lastSuccess_close (run : Run) (closing : Closing) (f : Face) :
    lastSuccess (f.close run closing).course = lastSuccess f.course := by
  unfold close
  split
  · rfl
  · split <;> rfl
  next fault => cases fault <;> split <;> rfl

end Face

section

variable {stage : Stage} {run : Run} {max : Int} {g : Face → Face} {ms : List String} {f : Fault}
  {compiler : String} {silenced : Prop} {before outcome : Option Outcome} {fault : Option Fault}

/-- A stage that fails neither takes an artifact back nor tells of a success. -/
theorem Failing.attributed (h : Failing stage run max g ms outcome f) (fresh : run.outcome = none)
    {c : Face} (hc : c.Attributed) :
    (g c).Attributed ∧ ∀ n, (Milestone.ended n outcome).success? = none := by
  cases h with
  | plain => exact ⟨hc, fun _ => by rw [fresh]; rfl⟩
  | unheard => exact ⟨hc, fun _ => by rw [fresh]; rfl⟩
  | cut => exact ⟨hc, fun _ => rfl⟩

theorem Reporting.attributed (h : Reporting compiler f max silenced before g ms outcome fault)
    (unsuccessful : ∀ n, (Milestone.ended n before).success? = none)
    {c : Face} (hc : c.Attributed) :
    (g c).Attributed ∧ ∀ n, (Milestone.ended n outcome).success? = none := by
  cases h with
  | silent => exact ⟨hc, unsuccessful⟩
  | stuck => exact ⟨hc, unsuccessful⟩
  | rejected => exact ⟨hc, fun _ => rfl⟩
  | cut => exact ⟨hc, fun _ => rfl⟩
  | crashed _ fault => cases fault <;> exact ⟨hc, fun _ => rfl⟩

/-- **The artifact is that of the latest run that ended in success, also when a run ends.** -/
theorem Ending.attributed {s t : Session Action} {F : Face → Face}
    (h : Ending stage run s t F ms outcome fault) (fresh : run.outcome = none) {c : Face}
    (hc : c.Attributed) (n : Nat) :
    (F c).artifact = lastSuccess (.ended n outcome :: (F c).course) := by
  cases h with
  | abandoned => exact hc.trans (lastSuccess_cons_of_none (by rw [fresh]; rfl) _).symm
  | rejected => exact hc.trans (lastSuccess_cons_of_none rfl _).symm
  | succeeded => rfl
  | failed _ failing reporting =>
    obtain ⟨attributed, unsuccessful⟩ := failing.attributed fresh hc
    obtain ⟨last, unsuccessful'⟩ :=
      reporting.attributed unsuccessful (c := Face.raise stage _ _) attributed
    exact last.trans (lastSuccess_cons_of_none (unsuccessful' n) _).symm

end

namespace Core

variable {c d : Core}

/-- A change of anything else leaves a resting core at rest. -/
theorem Resting.of_face (h : c.Resting) (shown : d.face.shown = c.face.shown)
    (notifications : d.state.notifications = c.state.notifications)
    (later : c.face.course <:+ d.face.course)
    (tells : lastSuccess d.face.course = lastSuccess c.face.course)
    (stages : d.face.stages = c.face.stages) : d.Resting := by
  simp only [Face.shown, Prod.mk.injEq] at shown
  obtain ⟨outcome, count, annotations, artifact, settings⟩ := shown
  have outcome' : d.state.outcome = c.state.outcome := outcome
  have settings' : d.settings = c.settings := settings
  refine ⟨⟨fun uncut => ?_, notifications ▸ h.ordered, ?_⟩, stages.trans h.stages⟩
  · rw [outcome', settings']
    exact (h.shows (uncut.before later)).mono count annotations artifact
      (notifications ▸ List.Sublist.refl _)
  · exact artifact.trans (h.attributed.trans tells.symm)

/-- A run that comes to wait is the only one in the pipeline. -/
theorem Resting.await (h : c.Resting) (busy : c.state.compiling = true) {stage : Stage} {run : Run}
    (stands : c.Stands stage run) (after : After) :
    (c.await (some (.staging stage run after))).Sound where
  shows := h.shows
  ordered := h.ordered
  attributed := h.attributed
  idle idle := absurd (busy.symm.trans idle) (by decide)
  busy _ := ⟨stage, run, stages_await h.stages stage run after, stands.fresh, stands.number,
    stands.announced, stands.blank⟩

end Core

/-- How a run ends whose publications did not break off: what becomes of the face, the messages that
are added and the outcome of the run. -/
inductive Ending.Plain (stage : Stage) (run : Run) (max : Int) :
    (Face → Face) → List String → Option Outcome → Prop where
  /-- The run is given up or nothing is told of its failure. -/
  | hidden (F : Face → Face) (same : ∀ c, (F c).shown = c.shown) :
      Ending.Plain stage run max F [] run.outcome
  | rejected (later : stage ≠ .announce) (F : Face → Face) (diagnostics : List String)
      (limited : LimitedDiagnostics) (hl : limitDiagnostics diagnostics max = .ok limited)
      (shown : ∀ c, (F c).shown = (Face.reject diagnostics limited c).shown) :
      Ending.Plain stage run max F limited.messages (some (.failure diagnostics))
  | succeeded (later : stage ≠ .announce) (a : Artifact) :
      Ending.Plain stage run max (Face.succeed a) [] (some (.success a.text a.binary))
  | crashed (later : stage ≠ .announce) (F : Face → Face) (message : String)
      (shown : ∀ c, (F c).shown = (Face.crash message c).shown) :
      Ending.Plain stage run max F [message] (some (.internalError message))

/-- Only two ways are left to fail where no publication breaks off. -/
theorem Ending.plain {stage : Stage} {run : Run} {s t : Session Action} {F : Face → Face}
    {ms : List String} {outcome : Option Outcome} {fault : Option Fault}
    (h : Ending stage run s t F ms outcome fault) {c : Face} (uncut : Uncut (F c).course) :
    Ending.Plain stage run s.settings.maxPrintingErrors F ms outcome := by
  cases h with
  | abandoned => exact .hidden id fun _ => rfl
  | rejected later ds limited hl => exact .rejected later _ ds limited hl fun _ => rfl
  | succeeded later a => exact .succeeded later a
  | failed _ failing reporting =>
    -- what the stage had shown, if anything, was that a publication broke off
    have told : Uncut (Face.raise stage _ (_ : Face)).course := uncut.before (reporting.course _)
    cases failing with
    | plain later f =>
      cases reporting with
      | silent => exact .hidden _ fun _ => rfl
      | stuck => exact .hidden _ fun _ => rfl
      | rejected ds limited hf hl => exact .rejected later _ ds limited hl fun _ => rfl
      | cut ds limited e => exact Bool.noConfusion (uncut _ List.mem_cons_self)
      | crashed message fault =>
        cases fault with
        | none => exact .crashed later _ message fun _ => rfl
        | some e => exact Bool.noConfusion (uncut _ List.mem_cons_self)
    | unheard _ f =>
      exact Bool.noConfusion (told _ (List.mem_cons_of_mem _ List.mem_cons_self))
    | cut _ ds limited hl f =>
      exact Bool.noConfusion (told _ (List.mem_cons_of_mem _ List.mem_cons_self))

/-- **What a run shows when it ends is what belongs to its outcome**, unless the publication of a
report broke off. -/
theorem shows_of_ending {stage : Stage} {run run' : Run} {s t : Session Action} {F : Face → Face}
    {ms : List String} {fault : Option Fault} {closing : Closing} (rest : s.core.Resting)
    (stands : s.core.Stands stage run) (ending : Ending stage run s t F ms run'.outcome fault)
    (alters : Alters (Face.close run' closing ∘ F) ms s.core t.core)
    (uncut : Uncut t.core.face.course) :
    t.state.Shows t.settings.maxPrintingErrors t.state.outcome := by
  obtain ⟨outcome, count, annotations, artifact, settings⟩ :
      t.state.outcome = (F s.core.face).outcome ∧ t.state.errorCount = (F s.core.face).errorCount ∧
        t.state.annotations = (F s.core.face).annotations ∧
        t.state.artifact = (F s.core.face).artifact ∧ t.settings = (F s.core.face).settings := by
    have shown := congrArg Face.shown alters.face
    rw [Function.comp_apply, Face.shown_close] at shown
    simp only [Face.shown, Prod.mk.injEq] at shown
    exact shown
  have uncut' : Uncut (F s.core.face).course := by
    rw [alters.face] at uncut
    exact uncut.before (Face.course_close run' closing _)
  have shows := rest.shows (uncut'.before (ending.course _))
  have blank (later : stage ≠ .announce) : s.state.Blank := by
    rw [show s.core.state.outcome = none from stands.blank later] at shows
    exact shows
  have listed (later : stage ≠ .announce) : t.state.notifications.messages.Sublist ms := by
    have messages : s.core.state.notifications.messages = [] := (blank later).messages
    have added := alters.messages
    rw [messages, List.nil_append] at added
    exact added
  rw [outcome, settings]
  have plain := ending.plain uncut'
  generalize run'.outcome = o at plain
  cases plain with
  | hidden _ same =>
    have same := same s.core.face
    simp only [Face.shown, Prod.mk.injEq] at same
    obtain ⟨outcome', count', annotations', artifact', settings'⟩ := same
    rw [outcome', settings']
    have added := alters.messages
    rw [List.append_nil] at added
    exact shows.mono (count.trans count') (annotations.trans annotations')
      (artifact.trans artifact') added
  | rejected later _ ds limited hl shown =>
    have shown := shown s.core.face
    simp only [Face.shown, Prod.mk.injEq] at shown
    obtain ⟨members, total⟩ := limitDiagnostics_parts hl
    rw [shown.1, shown.2.2.2.2]
    exact ⟨(count.trans shown.2.1).trans (congrArg Int.ofNat total), limited, hl,
      annotations.trans shown.2.2.1, members ▸ listed later⟩
  | succeeded later a =>
    exact ⟨⟨count, annotations.trans (blank later).annotations, List.sublist_nil.1 (listed later)⟩,
      artifact⟩
  | crashed later _ m shown =>
    have shown := shown s.core.face
    simp only [Face.shown, Prod.mk.injEq] at shown
    rw [shown.1]
    exact ⟨count.trans shown.2.1, annotations.trans shown.2.2.1, sublist_singleton (listed later)⟩

namespace Session

variable {s t : Session Action} {r : Session Action × Progress}

/-! ### Into the pipeline and out of it -/

/-- A run that is opened waits for its first stage, and one that is not leaves the pipeline. -/
theorem sound_of_opened {ticket : Ticket} (rest : s.core.Resting)
    (busy : s.state.compiling = true) (h : Opened ticket s r) :
    (r.1.core.await r.2.waiting?).Sound := by
  cases h with
  | begins final after _ core next =>
    rw [core, next]
    have begun : (s.core.begin ticket).Resting :=
      rest.of_face rfl rfl (List.suffix_cons _ _) rfl rfl
    exact begun.await busy ⟨rfl, rfl, by simp, fun later => absurd rfl later⟩ after
  | breaks f _ core next =>
    rw [core, next, await_none]
    refine Resting.sound (rest.of_face rfl rfl ?_ rfl rfl) rfl
    exact (List.suffix_cons _ _).trans (List.suffix_cons _ _)

theorem sound_of_entered {draft : Option Draft} (sound : s.core.Sound) (h : Entered draft s r) :
    (r.1.core.await r.2.waiting?).Sound := by
  cases h with
  | ignored _ core next =>
    rw [core, next, await_none]
    exact sound
  | parked _ _ _ core next =>
    rw [core, next, await_none]
    exact sound.aside (aside_accept_park s.core _ _)
  | opened _ _ idle u core opens =>
    have busy : u.state.compiling = true := congrArg (fun c : Core => c.state.compiling) core
    have rest : s.core.Resting := ⟨sound.toCoherent, sound.idle idle⟩
    refine sound_of_opened ?_ busy opens
    rw [core]
    exact rest.of_face rfl rfl (List.suffix_refl _) rfl rfl

theorem sound_of_led {P : Action → Prop} {call : Option Call} (sound : s.core.Sound)
    (h : Led P call s r) : (r.1.core.await r.2.waiting?).Sound := by
  cases h with
  | rests lead next _ =>
    rw [next, await_none]
    exact sound.aside (aside_leads lead)
  | loads lead compiler left ending purpose next =>
    rw [next]
    exact (sound.aside (aside_leads lead)).aside (aside_await _ rfl)
  | enters u draft after lead _ eq =>
    rw [eq]
    exact sound_of_entered (sound.aside (aside_leads lead)) (entered_enterCompile draft after u)

/-- After its announcement a run shows nothing. -/
theorem resting_of_announced {run : Run} (rest : s.core.Resting)
    (alters : Alters (Face.announce run) [] s.core t.core)
    (cleared : t.state.notifications.messages = []) (ordered : t.state.notifications.Ordered) :
    t.core.Resting := by
  have outcome : t.core.state.outcome = none := congrArg Face.outcome alters.face
  refine ⟨⟨fun _ => ?_, ordered, ?_⟩, (congrArg Face.stages alters.face).trans rest.stages⟩
  · rw [outcome]
    exact ⟨congrArg Face.errorCount alters.face, congrArg Face.annotations alters.face, cleared⟩
  · rw [alters.face]
    exact rest.attributed

/-- After a run, the parked request is run or the session rests. -/
theorem sound_of_followed (rest : s.core.Resting) (busy : s.state.compiling = true)
    (h : Followed s r) : (r.1.core.await r.2.waiting?).Sound := by
  cases h with
  | rests _ core next =>
    rw [core, next, await_none]
    exact Resting.sound (rest.of_face rfl rfl (List.suffix_refl _) rfl rfl) rfl
  | opened ticket _ _ u core opens =>
    have busy' : u.state.compiling = true :=
      (congrArg (fun c : Core => c.state.compiling) core).trans busy
    refine sound_of_opened ?_ busy' opens
    rw [core]
    exact rest.of_face rfl rfl (List.suffix_refl _) rfl rfl

/-- A step of a run leaves what is shown in order. -/
theorem sound_resumeStage {stage : Stage} {run : Run} (after : After) (rest : s.core.Resting)
    (stands : s.core.Stands stage run) (busy : s.state.compiling = true) :
    ((s.resumeStage Session.react stage run after).1.core.await
      (s.resumeStage Session.react stage run after).2.waiting?).Sound := by
  have stepped := stepped_stepRun reacts_react s stage run
  unfold resumeStage
  rcases hx : s.stepRun Session.react stage run with ⟨t, ⟨next, run'⟩ | ⟨run', fault⟩⟩ <;>
    rw [hx] at stepped
  · cases stepped with
    | announced _ _ first alters cleared ordered alike =>
      have rest' := resting_of_announced rest alters cleared ordered
      have generation : t.state.generation = s.state.generation :=
        congrArg Face.generation alters.face
      refine rest'.await ((congrArg Face.compiling alters.face).trans busy) ?_ after
      exact ⟨alike.outcome.trans stands.fresh,
        alike.generation.trans (stands.number.trans generation.symm),
        by simp [alike.announced], fun _ => congrArg Face.outcome alters.face⟩
    | onward _ _ _ later advances aside alike =>
      have stands' := stands.aside aside
      have next := later_of_advances advances
      refine (rest.aside aside).await ((congrArg Face.compiling aside.face).trans busy) ?_ after
      exact ⟨alike.outcome.trans stands'.fresh, alike.generation.trans stands'.number,
        by simp [alike.announced, stands'.announced, later, next], fun _ => stands'.blank later⟩
  · cases stepped with
    | ended _ _ F ms last closing ending alters alike _ =>
      obtain ⟨stages, compiling, -⟩ := ending.frame alters
      have shows := shows_of_ending rest stands ending alters
      have ordered := alters.ordered rest.ordered
      have quiet := stages.trans rest.stages
      -- whether the run returned or not, its outcome is the latest
      have artifact (n : Nat) : t.state.artifact =
          lastSuccess (.ended n run'.outcome :: t.core.face.course) := by
        have attributed := ending.attributed stands.fresh rest.attributed n
        rw [lastSuccess_cons] at attributed ⊢
        rw [alters.face, Function.comp_apply, Face.lastSuccess_close, ← attributed]
        exact (congrArg Face.artifact alters.face).trans
          (by rw [Function.comp_apply, Face.close_eq])
      have broke (e : Fault) : (Milestone.broke run'.generation run'.outcome e).success? =
          (Milestone.ended run'.generation run'.outcome).success? := by
        rcases run'.outcome with _ | (_ | _ | _) <;> rfl
      cases closed : closing.fault.or last with
      | some e =>
        have broken : (t.core.breakOff run'.generation run'.outcome e).Resting := by
          refine ⟨⟨fun uncut => (shows (uncut.before (List.suffix_cons _ _))).mono rfl rfl rfl
              (List.Sublist.refl _), ordered, (artifact run'.generation).trans ?_⟩, quiet⟩
          rw [lastSuccess_cons, ← broke e]
          exact (lastSuccess_cons _ _).symm
        show ((t.core.breakOff run'.generation run'.outcome e).await _).Sound
        rw [show (Progress.waiting? _) = Option.none from rfl, await_none]
        exact broken.sound rfl
      | none =>
        have ended : (t.mark (.ended run'.generation run'.outcome)).core.Resting :=
          ⟨⟨fun uncut => shows (uncut.before (List.suffix_cons _ _)), ordered, artifact _⟩, quiet⟩
        exact sound_of_followed ended (compiling.trans busy) (followed_nextRun after _)

/-! ### All moves -/

/-- One move leaves what is shown in order. -/
theorem sound_of_turn {P : Action → Prop} (sound : s.core.Sound) (turn : Turn P s t) :
    t.core.Sound := by
  cases turn with
  | acted a _ eq =>
    rw [eq]
    exact sound.aside (aside_nudges (nudges_act reacts_react (admits_all s) trivial))
  | kept eq => exact eq ▸ sound
  | called c _ eq =>
    rw [eq]
    exact sound.aside (aside_await _ rfl)
  | fired id _ eq =>
    rw [eq]
    have disarmed : ({ s.core with armed := none } : Core).Sound :=
      sound.aside (.of_face rfl rfl rfl rfl)
    exact disarmed.aside (aside_await _ rfl)
  | resumed u at_ lasting front popped eq =>
    rw [eq]
    rcases led_or_staging (fun _ => True) lasting with ⟨outside, led⟩ | ⟨stage, run, after, rfl⟩
    · have taken : u.core.Sound := by
        rw [popped]
        exact sound.aside (aside_pop s.core front outside)
      exact sound_of_led taken led
    · obtain ⟨rest, stands, busy⟩ := sound.pop front rfl
      rw [← popped] at rest
      have same : u.state = s.state := congrArg Core.state popped
      refine sound_resumeStage after rest ⟨stands.fresh, ?_, stands.announced, ?_⟩ ?_
      · exact stands.number.trans (congrArg State.generation same.symm)
      · exact fun later => (congrArg State.outcome same).trans (stands.blank later)
      · exact (congrArg State.compiling same).trans busy

/-- Nothing is shown, and nothing runs, before the first move. -/
theorem sound_session (o : Opening) : o.session.core.Sound := by
  refine Resting.sound ⟨⟨fun _ => ⟨rfl, rfl, rfl⟩, ⟨List.Pairwise.nil, ?_⟩, rfl⟩, rfl⟩ rfl
  intro n hn
  cases hn

/-- **What is shown belongs together after all moves.** -/
theorem sound_moves (o : Opening) (ms : List Move) : (o.session.moves ms).core.Sound :=
  moves_induction (fun s => s.core.Sound) (sound_session o) fun m _ s sound =>
    sound_of_turn sound (turn_any s m)

/-- **Displayed results belong together.** Whatever happened before, as long as no publication of a
run broke off, what is shown is what belongs to the outcome; and in any case the keys of the
messages rise, and the artifact is that of the latest run that ended in success. -/
theorem shown_together (o : Opening) (ms : List Move) :
    let s := o.session.moves ms
    (Uncut s.history → s.state.Shows s.settings.maxPrintingErrors s.state.outcome) ∧
      (s.state.notifications.items.map (·.key)).Pairwise (· < ·) ∧
      s.state.artifact = lastSuccess s.history := by
  intro s
  have sound : s.core.Sound := sound_moves o ms
  exact ⟨fun uncut => sound.shows (uncut_filter.2 uncut), sound.ordered.rising, sound.artifact⟩

/-- A session with one compiler, which accepts every text. -/
def plainOpening : Opening :=
  { settings := {}, source := "x = 1", probe := .always false
    compilers := [("CPython", .scripted {})] }

/-- The fault of a compiler whose wording is no text. -/
def muteFault : Fault :=
  .mute (.compiler "" none) "TypeError" "__str__ returned non-string (type int)"

/-- Ticks in which up to three callbacks run. -/
def smallTicks (n : Nat) : List Move :=
  (List.replicate n [Move.openTick, .step, .step, .step]).flatten

def failingListener (f : Fault) : Listener Action :=
  { respond := fun _ _ _ => some { fault := some f } }

/-- Messages are not suppressed, every text is refused, and a failing listener hears of the
messages. -/
def overheardOpening (f : Fault) : Opening :=
  { plainOpening with
    settings := { compileMode := .manual }
    compilers := [("CPython", .scripted { compiles :=
      ⟨{ verdict := .fails (.rejected ["ERROR (1,1) a", "ERROR (2,1) b"] none) }, []⟩ })]
    listeners := [("l", failingListener f)]
    bus := EventBus.subscribe {} notificationPushed "l" }

def firstRunMoves : List Move := [.call .start] ++ smallTicks 4

theorem shown_together_refused :
    let s := (overheardOpening (.foreign "ValueError" "boom")).session.moves firstRunMoves
    Uncut s.history ∧ s.state.outcome = some (.failure ["ERROR (1,1) a", "ERROR (2,1) b"]) ∧
      s.state.Shows s.settings.maxPrintingErrors s.state.outcome := by
  intro s
  have uncut : Uncut s.history := by decide +kernel
  have refused : s.state.outcome = some (.failure ["ERROR (1,1) a", "ERROR (2,1) b"]) := by
    decide +kernel
  obtain ⟨shows, -⟩ := shown_together (overheardOpening (.foreign "ValueError" "boom"))
    firstRunMoves
  exact ⟨uncut, refused, shows uncut⟩

/-- **What is shown falls apart where a listener breaks the report off**: the rejection is shown
without its annotations. -/
theorem shown_apart_mute :
    let s := (overheardOpening muteFault).session.moves firstRunMoves
    s.state.outcome = some (.failure ["ERROR (1,1) a", "ERROR (2,1) b"]) ∧
      s.state.errorCount = 2 ∧ s.state.annotations = [] ∧
      (limitDiagnostics ["ERROR (1,1) a", "ERROR (2,1) b"]
        s.settings.maxPrintingErrors).toOption.map (·.annotations.length) = some 2 := by
  decide +kernel

end Session

end Playground
