import Playground.Proofs.Deeds
import Playground.Proofs.Legible
import Playground.Proofs.Requests

/-!
# Whole runs

A run from its beginning to its end, while everything else goes on between its stages. It returns,
whatever compilers, modules, listeners and sinks do, unless the last that goes wrong in it cannot be
reported: a rejection whose diagnostics cannot be read, a cause that has no wording, a report that a
listener breaks off, or a module that cannot be released.

* `Session.runAmid`, `Session.pipelineAmid` — a run with what happens before each of its stages.
* `Unobtrusive`, `Unobtrusive.moves` — what is done beside a run that is under way.
* `Milestone.isTrouble`, `Weathered` — what goes wrong in a run, and when the run copes with it.
* `Announced`, `announced_or_over` — how a run begins.
* `Finish` — what ends an announced run, and `runAmid_ends` — that it comes to that.
* `Returned` — what a run that returns leaves behind.
* `returns_iff` — which runs return.
-/

namespace Playground

open Playground.Core

/-! ### The account of a run -/

def publishedOf (event : String) (ms : List Milestone) : List Payload :=
  ms.filterMap fun
    | .published e data => if e = event then some data else none
    | _ => none

/-- Does something go wrong in a run? -/
def Milestone.isTrouble : Milestone → Bool
  | .raised .. => true
  | .cutOff event _ => event ≠ compileScheduled
  | .unreleased .. => true
  | _ => false

/-- What went wrong in runs, latest first. -/
def troubles (ms : List Milestone) : List Milestone := ms.filter Milestone.isTrouble

/-- Can a fault be reported? A rejection can where those of its diagnostics that are shown are
legible, any other fault where its cause has a wording. -/
def Fault.Reportable (max : Int) (f : Fault) : Prop :=
  match f.diagnostics? with
  | some ds => ∀ d ∈ firstMembers max ds, Diagnostic.Legible d
  | none => f.cause.isWorded = true

theorem Fault.reportable_iff {max : Int} {f : Fault} :
    f.Reportable max ↔ f.unreported? max = none := by
  unfold Reportable
  cases hf : f.diagnostics? with
  | some ds =>
    rw [f.unreported?_rejection hf]
    show (∀ d ∈ firstMembers max ds, Diagnostic.Legible d) ↔ Session.failureOf _ = none
    rw [← limitDiagnostics_ok_iff]
    cases limitDiagnostics ds max with
    | ok limited => exact iff_of_true ⟨limited, rfl⟩ rfl
    | error e => exact iff_of_false nofun nofun
  | none =>
    rw [f.unreported?_other hf]
    show f.cause.wording.toBool = true ↔ Session.failureOf _ = none
    cases f.cause.wording with
    | ok text => exact iff_of_true rfl rfl
    | error e => exact iff_of_false nofun nofun

def Milestone.IsReportable (max : Int) (m : Milestone) : Prop :=
  ∃ stage f, m = .raised stage f ∧ f.Reportable max

/-- The last that went wrong between two moments, if anything did, can be reported. -/
def Weathered (max : Int) (earlier later : List Milestone) : Prop :=
  ∀ m more, troubles later = m :: more ++ troubles earlier → m.IsReportable max

section

variable {max : Int} {old new : List Milestone}

theorem weathered_of_same (same : troubles new = troubles old) : Weathered max old new := by
  intro m more grown
  have length := congrArg List.length (same.symm.trans grown)
  rw [List.length_append, List.length_cons] at length
  omega

theorem weathered_iff {m : Milestone} {more : List Milestone}
    (grown : troubles new = m :: more ++ troubles old) :
    Weathered max old new ↔ m.IsReportable max := by
  refine ⟨fun h => h m more grown, fun h m' more' grown' => ?_⟩
  obtain ⟨rfl, -⟩ := List.cons.inj (grown.symm.trans grown')
  exact h

end

namespace Face

variable {run : Run} {compiler : String} {max : Int} {g k : Face → Face} {ms : List String}
  {before outcome : Option Outcome} {f : Fault} {fault : Option Fault}

/-- What leaves the busy mark and the events about ended runs alone. -/
structure Aloof (k : Face → Face) : Prop where
  indicator (c : Face) : (k c).indicator = c.indicator
  finished (c : Face) :
    publishedOf compileFinished (k c).course = publishedOf compileFinished c.course
  troubled (c : Face) : ∃ more, troubles (k c).course = more ++ troubles c.course

/-- What ends a run that was announced: what is shown at last, and the fault of its report. -/
inductive Finish (compiler : String) (max : Int) :
    (Face → Face) → Option Outcome → Option Fault → Prop where
  | rejected (diagnostics : List String) (limited : LimitedDiagnostics) :
      Finish compiler max (reject diagnostics limited) (some (.failure diagnostics)) none
  | succeeded (a : Artifact) :
      Finish compiler max (succeed a) (some (.success a.text a.binary)) none
  | failed (stage : Stage) (f : Fault) {g k : Face → Face} (aloof : Aloof g) {ms : List String}
      {before outcome : Option Outcome} {fault : Option Fault}
      (reporting : Reporting compiler f max False before k ms outcome fault) :
      Finish compiler max (k ∘ raise stage f ∘ g) outcome fault

theorem aloof_reporting (h : Reporting compiler f max False before k ms outcome fault) :
    Aloof k where
  indicator c := (h.frame c).2.2.2
  finished c := by
    cases h with
    | crashed _ fault => cases fault <;> rfl
    | _ => rfl
  troubled c := by
    cases h with
    | cut _ _ e => exact ⟨[.cutOff notificationPushed e], rfl⟩
    | crashed _ fault =>
      cases fault with
      | none => exact ⟨[], rfl⟩
      | some e => exact ⟨[.cutOff notificationPushed e], rfl⟩
    | _ => exact ⟨[], rfl⟩

/-- A stage that fails after the announcement. -/
theorem aloof_failing {stage : Stage}
    (h : Failing stage run max g ms outcome f) (later : stage ≠ .announce) : Aloof g := by
  cases h with
  | plain => exact ⟨fun _ => rfl, fun _ => rfl, fun _ => ⟨[], rfl⟩⟩
  | unheard first => exact absurd first later
  | cut => exact ⟨fun _ => rfl, fun _ => rfl, fun _ => ⟨[_], rfl⟩⟩

theorem aloof_cutOff {event : String} (why : Fault) (other : event ≠ compileScheduled) :
    Aloof (note (.cutOff event why)) :=
  ⟨fun _ => rfl, fun _ => rfl, fun _ => ⟨[.cutOff event why],
    List.filter_cons_of_pos (by simp [Milestone.isTrouble, other])⟩⟩

theorem Finish.aloof (h : Finish compiler max k outcome fault) : Aloof k := by
  cases h with
  | rejected => exact ⟨fun _ => rfl, fun _ => rfl, fun _ => ⟨[], rfl⟩⟩
  | succeeded => exact ⟨fun _ => rfl, fun _ => rfl, fun _ => ⟨[], rfl⟩⟩
  | failed stage f aloof reporting =>
    have reported := aloof_reporting reporting
    refine ⟨fun c => (reported.indicator _).trans (aloof.indicator c),
      fun c => (reported.finished _).trans (aloof.finished c), fun c => ?_⟩
    obtain ⟨first, eq⟩ := aloof.troubled c
    obtain ⟨last, eq'⟩ := reported.troubled (raise stage f _)
    refine ⟨last ++ .raised stage f :: first, eq'.trans ?_⟩
    rw [List.append_assoc, List.cons_append, ← eq]
    rfl

/-- **The report of how a run ended fails unless the last that went wrong can be reported.** -/
theorem Finish.weathered_iff (h : Finish compiler max k outcome fault) (c : Face) :
    fault = none ↔ Weathered max c.course (k c).course := by
  cases h with
  | rejected => exact iff_of_true rfl (weathered_of_same rfl)
  | succeeded => exact iff_of_true rfl (weathered_of_same rfl)
  | failed stage f aloof reporting =>
    obtain ⟨more, before⟩ := aloof.troubled c
    -- the fault of the stage is the last trouble, unless the report breaks off
    have last {d : Face} (same : troubles d.course = .raised stage f :: more ++ troubles c.course) :
        Weathered max c.course d.course ↔ f.unreported? max = none := by
      rw [Playground.weathered_iff same, ← Fault.reportable_iff]
      exact ⟨fun ⟨_, _, eq, reportable⟩ => by cases eq; exact reportable,
        fun reportable => ⟨stage, f, rfl, reportable⟩⟩
    have raised (g : Face → Face) (eq : troubles (g c).course = more ++ troubles c.course) :
        troubles (raise stage f (g c)).course = .raised stage f :: more ++ troubles c.course :=
      congrArg (List.cons (Milestone.raised stage f)) eq
    have broken (e : Fault) {d : Face} (same : troubles d.course =
        .cutOff notificationPushed e :: (.raised stage f :: more) ++ troubles c.course) :
        ¬ Weathered max c.course d.course := by
      rw [Playground.weathered_iff same]
      rintro ⟨_, _, eq, -⟩
      cases eq
    cases reporting with
    | silent never => exact never.elim
    | stuck e stuck =>
      refine iff_of_false nofun fun settled => ?_
      cases stuck.symm.trans ((last (raised _ before)).1 settled)
    | rejected ds limited hf hl =>
      refine iff_of_true rfl ((last (raised _ before)).2 ?_)
      rw [f.unreported?_rejection hf, hl]
      rfl
    | cut ds limited e =>
      refine iff_of_false nofun (broken e ?_)
      exact congrArg (List.cons (Milestone.cutOff notificationPushed e)) (raised _ before)
    | crashed message fault hf hm =>
      cases fault with
      | none =>
        refine iff_of_true rfl ((last (raised _ before)).2 ?_)
        obtain ⟨text, worded, -⟩ := Session.internalErrorMessage_eq_ok.1 hm
        rw [f.unreported?_other hf, worded]
        rfl
      | some e =>
        refine iff_of_false nofun (broken e ?_)
        exact congrArg (List.cons (Milestone.cutOff notificationPushed e)) (raised _ before)

/-- Closing the run may go wrong in turn, and nothing comes after that. -/
theorem Finish.closed_iff {run' : Run} {closing : Closing} (h : Finish compiler max k outcome fault)
    (announced : run'.announced = true) (told : closing ≠ .silent) (c : Face) :
    closing.fault.or fault = none ↔
      Weathered max c.course ((k c).close run' closing).course := by
  obtain ⟨more, before⟩ := h.aloof.troubled c
  have broken {m : Milestone} {d : Face} (other : ∀ stage f, m ≠ .raised stage f)
      (same : troubles d.course = m :: more ++ troubles c.course) :
      ¬ Weathered max c.course d.course := by
    rw [Playground.weathered_iff same]
    rintro ⟨stage, f, eq, -⟩
    exact other stage f eq
  cases closing with
  | silent => exact absurd rfl told
  | unreleased why =>
    exact iff_of_false (Option.some_ne_none why)
      (broken (m := .unreleased run'.generation why) (fun _ _ eq => Milestone.noConfusion eq)
        (congrArg (List.cons (Milestone.unreleased run'.generation why)) before))
  | told heard =>
    simp only [Face.close, announced, if_true]
    cases heard with
    | none =>
      have same : Weathered max c.course (k c).course ↔ Weathered max c.course
          (.published compileFinished (Session.finishedData run' (k c).errorCount) ::
            (k c).course) := Iff.rfl
      exact (h.weathered_iff c).trans same
    | some e =>
      exact iff_of_false (Option.some_ne_none e)
        (broken (m := .cutOff compileFinished e) (fun _ _ eq => Milestone.noConfusion eq)
          (congrArg (List.cons (Milestone.cutOff compileFinished e)) before))

end Face

open Face (Finish)

namespace Session

/-- A run from one stage to its end, for `fuel` stages; `others` is what happens before each
stage. -/
def runAmid (others : Stage → List Move) :
    Nat → Stage → Run → Session Action → Session Action × Run × Option Fault
  | 0, _, run, s => (s, run, none)
  | fuel + 1, stage, run, s =>
    match (s.moves (others stage)).stepRun react stage run with
    | (s, .next next run) => runAmid others fuel next run s
    | (s, .over run fault) => (s, run, fault)

/-- A whole run, with what happens before each stage. -/
def pipelineAmid (others : Stage → List Move) (request : Request) (s : Session Action) :
    Session Action × Except Fault Run :=
  match s.beginRun request with
  | (s, .error f) => (s, .error f)
  | (s, .ok run) =>
    match runAmid others (stagesLeft .announce) .announce run s with
    | (s, run, none) => (s, .ok run)
    | (s, _, some f) => (s, .error f)

/-- The stages after the opening. -/
theorem pipelineAmid_of_begins {others : Stage → List Move} {request : Request} {run : Run}
    {s u : Session Action} (h : s.beginRun request = (u, .ok run)) :
    let r := runAmid others (stagesLeft .announce) .announce run u
    pipelineAmid others request s = (r.1, match r.2.2 with
      | none => .ok r.2.1
      | some f => .error f) := by
  intro r
  unfold pipelineAmid
  rw [h]
  show (match r with
    | (s, run, none) => (s, Except.ok run)
    | (s, _, some f) => (s, .error f)) = _
  rcases r with ⟨t, run', none | f⟩ <;> rfl

/-- A run that nothing interrupts. -/
theorem runAmid_alone (fuel : Nat) (stage : Stage) (run : Run) (s : Session Action) :
    runAmid (fun _ => []) fuel stage run s = runFrom react fuel stage run s := by
  induction fuel generalizing stage run s with
  | zero => rfl
  | succ fuel ih =>
    have alone : s.moves [] = s := rfl
    unfold runAmid runFrom
    rw [alone]
    rcases s.stepRun react stage run with ⟨t, ⟨next, run'⟩ | ⟨run', fault⟩⟩
    · exact ih next run' t
    · rfl

theorem pipelineAmid_alone (request : Request) (s : Session Action) :
    pipelineAmid (fun _ => []) request s = runPipeline react request s := by
  unfold pipelineAmid runPipeline
  rcases s.beginRun request with ⟨t, f | run⟩
  · rfl
  · simp only [runAmid_alone]
    rcases runFrom react (stagesLeft .announce) .announce run t with ⟨u, run', none | f⟩ <;> rfl

/-- The session is busy with a run that is not in the queue. -/
structure Underway (s : Session Action) : Prop where
  busy : s.state.compiling = true
  stages : s.inPipeline = []

end Session

/-! ### Beside a run -/

/-- A relation between cores that holds across whatever is done beside a run. -/
structure Unobtrusive (R : Core → Core → Prop) : Prop where
  refl (c : Core) : R c c
  trans {c d e : Core} (h : R c d) (k : R d e) : R c e
  nudges {s t : Session Action} (h : Nudges (fun _ => True) s t) : R s.core t.core
  leads {s t : Session Action} (h : Leads (fun _ => True) s t) : R s.core t.core
  park (c : Core) (request : Request) (ticket : Ticket) : R c ((c.accept request).park ticket)
  await (c : Core) {at_ : Waiting} (h : at_.stage? = none) : R c (c.await (some at_))
  pop (c : Core) {at_ : Waiting} {rest : List Waiting} (front : c.waiting = at_ :: rest)
    (h : at_.stage? = none) : R c { c with waiting := rest }
  disarm (c : Core) : R c { c with armed := none }

/-- What is done from the side. -/
theorem unobtrusive_aside : Unobtrusive Aside where
  refl := .refl
  trans h k := h.after k
  nudges := Session.aside_nudges
  leads := Session.aside_leads
  park := Session.aside_accept_park
  await c _ h := Session.aside_await c h
  pop c _ _ front h := Session.aside_pop c front h
  disarm _ := .of_face rfl rfl rfl rfl

namespace Unobtrusive

open Session

variable {R : Core → Core → Prop} (hR : Unobtrusive R) {s t : Session Action}
include hR

/-- While a run is under way, requests are parked or ignored. -/
theorem led {call : Option Call} {r : Session Action × Progress} (busy : s.state.compiling = true)
    (h : Led (fun _ => True) call s r) : R s.core (r.1.core.await r.2.waiting?) := by
  cases h with
  | rests lead next _ =>
    rw [next, await_none]
    exact hR.leads lead
  | loads lead _ _ _ _ next =>
    rw [next]
    exact hR.trans (hR.leads lead) (hR.await _ rfl)
  | enters u draft after lead _ eq =>
    have before := hR.leads lead
    have entered : Entered draft u r := eq ▸ entered_enterCompile draft after u
    cases entered with
    | ignored _ core next =>
      rw [core, next, await_none]
      exact before
    | parked _ _ _ core next =>
      rw [core, next, await_none]
      exact hR.trans before (hR.park _ _ _)
    | opened _ _ idle _ _ _ =>
      have compiling : u.state.compiling = s.state.compiling :=
        congrArg Face.compiling (aside_leads lead).face
      exact absurd (busy.symm.trans (compiling.symm.trans idle)) (by decide)

/-- While a run is under way, everything else is done beside it. -/
theorem turn (underway : s.Underway) (turn : Turn (fun _ => True) s t) : R s.core t.core := by
  cases turn with
  | acted a _ eq =>
    rw [eq]
    exact hR.nudges (nudges_act reacts_react (admits_all s) trivial)
  | kept eq => exact eq ▸ hR.refl _
  | called c _ eq =>
    rw [eq]
    exact hR.await _ rfl
  | fired id _ eq =>
    rw [eq]
    exact hR.trans (hR.disarm _) (hR.await _ rfl)
  | resumed u at_ lasting front popped eq =>
    rcases led_or_staging (fun _ => True) lasting with ⟨outside, led⟩ | ⟨stage, run, after, rfl⟩
    · have taken : R s.core u.core := by
        rw [popped]
        exact hR.pop s.core front outside
      have busy : u.state.compiling = true := by
        rw [show u.state = s.state from congrArg Core.state popped]
        exact underway.busy
      rw [eq]
      exact hR.trans taken (hR.led busy led)
    · have stages := underway.stages
      unfold inPipeline at stages
      rw [front] at stages
      cases stages

/-- While a run is under way, all other moves go on beside it. -/
theorem moves (underway : s.Underway) (ms : List Move) : R s.core (s.moves ms).core := by
  refine (moves_induction (fun t => Aside s.core t.core ∧ R s.core t.core)
    ⟨.refl _, hR.refl _⟩ ?_).2
  rintro m - t ⟨aside, sofar⟩
  have underway' : t.Underway := ⟨(congrArg Face.compiling aside.face).trans underway.busy,
    (congrArg Face.stages aside.face).trans underway.stages⟩
  have step := turn_any t m
  exact ⟨aside.after (unobtrusive_aside.turn underway' step),
    hR.trans sofar (hR.turn underway' step)⟩

end Unobtrusive

namespace Session

variable {s t : Session Action}

/-- Nothing happens between the stages, or the session is busy with the run. -/
def Tolerates (others : Stage → List Move) (s : Session Action) : Prop :=
  (∀ stage, others stage = []) ∨ s.Underway

variable {others : Stage → List Move}

/-- Between the stages, all that is done is done beside the run. -/
theorem Tolerates.beside {R : Core → Core → Prop} (hR : Unobtrusive R) (h : Tolerates others s)
    (stage : Stage) : R s.core (s.moves (others stage)).core := by
  rcases h with alone | underway
  · rw [alone stage]
    exact hR.refl _
  · exact hR.moves underway _

theorem Tolerates.aside (h : Tolerates others s) (stage : Stage) :
    Aside s.core (s.moves (others stage)).core := h.beside unobtrusive_aside stage

/-- Only the busy mark and the stages in the queue count. -/
theorem Tolerates.of_face (h : Tolerates others s)
    (busy : t.core.face.compiling = s.core.face.compiling)
    (stages : t.core.face.stages = s.core.face.stages) : Tolerates others t := by
  rcases h with alone | underway
  · exact .inl alone
  · exact .inr ⟨busy.trans underway.busy, stages.trans underway.stages⟩

theorem Tolerates.of_aside (h : Tolerates others s) (aside : Aside s.core t.core) :
    Tolerates others t :=
  h.of_face (congrArg Face.compiling aside.face) (congrArg Face.stages aside.face)

/-! ### The beginning of a run -/

theorem core_of_beginRun {request : Request} {run : Run} (h : s.beginRun request = (t, .ok run)) :
    t.core = { s.core with state := { s.state with generation := s.state.generation + 1 } } ∧
      run.outcome = none := by
  unfold beginRun at h
  simp only at h
  split at h
  next => cases h
  next =>
    obtain ⟨rfl, rfl⟩ : _ = t ∧ _ = run := by simpa using h
    refine ⟨?_, rfl⟩
    split <;> rfl

theorem Tolerates.of_begins (h : Tolerates others s) {request : Request} {run : Run}
    (begins : s.beginRun request = (t, .ok run)) : Tolerates others t := by
  have core := (core_of_beginRun begins).1
  exact h.of_face (by rw [core]; rfl) (by rw [core]; rfl)

/-- A run of `s` was announced in `t`. -/
structure Announced (others : Stage → List Move) (run : Run) (s t : Session Action) (run' : Run) :
    Prop where
  step : (s.moves (others .announce)).stepRun react .announce run = (t, .next .invoke run')
  alters : Alters (Face.announce run) [] (s.moves (others .announce)).core t.core
  face : t.core.face = Face.announce run s.core.face
  tolerates : Tolerates others t
  alike : { run with announced := true }.Alike run'

/-- A run is announced, unless the session was stopped or the announcement broke off. -/
theorem announced_or_over (tolerates : Tolerates others s) (run : Run) :
    (∃ t run', Announced others run s t run') ∨
      ∃ t run' fault, (s.moves (others .announce)).stepRun react .announce run =
        (t, .over run' fault) := by
  have aside := tolerates.aside .announce
  have stepped := stepped_stepRun reacts_react (s.moves (others .announce)) .announce run
  rcases hx : (s.moves (others .announce)).stepRun react .announce run with
    ⟨t, ⟨next, run'⟩ | ⟨run', fault⟩⟩ <;> rw [hx] at stepped
  · cases stepped with
    | onward _ _ _ later => exact absurd rfl later
    | announced _ _ _ alters _ _ alike =>
      have face : t.core.face = Face.announce run s.core.face := by
        rw [alters.face, aside.face]
        rfl
      have tolerates' : Tolerates others t :=
        tolerates.of_face (by rw [face]; rfl) (by rw [face]; rfl)
      exact .inl ⟨t, run', hx, alters, face, tolerates', alike⟩
  · exact .inr ⟨t, run', fault, rfl⟩

/-! ### The end of a run -/

/-- How a run ends that has been announced: from some moment on, up to which nothing is shown. -/
structure Ends (run run' : Run) (s t : Session Action) (fault : Option Fault) : Prop where
  ending : ∃ stage run₁ v f ms why closing, stage ≠ .announce ∧ run₁.request = run.request ∧
    Aside s.core v.core ∧ Ending stage run₁ v t f ms run'.outcome why ∧
    Alters (Face.close run' closing ∘ f) ms v.core t.core ∧ fault = closing.fault.or why ∧
    (v.state.alive = true → t.core.stops = v.core.stops → closing ≠ .silent)
  announced : run'.announced = run.announced

/-- **An announced run comes to its end**, in no more steps than there are stages left. -/
theorem runAmid_ends {fuel : Nat} {stage : Stage} {run : Run} (later : stage ≠ .announce)
    (enough : stagesLeft stage ≤ fuel) (tolerates : Tolerates others s) :
    Ends run (runAmid others fuel stage run s).2.1 s (runAmid others fuel stage run s).1
      (runAmid others fuel stage run s).2.2 := by
  induction fuel generalizing stage run s with
  | zero => cases stage <;> cases enough
  | succ fuel ih =>
    have before := tolerates.aside stage
    have stepped := stepped_stepRun reacts_react (s.moves (others stage)) stage run
    unfold runAmid
    rcases hx : (s.moves (others stage)).stepRun react stage run with
      ⟨t, ⟨next, run'⟩ | ⟨run', fault⟩⟩ <;> rw [hx] at stepped
    · cases stepped with
      | announced _ _ first => exact absurd first later
      | onward _ _ _ _ advances aside alike =>
        have sofar : Aside s.core t.core := before.after aside
        obtain ⟨⟨stage', run₁, v, f, ms, why, closing, later', asked, more, rest⟩, announced⟩ :=
          ih (later_of_advances advances) (by omega) (tolerates.of_aside sofar)
        exact ⟨⟨stage', run₁, v, f, ms, why, closing, later', asked.trans alike.request,
          sofar.after more, rest⟩, announced.trans alike.announced⟩
    · cases stepped with
      | ended _ _ f ms why closing ending alters alike announced telling =>
        exact ⟨⟨stage, run, _, f, ms, why, closing, later, rfl, before, ending, alters, rfl,
          telling⟩, announced.trans (by simp [later])⟩

/-! ### Whole runs -/

/-- What a run leaves behind that returns. -/
structure Returned (s t : Session Action) (run : Run) : Prop where
  /-- It has an outcome, and this outcome is shown. -/
  known : run.outcome.isSome = true
  shown : t.state.outcome = run.outcome
  /-- The busy mark was set and taken back once. -/
  started : t.indicator.started = s.indicator.started + 1
  ended : t.indicator.ended = s.indicator.ended + 1
  /-- Its end was announced once, with the kind of the outcome and the number of errors. -/
  told : publishedOf compileFinished t.history =
    finishedData run t.state.errorCount :: publishedOf compileFinished s.history

/-- Opening a run of a session whose probe answers. -/
theorem beginRun_of_answers (request : Request) (s : Session Action)
    (answers : ∀ text, ∃ b, s.probe.ask text = .ok b) :
    ∃ final u, s.beginRun request =
        (u, .ok { request := final, generation := s.state.generation + 1 }) ∧
      u.core = { s.core with state := { s.state with generation := s.state.generation + 1 } } := by
  have finalized : ∃ final, request.finalize s.probe = .ok final := by
    unfold Request.finalize
    obtain ⟨b, answer⟩ := answers request.source
    split
    · exact ⟨_, rfl⟩
    · split
      · exact ⟨_, rfl⟩
      · exact ⟨_, by rw [answer]⟩
  obtain ⟨final, eq⟩ := finalized
  have eq' : request.finalize (s.modifyState fun st =>
      { st with generation := st.generation + 1 }).probe = .ok final := eq
  unfold beginRun
  simp only [eq']
  split <;> exact ⟨final, _, rfl, rfl⟩

/-! ### The course of a run -/

/-- What is only about the steps of runs can be read off their course. -/
theorem filterMap_course {β : Type} {g : Milestone → Option β}
    (only : ∀ m, m.ofRun = false → g m = none) (s : Session Action) :
    s.core.face.course.filterMap g = s.history.filterMap g := filterMap_of_filter only s.history

theorem troubles_course (s : Session Action) :
    troubles s.core.face.course = troubles s.history := by
  show ((s.history.filter Milestone.ofRun).filter Milestone.isTrouble) = _
  rw [List.filter_filter]
  refine List.filter_congr fun m _ => ?_
  cases m <;> simp [Milestone.isTrouble, Milestone.ofRun]

theorem publishedOf_finished (s : Session Action) :
    publishedOf compileFinished s.core.face.course = publishedOf compileFinished s.history := by
  refine filterMap_course (fun m ofRun => ?_) s
  cases m with
  | published event data =>
    refine if_neg fun same => ?_
    subst same
    cases ofRun
  | _ => rfl

/-- How a run ends that was opened in `s`: it was announced and, after what ended it, closed. -/
structure Closed (s t : Session Action) (run run' : Run) (fault : Option Fault) : Prop where
  finish : ∃ k why closing,
    Finish run.request.compiler s.settings.maxPrintingErrors k run'.outcome why ∧
    t.core.face = (k (Face.announce run s.core.face)).close run' closing ∧
    fault = closing.fault.or why ∧ closing ≠ .silent
  shown : fault = none → t.state.outcome = run'.outcome ∧ run'.outcome.isSome = true
  announced : run'.announced = true

/-- What ends a run in a session that lives on. -/
theorem finish_of_ending {stage : Stage} {run : Run} {f : Face → Face} {ms : List String}
    {outcome : Option Outcome} {why : Option Fault} {u : Session Action}
    (ending : Ending stage run u t f ms outcome why) (later : stage ≠ .announce)
    (alive : u.state.alive = true) (stops : t.core.stops = u.core.stops) :
    Finish run.request.compiler u.settings.maxPrintingErrors f outcome why := by
  cases ending with
  | abandoned dead => exact absurd (alive.symm.trans dead) (by decide)
  | rejected _ ds limited => exact .rejected ds limited
  | succeeded _ a => exact .succeeded a
  | failed _ failing reporting =>
    exact .failed stage _ (Face.aloof_failing failing later)
      (reporting.imp fun stopped => stopped alive stops)

/-- A run whose announcement broke off has been announced. -/
theorem closed_of_over {run run' : Run} {fault : Option Fault} {u : Session Action}
    (aside : Aside s.core u.core) (alive : u.state.alive = true)
    (step : u.stepRun react .announce run = (t, .over run' fault))
    (stops : t.core.stops = u.core.stops) : Closed s t run run' fault := by
  have stepped := stepped_stepRun reacts_react u .announce run
  rw [step] at stepped
  cases stepped with
  | ended _ _ f ms why closing ending alters alike announced telling =>
    obtain ⟨f', g, -, reporting, rfl⟩ := ending.of_announce alive
    have settings : u.settings = s.settings := congrArg Face.settings aside.face
    rw [settings] at reporting
    have reporting := reporting.imp fun stopped => stopped alive stops
    refine ⟨⟨g ∘ Face.raise .announce f' ∘ Face.note (.cutOff compileStarted f'), why, closing,
      .failed .announce f' (Face.aloof_cutOff f' (by decide)) reporting, ?_, rfl,
      telling alive stops⟩, fun none => ?_, announced.trans (by simp [alive])⟩
    · rw [alters.face, ← show u.core.face = s.core.face from aside.face]
      rfl
    · obtain ⟨-, rfl⟩ := Option.or_eq_none_iff.1 none
      exact ending.outcome_shown alters alive stops

/-- **A run of a session that lives on is announced, ends and is closed.** -/
theorem closed_runAmid {run : Run} (alive : s.state.alive = true) (tolerates : Tolerates others s)
    (lives : (runAmid others (stagesLeft .announce) .announce run s).1.core.stops = s.core.stops) :
    Closed s (runAmid others (stagesLeft .announce) .announce run s).1 run
      (runAmid others (stagesLeft .announce) .announce run s).2.1
      (runAmid others (stagesLeft .announce) .announce run s).2.2 := by
  have before := tolerates.aside .announce
  have aliveBefore := before.alive alive
  have unfolded : runAmid others (stagesLeft .announce) .announce run s =
      match (s.moves (others .announce)).stepRun react .announce run with
      | (t, .next next run) => runAmid others (stagesLeft .invoke) next run t
      | (t, .over run fault) => (t, run, fault) := rfl
  -- the number of stops only grows, so that it is the same all along
  have atFirst := before.stops_le
  rcases announced_or_over tolerates run with ⟨t, run', first⟩ | ⟨t, run', fault, ended⟩
  · rw [unfolded, first.step] at lives ⊢
    have ends : Ends run' (runAmid others (stagesLeft .invoke) .invoke run' t).2.1 t
        (runAmid others (stagesLeft .invoke) .invoke run' t).1
        (runAmid others (stagesLeft .invoke) .invoke run' t).2.2 :=
      runAmid_ends (by decide) (Nat.le_refl _) first.tolerates
    obtain ⟨⟨stage, run₁, v, f, ms, why, closing, later, asked, sofar, ending, closes, fails,
      telling⟩, announced⟩ := ends
    have thereafter := first.alters.stops_le
    have after := sofar.stops_le
    have last := closes.stops_le
    have lives' : (runAmid others (stagesLeft .invoke) .invoke run' t).1.core.stops =
      s.core.stops := lives
    have aliveFirst := first.alters.alive (aliveBefore (by omega)) (by omega)
    have aliveThen := sofar.alive aliveFirst (by omega)
    have stops : (runAmid others (stagesLeft .invoke) .invoke run' t).1.core.stops =
      v.core.stops := by omega
    have finish := finish_of_ending ending later aliveThen stops
    have face : v.core.face = Face.announce run s.core.face := sofar.face.trans first.face
    have settings : v.settings = s.settings := congrArg Face.settings face
    have compiler : run₁.request = run.request := asked.trans first.alike.request
    rw [settings, compiler] at finish
    refine ⟨⟨f, why, closing, finish, ?_, fails, telling aliveThen stops⟩, fun none => ?_,
      announced.trans first.alike.announced⟩
    · rw [← face]
      exact closes.face
    · obtain ⟨-, rfl⟩ := Option.or_eq_none_iff.1 (fails.symm.trans none)
      exact ending.outcome_shown closes aliveThen stops
  · rw [unfolded, ended] at lives ⊢
    have last : (s.moves (others .announce)).core.stops ≤ t.core.stops := by
      have stepped := stepped_stepRun reacts_react (s.moves (others .announce)) .announce run
      rw [ended] at stepped
      cases stepped with
      | ended _ _ _ _ _ _ _ alters => exact alters.stops_le
    have lives' : t.core.stops = s.core.stops := lives
    exact closed_of_over before (aliveBefore (by omega)) ended (by omega)

/-- What a run leaves behind that was closed and whose report did not fail. -/
theorem returned_of_closed {run run' : Run} (h : Closed s t run run' none) :
    Returned s t run' := by
  obtain ⟨⟨k, why, closing, finish, face, fails, told⟩, shown, announced⟩ := h
  obtain ⟨shown, known⟩ := shown rfl
  obtain ⟨unfailed, rfl⟩ := Option.or_eq_none_iff.1 fails.symm
  obtain rfl : closing = .told none := by
    cases closing with
    | silent => exact absurd rfl told
    | told heard => exact congrArg Closing.told unfailed
    | unreleased => cases unfailed
  let c := Face.announce run s.core.face
  simp only [Face.close, announced, if_true, Face.cutOff, id] at face
  have marks : t.indicator = s.indicator.start.finish := by
    rw [show t.indicator = (k c).indicator.finish from congrArg Face.indicator face,
      finish.aloof.indicator]
    rfl
  have count : t.state.errorCount = (k c).errorCount := congrArg Face.errorCount face
  refine ⟨known, shown, by rw [marks]; rfl, by rw [marks]; rfl, ?_⟩
  have course : t.core.face.course = .published compileFinished
      (finishedData run' t.state.errorCount) :: (k c).course := by
    rw [count]
    exact congrArg Face.course face
  calc publishedOf compileFinished t.history
      = publishedOf compileFinished t.core.face.course := (publishedOf_finished t).symm
    _ = finishedData run' t.state.errorCount ::
          publishedOf compileFinished (k c).course := by rw [course]; rfl
    _ = finishedData run' t.state.errorCount ::
          publishedOf compileFinished s.core.face.course := by rw [finish.aloof.finished]; rfl
    _ = finishedData run' t.state.errorCount :: publishedOf compileFinished s.history := by
          rw [publishedOf_finished]

/-- A run fails unless the last that went wrong in it can be reported. -/
theorem Closed.weathered_iff {run run' : Run} {fault : Option Fault}
    (h : Closed s t run run' fault) :
    fault = none ↔ Weathered s.settings.maxPrintingErrors s.history t.history := by
  obtain ⟨⟨k, why, closing, finish, face, rfl, told⟩, -, announced⟩ := h
  have settled := finish.closed_iff announced told (Face.announce run s.core.face)
  rw [← face] at settled
  unfold Weathered at settled ⊢
  rw [troubles_course] at settled
  rwa [← troubles_course s]

/-- **A run returns, with an outcome, unless the last that went wrong in it cannot be reported.**
The session lives on all the while, and its probe answers. -/
theorem returns_iff {request : Request} (alive : s.state.alive = true)
    (answers : ∀ text, ∃ b, s.probe.ask text = .ok b) (tolerates : Tolerates others s)
    (lives : (pipelineAmid others request s).1.core.stops = s.core.stops) :
    (∃ run, (pipelineAmid others request s).2 = .ok run ∧
        Returned s (pipelineAmid others request s).1 run) ↔
      Weathered s.settings.maxPrintingErrors s.history
        (pipelineAmid others request s).1.history := by
  obtain ⟨final, u, begins, core⟩ := beginRun_of_answers request s answers
  have tolerates' : Tolerates others u := tolerates.of_face (by rw [core]; rfl) (by rw [core]; rfl)
  have aliveThen : u.state.alive = true := (congrArg (·.state.alive) core).trans alive
  have history : u.history = s.history := congrArg (·.history) core
  have indicator : u.indicator = s.indicator := congrArg (·.indicator) core
  have settings : u.settings = s.settings := congrArg (·.settings) core
  have stops : u.core.stops = s.core.stops := by rw [core]; rfl
  rw [pipelineAmid_of_begins begins] at lives ⊢
  have closed := closed_runAmid aliveThen tolerates' (lives.trans stops.symm)
  have settled := closed.weathered_iff
  rw [history, settings] at settled
  rw [← settled]
  generalize runAmid others (stagesLeft .announce) .announce _ u = r at closed ⊢
  obtain ⟨t, run', fault⟩ := r
  cases fault with
  | none =>
    obtain ⟨known, shown, started, ended, told⟩ := returned_of_closed closed
    rw [indicator] at started ended
    rw [history] at told
    exact iff_of_true ⟨run', rfl, known, shown, started, ended, told⟩ rfl
  | some e =>
    refine iff_of_false ?_ nofun
    rintro ⟨run, eq, -⟩
    cases eq

/-- A session that has been started and has just taken a request. -/
def busySession (o : Opening) : Session Action :=
  { o.session with
    state := { o.session.state with alive := true, ready := true, compiling := true }
    loaded := [("CPython", { version := "1.0" })] }

/-- Another request comes in before the module is validated, and is parked. -/
def parkedAmid : Stage → List Move
  | .validate => [.call (.compile none)] ++ smallTicks 1
  | _ => []

theorem returns_iff_parked :
    let s := busySession plainOpening
    (pipelineAmid parkedAmid s.buildRequest s).1.pending.isSome = true ∧
      ∃ run, (pipelineAmid parkedAmid s.buildRequest s).2 = .ok run ∧
        Returned s (pipelineAmid parkedAmid s.buildRequest s).1 run := by
  intro s
  have calm : (troubles (pipelineAmid parkedAmid s.buildRequest s).1.history).isEmpty = true := by
    decide +kernel
  have alive : s.state.alive = true := by decide
  have tolerates : Tolerates parkedAmid s := .inr ⟨by decide, rfl⟩
  have lives : (pipelineAmid parkedAmid s.buildRequest s).1.core.stops = s.core.stops := by
    decide +kernel
  have returns := returns_iff alive (fun _ => ⟨false, rfl⟩) tolerates lives
  refine ⟨by decide +kernel, returns.2 (weathered_of_same ?_)⟩
  exact List.isEmpty_iff.1 calm

/-- The compiler refuses every text with a diagnostic whose tag is written with a dotless i. -/
def illegibleOpening : Opening :=
  { plainOpening with
    compilers := [("CPython", .scripted { compiles :=
      ⟨{ verdict := .fails (.rejected ["ınfo (1,1)"] none) }, []⟩ })] }

/-- The session lives on, and yet the run does not return. -/
theorem pipelineAmid_escapes :
    let s := busySession illegibleOpening
    s.state.alive = true ∧ (∀ text, ∃ b, s.probe.ask text = .ok b) ∧ s.Underway ∧
      (pipelineAmid (fun _ => []) s.buildRequest s).1.core.stops = s.core.stops ∧
      ∀ run, (pipelineAmid (fun _ => []) s.buildRequest s).2 ≠ .ok run := by
  intro s
  have escapes : (pipelineAmid (fun _ => []) s.buildRequest s).2.toBool = false := by decide +kernel
  refine ⟨by decide, fun _ => ⟨false, rfl⟩, ⟨by decide, rfl⟩, by decide +kernel, ?_⟩
  intro run returned
  rw [returned] at escapes
  cases escapes

end Session

end Playground
