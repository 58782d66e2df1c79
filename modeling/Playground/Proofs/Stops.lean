import Playground.Proofs.Brackets
import Playground.Proofs.Timers

/-!
# A stop is final

A session can be stopped at any moment: between two callbacks, while a run waits for a stage, and
from within a stage, by what the stage calls. Its timer, the request that waits and the run that is
under way are left over, and each of them finds out for itself that the session is not alive.

* `Core.Hushed` — nothing is compiled, published or shown any more.
* `Session.Settled` — no run is left, and the marks are taken back.
* `stops_of_body` — what is left of a stage in which the session was stopped.
* `stop_is_final` — whatever happens after a stop, short of a new start.
* `mark_left_stopped` — the busy mark stays where a module cannot be released.
-/

namespace Playground

open Playground.Core

/-- Between two moments, a pipeline does nothing but dispose modules, and nothing new is shown;
messages may be dismissed. -/
structure Core.Hushed (c d : Core) : Prop where
  later : c.history <:+ d.history
  deeds : ∃ ds, deedsOf d.history = ds ++ deedsOf c.history ∧
    ∀ m ∈ ds, ∃ g fault, m = .called g .dispose fault
  outcome : d.state.outcome = c.state.outcome
  errorCount : d.state.errorCount = c.state.errorCount
  annotations : d.state.annotations = c.state.annotations
  artifact : d.state.artifact = c.state.artifact
  count : d.state.notifications.count = c.state.notifications.count
  items : d.state.notifications.items.Sublist c.state.notifications.items

/-- No run is left, and where every module that was left behind was released, the marks are taken
back. -/
structure Session.Settled (s : Session Action) : Prop where
  empty : s.inPipeline = []
  idle : s.state.compiling = false
  unmarked : Released s.history →
    s.indicator.compiling = false ∧ s.indicator.started = s.indicator.ended

def starts (ms : List Milestone) : Nat := ms.countP Milestone.isStart

theorem starts_le {old new : List Milestone} (later : old <:+ new) : starts old ≤ starts new :=
  later.sublist.countP_le

namespace Core

variable {c d e : Core} {run : Run} {fault : Option Fault}

theorem Hushed.trans (h : Hushed c d) (k : Hushed d e) : Hushed c e where
  later := h.later.trans k.later
  deeds := by
    obtain ⟨ds, deeds, disposals⟩ := h.deeds
    obtain ⟨es, deeds', disposals'⟩ := k.deeds
    refine ⟨es ++ ds, by rw [deeds', deeds, List.append_assoc], fun m hm => ?_⟩
    exact (List.mem_append.1 hm).elim (disposals' m) (disposals m)
  outcome := k.outcome.trans h.outcome
  errorCount := k.errorCount.trans h.errorCount
  annotations := k.annotations.trans h.annotations
  artifact := k.artifact.trans h.artifact
  count := k.count.trans h.count
  items := k.items.trans h.items

/-- What changes nothing that is shown and does nothing but dispose modules. -/
theorem Hushed.of_does {rs : List Milestone} (does : Does rs [] c d)
    (disposals : ∀ m ∈ rs, ∃ g fault, m = .called g .dispose fault)
    (shown : d.face.shown = c.face.shown) : Hushed c d := by
  simp only [Face.shown, Prod.mk.injEq] at shown
  obtain ⟨outcome, count, annotations, artifact, -⟩ := shown
  refine ⟨does.later, ⟨rs.reverse, does.deeds, fun m hm => ?_⟩, outcome, count, annotations,
    artifact, does.count, ?_⟩
  · exact disposals m (List.mem_reverse.1 hm)
  · simpa using does.items

theorem Hushed.of_beside (beside : Beside c d) (shown : d.face.shown = c.face.shown) :
    Hushed c d := .of_does beside (fun _ hm => absurd hm List.not_mem_nil) shown

theorem Hushed.refl (c : Core) : Hushed c c := .of_beside (.refl c) rfl

/-- After the end of a run, a session that is not alive rests. -/
theorem Ends.hushed (ends : Ends run fault c d) (dead : c.state.alive = false) :
    Hushed c d ∧ d.face.stages = c.face.stages := by
  have beside := ends.beside
  cases ends with
  | breaks f => exact ⟨.of_beside beside rfl, rfl⟩
  | rests => exact ⟨.of_beside beside rfl, rfl⟩
  | follows _ _ alive _ => exact Bool.noConfusion (alive.symm.trans dead)

/-- Without a new start, a session that is not alive stays so. -/
theorem Living.dead (living : c.Living) (living' : d.Living) (later : c.history <:+ d.history)
    (unstarted : starts d.history = starts c.history) (dead : c.state.alive = false) :
    d.state.alive = false := by
  obtain ⟨new, eq⟩ := later
  have none : new.countP Milestone.isStart = 0 := by
    have counted := unstarted
    rw [← eq, starts, starts, List.countP_append] at counted
    omega
  rw [show d.state.alive = lives d.history from living', ← eq]
  exact lives_append none (living.symm.trans dead)

end Core

namespace Session

variable {s t u v w : Session Action} {stage : Stage} {run run' : Run} {fault : Option Fault}

/-- A run that is given up shows nothing. -/
theorem hushed_of_givenUp {closing : Closing} (h : GivenUp run closing s t) :
    Hushed s.core t.core := by
  obtain ⟨⟨rs, releases, does⟩, alters, -⟩ := h
  refine .of_does does (fun m hm => ?_) ?_
  · generalize run.module = own at releases
    cases releases with
    | nothing => cases hm
    | disposed _ fault => exact ⟨_, fault, List.mem_singleton.1 hm⟩
  · rw [alters.face, Face.shown_close]

/-! ### After a stop -/

/-- One move in a session that is not alive, short of a start. -/
theorem hushed_of_paced (paced : Paced s t) (sound : s.core.Sound) (living : s.core.Living)
    (dead : s.state.alive = false) (unstarted : starts t.history = starts s.history) :
    Hushed s.core t.core ∧ (t.inPipeline = s.inPipeline ∨ t.inPipeline = []) := by
  cases paced with
  | beside aside beside =>
    exact ⟨.of_beside beside (congrArg Face.shown aside.face),
      .inl (congrArg Face.stages aside.face)⟩
  | enters c alive _ _ beside begins =>
    -- only a session that is alive opens a run
    have before := starts_le beside.later
    have after := starts_le begins.beside.later
    have same : starts c.history = starts s.history :=
      Nat.le_antisymm (Nat.le_trans after (Nat.le_of_eq unstarted)) before
    have gone := living.dead (beside.living living) beside.later same dead
    exact Bool.noConfusion (alive.symm.trans gone)
  | strides u v stage next run run' after front popped step eq =>
    have dead' : u.state.alive = false := (congrArg (·.state.alive) popped).trans dead
    obtain ⟨_, _, eq, -⟩ := givenUp_stepRun reacts_react dead' stage run
    cases step.symm.trans eq
  | halts u v stage run run' fault after front popped step ends =>
    have dead' : u.state.alive = false := (congrArg (·.state.alive) popped).trans dead
    have empty := stages_of_over sound front popped step
    obtain ⟨_, _, eq, givenUp⟩ := givenUp_stepRun reacts_react dead' stage run
    cases step.symm.trans eq
    obtain ⟨rests, kept⟩ := ends.hushed givenUp.dead
    have taken : Hushed s.core u.core :=
      .of_beside (fronts_of_front sound front popped).beside (by rw [popped]; rfl)
    exact ⟨(taken.trans (hushed_of_givenUp givenUp)).trans rests, .inr (kept.trans empty)⟩

/-- Whatever happens to a session that is not alive, short of a start. -/
theorem hushed_moves (o : Opening) (ms ms' : List Move)
    (dead : (o.session.moves ms).state.alive = false)
    (unstarted : starts (o.session.moves (ms ++ ms')).history =
      starts (o.session.moves ms).history) :
    Hushed (o.session.moves ms).core (o.session.moves (ms ++ ms')).core ∧
      ((o.session.moves (ms ++ ms')).inPipeline = (o.session.moves ms).inPipeline ∨
        (o.session.moves (ms ++ ms')).inPipeline = []) := by
  have sound : (o.session.moves ms).core.Sound := sound_moves o ms
  have living := living_moves o ms
  rw [moves_append] at unstarted ⊢
  generalize o.session.moves ms = s at dead unstarted sound living ⊢
  -- the starts that are noted only become more, so there is none up to any of the moves
  refine (turn_induction (fun t => s.history <:+ t.history ∧
    (starts t.history = starts s.history → Hushed s.core t.core ∧
      (t.inPipeline = s.inPipeline ∨ t.inPipeline = []))) sound living
    ⟨List.suffix_refl _, fun _ => ⟨.refl _, .inl rfl⟩⟩ ?_).2 unstarted
  rintro t t' sound' living' turn ⟨later, ih⟩
  have paced := paced_of_turn turn
  have grows := paced.living.1
  refine ⟨later.trans grows, fun unstarted => ?_⟩
  have before := starts_le later
  have after := starts_le grows
  have same : starts t.history = starts s.history := by omega
  obtain ⟨hushed, pipeline⟩ := ih same
  have dead' : t.state.alive = false := living.dead living' later same dead
  obtain ⟨hushed', pipeline'⟩ := hushed_of_paced paced sound' living' dead' (by omega)
  refine ⟨hushed.trans hushed', ?_⟩
  rcases pipeline' with kept | empty
  · exact pipeline.imp kept.trans kept.trans
  · exact .inr empty

/-- Where no run is in the pipeline, the marks are taken back. -/
theorem settled_of_empty (o : Opening) (ms : List Move)
    (empty : (o.session.moves ms).inPipeline = []) : (o.session.moves ms).Settled := by
  have sound : (o.session.moves ms).core.Sound := sound_moves o ms
  have marks (released : Released (o.session.moves ms).history) :
      (o.session.moves ms).core.Marked (o.session.moves ms).inPipeline :=
    marked_moves o ms (.inr released)
  generalize o.session.moves ms = s at empty sound marks ⊢
  refine ⟨empty, Bool.eq_false_iff.2 fun busy => ?_, fun released => ?_⟩
  · obtain ⟨stage, run, stages, -⟩ := sound.busy busy
    cases empty.symm.trans stages
  · have marked := marks released
    rw [empty] at marked
    have unmarked : s.indicator.compiling = false :=
      Bool.eq_false_iff.2 fun on => by simpa using marked.busy.1 on
    have balance := marked.balance
    rw [show s.core.indicator.compiling = false from unmarked] at balance
    exact ⟨unmarked, balance⟩

/-! ### In the course of a stage -/

/-- The coroutine of a run has its turn. -/
theorem core_move_staging {owner : Owner} {after : After} {rest : List (Clock.Entry Job)}
    (front : s.loop.batch = .job (.resume owner (.staging stage run after)) :: rest) :
    (s.move .step).core = ((s.pop rest).resumeStage Session.react stage run after).1.core.await
      ((s.pop rest).resumeStage Session.react stage run after).2.waiting? := by
  have stepped : s.move .step =
      (s.pop rest).stepCoroutine Session.react owner (.staging stage run after) := by
    show Clock.Machine.step machine s = _
    unfold Clock.Machine.step
    split
    next none => cases front.symm.trans none
    next id rest' timer => cases front.symm.trans timer
    next j rest' job =>
      obtain ⟨eq, rfl⟩ := List.cons.inj (front.symm.trans job)
      obtain rfl := Clock.Entry.job.inj eq
      rfl
  rw [stepped]
  exact core_stepCoroutine Session.react owner _ (s.pop rest)

/-- A session that is not alive gives up the run that has its turn. -/
theorem empty_move_of_staging {owner : Owner} {after : After} {rest : List (Clock.Entry Job)}
    (sound : s.core.Sound) (dead : s.state.alive = false)
    (front : s.loop.batch = .job (.resume owner (.staging stage run after)) :: rest) :
    (s.move .step).inPipeline = [] := by
  obtain ⟨waits, popped⟩ := core_pop_job front
  obtain ⟨v, _, step, givenUp⟩ := givenUp_stepRun reacts_react (s := s.pop rest) dead stage run
  have ends := ends_resumeStage_of_over after step
  rw [← core_move_staging front] at ends
  obtain ⟨-, kept⟩ := ends.hushed givenUp.dead
  exact kept.trans (stages_of_over sound waits popped step)

/-- What is left of a stage in which the session was stopped: the run waits for its next stage, or
what ends it disposes its module. -/
theorem stops_of_body {result : Except Fault (Option Stage)} (alive : u.state.alive = true)
    (body : u.runStage Session.react stage { run with stages := run.stages ++ [stage.name] } =
      (w, run', result)) (dead : w.state.alive = false) :
    (∃ next, u.stepRun Session.react stage run = (w, .next next run')) ∨
      ∃ v last fault, u.stepRun Session.react stage run = (v, .over last fault) ∧
        Hushed w.core v.core ∧ v.state.alive = false := by
  unfold stepRun
  rw [if_pos alive, body]
  rcases result with f | _ | next
  · have raised : Hushed w.core (w.mark (.raised stage f)).core :=
      .of_beside (.of_note (.raised stage f) rfl rfl id) rfl
    have dead' : (w.mark (.raised stage f)).state.alive = false := dead
    have silent : (w.mark (.raised stage f)).reportFault Session.react run' f =
        (w.mark (.raised stage f), run', none) := if_neg (Bool.eq_false_iff.1 dead')
    obtain ⟨closing, -, closed⟩ := givenUp_closeRun reacts_react dead' run'
    refine .inr ⟨_, ((w.mark (.raised stage f)).closeRun Session.react run').2.1,
      ((w.mark (.raised stage f)).closeRun Session.react run').2.2, ?_,
      raised.trans (hushed_of_givenUp closed), closed.dead⟩
    simp only [silent, Option.or_none]
  · obtain ⟨closing, -, closed⟩ := givenUp_closeRun reacts_react dead run'
    exact .inr ⟨_, _, _, rfl, hushed_of_givenUp closed, closed.dead⟩
  · exact .inl ⟨next, rfl⟩

/-- From the end of that stage to the next callback. -/
theorem hushed_move_of_body {owner : Owner} {after : After} {rest : List (Clock.Entry Job)}
    (front : s.loop.batch = .job (.resume owner (.staging stage run after)) :: rest)
    (alive : s.state.alive = true) :
    let body := (s.pop rest).runStage Session.react stage
      { run with stages := run.stages ++ [stage.name] }
    body.1.state.alive = false →
      Hushed body.1.core (s.move .step).core ∧ (s.move .step).state.alive = false := by
  intro body dead
  have moved := core_move_staging front
  have alive' : (s.move .step).state.alive = ((s.move .step).core.state).alive := rfl
  rw [alive', moved]
  rcases stops_of_body (u := s.pop rest) alive (Prod.eta body).symm dead with
    ⟨next, step⟩ | ⟨v, last, fault, step, hushed, dead'⟩
  · rw [core_resumeStage_of_next after step]
    exact ⟨.of_beside ((Does.refl _).await _) rfl, dead⟩
  · have ends := ends_resumeStage_of_over after step
    obtain ⟨rests, -⟩ := ends.hushed dead'
    refine ⟨hushed.trans rests, ?_⟩
    generalize ((s.pop rest).resumeStage Session.react stage run after).1.core.await _ = d at ends
    cases ends with
    | breaks => exact dead'
    | rests => exact dead'
    | follows _ _ alive _ => exact Bool.noConfusion (alive.symm.trans dead')

/-- **A stop is final until the next start.** A session that is not alive has no timer and lets no
request wait; the run that is under way is over with its next turn, and no run leaves a mark behind
that released its module.
Until the session is started again nothing is compiled, published or shown; and where it is stopped
from within a stage, so it is from the end of that stage on. -/
theorem stop_is_final (o : Opening) (ms : List Move) :
    let s := o.session.moves ms
    (s.state.alive = false →
      (s.armed = none ∧ s.loop.timerIds = [] ∧ s.pending = none) ∧
      (s.inPipeline = [] → s.Settled) ∧
      (∀ owner stage run after rest,
        s.loop.batch = .job (.resume owner (.staging stage run after)) :: rest →
          (s.move .step).Settled) ∧
      ∀ ms', starts (s.moves ms').history = starts s.history →
        Hushed s.core (s.moves ms').core ∧
          ((s.moves ms').inPipeline = s.inPipeline ∨ (s.moves ms').Settled)) ∧
    (s.state.alive = true → ∀ owner stage run after rest,
      s.loop.batch = .job (.resume owner (.staging stage run after)) :: rest →
      let body := (s.pop rest).runStage Session.react stage
        { run with stages := run.stages ++ [stage.name] }
      body.1.state.alive = false →
        (s.move .step).state.alive = false ∧
        ∀ ms', starts ((s.move .step).moves ms').history = starts body.1.history →
          Hushed body.1.core ((s.move .step).moves ms').core) := by
  intro s
  have sound : s.core.Sound := sound_moves o ms
  have tidy : s.Tidy := tidy_moves o ms
  have stepped : s.move .step = o.session.moves (ms ++ [.step]) := (moves_append _ ms [.step]).symm
  refine ⟨fun dead => ⟨?_, settled_of_empty o ms, ?_, fun ms' unstarted => ?_⟩, ?_⟩
  · obtain ⟨unarmed, empty⟩ := tidy.dead dead
    exact ⟨unarmed, (unarmed ▸ tidy.sole).timerIds_nil, empty⟩
  · intro owner stage run after rest front
    have empty := empty_move_of_staging sound dead front
    rw [stepped] at empty ⊢
    exact settled_of_empty o _ empty
  · have later : s.moves ms' = o.session.moves (ms ++ ms') := (moves_append _ ms ms').symm
    rw [later] at unstarted ⊢
    obtain ⟨hushed, pipeline⟩ := hushed_moves o ms ms' dead unstarted
    exact ⟨hushed, pipeline.imp_right (settled_of_empty o _)⟩
  · intro alive owner stage run after rest front body dead
    obtain ⟨hushed, dead'⟩ := hushed_move_of_body front alive dead
    refine ⟨dead', fun ms' unstarted => ?_⟩
    have grows := starts_le hushed.later
    have grows' := starts_le (later_moves (s.move .step) ms')
    have same : starts ((s.move .step).moves ms').history = starts (s.move .step).history :=
      Nat.le_antisymm (Nat.le_trans (Nat.le_of_eq unstarted) grows) grows'
    rw [stepped] at dead' hushed same ⊢
    rw [← moves_append] at same ⊢
    exact hushed.trans (hushed_moves o (ms ++ [.step]) ms' dead' same).1

/-- A session is stopped while its first run waits for a stage. -/
def haltedMoves : List Move := [.call .start] ++ smallTicks 4 ++ [.act .stop]

/-- The compiler stops the session while it is called. -/
def curtOpening : Opening :=
  { plainOpening with
    compilers := [("CPython", .scripted { compiles := ⟨{ actions := [.stop] }, []⟩ })] }

/-- The first run is about to call the compiler. -/
def askingMoves : List Move := [.call .start] ++ smallTicks 2 ++ [.openTick]

/-- The body of the next stage stops the session, and no run is begun later. -/
def stopsWithin (s : Session Action) : Bool :=
  match s.loop.batch with
  | .job (.resume _ (.staging stage run _)) :: rest =>
    let body := (s.pop rest).runStage Session.react stage
      { run with stages := run.stages ++ [stage.name] }
    !body.1.state.alive &&
      starts ((s.move .step).moves (smallTicks 3)).history == starts body.1.history
  | _ => false

theorem stop_is_final_halted :
    (let s := plainOpening.session.moves haltedMoves;
      s.inPipeline.length = 1 ∧ s.armed = none ∧ Hushed s.core (s.moves (smallTicks 1)).core ∧
        (s.moves (smallTicks 1)).Settled) ∧
    let s := curtOpening.session.moves askingMoves
    s.state.alive = true ∧ (s.move .step).state.alive = false ∧
      ∃ t : Session Action, t.state.alive = false ∧
        Hushed t.core ((s.move .step).moves (smallTicks 3)).core := by
  constructor
  · intro s
    have dead : s.state.alive = false := by decide +kernel
    have waits : s.inPipeline.length = 1 := by decide +kernel
    have empty : (s.moves (smallTicks 1)).inPipeline.length = 0 := by decide +kernel
    obtain ⟨gone, -⟩ := stop_is_final plainOpening haltedMoves
    obtain ⟨⟨unarmed, -⟩, -, -, hushed⟩ := gone dead
    obtain ⟨hushed, pipeline⟩ := hushed (smallTicks 1) (by decide +kernel)
    refine ⟨waits, unarmed, hushed, pipeline.resolve_left fun same => ?_⟩
    rw [same] at empty
    exact absurd (waits.symm.trans empty) Nat.one_ne_zero
  · intro s
    have alive : s.state.alive = true := by decide +kernel
    have amid : stopsWithin s = true := by decide +kernel
    unfold stopsWithin at amid
    split at amid
    next owner stage run after rest front =>
      obtain ⟨stopped, unstarted⟩ := Bool.and_eq_true_iff.1 amid
      obtain ⟨-, within⟩ := stop_is_final curtOpening askingMoves
      obtain ⟨dead, hushed⟩ := within alive owner stage run after rest front
        (Bool.not_eq_true' _ ▸ stopped)
      exact ⟨alive, dead, _, by simpa using stopped, hushed (smallTicks 3) (eq_of_beq unstarted)⟩
    next => cases amid

/-- The compiler stops the session while it is called, and hands out a module that cannot be
released. -/
def curtUnreleasedOpening : Opening :=
  { plainOpening with
    compilers := [("CPython", .scripted { compiles :=
      ⟨{ actions := [.stop], verdict := .produces stubbornModule }, []⟩ })] }

/-- **The mark stays set in a session that was stopped** where the module of the last run could not
be released. -/
theorem mark_left_stopped :
    let s := curtUnreleasedOpening.session.moves unreleasedMoves
    s.state.alive = false ∧ s.inPipeline.length = 0 ∧ s.state.compiling = false ∧
      s.indicator.compiling = true := by
  decide +kernel

end Session

end Playground
