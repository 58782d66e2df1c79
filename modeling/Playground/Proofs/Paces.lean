import Playground.Proofs.Deeds
import Playground.Proofs.Requests

/-!
# The paces of runs

Every move leaves all runs as they are, opens one, leads one to its next stage or ends one, after
which another may be opened at once.

* `Begins`, `Ends` — how a run is opened, and what follows its end.
* `Paced`, `paced_of_turn` — what a move does to runs.
* `frame_stepRun` — what a step of a run leaves to the coroutine around it.
* `turn_induction` — what every turn keeps holds after all moves.
-/

namespace Playground

open Playground.Core

/-- A run is opened, or breaks off at once. -/
inductive Core.Begins (c d : Core) : Prop where
  | begins (ticket : Ticket) (final : Request) (after : After)
      (h : ticket.request.finalize c.probe = .ok final)
      (eq : d = (c.begin ticket).await (some (.staging .announce
        { request := final, generation := c.state.generation + 1 } after)))
  | breaks (ticket : Ticket) (f : Fault) (h : ticket.request.finalize c.probe = .error f)
      (eq : d = (c.begin ticket).breakOff (c.state.generation + 1) none f)

def Core.conclude (run : Run) (c : Core) : Core :=
  { c with history := .ended run.generation run.outcome :: c.history }

inductive Core.Ends (run : Run) : Option Fault → Core → Core → Prop where
  | breaks (f : Fault) (c : Core) : Ends run (some f) c (c.breakOff run.generation run.outcome f)
  | rests (c : Core) (why : c.pending = none ∨ c.state.alive = false) :
      Ends run none c { (c.conclude run).rest with pending := none }
  | follows (c d : Core) (alive : c.state.alive = true)
      (begins : Begins { c.conclude run with pending := none } d) : Ends run none c d

/-- Is it the end of the run of this generation with this outcome, which the run may have failed to
report? -/
inductive Milestone.IsEnd (generation : Nat) (outcome : Option Outcome) : Milestone → Prop where
  | ended : IsEnd generation outcome (.ended generation outcome)
  | broke (f : Fault) : IsEnd generation outcome (.broke generation outcome f)

/-- What a move does to runs. -/
inductive Paced (s t : Session Action) : Prop where
  | beside (aside : Aside s.core t.core) (beside : Beside s.core t.core)
  /-- An idle session opens a run. -/
  | enters (c : Core) (alive : c.state.alive = true) (idle : s.state.compiling = false)
      (busy : Alters (fun f => { f with compiling := true }) [] s.core c)
      (beside : Beside s.core c) (begins : Begins c t.core)
  | strides (u v : Session Action) (stage next : Stage) (run run' : Run) (after : After)
      (front : s.waiting = .staging stage run after :: u.waiting)
      (popped : u.core = { s.core with waiting := u.waiting })
      (step : u.stepRun Session.react stage run = (v, .next next run'))
      (eq : t.core = v.core.await (some (.staging next run' after)))
  | halts (u v : Session Action) (stage : Stage) (run run' : Run) (fault : Option Fault)
      (after : After) (front : s.waiting = .staging stage run after :: u.waiting)
      (popped : u.core = { s.core with waiting := u.waiting })
      (step : u.stepRun Session.react stage run = (v, .over run' fault))
      (ends : Ends run' fault v.core t.core)

namespace Session

variable {P : Action → Prop} {s t : Session Action} {r : Session Action × Progress}

theorem begins_of_opened {ticket : Ticket} (h : Opened ticket s r) :
    Begins s.core (r.1.core.await r.2.waiting?) := by
  cases h with
  | begins final after h core next =>
    rw [core, next]
    exact .begins ticket final after h rfl
  | breaks f h core next =>
    rw [core, next, await_none]
    exact .breaks ticket f h rfl

theorem ends_of_followed {run : Run}
    (h : Followed (s.mark (.ended run.generation run.outcome)) r) :
    Ends run none s.core (r.1.core.await r.2.waiting?) := by
  cases h with
  | rests why core next =>
    rw [core, next, await_none]
    exact .rests s.core why
  | opened ticket parked alive u core opens =>
    have begins := begins_of_opened opens
    rw [core] at begins
    exact .follows s.core _ alive begins

/-- A coroutine outside the pipeline leaves all runs as they are, or opens one. -/
theorem paced_of_led {call : Option Call} {u : Session Action} (aside : Aside s.core u.core)
    (beside : Beside s.core u.core) (h : Led P call u r)
    (eq : t.core = r.1.core.await r.2.waiting?) : Paced s t := by
  cases h with
  | rests lead next _ =>
    rw [next, await_none] at eq
    exact .beside (eq ▸ aside.after (aside_leads lead)) (eq ▸ beside.after (beside_leads lead))
  | loads lead compiler left ending purpose next =>
    rw [next] at eq
    exact .beside (eq ▸ (aside.after (aside_leads lead)).after (aside_await _ rfl))
      (eq ▸ (beside.after (beside_leads lead)).await _)
  | enters v draft after lead _ entered =>
    have aside' := aside.after (aside_leads lead)
    have beside' := beside.after (beside_leads lead)
    have entered : Entered draft v r := entered ▸ entered_enterCompile draft after v
    cases entered with
    | ignored _ core next =>
      rw [core, next, await_none] at eq
      exact .beside (eq ▸ aside') (eq ▸ beside')
    | parked _ _ _ core next =>
      rw [core, next, await_none] at eq
      exact .beside (eq ▸ aside'.after (aside_accept_park _ _ _))
        (eq ▸ beside'.after (beside_park _ _ _))
    | opened alive _ idle w core opens =>
      have busy : Alters (fun f => { f with compiling := true }) [] v.core w.core :=
        core ▸ .of_face rfl rfl rfl rfl
      have begins := begins_of_opened opens
      rw [← eq] at begins
      have accepted : Beside v.core w.core :=
        core ▸ (beside_accept (v.requestOf draft) v.core).after (.of_state rfl rfl rfl)
      refine .enters w.core ?_ ?_ (aside'.before busy) (beside'.after accepted) begins
      · exact (congrArg (·.state.alive) core).trans alive
      · exact (congrArg Face.compiling aside'.face).symm.trans idle

/-- A run that is led on waits for its next stage. -/
theorem core_resumeStage_of_next {u v : Session Action} {stage next : Stage} {run run' : Run}
    (after : After) (step : u.stepRun Session.react stage run = (v, .next next run')) :
    (u.resumeStage Session.react stage run after).1.core.await
      (u.resumeStage Session.react stage run after).2.waiting? =
        v.core.await (some (.staging next run' after)) := by
  unfold resumeStage
  rw [step]
  rfl

/-- After a run that is over, the session rests or opens another. -/
theorem ends_resumeStage_of_over {u v : Session Action} {stage : Stage} {run run' : Run}
    {fault : Option Fault} (after : After)
    (step : u.stepRun Session.react stage run = (v, .over run' fault)) :
    Ends run' fault v.core ((u.resumeStage Session.react stage run after).1.core.await
      (u.resumeStage Session.react stage run after).2.waiting?) := by
  unfold resumeStage
  rw [step]
  cases fault with
  | some f =>
    show Ends run' (some f) v.core ((v.core.breakOff run'.generation run'.outcome f).await none)
    rw [await_none]
    exact .breaks f v.core
  | none => exact ends_of_followed (followed_nextRun after _)

/-- A step of a run leads it on or ends it. -/
theorem paced_of_staging {u : Session Action} {stage : Stage} {run : Run} {after : After}
    (front : s.waiting = .staging stage run after :: u.waiting)
    (popped : u.core = { s.core with waiting := u.waiting })
    (eq : t.core = (u.resumeStage Session.react stage run after).1.core.await
      (u.resumeStage Session.react stage run after).2.waiting?) : Paced s t := by
  rcases step : u.stepRun Session.react stage run with ⟨v, ⟨next, run'⟩ | ⟨run', fault⟩⟩
  · exact .strides u v stage next run run' after front popped step
      (eq.trans (core_resumeStage_of_next after step))
  · exact .halts u v stage run run' fault after front popped step
      (eq ▸ ends_resumeStage_of_over after step)

/-- **What a move does to runs.** -/
theorem paced_of_turn (turn : Turn P s t) : Paced s t := by
  cases turn with
  | acted a _ eq =>
    have nudges : Nudges (fun _ => True) s t :=
      eq ▸ nudges_act reacts_react (admits_all s) trivial
    exact .beside (aside_nudges nudges) (beside_nudges nudges)
  | kept eq => exact .beside (.of_eq eq) (.of_eq eq)
  | called c _ eq => exact .beside (eq ▸ aside_await _ rfl) (eq ▸ (Does.refl _).await _)
  | fired _ _ eq =>
    have disarmed : Aside s.core { s.core with armed := none } := .of_face rfl rfl rfl rfl
    have disarmed' : Beside s.core { s.core with armed := none } := .of_state rfl rfl rfl
    exact .beside (eq ▸ disarmed.after (aside_await _ rfl)) (eq ▸ disarmed'.await _)
  | resumed u at_ lasting front popped eq =>
    rcases led_or_staging (fun _ => True) lasting with ⟨outside, led⟩ | ⟨stage, run, after, rfl⟩
    · have taken : Aside s.core u.core := popped ▸ aside_pop s.core front outside
      have taken' : Beside s.core u.core := popped ▸ .of_state rfl rfl rfl
      exact paced_of_led taken taken' led eq
    · exact paced_of_staging front popped eq

/-- What a step of a run leaves to the coroutine around it. -/
theorem frame_stepRun (s : Session Action) (stage : Stage) (run : Run) :
    (s.stepRun Session.react stage run).1.core.face.stages = s.core.face.stages ∧
      (s.stepRun Session.react stage run).1.state.compiling = s.state.compiling ∧
      (s.stepRun Session.react stage run).1.state.generation = s.state.generation := by
  have stepped := stepped_stepRun reacts_react s stage run
  generalize s.stepRun Session.react stage run = r at stepped ⊢
  cases stepped with
  | announced _ _ _ alters =>
    exact ⟨(congrArg Face.stages alters.face).trans rfl,
      (congrArg Face.compiling alters.face).trans rfl,
      (congrArg Face.generation alters.face).trans rfl⟩
  | onward _ _ _ _ _ aside =>
    exact ⟨congrArg Face.stages aside.face, congrArg Face.compiling aside.face,
      congrArg Face.generation aside.face⟩
  | ended _ _ _ _ _ _ ending alters => exact ending.frame alters

/-- A step of a run adds to the course, and starts and stops are noted in it. -/
theorem living_stepRun (s : Session Action) (stage : Stage) (run : Run) :
    s.history <:+ (s.stepRun Session.react stage run).1.history ∧
      (s.core.Living → (s.stepRun Session.react stage run).1.core.Living) := by
  cases alive : s.state.alive with
  | true =>
    have walked := walked_stepRun reacts_react alive stage run
    generalize s.stepRun Session.react stage run = r at walked ⊢
    cases walked with
    | announced _ _ _ does => exact ⟨does.later, does.living⟩
    | onward _ _ _ _ _ does => exact ⟨does.later, does.living⟩
    | closed _ _ _ _ _ _ _ _ _ _ _ _ does =>
      have later := does.later
      rw [history_entering] at later
      exact ⟨later, fun living => does.living (living_entering living)⟩
  | false =>
    obtain ⟨t, _, eq, ⟨rs, -, does⟩, -, -, -⟩ := givenUp_stepRun reacts_react alive stage run
    rw [eq]
    exact ⟨does.later, does.living⟩

/-- The coroutine of a run was taken off the front for its step. -/
structure Fronts (s u : Session Action) (stage : Stage) (run : Run) : Prop where
  stages : s.core.face.stages = [(stage, run)]
  stands : u.core.Stands stage run
  busy : u.state.compiling = true
  same : u.state = s.state
  beside : Beside s.core u.core

/-- The run whose coroutine is at the front is the only one in the pipeline. -/
theorem fronts_of_front {u : Session Action} {stage : Stage} {run : Run} {after : After}
    (sound : s.core.Sound) (front : s.waiting = .staging stage run after :: u.waiting)
    (popped : u.core = { s.core with waiting := u.waiting }) : Fronts s u stage run := by
  obtain ⟨stages, -, stands, compiling⟩ := sound.front front rfl
  have same : u.state = s.state := congrArg Core.state popped
  refine ⟨stages, ?_, (congrArg State.compiling same).trans compiling, same,
    popped ▸ .of_state rfl rfl rfl⟩
  exact popped ▸ ⟨stands.fresh, stands.number, stands.announced, stands.blank⟩

/-- Where a step leads the run at the front on, it is again the only one in the pipeline. -/
theorem stages_of_next {u v : Session Action} {stage next : Stage} {run run' : Run} {after : After}
    (sound : s.core.Sound) (front : s.waiting = .staging stage run after :: u.waiting)
    (popped : u.core = { s.core with waiting := u.waiting })
    (step : u.stepRun Session.react stage run = (v, .next next run')) :
    (v.core.await (some (.staging next run' after))).face.stages = [(next, run')] := by
  obtain ⟨-, rest, -⟩ := sound.front front rfl
  obtain ⟨kept, -⟩ := frame_stepRun u stage run
  rw [step] at kept
  exact stages_await (kept.trans (popped ▸ rest)) next run' after

/-- Where a step ends it, none is left. -/
theorem stages_of_over {u v : Session Action} {stage : Stage} {run run' : Run} {after : After}
    {fault : Option Fault} (sound : s.core.Sound)
    (front : s.waiting = .staging stage run after :: u.waiting)
    (popped : u.core = { s.core with waiting := u.waiting })
    (step : u.stepRun Session.react stage run = (v, .over run' fault)) :
    v.core.face.stages = [] := by
  obtain ⟨-, rest, -⟩ := sound.front front rfl
  obtain ⟨kept, -⟩ := frame_stepRun u stage run
  rw [step] at kept
  exact kept.trans (popped ▸ rest)

end Session

namespace Core

variable {c d : Core} {run : Run} {fault : Option Fault}

/-- A run that is opened is the only one in the pipeline. -/
theorem Begins.stages (h : Begins c d) (quiet : c.face.stages = []) :
    d.face.stages = [] ∨ ∃ run, d.face.stages = [(.announce, run)] := by
  cases h with
  | begins ticket _ after _ eq =>
    have begun : (c.begin ticket).face.stages = [] := quiet
    exact .inr ⟨_, eq ▸ stages_await begun .announce _ after⟩
  | breaks _ _ _ eq => exact .inl (eq ▸ quiet)

/-- Opening a run does nothing to the outside. -/
theorem Begins.beside (h : Begins c d) : Beside c d := by
  cases h with
  | begins ticket _ _ _ eq => exact eq ▸ (beside_begin ticket c).await _
  | breaks ticket f _ eq =>
    exact eq ▸ Does.after (beside_begin ticket c) (beside_breakOff _ _ f _)

theorem beside_conclude (run : Run) (c : Core) : Beside c (c.conclude run) :=
  .of_note (.ended run.generation run.outcome) rfl rfl id

/-- Neither does what follows the end of a run. -/
theorem Ends.beside (h : Ends run fault c d) : Beside c d := by
  cases h with
  | breaks f => exact beside_breakOff run.generation run.outcome f c
  | rests => exact (beside_conclude run c).after (.of_state rfl rfl rfl)
  | follows _ _ _ begins =>
    have taken : Beside (c.conclude run) { c.conclude run with pending := none } :=
      .of_state rfl rfl rfl
    exact ((beside_conclude run c).after taken).after begins.beside

/-- The end is noted first. -/
theorem Ends.noted (h : Ends run fault c d) :
    ∃ m, m.IsEnd run.generation run.outcome ∧ m :: c.history <:+ d.history := by
  cases h with
  | breaks f => exact ⟨_, .broke f, List.suffix_refl _⟩
  | rests => exact ⟨_, .ended, List.suffix_refl _⟩
  | follows _ _ _ begins => exact ⟨_, .ended, begins.beside.later⟩

end Core

/-- **Starts and stops tell whether a session is alive**, and every move only adds to the course. -/
theorem Paced.living {s t : Session Action} (h : Paced s t) :
    s.history <:+ t.history ∧ (s.core.Living → t.core.Living) := by
  cases h with
  | beside _ beside => exact ⟨beside.later, beside.living⟩
  | enters c _ _ _ beside begins =>
    have all := beside.after begins.beside
    exact ⟨all.later, all.living⟩
  | strides u v stage next run run' after front popped step eq =>
    have taken : Beside s.core u.core := popped ▸ .of_state rfl rfl rfl
    have waits : Beside v.core t.core := eq ▸ (Does.refl v.core).await _
    obtain ⟨later, living⟩ := Session.living_stepRun u stage run
    rw [step] at later living
    exact ⟨(taken.later.trans later).trans waits.later,
      fun h => waits.living (living (taken.living h))⟩
  | halts u v stage run run' fault after front popped step ends =>
    have taken : Beside s.core u.core := popped ▸ .of_state rfl rfl rfl
    have ended := ends.beside
    obtain ⟨later, living⟩ := Session.living_stepRun u stage run
    rw [step] at later living
    exact ⟨(taken.later.trans later).trans ended.later,
      fun h => ended.living (living (taken.living h))⟩

namespace Session

variable {s : Session Action}

/-- Every move is one of these. -/
theorem paced_move (s : Session Action) (m : Move) : Paced s (s.move m) :=
  paced_of_turn (turn_any s m)

/-- What holds at first and is kept by every turn holds after all moves. Before each of them what is
shown belongs together, and starts and stops tell whether the session is alive. -/
theorem turn_induction (I : Session Action → Prop) {ms : List Move} (sound : s.core.Sound)
    (living : s.core.Living) (first : I s)
    (step : ∀ t u, t.core.Sound → t.core.Living → Turn (fun _ => True) t u → I t → I u) :
    I (s.moves ms) := by
  refine (moves_induction (fun t => t.core.Sound ∧ t.core.Living ∧ I t)
    ⟨sound, living, first⟩ ?_).2.2
  rintro m - t ⟨sound, living, holds⟩
  have turn := turn_any t m
  exact ⟨sound_of_turn sound turn, (paced_of_turn turn).living.2 living,
    step t (t.move m) sound living turn holds⟩

/-- What was noted stays noted. -/
theorem later_moves (s : Session Action) (ms : List Move) : s.history <:+ (s.moves ms).history :=
  moves_induction (fun t => s.history <:+ t.history) (List.suffix_refl _) fun m _ t later =>
    later.trans (paced_move t m).living.1

theorem living_moves (o : Opening) (ms : List Move) : (o.session.moves ms).core.Living :=
  moves_induction (fun s => s.core.Living) rfl fun m _ s living => (paced_move s m).living.2 living

end Session

end Playground
