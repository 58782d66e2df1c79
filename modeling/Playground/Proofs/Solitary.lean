import Playground.Proofs.Origins
import Playground.Proofs.Stances

/-!
# A compile that nobody disturbs

The timer of an idle session comes due, and nobody acts any more: the coroutine that it starts is
the only job of the session from then on. In every tick it makes one step, and after a few ticks the
session is idle again and has compiled its text once.

* `Session.Lone`, `tick_lone` — a session with one job, and what it does in a tick.
* `Compiled` — what was compiled.
* `Phase` — how far the compile has come, and how many ticks it takes at most from there.
* `phase_tick`, `phase_settle` — a tick leads on, and the session comes to rest.
-/

namespace Playground

open Playground.Clock

namespace Session

variable {s t v : Session Action}

/-! ### One job -/

/-- The session has the job, and nothing else to do. -/
structure Lone (j : Job) (s : Session Action) : Prop where
  batch : s.loop.batch = []
  queue : s.loop.queue = [.job j]
  timers : s.loop.timers = []

def bare (s : Session Action) : Session Action := { s with loop := { s.loop with queue := [] } }

/-- The session has nothing to do. -/
structure Blank (s : Session Action) : Prop where
  batch : s.loop.batch = []
  queue : s.loop.queue = []
  timers : s.loop.timers = []

theorem Lone.bare {j : Job} (h : s.Lone j) : s.bare.Blank := ⟨h.batch, rfl, h.timers⟩

theorem Blank.enqueue (h : s.Blank) (j : Job) : (s.enqueue j).Lone j :=
  ⟨h.batch, congrArg (fun es => es ++ [Entry.job j]) h.queue, h.timers⟩

theorem Blank.of_loop (h : s.Blank) (same : t.loop = s.loop) : t.Blank :=
  ⟨same ▸ h.batch, same ▸ h.queue, same ▸ h.timers⟩

/-- A tick does the job. -/
theorem tick_lone {j : Job} (h : s.Lone j) : machine.tick s = runJob Session.react j s.bare := by
  have opened : s.loop.openTick =
      { s.loop with batch := [.job j], queue := [], timers := [] } := by
    unfold Loop.openTick
    rw [h.batch, h.queue, h.timers]
    rfl
  have bare : s.bare = { s with
      loop := { s.loop with batch := [], queue := [], timers := [] } } := by
    show ({ s with loop := ⟨s.loop.now, s.loop.batch, [], s.loop.timers, s.loop.nextTimer⟩ } :
      Session Action) = _
    rw [h.batch, h.timers]
  show machine.drain { s with loop := s.loop.openTick } = _
  rw [opened, bare]
  rfl

theorem Lone.unsettled {j : Job} (h : s.Lone j) : s.loop.isSettled = false := by
  simp [Loop.isSettled, h.queue]

theorem Blank.settled (h : s.Blank) : s.loop.isSettled = true := by
  simp [Loop.isSettled, h.batch, h.queue, h.timers]

/-! ### The end of the timer's coroutine -/

/-- The session after the end of the coroutine of a task. -/
def conclude (m : Milestone) (task : Nat) (failure : Option Fault) (s : Session Action) :
    Session Action :=
  ({ (s.mark m).modifyState fun st => { st with compiling := false } with
    timerTasks := [{ id := task, ending := some failure }] } :
      Session Action).enqueue (.forget task)

theorem close_timer {task : Nat} (tasks : s.timerTasks = [{ id := task }])
    (result : Except Fault Value) :
    s.close (.timer task) result =
      ({ s with timerTasks := [{ id := task, ending := some (failureOf result) }] } :
        Session Action).enqueue (.forget task) := by
  simp [close, tasks]

/-- A step that leads a run on puts its coroutine back into the queue. -/
theorem stepCoroutine_of_next {stage next : Stage} {run run' : Run} {u : Session Action}
    (step : s.stepRun Session.react stage run = (u, .next next run')) (owner : Owner)
    (after : After) :
    s.stepCoroutine Session.react owner (.staging stage run after) =
      u.enqueue (.resume owner (.staging next run' after)) := by
  have resumed : s.resume Session.react (.staging stage run after) =
      (u, .waits (.staging next run' after)) := by
    show s.resumeStage Session.react stage run after = _
    unfold resumeStage
    rw [step]
  unfold stepCoroutine
  rw [resumed]

/-- A step that ends a run ends its coroutine too, since no request waits. -/
theorem stepCoroutine_of_over {stage : Stage} {run run' : Run} {fault : Option Fault}
    {u : Session Action} (step : s.stepRun Session.react stage run = (u, .over run' fault))
    {task : Nat} (tasks : u.timerTasks = [{ id := task }]) (pending : u.pending = none) :
    ∃ m failure, m.run? = none ∧ m.asked? = none ∧
      s.stepCoroutine Session.react (.timer task) (.staging stage run .nothing) =
        u.conclude m task failure := by
  cases fault with
  | none =>
    refine ⟨.ended run'.generation run'.outcome, none, rfl, rfl, ?_⟩
    have waits : (u.mark (.ended run'.generation run'.outcome)).pending = none := pending
    have resumed : s.resume Session.react (.staging stage run .nothing) =
        ((u.mark (.ended run'.generation run'.outcome)).modifyState fun st =>
          { st with compiling := false }, .ends (.ok .null)) := by
      show s.resumeStage Session.react stage run .nothing = _
      unfold resumeStage
      rw [step]
      simp only
      unfold nextRun
      rw [waits]
      rfl
    unfold stepCoroutine
    rw [resumed]
    exact close_timer (s := (u.mark (.ended run'.generation run'.outcome)).modifyState fun st =>
      { st with compiling := false }) tasks _
  | some f =>
    refine ⟨.broke run'.generation run'.outcome f, some f, rfl, rfl, ?_⟩
    have resumed : s.resume Session.react (.staging stage run .nothing) =
        leaveFailed run'.generation run'.outcome f u := by
      show s.resumeStage Session.react stage run .nothing = _
      unfold resumeStage
      rw [step]
    unfold stepCoroutine
    rw [resumed]
    exact close_timer (s := (u.mark (.broke run'.generation run'.outcome f)).modifyState fun st =>
      { st with compiling := false }) tasks _

/-! ### Compiling a text once -/

/-- The request for a text, with the compiler and the options of the session. -/
def requestFor (text : String) (s : Session Action) : Request :=
  ⟨text, s.state.compiler, s.state.options, false⟩

/-- Nothing is under way: no timer, no coroutine, no run, and no request that waits. -/
structure Idle (s : Session Action) : Prop where
  armed : s.armed = none
  jobs : s.loop.jobs = []
  tasks : s.timerTasks = []
  pending : s.pending = none
  compiling : s.state.compiling = false

/-- The session is idle, alive and ready. -/
structure Awake (s : Session Action) : Prop extends Idle s where
  alive : s.state.alive = true
  ready : s.state.ready = true

instance (s : Session Action) : Decidable s.Awake :=
  decidable_of_iff (s.armed = none ∧ s.loop.jobs.isEmpty = true ∧ s.timerTasks = [] ∧
      s.pending = none ∧ s.state.compiling = false ∧ s.state.alive = true ∧ s.state.ready = true)
    ⟨fun ⟨armed, jobs, tasks, pending, compiling, alive, ready⟩ =>
      ⟨⟨armed, List.isEmpty_iff.1 jobs, tasks, pending, compiling⟩, alive, ready⟩,
    fun h => ⟨h.armed, List.isEmpty_iff.2 h.jobs, h.tasks, h.pending, h.compiling, h.alive,
      h.ready⟩⟩

end Session

/-- What was compiled between two moments is the text, once. -/
structure Compiled (text : String) (s v : Session Action) : Prop where
  source : v.state.source = text
  /-- One run was begun, for the text with the compiler and the options of the session. -/
  runs : v.stance.runs =
    (⟨s.accepted, s.requestFor text⟩, s.state.generation + 1) :: s.stance.runs
  /-- Its compiler was asked at most once, -/
  asked : v.stance.asked = s.stance.asked ∨
    v.stance.asked = (s.state.generation + 1) :: s.stance.asked
  /-- with the text, -/
  calls : v.outfit.calls = s.outfit.calls ∨
    ∃ final, (s.requestFor text).finalize s.probe = .ok final ∧
      v.outfit.calls = (s.state.compiler, text, final.options) :: s.outfit.calls
  /-- and it was asked if it was there, the request could be finalized and no listener broke the
  announcement off. The text is noted that compilers get that are known by their answers. -/
  complete : s.offers s.state.compiler →
    ∀ final, (s.requestFor text).finalize s.probe = .ok final → v.core.cuts ≤ s.core.cuts →
      v.stance.asked = (s.state.generation + 1) :: s.stance.asked ∧
        (s.stance.scripted s.state.compiler = some true →
          v.outfit.calls = (s.state.compiler, text, final.options) :: s.outfit.calls)

/-- Only the text, the course and the compile calls matter. -/
theorem Compiled.of_eq {text : String} {s v u : Session Action} (h : Compiled text s v)
    (source : u.state.source = v.state.source) (runs : u.stance.runs = v.stance.runs)
    (asked : u.stance.asked = v.stance.asked) (calls : u.outfit.calls = v.outfit.calls)
    (cuts : v.core.cuts ≤ u.core.cuts) : Compiled text s u where
  source := source.trans h.source
  runs := runs.trans h.runs
  asked := by
    rw [asked]
    exact h.asked
  calls := by
    rw [calls]
    exact h.calls
  complete there final finalized uncut := by
    obtain ⟨answered, called⟩ := h.complete there final finalized (Nat.le_trans cuts uncut)
    exact ⟨asked.trans answered, fun scripted => calls.trans (called scripted)⟩

/-- How far the compile of a text has come that the timer called for in an idle session, and how
many ticks it takes at most from there. -/
inductive Phase (text : String) (s : Session Action) : Nat → Session Action → Prop where
  /-- The coroutine is about to begin. -/
  | called (task : Nat) (v : Session Action)
      (lone : v.Lone (.resume (.timer task) (.fresh (.compile none))))
      (stance : Stance.Holds { s.stance with tasks := [{ id := task }], source := text } v)
      (outfit : v.outfit = s.outfit)
      (passive : v.Admits Action.Passive) (cuts : s.core.cuts ≤ v.core.cuts) : Phase text s 7 v
  /-- The run was begun, and its compiler has not been asked. -/
  | early (task : Nat) (stage : Stage) (run : Run) (v : Session Action)
      (early : stage = .announce ∨ stage = .invoke)
      (lone : v.Lone (.resume (.timer task) (.staging stage run .nothing)))
      (stance : Stance.Holds { s.stance with
        tasks := [{ id := task }], source := text, accepted := s.accepted + 1, compiling := true
        generation := s.state.generation + 1
        runs := (⟨s.accepted, s.requestFor text⟩, s.state.generation + 1) :: s.stance.runs } v)
      (outfit : v.outfit = s.outfit)
      (passive : v.Admits Action.Passive)
      (number : run.generation = s.state.generation + 1)
      (final : (s.requestFor text).finalize s.probe = .ok run.request)
    (cuts : s.core.cuts ≤ v.core.cuts) :
      Phase text s (Session.stagesLeft stage + 1) v
  /-- The compiler was asked, if it was there and its run was announced. -/
  | late (task : Nat) (stage : Stage) (run : Run) (v : Session Action)
      (late : Session.stagesLeft stage < Session.stagesLeft .invoke)
      (lone : v.Lone (.resume (.timer task) (.staging stage run .nothing)))
      (armed : v.armed = none) (tasks : v.timerTasks = [{ id := task }])
      (pending : v.pending = none) (compiled : Compiled text s v)
      (passive : v.Admits Action.Passive) :
      Phase text s (Session.stagesLeft stage + 1) v
  /-- The coroutine has ended. -/
  | ended (task : Nat) (ending : Option (Option Fault)) (v : Session Action)
      (lone : v.Lone (.forget task)) (armed : v.armed = none)
      (tasks : v.timerTasks = [{ id := task, ending := ending }]) (compiled : Compiled text s v) :
      Phase text s 1 v
  | rests (v : Session Action) (blank : v.Blank) (armed : v.armed = none)
      (tasks : v.timerTasks = []) (compiled : Compiled text s v) : Phase text s 0 v

namespace Session

variable {s v u : Session Action} {text : String} {task : Nat} {stage : Stage} {run : Run}

/-! ### Ticks -/

/-- Whatever a step of a run does, it leaves the rest to those who act. -/
structure Untouched (s t : Session Action) : Prop where
  loop : t.loop = s.loop
  armed : t.armed = s.armed
  tasks : t.timerTasks = s.timerTasks
  pending : t.pending = s.pending
  runs : t.stance.runs = s.stance.runs
  passive : t.Admits Action.Passive

theorem untouched_stepRun (passive : s.Admits Action.Passive) (stage : Stage) (run : Run) :
    Untouched s (s.stepRun Session.react stage run).1 := by
  have of_stance {c : Stance} (same : (s.stepRun Session.react stage run).1.stance = c)
      (runs : c.runs = s.stance.runs) (rest : { c with runs := [], asked := [] } =
        ({ s.stance with runs := [], asked := [] } : Stance))
      (passive : (s.stepRun Session.react stage run).1.Admits Action.Passive) :
      Untouched s (s.stepRun Session.react stage run).1 := by
    subst same
    exact ⟨congrArg Stance.loop rest, congrArg Stance.armed rest, congrArg Stance.tasks rest,
      congrArg Stance.pending rest, runs, passive⟩
  rcases still_stepRun passive stage run with ⟨still, -⟩ | ⟨-, produced, still⟩
  · exact of_stance still.stance rfl rfl (still.passive passive)
  · refine of_stance (still.stance.trans (stance_mark s _)) rfl rfl (still.passive ?_)
    exact passive.of_eq rfl rfl

theorem outfit_stepRun (stage : Stage) (run : Run) (s : Session Action) :
    (s.stepRun Session.react stage run).1.outfit =
      match s.asksAt? (.staging stage run .nothing) with
      | some run => s.noting run s.outfit
      | none => s.outfit :=
  (outfit_bookings (bookings_resumeStage stage run .nothing s)).symm.trans
    (outfit_resumeStage stage run .nothing s)

theorem phase_conclude (blank : u.Blank) (armed : u.armed = none) (compiled : Compiled text s u)
    {m : Milestone} (unrun : m.run? = none) (unasked : m.asked? = none) (failure : Option Fault) :
    Phase text s 1 (u.conclude m task failure) := by
  have marked := stance_mark u m
  rw [unrun, unasked] at marked
  have queue : (u.conclude m task failure).loop.queue = [.job (.forget task)] :=
    congrArg (fun es => es ++ [Entry.job (Job.forget task)]) blank.queue
  have runs : (u.mark m).stance.runs = u.stance.runs := (congrArg Stance.runs marked).trans rfl
  have asked : (u.mark m).stance.asked = u.stance.asked := (congrArg Stance.asked marked).trans rfl
  exact .ended task (some failure) _ ⟨blank.batch, queue, blank.timers⟩ armed rfl
    (compiled.of_eq rfl runs asked rfl (Core.cuts_le (List.suffix_cons m u.history)))

/-- A step that ends the run ends the coroutine. -/
theorem phase_over {run' : Run} {fault : Option Fault} (blank : v.Blank) (armed : v.armed = none)
    (tasks : v.timerTasks = [{ id := task }]) (pending : v.pending = none)
    (passive : v.Admits Action.Passive)
    (step : v.stepRun Session.react stage run = (u, .over run' fault))
    (compiled : Compiled text s u) :
    Phase text s 1 (v.stepCoroutine Session.react (.timer task) (.staging stage run .nothing)) := by
  have untouched := untouched_stepRun passive stage run
  rw [step] at untouched
  obtain ⟨m, failure, unrun, unasked, eq⟩ := stepCoroutine_of_over step
    (untouched.tasks.trans tasks) (untouched.pending.trans pending)
  rw [eq]
  exact phase_conclude (blank.of_loop untouched.loop) (untouched.armed.trans armed) compiled unrun
    unasked failure

/-- A step after which the compiler was asked, if it was there, leads the run on or ends it. -/
theorem phase_stepCoroutine (blank : v.Blank) (armed : v.armed = none)
    (tasks : v.timerTasks = [{ id := task }]) (pending : v.pending = none)
    (passive : v.Admits Action.Passive) (later : stagesLeft stage ≤ stagesLeft .invoke)
    (compiled : Compiled text s (v.stepRun Session.react stage run).1) :
    ∃ n ≤ stagesLeft stage, Phase text s n
      (v.stepCoroutine Session.react (.timer task) (.staging stage run .nothing)) := by
  have untouched := untouched_stepRun passive stage run
  have stepped := stepped_stepRun reacts_react v stage run
  rcases step : v.stepRun Session.react stage run with ⟨u, ⟨next, run'⟩ | ⟨run', fault⟩⟩ <;>
    rw [step] at untouched compiled stepped
  · have advances : stagesLeft next < stagesLeft stage := by
      cases stepped with
      | announced _ _ first =>
        subst first
        exact absurd later (by decide)
      | onward _ _ _ _ advances => exact advances
    rw [stepCoroutine_of_next step]
    refine ⟨stagesLeft next + 1, advances, .late task next run' _
      (Nat.lt_of_lt_of_le advances later) ((blank.of_loop untouched.loop).enqueue _)
      (untouched.armed.trans armed) (untouched.tasks.trans tasks)
      (untouched.pending.trans pending) (compiled.of_eq rfl rfl rfl rfl (Nat.le_refl _))
      (untouched.passive.of_eq rfl rfl)⟩
  · have positive : 1 ≤ stagesLeft stage := by cases stage <;> decide
    exact ⟨1, positive, phase_over blank armed tasks pending passive step compiled⟩

/-- The step that invokes a compiler notes what the compiler gets that is known by its answers. -/
theorem calls_invoke (run : Run) (v : Session Action) :
    let calls := (v.stepRun Session.react .invoke run).1.outfit.calls
    let call := (run.request.compiler, run.request.source, run.request.options)
    (calls = v.outfit.calls ∨ calls = call :: v.outfit.calls) ∧
      (v.state.alive = true → v.offers run.request.compiler →
        v.stance.scripted run.request.compiler = some true → calls = call :: v.outfit.calls) := by
  intro calls call
  have noted := congrArg Outfit.calls (outfit_stepRun .invoke run v)
  rw [show calls = _ from noted]
  unfold asksAt?
  simp only
  by_cases there : (v.state.alive && (v.loaded? run.request.compiler).isSome &&
      (v.compiler? run.request.compiler).isSome) = true
  · rw [if_pos there]
    simp only
    cases known : v.compiler? run.request.compiler with
    | none => simp [known] at there
    | some c =>
      cases c with
      | scripted script =>
        have same : v.noting run v.outfit = v.outfit.call call := by
          unfold noting
          rw [known]
        rw [same]
        exact ⟨.inr rfl, fun _ _ _ => rfl⟩
      | bytecode i =>
        have same : v.noting run v.outfit = v.outfit := by
          unfold noting
          rw [known]
        rw [same]
        refine ⟨.inl rfl, fun _ _ scripted => ?_⟩
        have kind : some false = some true := by
          rw [← scripted]
          show _ = (v.compiler? run.request.compiler).map Compiler.isScripted
          rw [known]
          rfl
        cases kind
  · rw [if_neg there]
    refine ⟨.inl rfl, fun alive offered _ => absurd ?_ there⟩
    rw [alive, offered.1, offered.2]
    rfl

/-- After the step that asks the compiler, if it is there, the text was compiled. -/
theorem compiled_invoke (alive : v.state.alive = true) (source : v.state.source = text)
    (runs : v.stance.runs =
      (⟨s.accepted, s.requestFor text⟩, s.state.generation + 1) :: s.stance.runs)
    (asked : v.stance.asked = s.stance.asked) (scripted : v.stance.scripted = s.stance.scripted)
    (outfit : v.outfit = s.outfit) (passive : v.Admits Action.Passive)
    (number : run.generation = s.state.generation + 1)
    (final : (s.requestFor text).finalize s.probe = .ok run.request) :
    Compiled text s (v.stepRun Session.react .invoke run).1 := by
  have upgraded := Request.upgraded_finalize rfl final
  have compiler : run.request.compiler = s.state.compiler := upgraded.compiler
  have request : run.request.source = text := upgraded.source
  obtain ⟨calls, called⟩ := calls_invoke run v
  rw [outfit, scripted, compiler, request] at called
  rw [outfit, compiler, request] at calls
  have sole (final' : Request) (ok : (s.requestFor text).finalize s.probe = .ok final') :
      final' = run.request := Except.ok.inj (ok.symm.trans final)
  have offered (there : s.offers s.state.compiler) : v.offers s.state.compiler := by
    have loaded :=
      congrArg Option.isSome (congrFun (congrArg Outfit.loaded outfit) s.state.compiler)
    rw [isSome_loaded, isSome_loaded] at loaded
    have known := congrArg Option.isSome (congrFun scripted s.state.compiler)
    exact ⟨loaded.trans there.1, (Option.isSome_map ..).symm.trans
      (known.trans ((Option.isSome_map ..).trans there.2))⟩
  have calls : (v.stepRun Session.react .invoke run).1.outfit.calls = s.outfit.calls ∨
      ∃ final, (s.requestFor text).finalize s.probe = .ok final ∧
        (v.stepRun Session.react .invoke run).1.outfit.calls =
          (s.state.compiler, text, final.options) :: s.outfit.calls :=
    calls.imp id fun call => ⟨run.request, final, call⟩
  -- a compiler that was not asked was not there
  rcases still_stepRun passive .invoke run with ⟨still, why⟩ | ⟨-, produced, still⟩
  · refine ⟨(congrArg Stance.source still.stance).trans source,
      (congrArg Stance.runs still.stance).trans runs,
      .inl ((congrArg Stance.asked still.stance).trans asked), calls, fun there => ?_⟩
    exact absurd (compiler.symm ▸ offered there) (why rfl alive)
  · have noted := still.stance.trans (stance_mark v _)
    have answered : (v.stepRun Session.react .invoke run).1.stance.asked =
        (s.state.generation + 1) :: s.stance.asked := by
      refine (congrArg Stance.asked noted).trans ?_
      rw [← number, ← asked]
      rfl
    refine ⟨(congrArg Stance.source noted).trans source,
      ((congrArg Stance.runs noted).trans rfl).trans runs, .inr answered, calls,
      fun there final' ok _ => ⟨answered, fun scripted => ?_⟩⟩
    rw [sole final' ok]
    exact called alive (offered there) scripted

/-- An announcement that ends the run was broken off. -/
theorem cuts_lt_of_ended {run run' : Run} {f : Face → Face} {messages : List String}
    {outcome : Option Outcome} {fault : Option Fault} {closing : Closing}
    (alive : v.state.alive = true) (ending : Ending .announce run v u f messages outcome fault)
    (alters : Core.Alters (Face.close run' closing ∘ f) messages v.core u.core) :
    v.core.cuts < u.core.cuts := by
  obtain ⟨why, g, -, reporting, rfl⟩ := ending.of_announce alive
  let broken := Face.note (.cutOff compileStarted why) (Face.announce run v.core.face)
  have raised : broken.course <:+ (Face.raise .announce why broken).course := List.suffix_cons _ _
  have later : broken.course <:+ u.core.face.course := by
    rw [alters.face]
    exact raised.trans ((reporting.course _).trans (Face.course_close run' closing _))
  exact Core.cuts_lt rfl (List.suffix_cons _ _) later

/-- The announcement of a run leads to its compiler, unless a listener breaks it off. -/
theorem stepRun_announce (alive : v.state.alive = true) (run : Run) :
    (∃ run', (v.stepRun Session.react .announce run).2 = .next .invoke run' ∧
      run'.generation = run.generation ∧ run'.request = run.request) ∨
      v.core.cuts < (v.stepRun Session.react .announce run).1.core.cuts ∧
        ∃ run' fault, (v.stepRun Session.react .announce run).2 = .over run' fault := by
  have stepped := stepped_stepRun reacts_react v .announce run
  rcases step : v.stepRun Session.react .announce run with ⟨u, x⟩
  rw [step] at stepped
  cases stepped with
  | announced _ run' _ _ _ _ alike => exact .inl ⟨run', rfl, alike.generation, alike.request⟩
  | onward _ _ _ later => exact absurd rfl later
  | ended _ run' _ _ fault closing ending alters =>
    exact .inr ⟨cuts_lt_of_ended alive ending alters, run', closing.fault.or fault, rfl⟩

theorem Lone.tick_resume {owner : Owner} {at_ : Waiting} (h : v.Lone (.resume owner at_)) :
    machine.tick v = v.bare.stepCoroutine Session.react owner at_ := tick_lone h

/-- A step that does not invoke the compiler leaves stance and outfit as they are. -/
theorem quiet_stepRun (passive : v.Admits Action.Passive) (other : stage ≠ .invoke) (run : Run) :
    Still v (v.stepRun Session.react stage run).1 ∧
      (v.stepRun Session.react stage run).1.outfit = v.outfit := by
  have unasked : v.asksAt? (.staging stage run .nothing) = none := by
    unfold asksAt?
    split
    next run' _ eq =>
      cases eq
      exact absurd rfl other
    · rfl
  refine ⟨?_, by rw [outfit_stepRun, unasked]⟩
  rcases still_stepRun passive stage run with ⟨still, -⟩ | ⟨invoke, -⟩
  · exact still
  · exact absurd invoke other

/-- A run that is announced is on its way to its compiler; the compiler is asked if it is there. -/
theorem phase_early (awake : s.Awake) (early : stage = .announce ∨ stage = .invoke)
    (lone : v.Lone (.resume (.timer task) (.staging stage run .nothing)))
    (stance : Stance.Holds { s.stance with
      tasks := [{ id := task }], source := text, accepted := s.accepted + 1, compiling := true
      generation := s.state.generation + 1
      runs := (⟨s.accepted, s.requestFor text⟩, s.state.generation + 1) :: s.stance.runs } v)
    (outfit : v.outfit = s.outfit)
    (passive : v.bare.Admits Action.Passive) (number : run.generation = s.state.generation + 1)
    (final : (s.requestFor text).finalize s.probe = .ok run.request)
    (cuts : s.core.cuts ≤ v.core.cuts) :
    ∃ m ≤ stagesLeft stage, Phase text s m
      (v.bare.stepCoroutine Session.react (.timer task) (.staging stage run .nothing)) := by
  have alive : v.bare.state.alive = true := (congrArg Stance.alive stance).trans awake.alive
  have armed : v.bare.armed = none := (congrArg Stance.armed stance).trans awake.armed
  have pending : v.bare.pending = none := (congrArg Stance.pending stance).trans awake.pending
  have asked : v.bare.stance.asked = s.stance.asked := (congrArg Stance.asked stance).trans rfl
  rcases early with rfl | rfl
  · have other : Stage.announce ≠ .invoke := by decide
    obtain ⟨still, kept⟩ := quiet_stepRun passive other run
    rcases stepRun_announce alive run with
      ⟨run', next, generation, request⟩ | ⟨cut, run', fault, ended⟩
    · have same := congrArg (fun c : Stance => { c with loop := v.loop }) still.stance
      rw [stepCoroutine_of_next (Prod.ext rfl next)]
      exact ⟨stagesLeft .invoke + 1, by decide, .early task .invoke run' _ (.inr rfl)
        ((lone.bare.of_loop (congrArg Stance.loop still.stance)).enqueue _) (stance.of_stance same)
        (kept.trans outfit) ((still.passive passive).of_eq rfl rfl) (generation.trans number)
        (request ▸ final) (Nat.le_trans cuts still.cuts)⟩
    · -- nobody is asked then, and the break is counted
      have compiled : Compiled text s (v.bare.stepRun Session.react .announce run).1 :=
        ⟨(congrArg Stance.source still.stance).trans (congrArg Stance.source stance),
          (congrArg Stance.runs still.stance).trans (congrArg Stance.runs stance),
          .inl ((congrArg Stance.asked still.stance).trans asked),
          .inl (congrArg Outfit.calls (kept.trans outfit)),
          fun _ _ _ uncut => absurd (Nat.le_trans uncut cuts) (Nat.not_le.2 cut)⟩
      exact ⟨1, by decide, phase_over lone.bare armed (congrArg Stance.tasks stance) pending passive
        (Prod.ext rfl ended) compiled⟩
  · have scripted : v.bare.stance.scripted = s.stance.scripted :=
      (congrArg Stance.scripted stance).trans rfl
    have compiled : Compiled text s (v.bare.stepRun Session.react .invoke run).1 :=
      compiled_invoke alive (congrArg Stance.source stance) (congrArg Stance.runs stance) asked
        scripted outfit passive number final
    exact phase_stepCoroutine lone.bare armed (congrArg Stance.tasks stance) pending passive
      (Nat.le_refl _) compiled

/-- The coroutine of the timer begins a run for the present text. -/
theorem phase_called (awake : s.Awake)
    (lone : v.Lone (.resume (.timer task) (.fresh (.compile none))))
    (stance : Stance.Holds { s.stance with tasks := [{ id := task }], source := text } v)
    (outfit : v.outfit = s.outfit)
    (passive : v.bare.Admits Action.Passive) (cuts : s.core.cuts ≤ v.core.cuts) :
    ∃ m ≤ 6, Phase text s m
      (v.bare.stepCoroutine Session.react (.timer task) (.fresh (.compile none))) := by
  have alive : v.bare.state.alive = true := (congrArg Stance.alive stance).trans awake.alive
  have ready : v.bare.state.ready = true := (congrArg Outfit.ready outfit).trans awake.ready
  have idle : v.bare.state.compiling = false :=
    (congrArg Stance.compiling stance).trans awake.compiling
  have request : v.bare.buildRequest = s.requestFor text := by
    have source : v.state.source = text := congrArg Stance.source stance
    have compiler : v.state.compiler = s.state.compiler := congrArg Outfit.compiler outfit
    have options : v.state.options = s.state.options := congrArg Outfit.options outfit
    show (⟨v.state.source, v.state.compiler, v.state.options, false⟩ : Request) = _
    rw [source, compiler, options]
    rfl
  have accepted : v.bare.accepted = s.accepted := congrArg Stance.accepted stance
  have generation : v.bare.state.generation = s.state.generation :=
    congrArg Stance.generation stance
  have probe : v.bare.probe = s.probe := congrArg Stance.probe stance
  have unarmed : v.bare.armed = none := (congrArg Stance.armed stance).trans awake.armed
  have runs : v.bare.stance.runs = s.stance.runs := (congrArg Stance.runs stance).trans rfl
  have asked : v.bare.stance.asked = s.stance.asked := (congrArg Stance.asked stance).trans rfl
  have entered := stance_enterCompile alive ready idle .nothing
  rw [request, accepted, generation, probe, runs] at entered
  have kept : (v.bare.enterCompile none .nothing).1.outfit = s.outfit :=
    (outfit_enterCompile none .nothing v.bare).trans outfit
  have bookings := bookings_enterCompile none .nothing v.bare
  have unbooked := unbooked_of_bookings bookings
  have grown : v.bare.core.cuts ≤ (v.bare.enterCompile none .nothing).1.core.cuts :=
    Core.cuts_le (later_bookings bookings)
  unfold stepCoroutine
  rw [show v.bare.resume Session.react (.fresh (.compile none)) =
    v.bare.enterCompile none .nothing from rfl]
  clear bookings
  generalize v.bare.enterCompile none .nothing = r at entered kept unbooked grown
  obtain ⟨u, next⟩ := r
  rcases entered with ⟨f, finalized, rfl, begun⟩ | ⟨final, finalized, rfl, begun⟩
  · have tasks : u.timerTasks = [{ id := task }] :=
      (congrArg Stance.tasks begun).trans (congrArg Stance.tasks stance)
    have armed : u.armed = none := (congrArg Stance.armed begun).trans unarmed
    have compiled : Compiled text s u :=
      ⟨(congrArg Stance.source begun).trans (congrArg Stance.source stance),
        congrArg Stance.runs begun, .inl (((congrArg Stance.asked begun).trans rfl).trans asked),
        .inl (congrArg Outfit.calls kept), fun _ final ok _ => by cases finalized.symm.trans ok⟩
    have blank : u.Blank := lone.bare.of_loop (congrArg Stance.loop begun)
    refine ⟨1, by decide, ?_⟩
    show Phase text s 1 (u.close (.timer task) (.error f))
    rw [close_timer tasks]
    have ended : Blank ({ u with
        timerTasks := [{ id := task, ending := some (some f) }] } : Session Action) :=
      blank.of_loop rfl
    exact .ended task (some (some f)) _ (ended.enqueue _) armed rfl
      (compiled.of_eq rfl rfl rfl rfl (Nat.le_refl _))
  · have blank : u.Blank := lone.bare.of_loop (congrArg Stance.loop begun)
    refine ⟨stagesLeft .announce + 1, by decide, ?_⟩
    show Phase text s _ (u.enqueue _)
    refine .early task .announce { request := final, generation := s.state.generation + 1 } _
      (.inl rfl) (blank.enqueue _) ?_ kept ((passive.unbooked unbooked).of_eq rfl rfl) rfl finalized
      (Nat.le_trans cuts grown)
    have last : u.state.lastTextInput = v.state.lastTextInput :=
      congrArg Stance.lastTextInput begun
    have held := congrArg (fun c : Stance => { c with
      loop := (u.enqueue (.resume (.timer task) (.staging .announce
        { request := final, generation := s.state.generation + 1 } .nothing))).loop
      accepted := s.accepted + 1, compiling := true, generation := s.state.generation + 1
      runs := (⟨s.accepted, s.requestFor text⟩, s.state.generation + 1) :: s.stance.runs }) stance
    rw [← last] at held
    show ({ u.stance with loop := _ } : Stance) = _
    rw [begun]
    exact held

/-- **A tick leads the compile on.** -/
theorem phase_tick (awake : s.Awake) {n : Nat} (h : Phase text s (n + 1) v) :
    ∃ m ≤ n, Phase text s m (machine.tick v) := by
  generalize left : n + 1 = l at h
  cases h with
  | rests => cases left
  | ended task ending v lone armed tasks compiled =>
    refine ⟨0, Nat.zero_le n, ?_⟩
    rw [tick_lone lone]
    refine .rests _ (lone.bare.of_loop rfl) armed ?_
      (compiled.of_eq rfl rfl rfl rfl (Nat.le_refl _))
    show v.timerTasks.filter _ = []
    rw [tasks]
    simp
  | late task stage run v late lone armed tasks pending compiled passive =>
    obtain rfl : n = stagesLeft stage := Nat.succ.inj left
    have passive : v.bare.Admits Action.Passive := passive.of_eq rfl rfl
    have other : stage ≠ .invoke := by
      rintro rfl
      exact absurd late (Nat.lt_irrefl _)
    obtain ⟨still, outfit⟩ := quiet_stepRun passive other run
    have bare : Compiled text s v.bare := compiled.of_eq rfl rfl rfl rfl (Nat.le_refl _)
    have same : Compiled text s (v.bare.stepRun Session.react stage run).1 :=
      bare.of_eq (congrArg Stance.source still.stance) (congrArg Stance.runs still.stance)
        (congrArg Stance.asked still.stance) (congrArg Outfit.calls outfit) still.cuts
    rw [lone.tick_resume]
    exact phase_stepCoroutine lone.bare armed tasks pending passive (Nat.le_of_lt late) same
  | early task stage run v early lone stance outfit passive number final cuts =>
    obtain rfl : n = stagesLeft stage := Nat.succ.inj left
    rw [lone.tick_resume]
    exact phase_early awake early lone stance outfit (passive.of_eq rfl rfl) number final cuts
  | called task v lone stance outfit passive cuts =>
    obtain rfl : n = 6 := Nat.succ.inj left
    rw [lone.tick_resume]
    exact phase_called awake lone stance outfit (passive.of_eq rfl rfl) cuts

/-- While ticks are left, there is a job to do. -/
theorem unsettled_of_phase {n : Nat} (h : Phase text s (n + 1) v) : v.loop.isSettled = false := by
  generalize left : n + 1 = l at h
  cases h with
  | called _ _ lone => exact lone.unsettled
  | early _ _ _ _ _ lone => exact lone.unsettled
  | late _ _ _ _ _ lone => exact lone.unsettled
  | ended _ _ _ lone => exact lone.unsettled
  | rests => cases left

theorem blank_of_phase (h : Phase text s 0 v) : v.Blank ∧ v.armed = none ∧ Compiled text s v := by
  generalize left : 0 = l at h
  cases h with
  | rests _ blank armed _ compiled => exact ⟨blank, armed, compiled⟩
  | _ => cases left

/-- **The session comes to rest and has compiled the text.** -/
theorem phase_settle (awake : s.Awake) {fuel n : Nat} (enough : n ≤ fuel) (h : Phase text s n v) :
    Phase text s 0 (machine.settle fuel v) := by
  -- each tick takes one of the fuel and at least one of the ticks that are left
  induction fuel generalizing n v with
  | zero =>
    obtain rfl := Nat.le_zero.1 enough
    exact h
  | succ fuel ih =>
    show Phase text s 0 (if v.loop.isSettled then v else machine.settle fuel (machine.tick v))
    cases n with
    | zero =>
      rw [if_pos (blank_of_phase h).1.settled]
      exact h
    | succ n =>
      rw [if_neg (by simp [unsettled_of_phase h])]
      obtain ⟨m, le, led⟩ := phase_tick awake h
      exact ih (Nat.le_trans le (Nat.le_of_succ_le_succ enough)) led

/-- While time passes, a session that has nothing to do stays as it is. -/
theorem Blank.advanceTo (h : v.Blank) (fuel rounds : Nat) (target : Int) :
    machine.advanceTo fuel target rounds v = machine.setTime v target := by
  have still : machine.settle fuel v = v := by
    cases fuel with
    | zero => rfl
    | succ fuel => exact if_pos h.settled
  cases rounds with
  | zero => exact congrArg (fun u => machine.setTime u target) still
  | succ rounds =>
    unfold Machine.advanceTo
    simp only [still]
    rw [show (machine.loop v).timers = [] from h.timers]

end Session

end Playground
