import Playground.Proofs.Entries

/-!
# Callers

Somebody who calls a session and waits for the end of the call has a coroutine in the queue, in his
own name. Compilers, listeners, the timer and everybody else start coroutines in other names; none
of them ever puts a job into the queue for the caller, or an answer into his hands.

* `Visit`, `Session.visit` — what concerns the caller of a session.
* `visit_nudge`, `visit_work`, `visit_lead`, `visit_resume` — whatever a coroutine does before it
  is put back into the queue, or ends, leaves the caller as he is.
* `Session.Receives` — where the caller stands; no wait for the timer's tasks is his.
* `receives_step_of_other`, `step_of_callerNext` — a callback of somebody else, and one of the
  caller's.
-/

namespace Playground

open Playground.Clock

def Job.visit? : Job → Option Waiting
  | .resume .caller at_ => some at_
  | _ => none

/-- What concerns the caller of a session: where his coroutine goes on, how it ended, the waits for
the tasks of the timer, and how texts are judged. -/
structure Visit where
  waits : List Waiting
  completed : Option (Except Fault Value)
  gatherings : List Gathering
  probe : Probe

namespace Session

def visit (s : Session Action) : Visit :=
  { waits := s.loop.jobs.filterMap Job.visit?, completed := s.completed
    gatherings := s.gatherings, probe := s.probe }

variable {P : Action → Prop} {s t : Session Action}

/-! ### Small changes -/

/-- A change of the loop that leaves the jobs as they are. -/
theorem visit_of_jobs (jobs : t.loop.jobs = s.loop.jobs)
    (completed : t.completed = s.completed := by rfl)
    (gatherings : t.gatherings = s.gatherings := by rfl) (probe : t.probe = s.probe := by rfl) :
    t.visit = s.visit := by
  unfold visit
  rw [jobs, completed, gatherings, probe]

theorem visit_enqueue (s : Session Action) (j : Job) :
    (s.enqueue j).visit = { s.visit with waits := s.visit.waits ++ j.visit?.toList } := by
  have jobs : (s.enqueue j).loop.jobs = s.loop.jobs ++ [j] := Loop.jobs_enqueue s.loop j
  unfold visit
  rw [jobs, List.filterMap_append, List.filterMap_cons, List.filterMap_nil]
  cases j.visit? <;> rfl

/-- A job in another name. -/
theorem visit_enqueue_of_none (s : Session Action) {j : Job} (h : j.visit? = none) :
    (s.enqueue j).visit = s.visit := by
  rw [visit_enqueue, h, Option.toList_none, List.append_nil]

theorem visit_takeReaction (s : Session Action) (event listener : String) (data : Payload) :
    (s.takeReaction event listener data).1.visit = s.visit := by
  unfold takeReaction
  split <;> rfl

theorem visit_cancelTimer (s : Session Action) : s.cancelTimer.visit = s.visit :=
  visit_of_jobs (Debounce.jobs_cancel s.armed s.loop)

theorem visit_rearm (s : Session Action) : s.rearm.1.visit = s.visit := by
  have jobs := Debounce.jobs_schedule s.armed s.loop s.settings.autoCompileDelayMs
  unfold rearm
  split <;> next hx =>
    rw [hx] at jobs
    exact visit_of_jobs jobs

theorem visit_edit (s : Session Action) (text : String) : (s.edit text).visit = s.visit := by
  unfold edit
  dsimp only
  split
  · rfl
  · split
    · exact visit_rearm _
    · rfl

theorem visit_turn (s : Session Action) (mode : CompileMode) : (s.turn mode).visit = s.visit := by
  have cleared := visit_cancelTimer s
  unfold turn
  dsimp only
  split
  · exact (visit_rearm _).trans cleared
  · exact cleared

theorem visit_stop (s : Session Action) : s.stop.visit = s.visit :=
  visit_cancelTimer (s.modifyState fun st => { st with alive := false })

/-- **Compilers and listeners leave the caller as he is**; what they start is in its own name. -/
theorem visit_nudge (h : Nudge P s t) : t.visit = s.visit := by
  cases h with
  | heed event listener data => exact visit_takeReaction s event listener data
  | edit text => exact visit_edit s text
  | turn _ mode => exact visit_turn s mode
  | disarm => exact visit_cancelTimer s
  | stop => exact visit_stop s
  | spawn call => exact visit_enqueue_of_none _ rfl
  | _ => rfl

theorem visit_nudges (h : Nudges P s t) : t.visit = s.visit := by
  induction h with
  | refl => rfl
  | tail _ step ih => exact (visit_nudge step).trans ih

theorem visit_act (a : Action) (s : Session Action) :
    (s.act Session.react a).1.visit = s.visit :=
  visit_nudges (P := fun _ => True) (nudges_act reacts_react (admits_all s) trivial)

theorem visit_work (h : Work P s t) : t.visit = s.visit := by
  cases h with
  | use use =>
    cases use with
    | nudge nudge => exact visit_nudge nudge
    | called => rfl
  | _ => rfl

theorem visit_lead (h : Lead P s t) : t.visit = s.visit := by
  cases h with
  | stop => exact visit_stop _
  | disarm => exact visit_cancelTimer _
  | _ => rfl

/-! ### Into the pipeline and out of it -/

theorem visit_booking (h : Booking s t) : t.visit = s.visit := by
  cases h <;> rfl

theorem visit_stepRun (stage : Stage) (run : Run) (s : Session Action) :
    (s.stepRun Session.react stage run).1.visit = s.visit :=
  (worked_stepRun (P := fun _ => True) reacts_react (admits_all s) stage run).keeps
    (I := fun u => u.visit = s.visit) rfl (fun _ _ _ _ h => h) (fun _ _ _ h => h)
    fun _ _ work h => (visit_work work).trans h

/-- **A coroutine that goes on, whosever it is, leaves the caller as he is**, until it is put back
into the queue or ends. -/
theorem visit_resume (at_ : Waiting) (s : Session Action) :
    (s.resume Session.react at_).1.visit = s.visit :=
  keeps_resume (I := fun u => u.visit = s.visit) (admits_all s) rfl
    (fun lead h => (visit_lead lead).trans h) (fun booking h => (visit_booking booking).trans h)
    (fun _ _ _ h => h) (fun work h => (visit_work work).trans h) at_

/-! ### The queue -/

/-- Where the caller of a session stands: his coroutine goes on at the given points, and it ended as
given. No wait for the timer's tasks is his, and texts are judged by their imports. -/
structure Receives (waits : List Waiting) (completed : Option (Except Fault Value))
    (s : Session Action) : Prop where
  waits : s.visit.waits = waits
  completed : s.completed = completed
  foreign : ∀ g ∈ s.gatherings, g.owner ≠ .caller
  probe : s.probe = .imports

variable {ws : List Waiting} {done : Option (Except Fault Value)}

theorem Receives.of_visit (h : s.Receives ws done) (same : t.visit = s.visit) :
    t.Receives ws done where
  waits := (congrArg Visit.waits same).trans h.waits
  completed := (congrArg Visit.completed same).trans h.completed
  foreign g hg := by
    have gatherings : t.gatherings = s.gatherings := congrArg Visit.gatherings same
    exact h.foreign g (gatherings ▸ hg)
  probe := (congrArg Visit.probe same).trans h.probe

/-- The caller is told how his call ended, or asked to forget it. -/
theorem Receives.tell (h : s.Receives ws done) (done' : Option (Except Fault Value)) :
    Receives ws done' { s with completed := done' } :=
  ⟨h.waits, rfl, h.foreign, h.probe⟩

theorem Receives.enqueue (h : s.Receives ws done) (at_ : Waiting) :
    Receives (ws ++ [at_]) done (s.enqueue (.resume .caller at_)) := by
  have visit := visit_enqueue s (.resume .caller at_)
  refine ⟨(congrArg Visit.waits visit).trans ?_, h.completed, h.foreign, h.probe⟩
  rw [← h.waits]
  rfl

theorem visit_foldl {β : Type} {f : Session Action → β → Session Action}
    (step : ∀ s b, (f s b).visit = s.visit) (bs : List β) (s : Session Action) :
    (bs.foldl f s).visit = s.visit := by
  induction bs generalizing s with
  | nil => rfl
  | cons b bs ih => exact (ih _).trans (step s b)

/-- A wait of somebody else. -/
theorem Receives.gather (h : s.Receives ws done) {owner : Owner} (other : owner ≠ .caller) :
    (s.gather owner).Receives ws done := by
  have watched (wait : Nat) (u : Session Action) (t : TimerTask) :
      (u.watch wait t).visit = u.visit := by
    unfold watch
    split
    · exact visit_enqueue_of_none _ rfl
    · rfl
  have opened : Receives ws done { s with
      nextGathering := s.nextGathering + 1
      gatherings := s.gatherings ++ [⟨s.nextGathering, owner, s.timerTasks.length, false⟩] } := by
    refine ⟨h.waits, h.completed, fun g hg => ?_, h.probe⟩
    rcases List.mem_append.1 hg with old | new
    · exact h.foreign g old
    · rw [List.mem_singleton.1 new]
      exact other
  exact opened.of_visit (visit_foldl (watched _) _ _)

/-- The end of somebody else's coroutine. -/
theorem visit_close {owner : Owner} (other : owner ≠ .caller) (result : Except Fault Value)
    (s : Session Action) : (s.close owner result).visit = s.visit := by
  cases owner with
  | caller => exact absurd rfl other
  | spawned n => rfl
  | timer id =>
    refine (visit_foldl (fun u w => visit_enqueue_of_none u rfl) _ _).trans ?_
    exact visit_enqueue_of_none _ rfl

/-- A report goes to a wait of somebody else. -/
theorem Receives.report (h : s.Receives ws done) (wait : Nat) (failure : Option Fault) :
    (s.report wait failure).Receives ws done := by
  unfold Session.report
  split
  · exact h
  next g found =>
    have other := h.foreign g (List.mem_of_find?_eq_some found)
    split
    · exact h
    · dsimp only
      have noted (g' : Gathering) (same : g'.owner = g.owner) : Receives ws done { s with
          gatherings := s.gatherings.map fun k => if k.id = wait then g' else k } := by
        refine ⟨h.waits, h.completed, fun k hk => ?_, h.probe⟩
        obtain ⟨k', mem, rfl⟩ := List.mem_map.1 hk
        split
        · exact same ▸ other
        · exact h.foreign k' mem
      generalize (failure.isSome || decide (g.left ≤ 1)) = isOver
      have counted := noted { g with left := g.left - 1, isOver := isOver } rfl
      split
      · refine counted.of_visit (visit_enqueue_of_none _ ?_)
        unfold Job.visit?
        split
        next named => exact absurd (Job.resume.inj named).1 other
        next => rfl
      · exact counted

theorem Receives.stepCoroutine (h : s.Receives ws done) {owner : Owner} (other : owner ≠ .caller)
    (at_ : Waiting) : (s.stepCoroutine Session.react owner at_).Receives ws done := by
  have resumed := h.of_visit (visit_resume at_ s)
  unfold Session.stepCoroutine
  rcases hx : s.resume Session.react at_ with ⟨t, next | _ | result⟩ <;> rw [hx] at resumed
  · refine resumed.of_visit (visit_enqueue_of_none t ?_)
    cases owner with
    | caller => exact absurd rfl other
    | _ => rfl
  · exact resumed.gather other
  · exact resumed.of_visit (visit_close other result t)

theorem Receives.fireTimer (h : s.Receives ws done) (id : Nat) :
    (s.fireTimer id).Receives ws done := by
  unfold Session.fireTimer
  split
  · exact h.of_visit (visit_enqueue_of_none _ rfl)
  · exact h

/-! ### Callbacks -/

def CallerNext (at_ : Waiting) (rest : List (Entry Job)) (s : Session Action) : Prop :=
  s.loop.batch = .job (.resume .caller at_) :: rest

/-- The next callback is the caller's or somebody else's. -/
theorem callerNext_or_other (s : Session Action) :
    (∃ at_ rest, s.CallerNext at_ rest) ∨ ∀ at_ rest, ¬ s.CallerNext at_ rest := by
  by_cases next : ∃ at_ rest, s.CallerNext at_ rest
  · exact .inl next
  · exact .inr fun at_ rest front => next ⟨at_, rest, front⟩

theorem waits_pop {j : Job} {rest : List (Entry Job)} (front : s.loop.batch = .job j :: rest) :
    s.visit.waits = j.visit?.toList ++ (s.pop rest).visit.waits := by
  unfold visit
  rw [Loop.jobs_of_job front, List.filterMap_cons]
  cases j.visit? <;> rfl

/-- **A callback of somebody else leaves the caller where he stands.** -/
theorem receives_step_of_other (h : s.Receives ws done)
    (other : ∀ at_ rest, ¬ s.CallerNext at_ rest) : (machine.step s).Receives ws done := by
  unfold Machine.step
  split
  next => exact h
  next id rest front =>
    have popped : (s.pop rest).Receives ws done :=
      h.of_visit (visit_of_jobs (Loop.jobs_of_timer (show s.loop.batch = _ from front)))
    exact popped.fireTimer id
  next j rest front =>
    have waits := waits_pop front
    have spared (none : j.visit? = none) : (s.pop rest).Receives ws done := by
      rw [none, h.waits] at waits
      exact ⟨waits.symm, h.completed, h.foreign, h.probe⟩
    show (runJob Session.react j (s.pop rest)).Receives ws done
    cases j with
    | forget task => exact (spared rfl).of_visit rfl
    | report wait failure => exact (spared rfl).report wait failure
    | resume owner at_ =>
      cases owner with
      | caller => exact absurd front (other at_ rest)
      | spawned n =>
        have named : Owner.spawned n ≠ .caller := nofun
        exact (spared rfl).stepCoroutine named at_
      | timer task =>
        have named : Owner.timer task ≠ .caller := nofun
        exact (spared rfl).stepCoroutine named at_

/-- A callback of the caller is a step of his coroutine. -/
theorem step_of_callerNext {at_ : Waiting} {rest : List (Entry Job)}
    (front : s.CallerNext at_ rest) :
    machine.step s = (s.pop rest).stepCoroutine Session.react .caller at_ := by
  unfold Machine.step
  rw [show (machine.loop s).batch = _ from front]
  rfl

/-- The coroutine of the caller has its turn. -/
theorem Receives.callerNext {at_ : Waiting} {rest : List (Entry Job)} (h : s.Receives ws done)
    (front : s.CallerNext at_ rest) :
    ws = at_ :: (s.pop rest).visit.waits ∧
      (s.pop rest).Receives (s.pop rest).visit.waits done :=
  ⟨h.waits.symm.trans (waits_pop front), rfl, h.completed, h.foreign, h.probe⟩

/-- Where the caller has one coroutine, it is that one's turn. -/
theorem Receives.only {w at_ : Waiting} {rest : List (Entry Job)} (h : s.Receives [w] done)
    (front : s.CallerNext at_ rest) : at_ = w ∧ (s.pop rest).Receives [] done := by
  obtain ⟨first, popped⟩ := h.callerNext front
  obtain ⟨rfl, nobody⟩ := List.cons.inj first
  exact ⟨rfl, nobody ▸ popped⟩

theorem receives_openTick (h : s.Receives ws done) : (machine.openTick s).Receives ws done :=
  h.of_visit (visit_of_jobs (Loop.jobs_openTick s.loop))

end Session

end Playground
