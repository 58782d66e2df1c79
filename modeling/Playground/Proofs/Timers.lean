import Playground.Proofs.Requests

/-!
# Timers

A debouncer is the only one that arms timers on its loop, and it clears the last one before it arms
the next. So the loop never holds another timer than the one that the debouncer remembers, and a
session that was stopped has none.

* `Loop.timerIds` — the timers that a loop holds, whether they have come due or not.
* `Debounce.Sole` — the loop holds the timer that is remembered, and no other.
* `Session.Tidy` — the invariant: so it is in a session, and one that is not alive has no timer and
  lets no request wait.
* `tidy_moves` — the invariant holds after all moves.
-/

namespace Playground.Clock

variable {κ : Type}

def Entry.timer? : Entry κ → Option Nat
  | .timer id => some id
  | .job _ => none

@[simp] theorem filterMap_timer?_timer (id : Nat) (es : List (Entry κ)) :
    (.timer id :: es).filterMap Entry.timer? = id :: es.filterMap Entry.timer? := rfl

@[simp] theorem filterMap_timer?_job (j : κ) (es : List (Entry κ)) :
    (.job j :: es).filterMap Entry.timer? = es.filterMap Entry.timer? := rfl

namespace Loop

/-- The timers that a loop holds: those that have come due, and those that have not. -/
def timerIds (l : Loop κ) : List Nat :=
  (l.batch ++ l.queue).filterMap Entry.timer? ++ l.timers.map Timer.id

@[simp] theorem timerIds_enqueue (l : Loop κ) (j : κ) : (l.enqueue j).timerIds = l.timerIds := by
  simp [timerIds, enqueue]

theorem filterMap_timer?_filter (id : Nat) (es : List (Entry κ)) :
    (es.filter (isOther id)).filterMap Entry.timer? =
      (es.filterMap Entry.timer?).filter (· ≠ id) := by
  induction es with
  | nil => rfl
  | cons e es ih =>
    cases e with
    | timer i =>
      by_cases h : i = id
      · simp [isOther, h, ih]
      · simp [isOther, h, ih]
    | job j => simp [isOther, List.filter_cons, ih]

/-- A timer that is cancelled is gone, wherever it waited. -/
theorem timerIds_cancel (l : Loop κ) (id : Nat) :
    (l.cancel id).timerIds = l.timerIds.filter (· ≠ id) := by
  simp only [timerIds, cancel, List.filterMap_append, filterMap_timer?_filter, List.filter_append,
    List.filter_map, Function.comp_def]

theorem insertTimer_perm (t : Timer) (ts : List Timer) : (insertTimer t ts).Perm (t :: ts) := by
  induction ts with
  | nil => exact .refl _
  | cons u ts ih =>
    unfold insertTimer
    split
    · exact (ih.cons u).trans (.swap t u ts)
    · exact .refl _

theorem timerIds_arm (l : Loop κ) (delay : Int) :
    (l.arm delay).timerIds.Perm (l.nextTimer :: l.timerIds) := by
  have inserted := (insertTimer_perm ⟨l.now + max delay 0, l.nextTimer⟩ l.timers).map Timer.id
  exact (inserted.append_left _).trans List.perm_middle

/-- A timer that comes due is still held. -/
theorem timerIds_openTick (l : Loop κ) : l.openTick.timerIds.Perm l.timerIds := by
  have due : ((l.timers.filter l.isDue).map fun t => Entry.timer t.id).filterMap
      (Entry.timer? (κ := κ)) = (l.timers.filter l.isDue).map Timer.id := by
    simp [List.filterMap_map, Function.comp_def, Entry.timer?]
  have split := (List.filter_append_perm l.isDue l.timers).map Timer.id
  simp only [timerIds, openTick, List.append_nil, List.filterMap_append, due, List.append_assoc]
  rw [List.map_append] at split
  exact (split.append_left _).append_left _

theorem timerIds_of_job {l : Loop κ} {j : κ} {rest : List (Entry κ)}
    (h : l.batch = .job j :: rest) : { l with batch := rest }.timerIds = l.timerIds := by
  simp [timerIds, h]

theorem timerIds_of_timer {l : Loop κ} {id : Nat} {rest : List (Entry κ)}
    (h : l.batch = .timer id :: rest) : l.timerIds = id :: { l with batch := rest }.timerIds := by
  simp [timerIds, h]

end Loop

end Playground.Clock

namespace Playground.Debounce

open Playground.Clock

variable {κ : Type} {armed : Option Nat} {l l' : Loop κ}

/-- The loop holds the timer that is remembered, and no other. -/
def Sole (armed : Option Nat) (l : Loop κ) : Prop := l.timerIds.Perm armed.toList

theorem Sole.of_perm (h : Sole armed l) (timers : l'.timerIds.Perm l.timerIds) : Sole armed l' :=
  timers.trans h

/-- Where none is remembered, the loop holds none. -/
theorem Sole.timerIds_nil (h : Sole none l) : l.timerIds = [] := h.eq_nil

/-- After the timer was cleared, the loop holds none. -/
theorem Sole.cancel (h : Sole armed l) : (Debounce.cancel armed l).timerIds = [] := by
  cases armed with
  | none => exact h.timerIds_nil
  | some id =>
    have held : l.timerIds = [id] := List.perm_singleton.1 h
    show (l.cancel id).timerIds = []
    rw [Loop.timerIds_cancel, held]
    simp

/-- Setting the timer leaves the new one alone, or none where the delay is refused. -/
theorem Sole.schedule (h : Sole armed l) (delay : Int) :
    match Debounce.schedule armed l delay with
    | (l', .ok id) => Sole (some id) l'
    | (l', .error _) => Sole none l' := by
  have cleared := h.cancel
  unfold Debounce.schedule
  by_cases accepted : isAccepted delay = true
  · simp only [accepted, if_true]
    have armed := Loop.timerIds_arm (Debounce.cancel armed l) delay
    rw [cleared] at armed
    exact armed
  · simp only [accepted, Bool.false_eq_true, if_false]
    exact .of_eq cleared

/-- A timer that has its turn is the one that is remembered, and no other is left. -/
theorem Sole.front {id : Nat} {rest : List (Entry κ)} (h : Sole armed l)
    (front : l.batch = .timer id :: rest) :
    armed = some id ∧ { l with batch := rest }.timerIds = [] := by
  unfold Sole at h
  rw [Loop.timerIds_of_timer front] at h
  cases armed with
  | none => cases h.eq_nil
  | some id' =>
    obtain ⟨rfl, rest⟩ := List.cons.inj (List.perm_singleton.1 h)
    exact ⟨rfl, rest⟩

end Playground.Debounce

namespace Playground

open Playground.Clock Playground.Debounce

namespace Session

variable {P : Action → Prop} {s t : Session Action}

/-- The loop holds the timer that is armed and no other; a session that is not alive has none, and
no request waits there. -/
structure Tidy (s : Session Action) : Prop where
  sole : Sole s.armed s.loop
  dead : s.state.alive = false → s.armed = none ∧ s.pending = none

/-- The timer is left alone, and no request comes to wait unless the session is alive. -/
structure Spares (s t : Session Action) : Prop where
  timers : t.loop.timerIds.Perm s.loop.timerIds
  armed : t.armed = s.armed
  alive : t.state.alive = s.state.alive
  pending : t.state.alive = false → t.pending = s.pending ∨ t.pending = none

/-- Nothing of all that is touched. -/
theorem Spares.of_eq (loop : t.loop = s.loop) (armed : t.armed = s.armed)
    (alive : t.state.alive = s.state.alive) (pending : t.pending = s.pending) : Spares s t :=
  ⟨.of_eq (congrArg Loop.timerIds loop), armed, alive, fun _ => .inl pending⟩

theorem Spares.trans {u : Session Action} (h : Spares s t) (k : Spares t u) : Spares s u := by
  refine ⟨k.timers.trans h.timers, k.armed.trans h.armed, k.alive.trans h.alive, fun dead => ?_⟩
  rcases k.pending dead with same | none
  · exact (h.pending (k.alive.symm.trans dead)).imp same.trans same.trans
  · exact .inr none

theorem Tidy.spares (h : s.Tidy) (k : Spares s t) : t.Tidy := by
  refine ⟨k.armed ▸ h.sole.of_perm k.timers, fun dead => ?_⟩
  obtain ⟨unarmed, empty⟩ := h.dead (k.alive.symm.trans dead)
  exact ⟨k.armed.trans unarmed, (k.pending dead).elim (·.trans empty) id⟩

/-! ### From the side -/

theorem tidy_cancelTimer (h : s.Tidy) : s.cancelTimer.Tidy :=
  ⟨.of_eq h.sole.cancel, fun dead => ⟨rfl, (h.dead dead).2⟩⟩

/-- Only a session that is alive sets its timer. -/
theorem tidy_rearm (h : s.Tidy) (alive : s.state.alive = true) : s.rearm.1.Tidy := by
  have sole := h.sole.schedule s.settings.autoCompileDelayMs
  unfold rearm
  split <;> next hx =>
    rw [hx] at sole
    exact ⟨sole, fun dead => Bool.noConfusion (alive.symm.trans dead)⟩

theorem tidy_stop (h : s.Tidy) : s.stop.Tidy := ⟨.of_eq h.sole.cancel, fun _ => ⟨rfl, rfl⟩⟩

theorem tidy_edit (h : s.Tidy) (text : String) : (s.edit text).Tidy := by
  have edited : (s.modifyState fun st => { st with source := text }).Tidy :=
    h.spares (.of_eq rfl rfl rfl rfl)
  unfold edit
  simp only
  split
  · exact edited
  · have noted := edited.spares
      (t := (s.modifyState fun st => { st with source := text }).modifyState
      fun st => { st with lastTextInput := Text.trimmed text }) (.of_eq rfl rfl rfl rfl)
    split
    next active => exact tidy_rearm noted (Bool.and_eq_true_iff.1 active).1
    next => exact noted

theorem tidy_turn (h : s.Tidy) (mode : CompileMode) : (s.turn mode).Tidy := by
  have turned : (s.cancelTimer.modifyState fun st => { st with compileMode := mode }).Tidy :=
    (tidy_cancelTimer h).spares (.of_eq rfl rfl rfl rfl)
  unfold turn
  simp only
  split
  next active => exact tidy_rearm turned (Bool.and_eq_true_iff.1 active).2
  next => exact turned

theorem spares_takeReaction (s : Session Action) (event listener : String) (data : Payload) :
    Spares s (s.takeReaction event listener data).1 := by
  unfold takeReaction
  split <;> exact .of_eq rfl rfl rfl rfl

theorem spares_enqueue (s : Session Action) (j : Job) : Spares s (s.enqueue j) :=
  ⟨.of_eq (Loop.timerIds_enqueue s.loop j), rfl, rfl, fun _ => .inl rfl⟩

theorem Spares.enqueue (h : Spares s t) (j : Job) : Spares s (t.enqueue j) :=
  h.trans (spares_enqueue t j)

theorem tidy_nudge (h : s.Tidy) (nudge : Nudge P s t) : t.Tidy := by
  cases nudge with
  | heed event listener data => exact h.spares (spares_takeReaction s event listener data)
  | edit text => exact tidy_edit h text
  | turn _ mode => exact tidy_turn h mode
  | disarm => exact tidy_cancelTimer h
  | stop => exact tidy_stop h
  | spawn call =>
    have counted : Spares s { s with spawned := s.spawned + 1 } := .of_eq rfl rfl rfl rfl
    exact h.spares (counted.enqueue _)
  | _ => exact h.spares (.of_eq rfl rfl rfl rfl)

theorem tidy_nudges (h : s.Tidy) (nudges : Nudges P s t) : t.Tidy := by
  induction nudges with
  | refl => exact h
  | tail _ step ih => exact tidy_nudge ih step

theorem tidy_work (h : s.Tidy) (work : Work P s t) : t.Tidy := by
  cases work with
  | use use =>
    cases use with
    | nudge nudge => exact tidy_nudge h nudge
    | _ => exact h.spares (.of_eq rfl rfl rfl rfl)
  | _ => exact h.spares (.of_eq rfl rfl rfl rfl)

theorem tidy_lead (h : s.Tidy) (lead : Lead P s t) : t.Tidy := by
  cases lead with
  | stop => exact tidy_stop h
  | disarm => exact tidy_cancelTimer h
  | wake => exact ⟨h.sole, nofun⟩
  | _ => exact h.spares (.of_eq rfl rfl rfl rfl)

/-! ### Into the pipeline and out of it -/

/-- Only a session that is alive lets a request wait. -/
theorem spares_booking (h : Booking s t) : Spares s t := by
  cases h with
  | park alive => exact ⟨.refl _, rfl, rfl, fun dead => Bool.noConfusion (alive.symm.trans dead)⟩
  | unpark => exact ⟨.refl _, rfl, rfl, fun _ => .inr rfl⟩
  | _ => exact .of_eq rfl rfl rfl rfl

theorem tidy_resume (h : s.Tidy) (at_ : Waiting) : (s.resume Session.react at_).1.Tidy :=
  keeps_resume (admits_all s) h (fun lead h => tidy_lead h lead)
    (fun booking h => h.spares (spares_booking booking))
    (fun _ _ _ h => h.spares (.of_eq rfl rfl rfl rfl)) (fun work h => tidy_work h work) at_

/-! ### The queue -/

theorem spares_foldl {β : Type} {f : Session Action → β → Session Action}
    (step : ∀ s b, Spares s (f s b)) (bs : List β) (s : Session Action) :
    Spares s (bs.foldl f s) := by
  induction bs generalizing s with
  | nil => exact .of_eq rfl rfl rfl rfl
  | cons b bs ih => exact (step s b).trans (ih _)

theorem spares_gather (owner : Owner) (s : Session Action) : Spares s (s.gather owner) := by
  have watched (wait : Nat) (u : Session Action) (t : TimerTask) : Spares u (u.watch wait t) := by
    unfold watch
    split
    · exact spares_enqueue _ _
    · exact .of_eq rfl rfl rfl rfl
  have opened : Spares s { s with
      nextGathering := s.nextGathering + 1
      gatherings := s.gatherings ++ [⟨s.nextGathering, owner, s.timerTasks.length, false⟩] } :=
    .of_eq rfl rfl rfl rfl
  exact opened.trans (spares_foldl (watched _) _ _)

theorem spares_close (owner : Owner) (result : Except Fault Value) (s : Session Action) :
    Spares s (s.close owner result) := by
  cases owner with
  | caller => exact .of_eq rfl rfl rfl rfl
  | spawned n => exact .of_eq rfl rfl rfl rfl
  | timer id =>
    have ended : Spares s { s with timerTasks := s.timerTasks.map fun t =>
        if t.id = id then { t with ending := some (failureOf result) } else t } :=
      .of_eq rfl rfl rfl rfl
    exact (ended.enqueue _).trans (spares_foldl (fun _ _ => spares_enqueue _ _) _ _)

theorem spares_report (wait : Nat) (failure : Option Fault) (s : Session Action) :
    Spares s (s.report wait failure) := by
  unfold report
  split
  · exact .of_eq rfl rfl rfl rfl
  · split
    · exact .of_eq rfl rfl rfl rfl
    · simp only
      split
      · refine Spares.enqueue ?_ _
        exact .of_eq rfl rfl rfl rfl
      · exact .of_eq rfl rfl rfl rfl

theorem tidy_stepCoroutine (h : s.Tidy) (owner : Owner) (at_ : Waiting) :
    (s.stepCoroutine Session.react owner at_).Tidy := by
  have resumed := tidy_resume h at_
  unfold stepCoroutine
  rcases hx : s.resume Session.react at_ with ⟨t, next | _ | result⟩ <;> rw [hx] at resumed
  · exact resumed.spares (spares_enqueue t _)
  · exact resumed.spares (spares_gather owner t)
  · exact resumed.spares (spares_close owner result t)

theorem tidy_runJob (h : s.Tidy) (j : Job) : (runJob Session.react j s).Tidy := by
  cases j with
  | resume owner at_ => exact tidy_stepCoroutine h owner at_
  | forget task => exact h.spares (.of_eq rfl rfl rfl rfl)
  | report wait failure => exact h.spares (spares_report wait failure s)

theorem tidy_step (h : s.Tidy) : (machine.step s).Tidy := by
  unfold Machine.step
  split
  next => exact h
  next id rest front =>
    -- the timer leaves the loop when the session forgets it
    obtain ⟨armed, none⟩ := h.sole.front front
    have fired : (s.pop rest).fireTimer id = _ := if_pos armed
    show ((s.pop rest).fireTimer id).Tidy
    rw [fired]
    refine ⟨.of_eq ((Loop.timerIds_enqueue _ _).trans none), fun dead => ⟨rfl, (h.dead dead).2⟩⟩
  next j rest front =>
    have popped : Spares s (s.pop rest) :=
      ⟨.of_eq (Loop.timerIds_of_job front), rfl, rfl, fun _ => .inl rfl⟩
    exact tidy_runJob (h.spares popped) j

theorem tidy_move (h : s.Tidy) (m : Move) : (s.move m).Tidy := by
  cases m with
  | act a =>
    have nudges : Nudges (fun _ => True) s (s.move (.act a)) :=
      nudges_act reacts_react (admits_all s) trivial
    exact tidy_nudges h nudges
  | call c =>
    have called : Spares s { s with completed := none } := .of_eq rfl rfl rfl rfl
    exact h.spares (called.enqueue _)
  | step => exact tidy_step h
  | openTick => exact h.spares ⟨Loop.timerIds_openTick s.loop, rfl, rfl, fun _ => .inl rfl⟩
  | setTime now => exact h.spares ⟨.refl _, rfl, rfl, fun _ => .inl rfl⟩
  | relog log => exact h.spares (.of_eq rfl rfl rfl rfl)

/-- **The loop of a session never holds another timer than the one that is armed, and a session that
is not alive has none and lets no request wait.** -/
theorem tidy_moves (o : Opening) (ms : List Move) : (o.session.moves ms).Tidy :=
  moves_induction Tidy ⟨.refl _, fun _ => ⟨rfl, rfl⟩⟩ fun m _ _ h => tidy_move h m

end Session

end Playground
