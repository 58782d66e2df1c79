import Playground.Proofs.Timers

/-!
# Debouncing

A debouncer can be set and cleared at any moment, also after its timer has come due and before the
loop runs it, and by its own callback. Each time that it was set, the callback is called once, at
the time at which the timer comes due, unless the debouncer was set anew or cleared before.

* `Debounce.outstanding` — when the timer comes due that was set last.
* `Debounce.Faithful` — the callback is only called for a timer that is outstanding, when it is due.
* `Desk.Neat` — the invariant: the one timer that the loop may hold is the outstanding one.
* `Desk.shots` — how often the callback can be called before somebody else sets the timer.
* `reaches_advance` — no timer that has come due is left when time has passed.
* `fires_once` — what becomes of a timer that is set.
-/

namespace Playground.Debounce

open Playground.Clock

/-- When the timer comes due that was set last, unless it was cleared or has had its turn. -/
def outstanding : List Deed → Option Int
  | .scheduled now delay :: _ => some (now + max delay 0)
  | _ => none

/-- The callback is only called for a timer that is outstanding, at the time when it comes due. -/
def Faithful : List Deed → Prop
  | [] => True
  | .fired now :: ds => outstanding ds = some now ∧ Faithful ds
  | _ :: ds => Faithful ds

def Deed.fired? : Deed → Option Int
  | .fired now => some now
  | _ => none

@[inherit_doc Deed.fired?]
def Happening.fired? : Happening → Option Int
  | .fired now => some now
  | .logged _ => none

/-- What happens to a debouncer. -/
inductive Move where
  | schedule (delay : Int)
  | cancel
  /-- A tick opens. -/
  | openTick
  /-- The next callback of the tick runs. -/
  | step
  /-- Time passes. -/
  | advance (ms : Nat)

namespace Desk

def opened (script : List (List Action)) (log : Log.Board) (now : Int) : Desk :=
  { script, log, loop := { now } }

/-- Carries out one move; `patience` bounds how many ticks are run at a time. -/
def move (patience : Nat) (m : Move) (d : Desk) : Desk :=
  match m with
  | .schedule delay => (d.schedule delay).1
  | .cancel => d.cancel
  | .openTick => machine.openTick d
  | .step => machine.step d
  | .advance ms => machine.advance patience ms d

def moves (patience : Nat) (ms : List Move) (d : Desk) : Desk :=
  ms.foldl (fun d m => d.move patience m) d

/-! ### The invariant -/

/-- How the timer stands: it is not set, it has not come due, or it has its turn in this tick. -/
inductive Poised (d : Desk) : Prop where
  | idle (nothing : outstanding d.course = none) (armed : d.armed = none)
      (batch : d.loop.batch = []) (timers : d.loop.timers = [])
  | waiting (id : Nat) (due : Int) (set : outstanding d.course = some due)
      (armed : d.armed = some id)
      (batch : d.loop.batch = []) (timers : d.loop.timers = [⟨due, id⟩]) (ahead : d.loop.now ≤ due)
  | ready (id : Nat) (set : outstanding d.course = some d.loop.now) (armed : d.armed = some id)
      (batch : d.loop.batch = [.timer id]) (timers : d.loop.timers = [])

/-- The timer of the debouncer stands in good order, and the callback was called for outstanding
timers only. -/
structure Neat (d : Desk) : Prop where
  poised : d.Poised
  queue : d.loop.queue = []
  faithful : Faithful d.course
  told : d.journal.filterMap Happening.fired? = (d.course.filterMap Deed.fired?).reverse

/-- Something that leaves the time and the script as they are, and the debouncer in good order. -/
structure Keeps (d e : Desk) : Prop where
  now : e.loop.now = d.loop.now
  script : e.script = d.script
  neat : d.Neat → e.Neat

variable {d e f : Desk}

theorem Keeps.refl (d : Desk) : Keeps d d := ⟨rfl, rfl, id⟩

theorem Keeps.trans (h : Keeps d e) (k : Keeps e f) : Keeps d f :=
  ⟨k.now.trans h.now, k.script.trans h.script, fun neat => k.neat (h.neat neat)⟩

/-- The log does not matter. -/
theorem keeps_debug (d : Desk) (message : String) : Keeps d (d.debug message) := by
  refine ⟨rfl, rfl, fun ⟨poised, queue, faithful, told⟩ => ⟨?_, queue, faithful, ?_⟩⟩
  · cases poised with
    | idle nothing armed batch timers => exact .idle nothing armed batch timers
    | waiting id due set armed batch timers ahead =>
      exact .waiting id due set armed batch timers ahead
    | ready id set armed batch timers => exact .ready id set armed batch timers
  · have silent (rs : List (String × Log.Record)) :
        (rs.map fun r => Happening.logged r.2).filterMap Happening.fired? = [] := by
      simp [List.filterMap_map, Function.comp_def, Happening.fired?]
    show (d.journal ++ _).filterMap _ = _
    rw [List.filterMap_append, silent, List.append_nil]
    exact told

/-! ### Setting and clearing -/

/-- Clearing empties the loop. -/
theorem Neat.cleared (h : d.Neat) :
    Debounce.cancel d.armed d.loop = { d.loop with batch := [], timers := [] } := by
  obtain ⟨poised, queue, -, -⟩ := h
  cases poised with
  | idle _ armed batch timers =>
    rw [armed]
    show d.loop = _
    rw [← batch, ← timers]
  | waiting id due _ armed batch timers _ =>
    rw [armed]
    simp [Debounce.cancel, Loop.cancel, batch, timers, queue]
  | ready id _ armed batch timers =>
    rw [armed]
    simp [Debounce.cancel, Loop.cancel, Loop.isOther, batch, timers, queue]

theorem keeps_cancel (d : Desk) : Keeps d d.cancel := by
  refine ⟨?_, rfl, fun neat => ?_⟩
  · show (Debounce.cancel d.armed d.loop).now = _
    unfold Debounce.cancel
    split <;> rfl
  · have cleared := neat.cleared
    refine ⟨.idle rfl rfl ?_ ?_, ?_, neat.faithful, neat.told⟩ <;>
      simp [cancel, mark, cleared, neat.queue]

/-- A delay that is too large is refused; any other is noted with the time. -/
theorem keeps_schedule (d : Desk) (delay : Int) : Keeps d (d.schedule delay).1 := by
  have now : (Debounce.cancel d.armed d.loop).now = d.loop.now := by
    unfold Debounce.cancel
    split <;> rfl
  unfold schedule Debounce.schedule
  by_cases accepted : isAccepted delay = true
  · simp only [accepted, if_true]
    have armed : Keeps d (({ d with
        loop := (Debounce.cancel d.armed d.loop).arm delay
        armed := some (Debounce.cancel d.armed d.loop).nextTimer } : Desk).mark
          (.scheduled d.loop.now delay)) := by
      refine ⟨now, rfl, fun neat => ?_⟩
      have cleared := neat.cleared
      refine ⟨.waiting (Debounce.cancel d.armed d.loop).nextTimer (d.loop.now + max delay 0)
        rfl rfl ?_ ?_ (Int.le_trans (Int.le_of_eq now) (by omega)), ?_, neat.faithful, neat.told⟩
      all_goals simp [mark, cleared, Loop.arm, Loop.insertTimer, neat.queue]
    exact armed.trans (keeps_debug _ _)
  · simp only [accepted, Bool.false_eq_true, if_false]
    refine ⟨now, rfl, fun neat => ?_⟩
    have cleared := neat.cleared
    refine ⟨.idle rfl rfl ?_ ?_, ?_, neat.faithful, neat.told⟩ <;>
      simp [mark, cleared, neat.queue]

theorem keeps_act (d : Desk) (a : Action) : Keeps d (d.act a).1 := by
  cases a with
  | schedule delay => exact keeps_schedule d delay
  | cancel => exact keeps_cancel d
  | fail f => exact .refl d

/-- Whatever the callback does leaves the debouncer in good order. -/
theorem keeps_actAll (actions : List Action) (d : Desk) : Keeps d (d.actAll actions) := by
  induction actions generalizing d with
  | nil => exact .refl d
  | cons a actions ih =>
    have first := keeps_act d a
    unfold actAll
    split <;> next hx =>
      rw [hx] at first
      first | exact first.trans (ih _) | exact first

/-! ### Ticks -/

/-- How often the callback can be called before somebody else sets the timer: each call plays a part
of the script, and only what is played sets it anew. -/
def shots (d : Desk) : Nat := if d.armed.isSome then d.script.length + 1 else 0

theorem shots_le (d : Desk) : d.shots ≤ d.script.length + 1 := by
  unfold shots
  split
  · exact Nat.le_refl _
  · exact Nat.zero_le _

/-- What a callback, or several, do: time stands still, and shots are spent. -/
structure Spends (d e : Desk) : Prop where
  now : e.loop.now = d.loop.now
  script : e.script.length ≤ d.script.length
  shots : e.shots ≤ d.shots
  neat : e.Neat

theorem Spends.trans (h : Spends d e) (k : Spends e f) : Spends d f :=
  ⟨k.now.trans h.now, Nat.le_trans k.script h.script, Nat.le_trans k.shots h.shots, k.neat⟩

/-- The callback is called for the timer that has its turn. -/
theorem spends_call (armed : d.armed = none) (batch : d.loop.batch = [])
    (timers : d.loop.timers = [])
    (queue : d.loop.queue = []) (set : outstanding d.course = some d.loop.now)
    (faithful : Faithful d.course)
    (told : d.journal.filterMap Happening.fired? = (d.course.filterMap Deed.fired?).reverse) :
    d.call.Neat ∧ d.call.loop.now = d.loop.now ∧ d.call.script.length ≤ d.script.length ∧
      d.call.shots ≤ d.script.length := by
  have called : ({ d with journal := d.journal ++ [Happening.fired d.loop.now] }.mark
      (.fired d.loop.now)).Neat := by
    refine ⟨.idle rfl armed batch timers, queue, ⟨set, faithful⟩, ?_⟩
    simp [mark, List.filterMap_append, told, Happening.fired?, Deed.fired?]
  unfold call
  simp only
  split
  next played =>
    refine ⟨called, rfl, Nat.le_refl _, ?_⟩
    simp [shots, mark, armed]
  next actions rest played =>
    have script : d.script = actions :: rest := played
    have taken : ({ ({ d with journal := d.journal ++ [Happening.fired d.loop.now] }.mark
        (.fired d.loop.now)) with script := rest } : Desk).Neat := by
      obtain ⟨-, queue, faithful, told⟩ := called
      exact ⟨.idle rfl armed batch timers, queue, faithful, told⟩
    have acted := keeps_actAll actions { ({ d with
      journal := d.journal ++ [Happening.fired d.loop.now] }.mark (.fired d.loop.now)) with
        script := rest }
    refine ⟨acted.neat taken, acted.now, ?_, ?_⟩
    · rw [acted.script, script]
      exact Nat.le_succ _
    · refine Nat.le_trans (shots_le _) ?_
      rw [acted.script, script]
      exact Nat.le_refl _

/-- One callback, which spends a shot if there is one to run. -/
theorem spends_step (neat : d.Neat) :
    Spends d (machine.step d) ∧ (d.loop.batch ≠ [] → (machine.step d).shots < d.shots) := by
  obtain ⟨poised, queue, faithful, told⟩ := neat
  have rests (batch : d.loop.batch = []) : machine.step d = d := by
    unfold Machine.step
    rw [show (machine.loop d).batch = [] from batch]
  cases poised with
  | idle nothing armed batch timers =>
    rw [rests batch]
    have neat : d.Neat := ⟨.idle nothing armed batch timers, queue, faithful, told⟩
    exact ⟨⟨rfl, Nat.le_refl _, Nat.le_refl _, neat⟩, fun full => absurd batch full⟩
  | waiting id due set armed batch timers ahead =>
    rw [rests batch]
    have neat : d.Neat := ⟨.waiting id due set armed batch timers ahead, queue, faithful, told⟩
    exact ⟨⟨rfl, Nat.le_refl _, Nat.le_refl _, neat⟩, fun full => absurd batch full⟩
  | ready id set armed batch timers =>
    have called : machine.step d =
        ({ d with loop := { d.loop with batch := [] }, armed := none } : Desk).call := by
      unfold Machine.step
      rw [show (machine.loop d).batch = [.timer id] from batch]
      exact if_pos armed
    have loaded : d.shots = d.script.length + 1 := by simp [shots, armed]
    obtain ⟨neat, now, script, shots⟩ :=
      spends_call (d := { d with loop := { d.loop with batch := [] }, armed := none })
        rfl rfl timers queue set faithful told
    rw [called, loaded]
    have spent := Nat.lt_succ_of_le shots
    exact ⟨⟨now, script, Nat.le_of_lt (Nat.lt_of_lt_of_eq spent loaded.symm), neat⟩, fun _ => spent⟩

/-- A timer that has come due gets its turn when a tick opens. -/
theorem spends_openTick (neat : d.Neat) :
    Spends d (machine.openTick d) ∧
      (d.loop.isSettled = false → (machine.openTick d).loop.batch ≠ []) := by
  obtain ⟨poised, queue, faithful, told⟩ := neat
  have loop : (machine.openTick d).loop = d.loop.openTick := rfl
  refine ⟨⟨rfl, Nat.le_refl _, Nat.le_refl _, ?_, rfl, faithful, told⟩, fun open_ => ?_⟩
  · cases poised with
    | idle nothing armed batch timers =>
      refine .idle nothing armed ?_ ?_ <;> simp [loop, Loop.openTick, batch, queue, timers]
    | waiting id due set armed batch timers ahead =>
      by_cases late : due ≤ d.loop.now
      · obtain rfl : due = d.loop.now := Int.le_antisymm late ahead
        refine .ready id set armed ?_ ?_ <;>
          simp [loop, Loop.openTick, Loop.isDue, batch, queue, timers]
      · refine .waiting id due set armed ?_ ?_ ahead <;>
          simp [loop, Loop.openTick, Loop.isDue, batch, queue, timers, late]
    | ready id set armed batch timers =>
      refine .ready id set armed ?_ ?_ <;> simp [loop, Loop.openTick, batch, queue, timers]
  · rw [loop]
    cases poised with
    | idle _ _ batch timers => simp [Loop.isSettled, batch, timers, queue] at open_
    | waiting id due _ _ batch timers _ =>
      have late : due ≤ d.loop.now := by
        simpa [Loop.isSettled, Loop.isDue, batch, timers, queue] using open_
      simp [Loop.openTick, Loop.isDue, timers, late]
    | ready _ _ _ batch _ => simp [Loop.openTick, batch]

/-- One tick, which spends a shot if there is something to run. -/
theorem spends_tick (neat : d.Neat) :
    Spends d (machine.tick d) ∧ (d.loop.isSettled = false → (machine.tick d).shots < d.shots) := by
  obtain ⟨opens, full⟩ := spends_openTick neat
  obtain ⟨steps, spent⟩ := spends_step opens.neat
  generalize hopened : machine.openTick d = e at opens full steps spent
  have ticked : machine.tick d = machine.steps e.loop.batch.length e := by rw [← hopened]; rfl
  cases hb : e.loop.batch with
  | nil =>
    rw [hb] at ticked
    rw [ticked]
    exact ⟨opens, fun open_ => absurd hb (full open_)⟩
  | cons entry rest =>
    obtain rfl : rest = [] := by
      cases opens.neat.poised with
      | idle _ _ batch => cases hb.symm.trans batch
      | waiting _ _ _ _ batch => cases hb.symm.trans batch
      | ready _ _ _ batch => exact (List.cons.inj (hb.symm.trans batch)).2
    rw [hb] at ticked
    rw [ticked]
    have spent := spent (by rw [hb]; nofun)
    exact ⟨opens.trans steps, fun _ => Nat.lt_of_lt_of_le spent opens.shots⟩

/-- **Ticks go on until nothing is left to run**, which spends a shot if there was something. -/
theorem spends_settle {fuel : Nat} (neat : d.Neat) (enough : d.shots ≤ fuel) :
    Spends d (machine.settle fuel d) ∧ (machine.settle fuel d).loop.isSettled = true ∧
      (d.loop.isSettled = false → (machine.settle fuel d).shots < d.shots) := by
  induction fuel generalizing d with
  | zero =>
    -- without a shot there is no timer that could come due
    have settled : d.loop.isSettled = true := by
      refine (Bool.eq_false_or_eq_true _).resolve_right fun open_ => ?_
      have spent := (spends_tick neat).2 open_
      omega
    exact ⟨⟨rfl, Nat.le_refl _, Nat.le_refl _, neat⟩, settled,
      fun open_ => Bool.noConfusion (settled.symm.trans open_)⟩
  | succ fuel ih =>
    unfold Machine.settle
    cases settled : d.loop.isSettled with
    | true =>
      have settled' : (machine.loop d).isSettled = true := settled
      rw [if_pos settled']
      exact ⟨⟨rfl, Nat.le_refl _, Nat.le_refl _, neat⟩, settled, nofun⟩
    | false =>
      have open_ : ¬(machine.loop d).isSettled = true := Bool.eq_false_iff.1 settled
      rw [if_neg open_]
      obtain ⟨ticks, spent⟩ := spends_tick neat
      have spent := spent settled
      obtain ⟨settles, done, -⟩ := ih ticks.neat (by omega)
      exact ⟨ticks.trans settles, done, fun _ => Nat.lt_of_le_of_lt settles.shots spent⟩

/-! ### Time -/

/-- Time moves to a moment, and no timer that has come due is left. -/
structure Reaches (target : Int) (d e : Desk) : Prop where
  now : e.loop.now = target
  script : e.script.length ≤ d.script.length
  ahead : ∀ due, outstanding e.course = some due → target < due
  neat : e.Neat

theorem Reaches.after {target : Int} (h : Reaches target e f)
    (script : e.script.length ≤ d.script.length) : Reaches target d f :=
  ⟨h.now, Nat.le_trans h.script script, h.ahead, h.neat⟩

/-- Where nothing is left to run, the outstanding timer is the next one of the loop. -/
theorem Neat.next_due (neat : d.Neat) (settled : d.loop.isSettled = true) :
    outstanding d.course = d.loop.timers.head?.map Timer.due := by
  cases neat.poised with
  | idle nothing _ _ timers => rw [nothing, timers]; rfl
  | waiting id due set _ _ timers _ => rw [set, timers]; rfl
  | ready id _ _ batch _ => simp [Loop.isSettled, batch] at settled

/-- The clock shows another time, before the outstanding timer comes due. -/
theorem reaches_setTime {target : Int} (neat : d.Neat) (settled : d.loop.isSettled = true)
    (ahead : ∀ due, outstanding d.course = some due → target < due) :
    Reaches target d (machine.setTime d target) := by
  obtain ⟨poised, queue, faithful, told⟩ := neat
  refine ⟨rfl, Nat.le_refl _, ahead, ?_, queue, faithful, told⟩
  cases poised with
  | idle nothing armed batch timers => exact .idle nothing armed batch timers
  | waiting id due set armed batch timers _ =>
    exact .waiting id due set armed batch timers (Int.le_of_lt (ahead due set))
  | ready id _ _ batch _ => simp [Loop.isSettled, batch] at settled

/-- The clock goes on to the next timer, which is due then. -/
theorem neat_jump {t : Timer} {rest : List Timer} (neat : d.Neat)
    (settled : d.loop.isSettled = true)
    (next : d.loop.timers = t :: rest) :
    (machine.setTime d t.due).Neat ∧ (machine.setTime d t.due).loop.isSettled = false := by
  obtain ⟨poised, queue, faithful, told⟩ := neat
  cases poised with
  | idle _ _ _ timers => cases next.symm.trans timers
  | waiting id due set armed batch timers _ =>
    obtain ⟨rfl, rfl⟩ := List.cons.inj (next.symm.trans timers)
    refine ⟨⟨.waiting id due set armed batch timers (Int.le_refl _), queue, faithful, told⟩, ?_⟩
    simp [Machine.setTime, machine, Loop.isSettled, Loop.isDue, timers]
  | ready id _ _ batch _ => simp [Loop.isSettled, batch] at settled

/-- **Time passes from timer to timer**: each is run when it comes due, which spends a shot. -/
theorem reaches_advanceTo {fuel rounds : Nat} {target : Int} (neat : d.Neat)
    (enough : d.shots ≤ fuel) (left : (machine.settle fuel d).shots ≤ rounds) :
    Reaches target d (machine.advanceTo fuel target rounds d) := by
  induction rounds generalizing d with
  | zero =>
    obtain ⟨settles, settled, -⟩ := spends_settle neat enough
    -- without a shot nothing is outstanding
    have nothing : outstanding (machine.settle fuel d).course = none := by
      cases settles.neat.poised with
      | idle nothing => exact nothing
      | waiting _ _ _ armed => simp [shots, armed] at left
      | ready _ _ armed => simp [shots, armed] at left
    have moved : Reaches target (machine.settle fuel d) _ :=
      reaches_setTime settles.neat settled (by simp [nothing])
    exact moved.after settles.script
  | succ rounds ih =>
    obtain ⟨settles, settled, -⟩ := spends_settle neat enough
    have due := settles.neat.next_due settled
    unfold Machine.advanceTo
    simp only
    split
    next none =>
      rw [show (machine.settle fuel d).loop.timers = [] from none] at due
      have moved : Reaches target (machine.settle fuel d) _ :=
        reaches_setTime settles.neat settled (by simp [due])
      exact moved.after settles.script
    next t rest next =>
      have next : (machine.settle fuel d).loop.timers = t :: rest := next
      rw [next] at due
      split
      next ahead =>
        have moved : Reaches target (machine.settle fuel d) _ :=
          reaches_setTime settles.neat settled (by simp [due, ahead])
        exact moved.after settles.script
      next =>
        obtain ⟨neat', open_⟩ := neat_jump settles.neat settled next
        have enough' : (machine.setTime (machine.settle fuel d) t.due).shots ≤ fuel :=
          Nat.le_trans settles.shots enough
        have spent := (spends_settle neat' enough').2.2 open_
        have reached : Reaches target _ _ :=
          ih neat' enough' (Nat.le_of_lt_succ (Nat.lt_of_lt_of_le spent left))
        exact reached.after settles.script

/-! ### All moves -/

variable {patience : Nat}

/-- A patience beyond the length of the script lets time pass. -/
theorem reaches_advance (neat : d.Neat) (enough : d.script.length < patience) (ms : Nat) :
    Reaches (d.loop.now + ms) d (machine.advance patience ms d) := by
  have patient : d.shots ≤ patience := Nat.le_trans (shots_le d) enough
  have settles := (spends_settle neat patient).1
  exact reaches_advanceTo neat patient (Nat.le_trans settles.shots patient)

theorem neat_move (neat : d.Neat) (enough : d.script.length < patience) (m : Move) :
    (d.move patience m).Neat ∧ (d.move patience m).script.length ≤ d.script.length := by
  cases m with
  | schedule delay =>
    have kept := keeps_schedule d delay
    exact ⟨kept.neat neat, Nat.le_of_eq (congrArg List.length kept.script)⟩
  | cancel => exact ⟨(keeps_cancel d).neat neat, Nat.le_refl _⟩
  | openTick => exact ⟨(spends_openTick neat).1.neat, Nat.le_refl _⟩
  | step => exact ⟨(spends_step neat).1.neat, (spends_step neat).1.script⟩
  | advance ms =>
    have reached := reaches_advance neat enough ms
    exact ⟨reached.neat, reached.script⟩

theorem neat_opened (script : List (List Action)) (log : Log.Board) (now : Int) :
    (opened script log now).Neat := ⟨.idle rfl rfl rfl rfl, rfl, trivial, rfl⟩

/-- The debouncer is in good order after all moves. -/
theorem neat_moves (script : List (List Action)) (log : Log.Board) (now : Int)
    (enough : script.length < patience) (ms : List Move) :
    ((opened script log now).moves patience ms).Neat ∧
      ((opened script log now).moves patience ms).script.length < patience := by
  have first : (opened script log now).Neat ∧ (opened script log now).script.length < patience :=
    ⟨neat_opened script log now, enough⟩
  generalize opened script log now = d at first
  induction ms generalizing d with
  | nil => exact first
  | cons m ms ih =>
    obtain ⟨neat, script⟩ := neat_move first.1 first.2 m
    exact ih _ ⟨neat, Nat.lt_of_le_of_lt script first.2⟩

/-! ### What becomes of a timer that is set -/

/-- What becomes of a timer that comes due at a moment, by what was noted after it was set, latest
first: it is outstanding, the debouncer was set anew or cleared, or the callback was called. -/
inductive Lot (now due : Int) : List Deed → Prop where
  | outstanding (ahead : now ≤ due) : Lot now due []
  | reset (later : List Deed) (now' delay : Int) : Lot now due (later ++ [.scheduled now' delay])
  | cleared (later : List Deed) : Lot now due (later ++ [.cancelled])
  | fired (later : List Deed) : Lot now due (later ++ [.fired due])

end Desk

/-- Each call of the callback follows the setting of its timer. -/
theorem Faithful.fired {course later earlier : List Deed} {now : Int} (h : Faithful course)
    (eq : course = later ++ .fired now :: earlier) :
    ∃ s delay before, earlier = .scheduled s delay :: before ∧ now = s + max delay 0 := by
  induction later generalizing course with
  | nil =>
    subst eq
    obtain ⟨set, -⟩ := h
    cases earlier with
    | nil => cases set
    | cons deed before =>
      cases deed with
      | scheduled s delay => exact ⟨s, delay, before, rfl, (Option.some.inj set).symm⟩
      | cancelled => cases set
      | fired => cases set
  | cons deed later ih =>
    subst eq
    have rest : Faithful (later ++ .fired now :: earlier) := by
      cases deed with
      | scheduled => exact h
      | cancelled => exact h
      | fired => exact h.2
    exact ih rest rfl

namespace Desk

theorem lot_of_neat {d : Desk} (neat : d.Neat) {later earlier : List Deed} {s delay : Int}
    (eq : d.course = later ++ .scheduled s delay :: earlier) :
    Lot d.loop.now (s + max delay 0) later := by
  rcases List.eq_nil_or_concat' later with rfl | ⟨rest, deed, rfl⟩
  · have set : Debounce.outstanding d.course = some (s + max delay 0) := by rw [eq]; rfl
    refine .outstanding ?_
    cases neat.poised with
    | idle nothing => cases nothing.symm.trans set
    | waiting id due set' _ _ _ ahead =>
      obtain rfl := Option.some.inj (set'.symm.trans set)
      exact ahead
    | ready id set' =>
      exact Int.le_of_eq (Option.some.inj (set'.symm.trans set))
  · cases deed with
    | scheduled now' delay' => exact .reset rest now' delay'
    | cancelled => exact .cleared rest
    | fired now =>
      rw [List.append_assoc] at eq
      obtain ⟨s', delay', before, same, rfl⟩ := neat.faithful.fired eq
      obtain ⟨⟨rfl, rfl⟩, -⟩ := List.cons.inj same |>.imp Deed.scheduled.inj id
      exact .fired rest

/-- **Each time that the debouncer was set, the callback is called once, when the timer comes due,
unless the debouncer was set anew or cleared before; and it is not called otherwise.** The loop
never holds two timers, one is pending exactly while one is outstanding, and none that has come due
is left when time has passed. The moves may come at any moment of a tick. -/
theorem fires_once {patience : Nat} (script : List (List Action)) (log : Log.Board) (start : Int)
    (enough : script.length < patience) (ms : List Move) :
    let d := (opened script log start).moves patience ms
    (∀ later s delay earlier, d.course = later ++ .scheduled s delay :: earlier →
      Lot d.loop.now (s + max delay 0) later) ∧
    (∀ later now earlier, d.course = later ++ .fired now :: earlier →
      ∃ s delay before, earlier = .scheduled s delay :: before ∧ now = s + max delay 0) ∧
    d.journal.filterMap Happening.fired? = (d.course.filterMap Deed.fired?).reverse ∧
    d.loop.timerIds.length ≤ 1 ∧
    d.isPending = (Debounce.outstanding d.course).isSome ∧
    ∀ n : Nat, (d.move patience (.advance n)).loop.now = d.loop.now + n ∧
      ∀ due, Debounce.outstanding (d.move patience (.advance n)).course = some due →
        d.loop.now + n < due := by
  intro d
  obtain ⟨neat, left⟩ : d.Neat ∧ d.script.length < patience := neat_moves script log start enough ms
  refine ⟨fun _ _ _ _ eq => lot_of_neat neat eq, fun _ _ _ eq => neat.faithful.fired eq, neat.told,
    ?_, ?_, fun n => ?_⟩
  · cases neat.poised with
    | idle _ _ batch timers => simp [Loop.timerIds, batch, timers, neat.queue]
    | waiting _ _ _ _ batch timers => simp [Loop.timerIds, batch, timers, neat.queue]
    | ready _ _ _ batch timers => simp [Loop.timerIds, batch, timers, neat.queue]
  · cases neat.poised with
    | idle nothing armed => simp [isPending, nothing, armed]
    | waiting _ _ set armed => simp [isPending, set, armed]
    | ready _ set armed => simp [isPending, set, armed]
  · have reached := reaches_advance neat left n
    exact ⟨reached.now, reached.ahead⟩

/-- The debouncer is set anew before its timer comes due; then the callback sets it twice, the
second time for no time at all. -/
def rearmedMoves : List Move := [.schedule 10, .advance 4, .schedule 10, .openTick, .advance 20]

theorem fires_once_rearmed :
    let script := [[Action.schedule 5], [.cancel, .schedule (-3)]]
    let d := (opened script {} 0).moves 3 rearmedMoves
    script.length < 3 ∧ d.journal.filterMap Happening.fired? = [14, 19, 19] ∧
      d.isPending = false ∧ d.loop.timerIds.length ≤ 1 := by
  intro script d
  have enough : script.length < 3 := by decide
  obtain ⟨-, -, told, one, pending, -⟩ := fires_once script {} 0 enough rearmedMoves
  refine ⟨enough, ?_, pending.trans ?_, one⟩
  · rw [told]
    decide +kernel
  · decide +kernel

end Desk

end Playground.Debounce
