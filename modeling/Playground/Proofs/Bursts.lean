import Mathlib.Data.List.Chain
import Playground.Proofs.Quiescence
import Playground.Proofs.Solitary
import Playground.Proofs.Timers

/-!
# Bursts of edits

An edit that changes more than the white space around the text sets the timer anew, any other leaves
it alone. So a burst of edits, each made before the timer of the one before comes due, leads to one
compile, of the text as it is in the end.

* `Edit`, `Session.edits` — edits that are made one after the other.
* `Edit.times`, `Edit.changes`, `Edit.Burst` — when they are made, which of them set the timer, and
  that none of them comes too late.
* `Waits` — what is the case while the timer runs.
* `waits_edits` — it is the case after all edits of a burst.
* `Waits.advance_due` — what happens when the timer comes due.
* `edits_coalesce`, `edits_dropped` — what is compiled, and when; and when nothing is.
-/

namespace Playground

open Playground.Text Playground.Clock

/-- An edit, and how long after what came before it is made. -/
structure Edit where
  after : Nat
  text : String

namespace Edit

def times (now : Int) : List Edit → List Int
  | [] => []
  | e :: es => (now + e.after) :: times (now + e.after) es

/-- When the edits are made that change more than the white space around the text. -/
def changes (now : Int) (text : String) : List Edit → List Int
  | [] => []
  | e :: es =>
    let rest := changes (now + e.after) e.text es
    if trimmed e.text = trimmed text then rest else (now + e.after) :: rest

def last (text : String) (es : List Edit) : String := es.foldl (fun _ e => e.text) text

/-- Each edit that sets the timer is made before the timer of the one before it comes due, and all
others are made before that of the last one does. -/
structure Burst (D now : Int) (text : String) (es : List Edit) : Prop where
  close : (changes now text es).IsChain fun t t' => t' < t + D
  rest : ∀ t ∈ (changes now text es).getLast?, ∀ t' ∈ times now es, t' < t + D

instance (D now : Int) (text : String) (es : List Edit) : Decidable (Burst D now text es) :=
  decidable_of_iff ((changes now text es).IsChain (fun t t' => t' < t + D) ∧
    ∀ t ∈ (changes now text es).getLast?, ∀ t' ∈ times now es, t' < t + D)
    ⟨fun h => ⟨h.1, h.2⟩, fun h => ⟨h.1, h.2⟩⟩

/-- Time goes by. -/
theorem le_of_mem_changes {now t : Int} {text : String} {es : List Edit}
    (h : t ∈ changes now text es) : now ≤ t := by
  induction es generalizing now text with
  | nil => cases h
  | cons e es ih =>
    unfold changes at h
    have later (h : t ∈ changes (now + e.after) e.text es) : now ≤ t := by
      have := ih h
      omega
    simp only at h
    split at h
    · exact later h
    · rcases List.mem_cons.1 h with rfl | h
      · omega
      · exact later h

/-- No edit is made after the timer comes due that the last change set. -/
theorem early {now t D : Int} {text : String} {e : Edit} {es : List Edit}
    (close : (t :: changes now text (e :: es)).IsChain fun t t' => t' < t + D)
    (rest : ∀ l ∈ (t :: changes now text (e :: es)).getLast?, now + e.after < l + D) :
    now + e.after < t + D := by
  cases later : changes now text (e :: es) with
  | nil => exact rest t (by simp [later])
  | cons c cs =>
    rw [later] at close
    have here : now + e.after ≤ c := by
      have there : c ∈ changes now text (e :: es) := later ▸ List.mem_cons_self
      unfold changes at there
      simp only at there
      split at there
      · exact le_of_mem_changes there
      · rcases List.mem_cons.1 there with rfl | there
        · exact Int.le_refl _
        · exact le_of_mem_changes there
    have soon : c < t + D := (List.isChain_cons_cons.1 close).1
    omega

end Edit

namespace Session

variable {s u : Session Action} {due : Option Int} {d : Int}

def edits : List Edit → Session Action → Session Action
  | [], s => s
  | e :: es, s => edits es (perform (.input e.text) (s.advance e.after)).1

/-! ### While the timer runs -/

/-- How the timer stands: it is not set, or it comes due at a later moment. -/
inductive Timed : Option Int → Session Action → Prop where
  | unset (u : Session Action) (armed : u.armed = none) (timers : u.loop.timers = []) :
      Timed none u
  | set (u : Session Action) (id : Nat) (due : Int) (armed : u.armed = some id)
      (timers : u.loop.timers = [⟨due, id⟩]) (ahead : u.loop.now < due) : Timed (some due) u

/-- Only the loop and the handle of the timer matter. -/
theorem Timed.of_loop {t : Session Action} (h : Timed due u) (loop : t.loop = u.loop)
    (armed : t.armed = u.armed) : Timed due t := by
  cases h with
  | unset _ unarmed timers => exact .unset t (armed.trans unarmed) (loop ▸ timers)
  | set _ id d set timers ahead =>
    exact .set t id d (armed.trans set) (loop ▸ timers) (loop ▸ ahead)

/-- Since the session was `s`, nothing has happened but edits. -/
structure Waits (due : Option Int) (s u : Session Action) : Prop where
  stance : u.stance = { s.stance with
    loop := u.loop, armed := u.armed
    source := u.state.source, lastTextInput := u.state.lastTextInput }
  outfit : u.outfit = s.outfit
  passive : u.Admits Action.Passive
  cuts : s.core.cuts ≤ u.core.cuts
  text : u.state.lastTextInput = trimmed u.state.source
  batch : u.loop.batch = []
  queue : u.loop.queue = []
  timed : Timed due u

theorem Waits.settle (h : Waits due s u) : machine.settle patience u = u := by
  refine if_pos ?_
  show u.loop.isSettled = true
  cases h.timed with
  | unset _ _ timers => simp [Loop.isSettled, h.batch, h.queue, timers]
  | set _ id d _ timers ahead =>
    have later : ¬ d ≤ u.loop.now := Int.not_le.2 ahead
    simp [Loop.isSettled, Loop.isDue, h.batch, h.queue, timers, later]

/-- Before the timer comes due, nothing happens. -/
theorem Waits.advance (h : Waits due s u) {ms : Nat}
    (early : ∀ d ∈ due, u.loop.now + ms < d) :
    u.advance ms = machine.setTime u (u.loop.now + ms) := by
  -- the patience, written as a successor: one of its rounds is opened
  show machine.advanceTo patience (u.loop.now + ms) (99999 + 1) u = _
  cases h.timed with
  | unset _ armed timers => exact Blank.advanceTo ⟨h.batch, h.queue, timers⟩ _ _ _
  | set _ id d armed timers ahead =>
    unfold Machine.advanceTo
    simp only [h.settle]
    rw [show (machine.loop u).timers = [⟨d, id⟩] from timers]
    exact if_pos (early d rfl)

theorem Waits.setTime (h : Waits due s u) {now : Int} (early : ∀ d ∈ due, now < d) :
    Waits due s (machine.setTime u now) := by
  let l := (machine.setTime u now).loop
  have stance := congrArg (fun c : Stance => { c with loop := l }) h.stance
  refine ⟨stance, h.outfit, h.passive.of_eq rfl rfl, h.cuts, h.text, h.batch, h.queue, ?_⟩
  cases h.timed with
  | unset _ armed timers => exact .unset _ armed timers
  | set _ id d armed timers _ => exact .set _ id d armed timers (early d rfl)

/-- Whatever is done without triggering anything leaves it so. -/
theorem Waits.still (h : Waits due s u) {v : Session Action} (still : Still u v)
    (outfit : v.outfit = u.outfit) : Waits due s v := by
  have loop : v.loop = u.loop := congrArg Stance.loop still.stance
  have armed : v.armed = u.armed := congrArg Stance.armed still.stance
  have source : v.state.source = u.state.source := congrArg Stance.source still.stance
  have last : v.state.lastTextInput = u.state.lastTextInput :=
    congrArg Stance.lastTextInput still.stance
  refine ⟨?_, outfit.trans h.outfit, still.passive h.passive, Nat.le_trans h.cuts still.cuts, ?_,
    loop ▸ h.batch, loop ▸ h.queue, h.timed.of_loop loop armed⟩
  · rw [loop, armed, source, last]
    exact still.stance.trans h.stance
  · rw [last, source]
    exact h.text

/-- The timer is set anew. -/
theorem Waits.rearm (h : Waits due s u)
    (accepted : Debounce.isAccepted u.settings.autoCompileDelayMs = true)
    (positive : 0 < u.settings.autoCompileDelayMs) :
    Waits (some (u.loop.now + u.settings.autoCompileDelayMs)) s u.rearm.1 ∧
      u.rearm.1.loop.now = u.loop.now := by
  have cleared : Debounce.cancel u.armed u.loop = { u.loop with timers := [] } := by
    cases h.timed with
    | unset _ armed timers =>
      rw [armed, ← timers]
      rfl
    | set _ id d armed timers _ =>
      rw [armed]
      simp [Debounce.cancel, Loop.cancel, h.batch, h.queue, timers]
  have set : u.rearm.1 = { u with
      loop := ({ u.loop with timers := [] } : Loop Job).arm u.settings.autoCompileDelayMs
      armed := some u.loop.nextTimer } := by
    unfold Session.rearm Debounce.schedule
    rw [cleared, accepted]
    rfl
  rw [set]
  refine ⟨⟨?_, h.outfit, h.passive.of_eq rfl rfl, h.cuts, h.text, h.batch, h.queue, ?_⟩, rfl⟩
  · exact congrArg (fun c : Stance => { c with
      loop := ({ u.loop with timers := [] } : Loop Job).arm u.settings.autoCompileDelayMs
      armed := some u.loop.nextTimer }) h.stance
  · refine .set _ u.loop.nextTimer _ rfl ?_ ?_
    · show [(⟨u.loop.now + max u.settings.autoCompileDelayMs 0, _⟩ : Timer)] = _
      rw [Int.max_eq_left (Int.le_of_lt positive)]
    · show u.loop.now < u.loop.now + u.settings.autoCompileDelayMs
      omega

/-- An edit sets the timer anew if it changes more than the white space around the text. -/
theorem Waits.edit (h : Waits due s u) (alive : u.state.alive = true)
    (auto : u.state.compileMode = .auto)
    (accepted : Debounce.isAccepted u.settings.autoCompileDelayMs = true)
    (positive : 0 < u.settings.autoCompileDelayMs) (text : String) :
    Waits (if trimmed text = trimmed u.state.source then due
        else some (u.loop.now + u.settings.autoCompileDelayMs)) s (u.edit text) ∧
      (u.edit text).loop.now = u.loop.now ∧ (u.edit text).state.source = text := by
  unfold Session.edit
  simp only
  rw [show (u.modifyState fun st => { st with source := text }).state.lastTextInput =
    trimmed u.state.source from h.text]
  by_cases same : trimmed text = trimmed u.state.source
  · rw [if_pos same, if_pos same]
    have stance := congrArg (fun c : Stance => { c with source := text }) h.stance
    exact ⟨⟨stance, h.outfit, h.passive.of_eq rfl rfl, h.cuts, h.text.trans same.symm, h.batch,
      h.queue, h.timed.of_loop rfl rfl⟩, rfl, rfl⟩
  · rw [if_neg same, if_neg same]
    let noted := (u.modifyState fun st => { st with source := text }).modifyState fun st =>
      { st with lastTextInput := trimmed text }
    have stance := congrArg (fun c : Stance => { c with
      source := text, lastTextInput := trimmed text }) h.stance
    have waits : Waits due s noted :=
      ⟨stance, h.outfit, h.passive.of_eq rfl rfl, h.cuts, rfl, h.batch, h.queue,
        h.timed.of_loop rfl rfl⟩
    have due : (noted.state.alive && noted.state.compileMode = .auto) = true := by
      simp [noted, modifyState, alive, auto]
    rw [if_pos due]
    obtain ⟨set, now⟩ := waits.rearm accepted positive
    refine ⟨set, now, ?_⟩
    unfold Session.rearm
    split <;> rfl

theorem perform_input (text : String) (s : Session Action) :
    (perform (.input text) s).1 = (s.input Session.react text).1 := by
  unfold perform
  rcases hx : s.input Session.react text with ⟨t, result⟩
  simp only [act, hx]

theorem Waits.input (h : Waits due s u) (alive : u.state.alive = true)
    (auto : u.state.compileMode = .auto)
    (accepted : Debounce.isAccepted u.settings.autoCompileDelayMs = true)
    (positive : 0 < u.settings.autoCompileDelayMs) (text : String) :
    Waits (if trimmed text = trimmed u.state.source then due
        else some (u.loop.now + u.settings.autoCompileDelayMs)) s (perform (.input text) u).1 ∧
      (perform (.input text) u).1.loop.now = u.loop.now ∧
      (perform (.input text) u).1.state.source = text := by
  obtain ⟨edited, now, source⟩ := h.edit alive auto accepted positive text
  have told := nudges_after_edit reacts_react h.passive text
  have still := still_nudges told
  rw [perform_input]
  generalize (u.input Session.react text).1 = v at told still ⊢
  generalize u.edit text = w at edited now source told still
  exact ⟨edited.still still (outfit_nudges told),
    (congrArg (fun c : Stance => c.loop.now) still.stance).trans now,
    (congrArg Stance.source still.stance).trans source⟩

/-! ### Bursts -/

structure Uncompiled (s v : Session Action) : Prop where
  runs : v.stance.runs = s.stance.runs
  asked : v.stance.asked = s.stance.asked
  calls : v.outfit.calls = s.outfit.calls

/-- Edits were made, the session shows the last text, and nothing was compiled. -/
structure Edited (now : Int) (text : String) (es : List Edit) (s v : Session Action) : Prop where
  clock : v.loop.now = (Edit.times now es).getLastD now
  source : v.state.source = Edit.last text es
  uncompiled : Uncompiled s v

theorem Waits.uncompiled (h : Waits due s u) : Uncompiled s u :=
  ⟨(congrArg Stance.runs h.stance).trans rfl, (congrArg Stance.asked h.stance).trans rfl,
    congrArg Outfit.calls h.outfit⟩

theorem Waits.edited (h : Waits due s u) : Edited u.loop.now u.state.source [] s u :=
  ⟨rfl, rfl, h.uncompiled⟩

theorem Edited.cons {now : Int} {text : String} {e : Edit} {es : List Edit}
    (h : Edited (now + e.after) e.text es s u) : Edited now text (e :: es) s u where
  clock := by
    rw [h.clock, Edit.times, List.getLastD_cons]
  source := h.source
  uncompiled := h.uncompiled

/-- An edit is made before the timer comes due. -/
theorem Waits.made {D : Int} (delay : s.settings.autoCompileDelayMs = D)
    (alive : s.state.alive = true) (auto : s.state.compileMode = .auto)
    (accepted : Debounce.isAccepted D = true) (positive : 0 < D) (h : Waits due s u) {e : Edit}
    (early : ∀ d ∈ due, u.loop.now + e.after < d) :
    let v := (perform (.input e.text) (u.advance e.after)).1
    Waits (if trimmed e.text = trimmed u.state.source then due else some (u.loop.now + e.after + D))
        s v ∧
      v.loop.now = u.loop.now + e.after ∧ v.state.source = e.text := by
  have waits := h.setTime early
  rw [h.advance early]
  have settings : (machine.setTime u (u.loop.now + e.after)).settings = s.settings :=
    congrArg Stance.settings h.stance
  have made := waits.input ((congrArg Stance.alive h.stance).trans alive)
    ((congrArg Stance.compileMode h.stance).trans auto) (by rw [settings, delay]; exact accepted)
    (by rw [settings, delay]; exact positive) e.text
  rw [settings, delay] at made
  exact made

/-- **While each edit is made before the timer comes due, nothing happens but edits.** The timer is
set to come due after the last of them that changed more than the white space around the text. -/
theorem waits_edits {D : Int} (delay : s.settings.autoCompileDelayMs = D)
    (alive : s.state.alive = true) (auto : s.state.compileMode = .auto)
    (accepted : Debounce.isAccepted D = true) (positive : 0 < D) {latest : Option Int}
    {es : List Edit} (h : Waits (latest.map (· + D)) s u)
    (close : (latest.toList ++ Edit.changes u.loop.now u.state.source es).IsChain
      fun t t' => t' < t + D)
    (rest : ∀ t ∈ (latest.toList ++ Edit.changes u.loop.now u.state.source es).getLast?,
      ∀ t' ∈ Edit.times u.loop.now es, t' < t + D) :
    Waits ((latest.toList ++ Edit.changes u.loop.now u.state.source es).getLast?.map (· + D)) s
        (u.edits es) ∧
      ∀ es', es' <+: es → Edited u.loop.now u.state.source es' s (u.edits es') := by
  -- on the edits that are left; `latest` is the one before them that set the timer
  induction es generalizing u latest with
  | nil =>
    refine ⟨?_, fun es' first => ?_⟩
    · show Waits ((latest.toList ++ []).getLast?.map (· + D)) s u
      cases latest <;> exact h
    · obtain rfl := List.prefix_nil.1 first
      exact h.edited
  | cons e es ih =>
    have early : ∀ d ∈ latest.map (· + D), u.loop.now + e.after < d := by
      intro d hd
      cases latest with
      | none => cases hd
      | some t =>
        obtain rfl := Option.some.inj hd
        rw [Option.toList_some, List.singleton_append] at close rest
        exact Edit.early close fun l hl => rest l hl _ List.mem_cons_self
    obtain ⟨made, clock, source⟩ := h.made delay alive auto accepted positive early
    have onward (es' : List Edit) (first : es' <+: e :: es)
        (edited : ∀ es'', es'' <+: es → Edited (u.loop.now + e.after) e.text es'' s
          ((perform (.input e.text) (u.advance e.after)).1.edits es'')) :
        Edited u.loop.now u.state.source es' s (u.edits es') := by
      rcases List.prefix_cons_iff.1 first with rfl | ⟨es'', rfl, short⟩
      · exact h.edited
      · exact (edited es'' short).cons
    rw [edits]
    generalize (perform (.input e.text) (u.advance e.after)).1 = v at made clock source onward ⊢
    unfold Edit.changes at close rest ⊢
    unfold Edit.times at rest
    simp only at close rest ⊢
    rw [← clock, ← source] at close rest onward ⊢
    rw [← clock, ← source] at made
    have later {t : Int} (due : ∀ t' ∈ v.loop.now :: Edit.times v.loop.now es, t' < t + D) :
        ∀ t' ∈ Edit.times v.loop.now es, t' < t + D :=
      fun t' ht' => due t' (List.mem_cons_of_mem _ ht')
    -- either the timer stands as before, or the edit is now the one that set it
    by_cases same : trimmed v.state.source = trimmed u.state.source
    · rw [if_pos same] at made close rest ⊢
      obtain ⟨waits, edited⟩ := ih made close fun t ht => later (rest t ht)
      exact ⟨waits, fun es' first => onward es' first edited⟩
    · rw [if_neg same] at made close rest ⊢
      rw [List.getLast?_append_of_ne_nil _ (List.cons_ne_nil _ _)] at rest ⊢
      have set : Waits ((some v.loop.now).map (· + D)) s v := made
      obtain ⟨waits, edited⟩ := ih set close.right_of_append fun t ht => later (rest t ht)
      exact ⟨waits, fun es' first => onward es' first edited⟩

/-! ### After the burst -/

/-- When the timer comes due, its coroutine is called. -/
theorem Waits.fire (h : Waits (some d) s u) (awake : s.Awake) :
    Phase u.state.source s 7 (machine.tick (machine.setTime u d)) := by
  obtain ⟨stance, outfit, passive, cuts, text, batch, queue, timed⟩ := h
  cases timed with
  | set _ id _ armed timers _ =>
    have opened : (machine.setTime u d).loop.openTick =
        { u.loop with now := d, batch := [.timer id], timers := [] } := by
      show ({ u.loop with now := d } : Loop Job).openTick = _
      simp [Loop.openTick, Loop.isDue, batch, queue, timers]
    let w : Session Action := { u with
      loop := { u.loop with now := d, batch := [], timers := [] }
      armed := none, nextTask := u.nextTask + 1
      timerTasks := u.timerTasks ++ [{ id := u.nextTask }] }
    have fired : machine.tick (machine.setTime u d) =
        w.enqueue (.resume (.timer u.nextTask) (.fresh (.compile none))) := by
      show machine.drain { u with loop := (machine.setTime u d).loop.openTick } = _
      rw [opened]
      exact if_pos armed
    have unarmed : w.armed = s.armed := awake.armed.symm
    have tasks : w.timerTasks = [{ id := u.nextTask }] := by
      have none : u.timerTasks = [] := (congrArg Stance.tasks stance).trans awake.tasks
      show u.timerTasks ++ _ = _
      rw [none]
      rfl
    have blank : w.Blank := ⟨rfl, queue, rfl⟩
    rw [fired]
    refine .called u.nextTask _ (blank.enqueue _) ?_ outfit (passive.of_eq rfl rfl) cuts
    show ({ u.stance with loop := _, armed := w.armed, tasks := w.timerTasks } : Stance) = _
    rw [unarmed, tasks, stance]
    rfl

/-- **Once the timer has come due, the text was compiled**, and nothing more is, however long it
takes. -/
theorem Waits.advance_due (h : Waits (some d) s u) (awake : s.Awake) {ms : Nat}
    (due : d ≤ u.loop.now + ms) :
    ∃ v, Phase u.state.source s 0 v ∧ u.advance ms = machine.setTime v (u.loop.now + ms) := by
  have called := h.fire awake
  have still := h.settle
  cases h.timed with
  | set _ id _ armed timers ahead =>
    have unsettled : (machine.setTime u d).loop.isSettled = false := by
      show ({ u.loop with now := d } : Loop Job).isSettled = false
      simp [Loop.isSettled, Loop.isDue, timers]
    let v := machine.settle patience (machine.setTime u d)
    have compiled : Phase u.state.source s 0 v := by
      show Phase u.state.source s 0 (if (machine.setTime u d).loop.isSettled then _ else
        machine.settle 99999 (machine.tick (machine.setTime u d)))
      rw [if_neg (by simp [unsettled])]
      exact phase_settle awake (by decide) called
    -- one round goes to the moment of the timer, and the next one finds no timer left
    have first : machine.advanceTo patience (u.loop.now + ms) (99999 + 1) u =
        machine.advanceTo patience (u.loop.now + ms) 99999 (machine.setTime u d) := by
      rw [Machine.advanceTo]
      simp only [still]
      rw [show (machine.loop u).timers = [⟨d, id⟩] from timers]
      exact if_neg (Int.not_lt.2 due)
    have second : machine.advanceTo patience (u.loop.now + ms) (99998 + 1) (machine.setTime u d) =
        machine.setTime v (u.loop.now + ms) := by
      rw [Machine.advanceTo]
      rw [show (machine.loop (machine.settle patience (machine.setTime u d))).timers = [] from
        (blank_of_phase compiled).1.timers]
    exact ⟨v, compiled, first.trans second⟩

/-! ### Idle sessions -/

/-- A loop without jobs and timers is empty. -/
theorem blank_of_idle (tidy : s.Tidy) (idle : s.Idle) : s.Blank := by
  have timers : s.loop.timerIds = [] := by
    have sole := tidy.sole
    rw [idle.armed] at sole
    exact sole.timerIds_nil
  have jobs : (s.loop.batch ++ s.loop.queue).filterMap Entry.job? = [] := idle.jobs
  obtain ⟨entries, armed⟩ := List.append_eq_nil_iff.1 timers
  have empty : s.loop.batch ++ s.loop.queue = [] := by
    refine List.eq_nil_iff_forall_not_mem.2 fun e he => ?_
    cases e with
    | timer id => cases List.filterMap_eq_nil_iff.1 entries _ he
    | job j => cases List.filterMap_eq_nil_iff.1 jobs _ he
  obtain ⟨batch, queue⟩ := List.append_eq_nil_iff.1 empty
  exact ⟨batch, queue, List.map_eq_nil_iff.1 armed⟩

theorem waits_of_idle (o : Opening) (ms : List Move) (idle : (o.session.moves ms).Idle)
    (passive : (o.session.moves ms).Admits Action.Passive) :
    Waits none (o.session.moves ms) (o.session.moves ms) := by
  have blank : (o.session.moves ms).Blank := blank_of_idle (tidy_moves o ms) idle
  exact ⟨rfl, rfl, passive, Nat.le_refl _, compared_moves o ms, blank.batch, blank.queue,
    .unset _ idle.armed blank.timers⟩

/-- **A burst of edits leads to one compile.** It is begun when the timer comes due that the last of
them set, not earlier, and no other one is; the compiler gets the text as it is in the end. Edits
that only change the white space around the text lead to none. -/
theorem edits_coalesce (o : Opening) (ms : List Move) (es : List Edit) {s : Session Action}
    (reached : o.session.moves ms = s) (awake : s.Awake) (auto : s.state.compileMode = .auto)
    (passive : s.Admits Action.Passive) {D : Int} (delay : s.settings.autoCompileDelayMs = D)
    (positive : 0 < D) (accepted : Debounce.isAccepted D = true)
    (burst : Edit.Burst D s.loop.now s.state.source es) :
    (∀ es', es' <+: es → Edited s.loop.now s.state.source es' s (s.edits es')) ∧
      ∀ wait : Nat,
        let text := Edit.last s.state.source es
        let v := (s.edits es).advance wait
        v.loop.now = (s.edits es).loop.now + wait ∧ v.state.source = text ∧
          match (Edit.changes s.loop.now s.state.source es).getLast? with
          | none => v.armed = none ∧ v.loop.timers = [] ∧ Uncompiled s v
          | some t =>
            (v.loop.now < t + D → v.armed.isSome = true ∧ Uncompiled s v) ∧
              (t + D ≤ v.loop.now → v.armed = none ∧ v.loop.timers = [] ∧ Compiled text s v) := by
  subst reached
  have idle : Waits ((none : Option Int).map (· + D)) _ _ := waits_of_idle o ms awake.toIdle passive
  obtain ⟨waits, edited⟩ := waits_edits delay awake.alive auto accepted positive idle burst.close
    burst.rest
  refine ⟨edited, fun wait => ?_⟩
  have source := (edited es List.prefix_rfl).source
  rw [Option.toList_none, List.nil_append] at waits
  generalize (o.session.moves ms).edits es = u at waits source ⊢
  rw [← source]
  simp only
  cases last : (Edit.changes (o.session.moves ms).loop.now (o.session.moves ms).state.source
      es).getLast? with
  | none =>
    rw [last] at waits
    have before : ∀ d ∈ (none : Option Int).map (· + D), u.loop.now + wait < d := nofun
    have later := waits.setTime before
    rw [waits.advance before]
    refine ⟨rfl, rfl, ?_⟩
    cases later.timed with
    | unset _ armed timers => exact ⟨armed, timers, later.uncompiled⟩
  | some t =>
    rw [last] at waits
    rcases Int.lt_or_le (u.loop.now + wait) (t + D) with early | due
    · have before : ∀ d ∈ (some t).map (· + D), u.loop.now + wait < d := by
        rintro d ⟨⟩
        exact early
      have later := waits.setTime before
      rw [waits.advance before]
      refine ⟨rfl, rfl, fun _ => ⟨?_, later.uncompiled⟩, fun due => absurd early (Int.not_lt.2 due)⟩
      cases later.timed with
      | set _ id _ armed =>
        rw [armed]
        rfl
    · obtain ⟨v, phase, advanced⟩ := waits.advance_due awake due
      obtain ⟨blank, armed, compiled⟩ := blank_of_phase phase
      rw [advanced]
      exact ⟨rfl, compiled.source, fun early => absurd early (Int.not_lt.2 due),
        fun _ => ⟨armed, blank.timers, compiled.of_eq rfl rfl rfl rfl (Nat.le_refl _)⟩⟩

/-- The session is started and has compiled. -/
def startedMoves : List Move := [.call .start] ++ smallTicks 8

/-- Without listeners, only the compilers act. -/
theorem passive_of_unheard (unheard : s.listeners.isEmpty = true)
    (compilers : ∀ c ∈ s.compilers, c.2.Admits Action.Passive) : s.Admits Action.Passive :=
  .of_compilers (fun l hl => absurd hl (by simp [List.isEmpty_iff.1 unheard])) compilers

/-- Four edits, of which the second and the last only change the white space around the text. -/
def burstEdits : List Edit := [⟨100, " y "⟩, ⟨300, "y"⟩, ⟨200, "z"⟩, ⟨799, " z"⟩]

theorem edits_coalesce_burst :
    let s := plainOpening.session.moves startedMoves
    let u := s.edits burstEdits
    u.loop.now = 1399 ∧ u.armed.isSome = true ∧ Uncompiled s u ∧ Compiled " z" s (u.advance 1) := by
  intro s
  have reached : plainOpening.session.moves startedMoves = s := rfl
  have awake : s.Awake := by decide +kernel
  have auto : s.state.compileMode = .auto := by decide +kernel
  have passive : s.Admits Action.Passive :=
    passive_of_unheard (by decide +kernel) (by decide +kernel)
  have delay : s.settings.autoCompileDelayMs = 800 := by decide +kernel
  have burst : Edit.Burst 800 s.loop.now s.state.source burstEdits := by decide +kernel
  have last : (Edit.changes s.loop.now s.state.source burstEdits).getLast? = some 600 := by
    decide +kernel
  have clock : (s.edits burstEdits).loop.now = 1399 := by decide +kernel
  have set : (s.edits burstEdits).armed.isSome = true := by decide +kernel
  clear_value s
  obtain ⟨edited, later⟩ := edits_coalesce plainOpening startedMoves burstEdits reached awake auto
    passive delay (by decide) (by decide +kernel) burst
  have uncompiled := (edited burstEdits List.prefix_rfl).uncompiled
  have compiled := later 1
  generalize s.edits burstEdits = u at clock set uncompiled compiled ⊢
  obtain ⟨now, -, due⟩ := compiled
  rw [last] at due
  refine ⟨clock, set, uncompiled, (due.2 ?_).2.2⟩
  rw [now, clock]
  decide

/-- The timer of the session cannot be set: no floating point number can hold the delay. -/
def endlessOpening : Opening :=
  { plainOpening with settings := { autoCompileDelayMs := Nat.pow 10 400 } }

/-- **A delay that is too large is not waited for**: the edit sets no timer, and when the delay is
over, its text is not compiled. -/
theorem edits_dropped :
    let s := endlessOpening.session.moves startedMoves
    let D := s.settings.autoCompileDelayMs
    let es : List Edit := [⟨0, "y"⟩]
    let v := (s.edits es).advance D
    (s.Awake ∧ s.state.compileMode = .auto ∧ s.Admits Action.Passive ∧ 0 < D ∧
        Edit.Burst D s.loop.now s.state.source es) ∧
      (Edit.changes s.loop.now s.state.source es).getLast? = some s.loop.now ∧
      v.loop.now = s.loop.now + D ∧ (s.edits es).armed = none ∧ ¬ Compiled "y" s v := by
  intro s D es v
  have passive : s.Admits Action.Passive :=
    passive_of_unheard (by decide +kernel) (by decide +kernel)
  refine ⟨⟨by decide +kernel, by decide +kernel, passive, by decide +kernel, by decide +kernel⟩,
    by decide +kernel, by decide +kernel, by decide +kernel, fun compiled => ?_⟩
  have same : v.stance.runs.length = s.stance.runs.length := by decide +kernel
  rw [compiled.runs, List.length_cons] at same
  omega

end Session

end Playground
