import Playground.Proofs.Lockstep
import Playground.Proofs.Refits
import Playground.Proofs.Requests

/-!
# Decompile clicks

To decompile is declared and not supported. A click that asks for it clears the timer, as every
click does first, leaves a message in the log and is over, without giving way once. So a run with
such clicks anywhere in it is the run in which the timer is cleared at these points and nothing
else.

* `SameButLog` — two sessions with nothing but their logs to tell them apart.
* `indifferent_log` — no session ever looks at its log.
* `Session.clickDecompile`, `step_clickDecompile` — a decompile click, called at once or waiting in
  the queue.
* `Beat`, `Session.beats`, `Session.callsIn` — runs with clicks put in, and the compile calls in
  them.
* `decompile_clears` — what the clicks of a run change.
* `decompile_drops_edit` — a click that is the end of the compile of an edit.
-/

namespace Playground

open Playground.Clock

def Effect.isLogged : Effect → Bool
  | .logged .. => true
  | _ => false

def Session.unlogged (s : Session Action) : Session Action :=
  { s with log := {}, journal := s.journal.filter fun e => !e.isLogged }

/-- Two sessions with nothing but their logs to tell them apart. -/
def SameButLog (s t : Session Action) : Prop := s.unlogged = t.unlogged

namespace SameButLog

open Session

variable {react : React Action} {s t u : Session Action}

theorem refl (s : Session Action) : SameButLog s s := Eq.refl _

theorem trans (h : SameButLog s t) (k : SameButLog t u) : SameButLog s u := Eq.trans h k

/-- What is not read from the log is the same. -/
theorem same {β : Type} (h : SameButLog s t) (f : Session Action → β)
    (own : ∀ s, f s = f s.unlogged := by intro; rfl) : f s = f t := by
  rw [own s, own t, show s.unlogged = t.unlogged from h]

/-- A change that leaves the log alone. -/
theorem alter (h : SameButLog s t) (f : Session Action → Session Action)
    (own : ∀ s, (f s).unlogged = f s.unlogged := by intro; rfl) : SameButLog (f s) (f t) := by
  unfold SameButLog at h ⊢
  rw [own s, own t, h]

theorem unlogged_write (s : Session Action) (level : Log.Level) (logger message : String) :
    (s.write level logger message).unlogged = s.unlogged := by
  have messages (ds : List (String × Log.Record)) :
      ((ds.map fun d => Effect.logged d.1 d.2).reverse.filter fun e => !e.isLogged) = [] := by
    refine List.filter_eq_nil_iff.2 fun e he => ?_
    obtain ⟨d, -, rfl⟩ := List.mem_map.1 (List.mem_reverse.1 he)
    simp [Effect.isLogged]
  unfold Session.write unlogged
  simp only [List.filter_append, messages, List.nil_append]

theorem write (h : SameButLog s t) (level : Log.Level) (logger message : String) :
    SameButLog (s.write level logger message) (t.write level logger message) :=
  (unlogged_write s _ _ _).trans (h.trans (unlogged_write t _ _ _).symm)

theorem note (h : SameButLog s t) (e : Effect) : SameButLog (s.note e) (t.note e) := by
  cases e with
  | logged sink record => exact h
  | _ => exact h.alter fun s => s.note _

/-! ### Listeners -/

theorem takeReaction (h : SameButLog s t) (event listener : String) (data : Payload) :
    Alike SameButLog (s.takeReaction event listener data) (t.takeReaction event listener data) := by
  have listeners := h.same fun s => s.listeners
  unfold Session.takeReaction
  rw [listeners]
  split
  · exact ⟨h, rfl⟩
  · exact ⟨h.alter fun s => { s with listeners := _ }, rfl⟩

variable (reacts : ∀ {s t : Session Action} (_ : SameButLog s t) (actions : List Action),
  Alike SameButLog (react actions s) (react actions t))

include reacts

theorem callListener (h : SameButLog s t) (event : String) (toAll : Bool) (listener : String)
    (data : Payload) :
    Alike SameButLog (s.callListener react event toAll listener data)
      (t.callListener react event toAll listener data) := by
  unfold Session.callListener
  refine Alike.elim (h.takeReaction event listener data) fun s t reaction h => ?_
  cases reaction with
  | none => exact ⟨h.note _, rfl⟩
  | some reaction =>
    dsimp only
    refine Alike.elim (reacts (h.note _) reaction.actions) fun s t failure h => ?_
    dsimp only
    split
    · exact ⟨h, rfl⟩
    · split
      · exact ⟨h.write _ _ _, rfl⟩
      · exact ⟨h, rfl⟩

theorem callListeners (event : String) (toAll : Bool) (listeners : List String)
    (h : SameButLog s t) (data : Payload) :
    Alike SameButLog (s.callListeners react event toAll listeners data)
      (t.callListeners react event toAll listeners data) := by
  induction listeners generalizing s t data with
  | nil => exact ⟨h, rfl⟩
  | cons l rest ih =>
    unfold Session.callListeners
    refine Alike.elim (callListener reacts h event toAll l data) fun s t r h => ?_
    rcases r with ⟨data, _ | f⟩
    · exact ih h data
    · exact ⟨h, rfl⟩

theorem publish (h : SameButLog s t) (event : String) (data : Payload) :
    Alike SameButLog (s.publish react event data) (t.publish react event data) := by
  have bus := h.same fun s => s.bus
  unfold Session.publish
  rw [bus]
  refine Alike.elim (callListeners reacts event false _ h data) fun s t r h => ?_
  rcases r with ⟨data, _ | f⟩
  · have bus := h.same fun s => s.bus
    dsimp only
    rw [bus]
    exact Alike.elim (callListeners reacts event true _ h data) fun s t r h => ⟨h, rfl⟩
  · exact ⟨h, rfl⟩

/-- Where the reactions do not look at the log, nothing does. -/
theorem indifferent : Indifferent react SameButLog where
  inside h := h.same Session.inside
  change h u := h.alter fun s => s.withInside u
  write h := h.write
  note h := h.note
  rebus h f := h.alter fun s => { s with bus := f s.bus }
  relog h _ := h
  publish h := h.publish reacts
  react h := reacts h

end SameButLog

namespace Session

/-- The reactions do not look at the log, however deeply they call each other. -/
theorem alike_reactTo (depth : Nat) {s t : Session Action} (h : SameButLog s t)
    (actions : List Action) :
    Alike SameButLog (reactTo depth actions s) (reactTo depth actions t) := by
  induction depth generalizing s t actions with
  | zero =>
    unfold reactTo
    split <;> exact ⟨h, rfl⟩
  | succ depth ih => exact (SameButLog.indifferent ih).actAll h actions

/-- **No session ever looks at its log.** -/
theorem indifferent_log : Indifferent Session.react SameButLog :=
  SameButLog.indifferent (alike_reactTo actionDepth)

/-! ### Clicks -/

variable {s t : Session Action}

/-- A decompile click: the whole of the coroutine, which never gives way. -/
def clickDecompile (s : Session Action) : Session Action :=
  (s.begin (.click (some CompileMode.decompile.name))).1

/-- A decompile click is over with its first step. -/
theorem begin_clickDecompile (s : Session Action) :
    s.begin (.click (some CompileMode.decompile.name)) = (s.clickDecompile, .ends (.ok .null)) :=
  rfl

/-- A decompile click that waits in the queue does the same when its turn comes. -/
theorem step_clickDecompile {owner : Owner} {rest : List (Entry Job)}
    (next : s.loop.batch =
      .job (.resume owner (.fresh (.click (some CompileMode.decompile.name)))) :: rest) :
    s.move .step = (s.pop rest).clickDecompile.close owner (.ok .null) := by
  show machine.step s = _
  unfold Machine.step
  rw [show (machine.loop s).batch = _ from next]
  show (s.pop rest).stepCoroutine Session.react owner
    (.fresh (.click (some CompileMode.decompile.name))) = _
  unfold stepCoroutine resume
  dsimp only
  rw [begin_clickDecompile]

theorem sameButLog_click (h : SameButLog s t) : SameButLog s.clickDecompile t.cancelTimer :=
  (SameButLog.unlogged_write _ _ _ _).trans (indifferent_log.cancelTimer h)

/-- Where no timer is pending, there is nothing to clear. -/
theorem cancelTimer_of_unarmed (unarmed : s.armed = none) : s.cancelTimer = s := by
  unfold cancelTimer Debounce.cancel
  rw [unarmed]
  exact congrArg (fun armed => ({ s with armed := armed } : Session Action)) unarmed.symm

/-- **A decompile click changes nothing but the log exactly when no timer is pending.** -/
theorem sameButLog_clickDecompile_iff (s : Session Action) :
    SameButLog s.clickDecompile s ↔ s.armed = none := by
  constructor
  · intro same
    exact (same.same fun s => s.armed).symm
  · intro unarmed
    have cleared := sameButLog_click (SameButLog.refl s)
    rwa [cancelTimer_of_unarmed unarmed] at cleared

end Session

/-! ### Runs with clicks put in -/

/-- What happens in a run that has clicks put in between its moves. -/
inductive Beat where
  | move (m : Move)
  | click

def Beat.move? : Beat → Option Move
  | .move m => some m
  | .click => none

namespace Session

variable {click click' : Session Action → Session Action} {s t : Session Action}

/-- The beats of a run, one after the other; `click` is what a click does. -/
def beats (click : Session Action → Session Action) : List Beat → Session Action → Session Action
  | [], s => s
  | .move m :: bs, s => beats click bs (s.move m)
  | .click :: bs, s => beats click bs (click s)

def call? (m : Move) (s : Session Action) : Option (Int × Request) :=
  (s.asks? m).map fun run => (s.loop.now, run.request)

def callsIn (click : Session Action → Session Action) :
    List Beat → Session Action → List (Int × Request)
  | [], _ => []
  | .move m :: bs, s => (s.call? m).toList ++ callsIn click bs (s.move m)
  | .click :: bs, s => callsIn click bs (click s)

def callsOf : List Move → Session Action → List (Int × Request)
  | [], _ => []
  | m :: ms, s => (s.call? m).toList ++ callsOf ms (s.move m)

/-- Clicks that keep sessions the same but for their logs make for the same run. -/
theorem beats_sameButLog (clicks : ∀ {s t : Session Action}, SameButLog s t →
      SameButLog (click s) (click' t)) (bs : List Beat) (h : SameButLog s t) :
    SameButLog (s.beats click bs) (t.beats click' bs) ∧
      s.callsIn click bs = t.callsIn click' bs := by
  induction bs generalizing s t with
  | nil => exact ⟨h, rfl⟩
  | cons b bs ih =>
    cases b with
    | click => exact ih (clicks h)
    | move m =>
      obtain ⟨rest, calls⟩ := ih (indifferent_log.move h m)
      refine ⟨rest, ?_⟩
      unfold callsIn
      rw [calls, indifferent_log.reads h (·.call? m) fun _ => rfl]

/-- Where no timer is pending, there is no need to clear it. -/
theorem beats_of_unarmed (bs : List Beat) (unarmed : ∀ bs₁ bs₂, bs = bs₁ ++ .click :: bs₂ →
      (s.beats cancelTimer bs₁).armed = none) :
    s.beats cancelTimer bs = s.moves (bs.filterMap Beat.move?) ∧
      s.callsIn cancelTimer bs = s.callsOf (bs.filterMap Beat.move?) := by
  induction bs generalizing s with
  | nil => exact ⟨rfl, rfl⟩
  | cons b bs ih =>
    cases b with
    | move m =>
      obtain ⟨rest, calls⟩ := ih (s := s.move m) fun bs₁ bs₂ split =>
        unarmed (.move m :: bs₁) bs₂ (congrArg (_ :: ·) split)
      exact ⟨rest, congrArg (_ ++ ·) calls⟩
    | click =>
      have idle : s.cancelTimer = s := cancelTimer_of_unarmed (unarmed [] bs rfl)
      obtain ⟨rest, calls⟩ := ih (s := s.cancelTimer) fun bs₁ bs₂ split =>
        unarmed (.click :: bs₁) bs₂ (congrArg (_ :: ·) split)
      rw [idle] at rest calls
      refine ⟨?_, ?_⟩
      · show s.cancelTimer.beats cancelTimer bs = _
        rw [idle]
        exact rest
      · show s.cancelTimer.callsIn cancelTimer bs = _
        rw [idle]
        exact calls

/-- **A decompile click does nothing but clear the timer.** A run with decompile clicks put in
anywhere is, but for the log, the run in which the timer is cleared at these points: every part of
the session is the same, and so are the compile calls and the times at which they are made. Where
the clicks find no timer pending, it is the run without them. -/
theorem decompile_clears (o : Opening) (bs : List Beat) :
    let s := o.session
    let t := s.beats clickDecompile bs
    SameButLog t (s.beats cancelTimer bs) ∧
      s.callsIn clickDecompile bs = s.callsIn cancelTimer bs ∧
      ((∀ bs₁ bs₂, bs = bs₁ ++ .click :: bs₂ → (s.beats clickDecompile bs₁).armed = none) →
        SameButLog t (s.moves (bs.filterMap Beat.move?)) ∧
          s.callsIn clickDecompile bs = s.callsOf (bs.filterMap Beat.move?)) ∧
      (SameButLog t.clickDecompile t ↔ t.armed = none) := by
  intro s t
  have cleared (bs : List Beat) := beats_sameButLog sameButLog_click bs (.refl s)
  refine ⟨(cleared bs).1, (cleared bs).2, fun unarmed => ?_, sameButLog_clickDecompile_iff t⟩
  obtain ⟨run, calls⟩ := beats_of_unarmed bs fun bs₁ bs₂ split =>
    ((cleared bs₁).1.same fun s => s.armed).symm.trans (unarmed bs₁ bs₂ split)
  exact ⟨run ▸ (cleared bs).1, calls ▸ (cleared bs).2⟩

/-- The session is started and has compiled, and the text is edited. -/
def armedMoves : List Move :=
  [.act (.spawn .start)] ++ smallTicks 8 ++ [.act (.input "y")]

/-- The timer comes due, if it is pending. -/
def dueMoves : List Move := [.setTime 800] ++ smallTicks 8

/-- **A decompile click after an edit is the end of the compile of the edit**: the timer is pending
no longer, and the text is not compiled, as it is in the run without the click. -/
theorem decompile_drops_edit :
    let s := plainOpening.session
    let bs := armedMoves.map Beat.move ++ .click :: dueMoves.map Beat.move
    (s.moves armedMoves).armed = some 0 ∧ (s.moves armedMoves).clickDecompile.armed = none ∧
      (s.callsIn clickDecompile bs).map (fun c => (c.1, c.2.source)) = [(0, "x = 1")] ∧
      (s.callsOf (bs.filterMap Beat.move?)).map (fun c => (c.1, c.2.source)) =
        [(0, "x = 1"), (800, "y")] := by
  decide +kernel

end Session

end Playground
