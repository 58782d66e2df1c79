import Playground.Proofs.Decompile

/-!
# Observers cannot disturb a compile

Listeners and sinks are told what happens. They may fail, alter the data that they are handed, and
subscribe and unsubscribe each other while they are called; as long as they do nothing else to the
session, and every fault of theirs has a wording, its inside and its calls are those of a session
with any other observers. A fault without a wording breaks off what is published, and the run with
it.

* `Action.observes`, `Observers.Harmless` — what observers may do.
* `Observers.Worded` — how they may fail.
* `Session.calledOut` — the calls of compilers and modules.
* `Overheard`, `overheard_reactTo` — whatever observers do is heard by nobody but observers.
* `Watched`, `indifferent_watched` — two sessions with nothing but their observers to tell them
  apart stay so.
* `observers_cannot_disturb` — a script is gone through in the same way whoever observes it.
* `mumbler_disturbs` — an observer whose fault has no wording ends a run.
-/

namespace Playground

open Playground.Clock

/-- Does an action concern nothing but subscriptions? -/
def Action.observes : Action → Bool
  | .subscribe .. => true
  | .unsubscribe .. => true
  | .subscribeAll _ => true
  | .clearListeners => true
  | .export => true
  | .look => true
  | _ => false

/-- Was something delivered to a listener or to a sink? -/
def Effect.isDelivery : Effect → Bool
  | .logged .. => true
  | .heard .. => true
  | _ => false

/-- Does a move concern nothing but subscriptions and sinks? -/
def Move.observes : Move → Bool
  | .act a => a.observes
  | .relog _ => true
  | _ => false

/-- Who observes a session. -/
structure Observers where
  listeners : List (String × Listener Action) := []
  bus : EventBus := {}
  log : Log.Board := {}

/-- The observers act on nothing but subscriptions; they may alter the data and fail as they
like. -/
def Observers.Harmless (w : Observers) : Prop :=
  ∀ l ∈ w.listeners, l.2.Admits fun a => a.observes = true

def Listener.Worded (l : Listener Action) : Prop :=
  ∀ n event data r f, l.respond n event data = some r → r.fault = some f → f.isWorded = true

def Observers.Worded (w : Observers) : Prop := ∀ l ∈ w.listeners, l.2.Worded

def Opening.watchedBy (o : Opening) (w : Observers) : Opening :=
  { o with listeners := w.listeners, bus := w.bus, log := w.log }

namespace Session

variable {react : React Action} {s t u : Session Action}

/-- The calls of compilers and modules, and the ends of coroutines that were left to themselves;
latest first. -/
def calledOut (s : Session Action) : List Effect := s.journal.filter fun e => !e.isDelivery

/-- The observers of the session are harmless, and their faults have wordings. -/
def Observed (s : Session Action) : Prop :=
  ∀ l ∈ s.listeners, (l.2.Admits fun a => a.observes = true) ∧ l.2.Worded

/-! ### What observers do -/

/-- Nothing happened that anybody but observers could notice. -/
structure Overheard (s t : Session Action) : Prop where
  inside : t.inside = s.inside
  calledOut : t.calledOut = s.calledOut
  observed : s.Observed → t.Observed

namespace Overheard

theorem refl (s : Session Action) : Overheard s s := ⟨rfl, rfl, id⟩

theorem trans (h : Overheard s t) (k : Overheard t u) : Overheard s u :=
  ⟨k.inside.trans h.inside, k.calledOut.trans h.calledOut, k.observed ∘ h.observed⟩

end Overheard

theorem overheard_write (s : Session Action) (level : Log.Level) (logger message : String) :
    Overheard s (s.write level logger message) := by
  have messages (ds : List (String × Log.Record)) :
      ((ds.map fun d => Effect.logged d.1 d.2).reverse.filter fun e => !e.isDelivery) = [] := by
    refine List.filter_eq_nil_iff.2 fun e he => ?_
    obtain ⟨d, -, rfl⟩ := List.mem_map.1 (List.mem_reverse.1 he)
    simp [Effect.isDelivery]
  refine ⟨rfl, ?_, id⟩
  unfold write calledOut
  simp only [List.filter_append, messages, List.nil_append]

/-- A listener whose call is counted stays as it is, and what it does now is harmless. -/
theorem overheard_takeReaction (s : Session Action) (event listener : String) (data : Payload) :
    Overheard s (s.takeReaction event listener data).1 ∧
      (s.Observed → ∀ r, (s.takeReaction event listener data).2 = some r →
        (∀ a ∈ r.actions, a.observes = true) ∧ ∀ f, r.fault = some f → f.isWorded = true) := by
  unfold takeReaction
  split
  · exact ⟨.refl s, nofun⟩
  next l found =>
    obtain ⟨e, there, rfl⟩ := Option.map_eq_some_iff.1 found
    have member := List.mem_of_find?_eq_some there
    refine ⟨⟨rfl, rfl, fun observed x hx => ?_⟩, fun observed r responds => ?_⟩
    · rcases mem_assign hx with rfl | hx
      · exact observed e member
      · exact observed x hx
    · obtain ⟨harmless, worded⟩ := observed e member
      exact ⟨harmless _ _ _ r responds, fun f => worded _ _ _ r f responds⟩

/-- A step that nobody but observers can notice, and that no fault without a wording ends. -/
structure Faint (s : Session Action) (x : Session Action × Option Fault) : Prop where
  overheard : Overheard s x.1
  worded : ∀ f, x.2 = some f → f.isWorded = true

/-- An action of an observer is heard by nobody, and needs nothing to be carried out. -/
theorem overheard_act {a : Action} (h : a.observes = true) (s : Session Action) :
    Overheard s (s.act react a).1 ∧ ∀ f, (s.act react a).2 = .error f → f.isWorded = true := by
  cases a with
  | subscribe | unsubscribe | subscribeAll | clearListeners => exact ⟨⟨rfl, rfl, id⟩, nofun⟩
  | look => exact ⟨.refl s, nofun⟩
  | «export» =>
    refine ⟨.refl s, fun f fails => ?_⟩
    show f.isWorded = true
    unfold act export? at fails
    dsimp only at fails
    split at fails
    · cases fails
    · cases fails
      rfl
  | _ => cases h

theorem faint_actAll (actions : List Action) (h : ∀ a ∈ actions, a.observes = true)
    (s : Session Action) : Faint s (s.actAll react actions) := by
  induction actions generalizing s with
  | nil => exact ⟨.refl s, nofun⟩
  | cons a rest ih =>
    obtain ⟨first, worded⟩ : Overheard s (s.act react a).1 ∧
      ∀ f, (s.act react a).2 = .error f → f.isWorded = true :=
        overheard_act (h a List.mem_cons_self) s
    unfold actAll
    rcases hx : s.act react a with ⟨t, f | answer⟩ <;> rw [hx] at first worded
    · exact ⟨first, fun g hg => worded g (congrArg Except.error (Option.some.inj hg))⟩
    · obtain ⟨further, worded⟩ := ih (fun a mem => h a (List.mem_cons_of_mem _ mem)) t
      exact ⟨first.trans further, worded⟩

/-- However deeply they call each other, observers are heard by nobody. -/
theorem faint_reactTo (depth : Nat) {actions : List Action}
    (h : ∀ a ∈ actions, a.observes = true) (s : Session Action) :
    Faint s (reactTo depth actions s) := by
  cases depth with
  | zero =>
    unfold reactTo
    split
    · exact ⟨.refl s, fun f fails => absurd fails.symm (Option.some_ne_none f)⟩
    · exact ⟨.refl s, fun f fails => Option.some.inj fails ▸ rfl⟩
  | succ depth => exact faint_actAll actions h s

/-! ### Publishing -/

section

variable (reacts : ∀ {actions : List Action}, (∀ a ∈ actions, a.observes = true) →
  ∀ s, Faint s (react actions s))

include reacts

/-- A listener whose faults have wordings breaks nothing off. -/
theorem overheard_callListener (event : String) (toAll : Bool) (listener : String)
    (data : Payload) (observed : s.Observed) :
    Overheard s (s.callListener react event toAll listener data).1 ∧
      (s.callListener react event toAll listener data).2.2 = none := by
  have noted (u : Session Action) (acts : Bool) :
      Overheard u (u.note (.heard listener event data toAll acts)) := ⟨rfl, rfl, id⟩
  obtain ⟨taken, reaction⟩ := overheard_takeReaction s event listener data
  unfold callListener
  rcases hx : s.takeReaction event listener data with ⟨t, _ | r⟩ <;> rw [hx] at taken reaction
  · exact ⟨taken.trans (noted t false), rfl⟩
  · obtain ⟨harmless, own⟩ := reaction observed r rfl
    obtain ⟨reacted, failed⟩ := reacts harmless (t.note (.heard listener event data toAll true))
    have called := (taken.trans (noted t true)).trans reacted
    have worded : ∀ f, (react r.actions
        (t.note (.heard listener event data toAll true))).2.or r.fault = some f →
        f.isWorded = true := by
      intro f fails
      rcases Option.or_eq_some_iff.1 fails with fails | ⟨-, fails⟩
      · exact failed f fails
      · exact own f fails
    dsimp only
    split
    · exact ⟨called, rfl⟩
    next f fails =>
      have known := worded f fails
      unfold Fault.isWorded at known
      cases hw : f.wording with
      | ok text =>
        obtain ⟨message, words⟩ := listenerFailure_of_wording hw
        rw [words]
        exact ⟨called.trans (overheard_write _ _ _ _), rfl⟩
      | error why =>
        rw [hw] at known
        cases known

theorem overheard_callListeners (event : String) (toAll : Bool) (listeners : List String)
    (data : Payload) (observed : s.Observed) :
    Overheard s (s.callListeners react event toAll listeners data).1 ∧
      (s.callListeners react event toAll listeners data).2.2 = none := by
  induction listeners generalizing s data with
  | nil => exact ⟨.refl s, rfl⟩
  | cons l rest ih =>
    obtain ⟨first, whole⟩ := overheard_callListener reacts event toAll l data observed
    unfold callListeners
    rcases hx : s.callListener react event toAll l data with ⟨t, altered, _ | f⟩ <;>
      rw [hx] at first whole
    · obtain ⟨further, whole⟩ := ih altered (first.observed observed)
      exact ⟨first.trans further, whole⟩
    · cases whole

/-- **To publish an event to harmless observers is heard by nobody else**, and the publication does
not break off. -/
theorem overheard_publish (event : String) (data : Payload) (observed : s.Observed) :
    Overheard s (s.publish react event data).1 ∧ (s.publish react event data).2 = none := by
  obtain ⟨first, whole⟩ :=
    overheard_callListeners reacts event false (s.bus.listenersOf event) data observed
  unfold publish
  rcases hx : s.callListeners react event false (s.bus.listenersOf event) data with
    ⟨t, altered, _ | f⟩ <;> rw [hx] at first whole
  · obtain ⟨further, whole⟩ :=
      overheard_callListeners reacts event true t.bus.all altered (first.observed observed)
    exact ⟨first.trans further, whole⟩
  · cases whole

end

/-! ### Two sessions with other observers -/

/-- Two sessions with nothing but harmless observers to tell them apart, whose faults have
wordings. -/
structure Watched (s t : Session Action) : Prop where
  inside : s.inside = t.inside
  calledOut : s.calledOut = t.calledOut
  left : s.Observed
  right : t.Observed

/-- What only observers hear does not tell sessions apart. -/
theorem Watched.overheard {s' t' : Session Action} (h : Watched s t) (hs : Overheard s s')
    (ht : Overheard t t') : Watched s' t' :=
  ⟨(hs.inside.trans h.inside).trans ht.inside.symm,
    (hs.calledOut.trans h.calledOut).trans ht.calledOut.symm, hs.observed h.left,
    ht.observed h.right⟩

theorem Watched.note (h : Watched s t) (e : Effect) : Watched (s.note e) (t.note e) := by
  refine ⟨h.inside, ?_, h.left, h.right⟩
  have same : s.journal.filter (fun e => !e.isDelivery) =
    t.journal.filter fun e => !e.isDelivery := h.calledOut
  unfold Session.calledOut Session.note
  simp only [List.filter_cons, same]

/-- Where reactions do not tell such sessions apart, nothing does. -/
theorem Watched.indifferent
    (reacts : ∀ {actions : List Action}, (∀ a ∈ actions, a.observes = true) →
      ∀ s, Faint s (react actions s))
    (alike : ∀ {s t : Session Action} (_ : Watched s t) (actions : List Action),
      Alike Watched (react actions s) (react actions t)) : Indifferent react Watched where
  inside h := h.inside
  change h _ := ⟨rfl, h.calledOut, h.left, h.right⟩
  write h _ _ _ := h.overheard (overheard_write _ _ _ _) (overheard_write _ _ _ _)
  note h e := h.note e
  rebus h _ := h.overheard ⟨rfl, rfl, id⟩ ⟨rfl, rfl, id⟩
  relog h _ := h.overheard ⟨rfl, rfl, id⟩ ⟨rfl, rfl, id⟩
  publish h event data :=
    have left := overheard_publish reacts event data h.left
    have right := overheard_publish reacts event data h.right
    ⟨h.overheard left.1 right.1, left.2.trans right.2.symm⟩
  react h actions := alike h actions

theorem watched_reactTo (depth : Nat) {s t : Session Action} (h : Watched s t)
    (actions : List Action) :
    Alike Watched (reactTo depth actions s) (reactTo depth actions t) := by
  induction depth generalizing s t actions with
  | zero =>
    unfold reactTo
    split <;> exact ⟨h, rfl⟩
  | succ depth ih =>
    exact (Watched.indifferent (faint_reactTo depth) ih).actAll h actions

/-- **Observers stay what tells two sessions apart**, whatever compilers, modules and front ends
do. -/
theorem indifferent_watched : Indifferent Session.react Watched :=
  Watched.indifferent (faint_reactTo actionDepth) (watched_reactTo actionDepth)

/-! ### Scripts -/

/-- The answer of a session to a front end that acts at once. -/
def answer? (m : Move) (s : Session Action) : Option (Except Fault Answer) :=
  match m with
  | .act a => some (s.perform a).2
  | _ => none

/-- What can be seen of a session after a move. -/
structure Sight where
  inside : Session Action
  calledOut : List Effect
  answer : Option (Except Fault Answer)

/-- What can be seen after a move. -/
def sight (m : Move) (s : Session Action) : Sight :=
  ⟨(s.move m).inside, (s.move m).calledOut, s.answer? m⟩

/-- What can be seen after the moves of a script; what concerns observers only is no part of it. -/
def sights (s : Session Action) : List Move → List Sight
  | [] => []
  | m :: ms => if m.observes then (s.move m).sights ms else s.sight m :: (s.move m).sights ms

/-- The script in a course of moves. -/
def script (ms : List Move) : List Move := ms.filter fun m => !m.observes

theorem overheard_move {m : Move} (h : m.observes = true) (s : Session Action) :
    Overheard s (s.move m) := by
  cases m with
  | act a => exact (overheard_act h s).1
  | relog log => exact ⟨rfl, rfl, id⟩
  | _ => cases h

theorem Watched.sight (h : Watched s t) (m : Move) : s.sight m = t.sight m := by
  have moved := indifferent_watched.move h m
  have answers : s.answer? m = t.answer? m := by
    cases m with
    | act a => exact congrArg some (indifferent_watched.act h a).answers
    | _ => rfl
  unfold Session.sight
  rw [moved.inside, moved.calledOut, answers]

/-- Whoever observes a session, its script can be seen to go on as without observers' moves. -/
theorem Watched.sights (h : Watched s t) (ms : List Move) :
    s.sights ms = t.sights (script ms) := by
  induction ms generalizing s t with
  | nil => rfl
  | cons m ms ih =>
    cases observes : m.observes with
    | true =>
      have moved := h.overheard (overheard_move observes s) (.refl t)
      simpa [Session.sights, script, observes] using ih moved
    | false =>
      have moved := indifferent_watched.move h m
      simpa [Session.sights, script, observes, h.sight m] using ih moved

/-- **Observers whose faults have wordings cannot disturb a compile.** Two sessions are opened with
the same settings, text, probe and compilers, and go through the same script, under the eyes of
harmless observers that may differ, come and go at any point, alter what they are told and fail.
Then after every move of the script all that is inside the sessions is the same, and so are the
calls of compilers and modules so far, and the answers. -/
theorem observers_cannot_disturb (o : Opening) {w w' : Observers} (h : w.Harmless)
    (worded : w.Worded) (h' : w'.Harmless) (worded' : w'.Worded) {ms ms' : List Move}
    (same : script ms = script ms') :
    (o.watchedBy w).session.sights ms = (o.watchedBy w').session.sights ms' := by
  have left : (o.watchedBy w).session.Observed := fun l hl => ⟨h l hl, worded l hl⟩
  have right : (o.watchedBy w').session.Observed := fun l hl => ⟨h' l hl, worded' l hl⟩
  have opened : Watched (o.watchedBy w).session (o.watchedBy w').session := ⟨rfl, rfl, left, right⟩
  have alone : Watched (o.watchedBy w').session (o.watchedBy w').session := ⟨rfl, rfl, right, right⟩
  rw [opened.sights, same, ← alone.sights]

/-- Nobody observes. -/
theorem unobserved : ({} : Observers).Harmless ∧ ({} : Observers).Worded := ⟨nofun, nofun⟩

/-- A listener that mars the data and fails, one that takes back all subscriptions at the second
event that it hears, and a sink that fails. -/
def meddlers : Observers where
  listeners :=
    [("vandal", { respond := fun _ _ _ => some {
        alter := fun _ => [], fault := some (.foreign "ValueError" "no data") } }),
      ("mutineer", { respond := fun n _ _ =>
        if n = 0 then none else some { actions := [.clearListeners] } })]
  bus := ({} : EventBus).subscribeAll "vandal"
  log := { sinks := ["leak"], mood := fun _ _ _ => { fault := some (.foreign "OSError" "full") } }

theorem meddlers_harmless : meddlers.Harmless ∧ meddlers.Worded := by
  unfold Observers.Harmless Observers.Worded meddlers
  simp only [List.forall_mem_cons]
  refine ⟨⟨?_, ?_, nofun⟩, ?_, ?_, nofun⟩
  · rintro n event data r ⟨⟩ a ⟨⟩
  · intro n event data r responds a ha
    dsimp only at responds
    split at responds
    · cases responds
    · cases responds
      rw [List.mem_singleton.1 ha]
      rfl
  · rintro n event data r f ⟨⟩ ⟨⟩
    rfl
  · intro n event data r f responds fails
    dsimp only at responds
    split at responds
    · cases responds
    · cases responds
      cases fails

theorem observers_cannot_disturb_meddling :
    let watched := (plainOpening.watchedBy meddlers).session
    let ms := Move.act (.spawn .start) :: .act (.subscribeAll "mutineer") :: smallTicks 8
    meddlers.Harmless ∧ meddlers.Worded ∧ (watched.moves ms).bus = {} ∧
      (watched.moves ms).log.err ≠ "" ∧ (watched.moves ms).state.outcome.isSome = true ∧
      watched.sights ms =
        (plainOpening.watchedBy {}).session.sights (.act (.spawn .start) :: smallTicks 8) := by
  obtain ⟨harmless, worded⟩ := meddlers_harmless
  refine ⟨harmless, worded, by decide +kernel, by decide +kernel, by decide +kernel, ?_⟩
  exact observers_cannot_disturb plainOpening harmless worded unobserved.1 unobserved.2 rfl

/-- A listener whose every call fails without a wording, subscribed to the start of a compile. -/
def mumbler : Observers where
  listeners := [("mumbler", failingListener muteFault)]
  bus := ({} : EventBus).subscribe compileStarted "mumbler"

/-- What is shown after the last move of a script that was seen. -/
def lastOutcome (sights : List Sight) : Option Outcome :=
  sights.getLast?.bind fun sight => sight.inside.state.outcome

/-- **An observer whose fault has no wording disturbs a compile**: it is harmless, and the run whose
start it is told of ends in an internal error that words its failure to be worded. -/
theorem mumbler_disturbs :
    let ms := Move.act (.spawn .start) :: smallTicks 8
    mumbler.Harmless ∧ ({} : Observers).Harmless ∧
      (lastOutcome ((plainOpening.watchedBy mumbler).session.sights ms)).map Outcome.kind =
        some "internal_error" ∧
      (lastOutcome ((plainOpening.watchedBy {}).session.sights ms)).map Outcome.kind =
        some "success" ∧
      (plainOpening.watchedBy mumbler).session.sights ms ≠
        (plainOpening.watchedBy {}).session.sights ms := by
  intro ms
  have disturbed : (lastOutcome ((plainOpening.watchedBy mumbler).session.sights ms)).map
      Outcome.kind = some "internal_error" := by decide +kernel
  have alone : (lastOutcome ((plainOpening.watchedBy {}).session.sights ms)).map
      Outcome.kind = some "success" := by decide +kernel
  refine ⟨?_, unobserved.1, disturbed, alone, fun same => ?_⟩
  · rintro l hl n event data r responds a ha
    rw [List.mem_singleton.1 hl] at responds
    cases responds
    cases ha
  · rw [same, alone] at disturbed
    exact absurd disturbed (by decide)

end Session

end Playground
