import Playground.Proofs.Entries

/-!
# The course of a session

The notes of a session are of two kinds. Some tell what its pipelines do to the outside: they ask
compilers, call modules and publish events. All others tell of requests and of the session itself,
and whether it is alive can be read off its starts and stops.

* `deedsOf` — what pipelines did.
* `lives` — whether a session is alive.
* `Core.Does` — a change with the deeds that were added and the notifications that were pushed.
* `beside_nudges`, `beside_leads` — front ends and coroutines outside the pipeline do nothing to the
  outside.
-/

namespace Playground

def Milestone.isDeed : Milestone → Bool
  | .asked .. => true
  | .called .. => true
  | .published event _ => event ≠ compileScheduled
  | _ => false

/-- What the pipelines of a session did, latest first. -/
def deedsOf (ms : List Milestone) : List Milestone := ms.filter Milestone.isDeed

def lives : List Milestone → Bool
  | [] => false
  | .started :: _ => true
  | .stopped :: _ => false
  | _ :: ms => lives ms

def Milestone.isStart : Milestone → Bool
  | .started => true
  | _ => false

/-- Without a new start, a session that was stopped stays so. -/
theorem lives_append {new old : List Milestone} (h : new.countP Milestone.isStart = 0)
    (dead : lives old = false) : lives (new ++ old) = false := by
  induction new with
  | nil => exact dead
  | cons m new ih =>
    rw [List.countP_cons] at h
    have rest := ih (by omega)
    cases m with
    | started => exact absurd h (Nat.succ_ne_zero _)
    | stopped => rfl
    | _ => exact rest

/-- Whether the session is alive can be read off its course. -/
def Core.Living (c : Core) : Prop := c.state.alive = lives c.history

/-- The deeds `ds` are done and the notifications `ns` pushed, both earliest first; notifications
may be dismissed, and starts and stops are noted. -/
structure Core.Does (ds : List Milestone) (ns : List Notification) (c d : Core) : Prop where
  later : c.history <:+ d.history
  deeds : deedsOf d.history = ds.reverse ++ deedsOf c.history
  count : d.state.notifications.count = c.state.notifications.count + ns.length
  items : d.state.notifications.items.Sublist (c.state.notifications.items ++ ns)
  living : c.Living → d.Living

namespace Core

variable {c d e : Core} {ds es : List Milestone} {ns ms : List Notification}

abbrev Beside (c d : Core) : Prop := Does [] [] c d

theorem Does.trans (h : Does ds ns c d) (k : Does es ms d e) :
    Does (ds ++ es) (ns ++ ms) c e where
  later := h.later.trans k.later
  deeds := by rw [k.deeds, h.deeds, List.reverse_append, List.append_assoc]
  count := by rw [k.count, h.count, List.length_append, Nat.add_assoc]
  items := by
    rw [← List.append_assoc]
    exact k.items.trans (h.items.append_right ms)
  living hc := k.living (h.living hc)

theorem Does.before (h : Beside c d) (k : Does es ms d e) : Does es ms c e := h.trans k

theorem Does.after (h : Does ds ns c d) (k : Beside d e) : Does ds ns c e := by
  simpa using h.trans k

/-- A change of anything else. -/
theorem Does.of_state (history : d.history = c.history)
    (notifications : d.state.notifications = c.state.notifications)
    (alive : d.state.alive = c.state.alive) : Beside c d where
  later := history ▸ List.suffix_refl _
  deeds := congrArg deedsOf history
  count := congrArg Notifications.count notifications
  items := by simp [notifications]
  living := by unfold Living; rw [history, alive]; exact id

/-- One note is added. -/
theorem Does.of_note (m : Milestone) (history : d.history = m :: c.history)
    (notifications : d.state.notifications = c.state.notifications)
    (living : c.state.alive = lives c.history → d.state.alive = lives (m :: c.history)) :
    Does (if m.isDeed then [m] else []) [] c d where
  later := history ▸ List.suffix_cons _ _
  deeds := by rw [history, deedsOf, List.filter_cons]; split <;> rfl
  count := congrArg Notifications.count notifications
  items := by simp [notifications]
  living := by unfold Living; rw [history]; exact living

theorem Does.refl (c : Core) : Beside c c := .of_state rfl rfl rfl

theorem Does.of_eq (h : d = c) : Beside c d := h ▸ Does.refl c

/-- Where coroutines wait does not matter. -/
theorem Does.await (h : Does ds ns c d) (at_ : Option Waiting) : Does ds ns c (d.await at_) :=
  ⟨h.later, h.deeds, h.count, h.items, h.living⟩

/-! ### Into the pipeline and out of it -/

theorem beside_begin (ticket : Ticket) (c : Core) : Beside c (c.begin ticket) :=
  .of_note (.began ticket.number (c.state.generation + 1) ticket.request) rfl rfl id

theorem beside_breakOff (generation : Nat) (outcome : Option Outcome) (f : Fault) (c : Core) :
    Beside c (c.breakOff generation outcome f) := .of_note (.broke generation outcome f) rfl rfl id

theorem beside_accept (request : Request) (c : Core) : Beside c (c.accept request) :=
  .of_note (.accepted c.accepted request) rfl rfl id

theorem beside_park (request : Request) (ticket : Ticket) (c : Core) :
    Beside c ((c.accept request).park ticket) := by
  refine (beside_accept request c).after ?_
  cases h : c.pending with
  | none => exact .of_state (by simp [park, accept, h]) rfl rfl
  | some earlier =>
    exact .of_note (.superseded earlier.number ticket.number) (by simp [park, accept, h]) rfl id

end Core

open Playground.Core

namespace Session

variable {P : Action → Prop} {s t : Session Action}

/-! ### From the side -/

theorem beside_stop (s : Session Action) : Beside s.core s.stop.core := by
  rw [core_stop]
  exact .of_note .stopped rfl rfl fun _ => rfl

theorem beside_edit (s : Session Action) (text : String) : Beside s.core (s.edit text).core := by
  unfold edit
  simp only
  split
  · exact .of_state rfl rfl rfl
  · split
    · rw [core_rearm]
      exact .of_state rfl rfl rfl
    · exact .of_state rfl rfl rfl

theorem beside_turn (s : Session Action) (mode : CompileMode) :
    Beside s.core (s.turn mode).core := by
  have turned : Beside s.core
      (s.cancelTimer.modifyState fun st => { st with compileMode := mode }).core :=
    .of_state rfl rfl rfl
  unfold turn
  simp only
  split
  · refine turned.before ?_
    rw [core_rearm]
    exact .of_state rfl rfl rfl
  · exact turned

theorem beside_nudge (h : Nudge P s t) : Beside s.core t.core := by
  cases h with
  | edit text => exact beside_edit s text
  | turn _ mode => exact beside_turn s mode
  | stop => exact beside_stop s
  | dismiss key =>
    refine ⟨List.suffix_refl _, rfl, rfl, ?_, id⟩
    rw [List.append_nil]
    exact List.filter_sublist
  | heed listener =>
    rw [core_takeReaction]
    exact .of_state rfl rfl rfl
  | scheduled data => exact .of_note (.published compileScheduled data) rfl rfl id
  | unheard f => exact .of_note (.cutOff compileScheduled f) rfl rfl id
  | _ => exact .of_state rfl rfl rfl

theorem beside_nudges (h : Nudges P s t) : Beside s.core t.core := by
  induction h with
  | refl => exact .refl _
  | tail _ step ih => exact ih.after (beside_nudge step)

theorem beside_leads (h : Leads P s t) : Beside s.core t.core := by
  induction h with
  | refl => exact .refl _
  | tail _ step ih =>
    refine ih.after ?_
    cases step with
    | stop => exact beside_stop _
    | wake => exact .of_note .started rfl rfl fun _ => rfl
    | unload compiler f => exact .of_note (.unloaded compiler f) rfl rfl id
    | _ => exact .of_state rfl rfl rfl

/-! ### Calls -/

theorem does_asked {generation : Nat} {name text : String} {options : Options} {produced : Bool}
    (h : Asked P generation name text options produced s t) :
    Does [.asked generation produced] [] s.core t.core := by
  obtain ⟨u, nudges, rfl⟩ := h
  have consulted : Beside s.core (s.consult name text options).core := .of_eq (core_consult ..)
  exact (consulted.after (beside_nudges nudges)).before
    (.of_note (.asked generation produced) rfl rfl id)

theorem does_called {generation : Nat} {call : ModuleCall} {fault : Option Fault}
    (h : Called P generation call fault s t) :
    Does [.called generation call fault] [] s.core t.core := by
  obtain ⟨u, nudges, rfl⟩ := h
  exact (beside_nudges nudges).before (.of_note (.called generation call fault) rfl rfl id)

theorem dead_of_nudge (h : Nudge P s t) (dead : s.state.alive = false) :
    t.state.alive = false := by
  cases h with
  | edit text =>
    unfold edit
    simp only
    split
    · exact dead
    · simp [modifyState, dead]
  | turn _ mode =>
    unfold turn
    simp [modifyState, cancelTimer, dead]
  | stop => rfl
  | heed event listener data =>
    exact (congrArg (·.state.alive) (core_takeReaction s event listener data)).trans dead
  | _ => exact dead

/-- While compilers and modules are called, a session that was stopped is not started again. -/
theorem dead_of_uses (h : Uses P s t) (dead : s.state.alive = false) : t.state.alive = false := by
  induction h with
  | refl => exact dead
  | tail _ step ih =>
    cases step with
    | nudge h => exact dead_of_nudge h ih
    | _ => exact ih

end Session

end Playground
