import Playground.Proofs.Leads
import Playground.Proofs.Works

/-!
# The face of a session

What the runs of a session show: the outcome and what belongs to it, the busy mark, the run that is
under way and the course of all runs. Whatever is done from the side, by front ends, listeners,
compilers and coroutines that are not in the pipeline, leaves the face as it is; it may only dismiss
notifications and end the session.

* `Face`, `Core.face` — the face.
* `Alters` — a change of the face, with the messages that may have been added.
* `aside_nudges`, `aside_uses`, `aside_leads` — what is done from the side leaves the face.
-/

namespace Playground

def Milestone.ofRun : Milestone → Bool
  | .began .. => true
  | .raised .. => true
  | .ended .. => true
  | .broke .. => true
  | .published event _ => event = compileStarted || event = compileFinished
  | .cutOff event _ => event ≠ compileScheduled
  | .unreleased .. => true
  | _ => false

/-- Did the publication of an event of a run break off? -/
def Milestone.isCut : Milestone → Bool
  | .cutOff event _ => event ≠ compileScheduled
  | _ => false

/-- No publication of a run broke off. -/
def Uncut (ms : List Milestone) : Prop := ∀ m ∈ ms, m.isCut = false

instance (ms : List Milestone) : Decidable (Uncut ms) :=
  inferInstanceAs (Decidable (∀ m ∈ ms, m.isCut = false))

theorem Uncut.before {old new : List Milestone} (h : Uncut new) (later : old <:+ new) :
    Uncut old := fun m hm => h m (later.mem hm)

/-- Only the steps of runs count for that. -/
theorem uncut_filter {ms : List Milestone} : Uncut (ms.filter Milestone.ofRun) ↔ Uncut ms := by
  refine ⟨fun h m hm => ?_, fun h m hm => h m (List.mem_filter.1 hm).1⟩
  by_cases step : m.ofRun = true
  · exact h m (List.mem_filter.2 ⟨hm, step⟩)
  · cases m with
    | cutOff => exact Bool.eq_false_iff.2 step
    | _ => rfl

/-- Could the module that a run left behind not be released? -/
def Milestone.isUnreleased : Milestone → Bool
  | .unreleased .. => true
  | _ => false

/-- Every module that was left behind was released. -/
def Released (ms : List Milestone) : Prop := ∀ m ∈ ms, m.isUnreleased = false

instance (ms : List Milestone) : Decidable (Released ms) :=
  inferInstanceAs (Decidable (∀ m ∈ ms, m.isUnreleased = false))

theorem Released.before {old new : List Milestone} (h : Released new) (later : old <:+ new) :
    Released old := fun m hm => h m (later.mem hm)

def Milestone.isStop : Milestone → Bool
  | .stopped => true
  | _ => false

/-- The keys of the messages rise and none is higher than the number of pushes. -/
structure Notifications.Ordered (q : Notifications) : Prop where
  rising : (q.items.map (·.key)).Pairwise (· < ·)
  bounded : ∀ n ∈ q.items, n.key ≤ q.count

def Notifications.messages (q : Notifications) : List String := q.items.map (·.message)

/-- What the runs of a session show. -/
structure Face where
  settings : Settings
  probe : Probe
  indicator : Indicator
  outcome : Option Outcome
  errorCount : Int
  annotations : List Annotation
  artifact : Artifact
  generation : Nat
  compiling : Bool
  stages : List (Stage × Run)
  /-- The steps of all runs, latest first. -/
  course : List Milestone

/-- What is only about the members that are kept is not changed by the choice. -/
theorem filterMap_of_filter {β γ : Type} {p : β → Bool} {f : β → Option γ}
    (only : ∀ x, p x = false → f x = none) (l : List β) :
    (l.filter p).filterMap f = l.filterMap f := by
  refine (List.filterMap_filter ..).trans (congrArg (List.filterMap · l) (funext fun x => ?_))
  cases kept : p x with
  | true => rfl
  | false => exact (only x kept).symm

namespace Core

def face (c : Core) : Face :=
  { settings := c.settings, probe := c.probe, indicator := c.indicator
    outcome := c.state.outcome, errorCount := c.state.errorCount
    annotations := c.state.annotations, artifact := c.state.artifact
    generation := c.state.generation, compiling := c.state.compiling
    stages := c.waiting.filterMap Waiting.stage?
    course := c.history.filter Milestone.ofRun }

/-- How often the session was stopped. -/
def stops (c : Core) : Nat := c.history.countP Milestone.isStop

/-- How many publications of runs broke off. -/
def cuts (c : Core) : Nat := c.history.countP Milestone.isCut

theorem cuts_le {c d : Core} (later : c.history <:+ d.history) : c.cuts ≤ d.cuts :=
  later.sublist.countP_le

/-- Only the steps of runs count for that. -/
theorem cuts_eq_course (c : Core) : c.cuts = c.face.course.countP Milestone.isCut := by
  show c.history.countP Milestone.isCut = (c.history.filter Milestone.ofRun).countP Milestone.isCut
  rw [List.countP_filter]
  refine congrArg (fun p : Milestone → Bool => c.history.countP p) (funext fun m => ?_)
  cases m <;> simp [Milestone.isCut, Milestone.ofRun]

/-- A publication of a run broke off on top of what was there. -/
theorem cuts_lt {c d : Core} {m : Milestone} {more : List Milestone} (cut : m.isCut = true)
    (old : c.face.course <:+ more) (new : m :: more <:+ d.face.course) : c.cuts < d.cuts := by
  rw [cuts_eq_course, cuts_eq_course]
  have counted := new.sublist.countP_le (p := Milestone.isCut)
  rw [List.countP_cons_of_pos cut] at counted
  exact Nat.lt_of_le_of_lt old.sublist.countP_le counted

/-- A run that comes to wait in an empty pipeline is the only one there. -/
theorem stages_await {c : Core} (quiet : c.face.stages = []) (stage : Stage) (run : Run)
    (after : After) : (c.await (some (.staging stage run after))).face.stages = [(stage, run)] := by
  show (c.waiting ++ [Waiting.staging stage run after]).filterMap Waiting.stage? = _
  rw [List.filterMap_append, show c.waiting.filterMap Waiting.stage? = [] from quiet]
  rfl

end Core

/-- The face is changed by `f`, messages are added from `ms` or dismissed, and the session lives on
unless it is stopped. -/
structure Core.Alters (f : Face → Face) (ms : List String) (c d : Core) : Prop where
  face : d.face = f c.face
  messages : d.state.notifications.messages.Sublist (c.state.notifications.messages ++ ms)
  ordered : c.state.notifications.Ordered → d.state.notifications.Ordered
  stops_le : c.stops ≤ d.stops
  alive : c.state.alive = true → d.stops = c.stops → d.state.alive = true

namespace Core

variable {c d e : Core} {f g : Face → Face} {ms ns : List String}

abbrev Aside (c d : Core) : Prop := Alters id [] c d

theorem Alters.trans (h : Alters f ms c d) (k : Alters g ns d e) :
    Alters (g ∘ f) (ms ++ ns) c e where
  face := by rw [k.face, h.face]; rfl
  messages := by
    rw [← List.append_assoc]
    exact k.messages.trans (h.messages.append_right ns)
  ordered hc := k.ordered (h.ordered hc)
  stops_le := Nat.le_trans h.stops_le k.stops_le
  alive ha hs := by
    have le := h.stops_le
    have le' := k.stops_le
    exact k.alive (h.alive ha (by omega)) (by omega)

theorem Alters.before (h : Aside c d) (k : Alters g ns d e) : Alters g ns c e := h.trans k

theorem Alters.after (h : Alters f ms c d) (k : Aside d e) : Alters f ms c e := by
  simpa using h.trans k

/-- More messages may have been added. -/
theorem Alters.more (h : Alters f ms c d) (sub : ms.Sublist ns) : Alters f ns c d where
  face := h.face
  messages := h.messages.trans (sub.append_left _)
  ordered := h.ordered
  stops_le := h.stops_le
  alive := h.alive

/-- Only what becomes of the face at hand counts. -/
theorem Alters.congr (h : Alters f ms c d) (eq : f c.face = g c.face) : Alters g ms c d where
  face := h.face.trans eq
  messages := h.messages
  ordered := h.ordered
  stops_le := h.stops_le
  alive := h.alive

theorem Aside.refl (c : Core) : Aside c c where
  face := rfl
  messages := by simp
  ordered := id
  stops_le := Nat.le_refl _
  alive ha _ := ha

theorem Aside.of_eq (h : d = c) : Aside c d := h ▸ Aside.refl c

/-- A change of the face alone. -/
theorem Alters.of_face (face : d.face = f c.face)
    (notifications : d.state.notifications = c.state.notifications)
    (stops : d.stops = c.stops) (alive : d.state.alive = c.state.alive) : Alters f [] c d where
  face := face
  messages := by simp [notifications]
  ordered hc := notifications ▸ hc
  stops_le := Nat.le_of_eq stops.symm
  alive ha _ := alive.trans ha

end Core

open Playground.Core

namespace Session

variable {P : Action → Prop} {s t : Session Action}

/-- Dismissing removes messages and changes nothing else about them. -/
theorem dismiss_ordered (q : Notifications) (key : Int) (h : q.Ordered) :
    (q.dismiss key).1.Ordered where
  rising := h.rising.sublist (List.filter_sublist.map _)
  bounded n hn := h.bounded n (List.mem_filter.1 hn).1

theorem aside_stop (s : Session Action) : Aside s.core s.stop.core := by
  rw [core_stop]
  have counted : List.countP Milestone.isStop (.stopped :: s.history) =
      List.countP Milestone.isStop s.history + 1 := List.countP_cons_of_pos rfl
  refine ⟨rfl, by simp [Session.core], id, ?_, fun _ same => ?_⟩
  · exact Nat.le_of_lt (Nat.lt_of_lt_of_eq (Nat.lt_succ_self _) counted.symm)
  · exact absurd (counted.symm.trans same) (Nat.succ_ne_self _)

theorem aside_edit (s : Session Action) (text : String) : Aside s.core (s.edit text).core := by
  unfold edit
  simp only
  split
  · exact .of_face rfl rfl rfl rfl
  · split
    · rw [core_rearm]
      exact .of_face rfl rfl rfl rfl
    · exact .of_face rfl rfl rfl rfl

theorem aside_turn (s : Session Action) (mode : CompileMode) : Aside s.core (s.turn mode).core := by
  have turned : (s.cancelTimer.modifyState fun st => { st with compileMode := mode }).core =
      { s.core with armed := none, state := { s.state with compileMode := mode } } :=
    congrArg (fun c : Core => { c with state := { s.state with compileMode := mode } })
      (core_cancelTimer s)
  unfold turn
  simp only
  split
  · rw [core_rearm, turned]
    exact .of_face rfl rfl rfl rfl
  · rw [turned]
    exact .of_face rfl rfl rfl rfl

/-- A coroutine that waits outside the pipeline. -/
theorem aside_await (c : Core) {at_ : Waiting} (h : at_.stage? = none) :
    Aside c (c.await (some at_)) := by
  have stages : (c.await (some at_)).face.stages = c.face.stages := by
    show (c.waiting ++ [at_]).filterMap Waiting.stage? = _
    rw [List.filterMap_append, List.filterMap_cons_none h]
    exact List.append_nil _
  exact .of_face (congrArg (fun stages => ({ c.face with stages := stages } : Face)) stages)
    rfl rfl rfl

/-- A coroutine outside the pipeline leaves the queue. -/
theorem aside_pop (c : Core) {at_ : Waiting} {rest : List Waiting} (front : c.waiting = at_ :: rest)
    (h : at_.stage? = none) : Aside c { c with waiting := rest } := by
  have stages : c.face.stages = rest.filterMap Waiting.stage? := by
    show c.waiting.filterMap Waiting.stage? = _
    rw [front, List.filterMap_cons_none h]
  exact .of_face (congrArg (fun stages => ({ c.face with stages := stages } : Face)) stages.symm)
    rfl rfl rfl

theorem aside_nudge (h : Nudge P s t) : Aside s.core t.core := by
  cases h with
  | edit text => exact aside_edit s text
  | turn _ mode => exact aside_turn s mode
  | disarm =>
    rw [core_cancelTimer]
    exact .of_face rfl rfl rfl rfl
  | stop => exact aside_stop s
  | spawn call =>
    have spawned := core_enqueue { s with spawned := s.spawned + 1 }
      (.resume (.spawned (s.spawned + 1)) (.fresh (Action.settleCall s.state.options call)))
    exact (aside_await s.core rfl).after (.of_eq spawned)
  | dismiss key =>
    refine ⟨rfl, ?_, dismiss_ordered _ key, Nat.le_refl _, fun ha _ => ha⟩
    rw [List.append_nil]
    exact List.filter_sublist.map _
  | heed listener =>
    rw [core_takeReaction]
    exact .of_face rfl rfl rfl rfl
  | _ => exact .of_face rfl rfl rfl rfl

theorem aside_nudges (h : Nudges P s t) : Aside s.core t.core := by
  induction h with
  | refl => exact .refl _
  | tail _ step ih => exact ih.after (aside_nudge step)

theorem aside_uses (h : Uses P s t) : Aside s.core t.core := by
  induction h with
  | refl => exact .refl _
  | tail _ step ih =>
    cases step with
    | nudge h => exact ih.after (aside_nudge h)
    | _ => exact ih.after (.of_face rfl rfl rfl rfl)

theorem core_consult (name text : String) (options : Options) (s : Session Action) :
    (s.consult name text options).core = s.core := by
  unfold consult
  split <;> rfl

/-- A compiler that is asked leaves the face as it is. -/
theorem aside_asked {generation : Nat} {name text : String} {options : Options} {produced : Bool}
    (h : Asked P generation name text options produced s t) : Aside s.core t.core := by
  obtain ⟨u, nudges, rfl⟩ := h
  have consulted : Aside s.core (s.consult name text options).core := .of_eq (core_consult ..)
  exact (consulted.after (aside_nudges nudges)).after (.of_face rfl rfl rfl rfl)

theorem aside_lead (h : Lead P s t) : Aside s.core t.core := by
  cases h with
  | stop => exact aside_stop s
  | disarm =>
    rw [core_cancelTimer]
    exact .of_face rfl rfl rfl rfl
  | wake => exact ⟨rfl, by simp [Session.core, Session.wake, modifyState, mark], id,
      Nat.le_refl _, fun _ _ => rfl⟩
  | _ => exact .of_face rfl rfl rfl rfl

theorem aside_leads (h : Leads P s t) : Aside s.core t.core := by
  induction h with
  | refl => exact .refl _
  | tail _ step ih => exact ih.after (aside_lead step)

end Session

end Playground
