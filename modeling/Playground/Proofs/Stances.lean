import Playground.Proofs.Course
import Playground.Proofs.Ledger
import Playground.Proofs.Outfits

/-!
# What only triggers change

An edit, a change of the mode, a start or a stop sets the timer, starts coroutines or lets a request
wait. Whatever else compilers and listeners do, and all that a run does, leaves this alone: as long
as nobody acts, the course of a session is settled by its timer and its coroutines.

* `Action.Passive` — the actions that trigger nothing.
* `Stance`, `Session.stance` — what they leave as it is.
* `Still` — nothing was triggered.
* `still_nudges`, `still_stepRun` — compilers and listeners trigger nothing, and neither does a step
  of a run, which at most notes that its compiler was asked.
* `stance_enterCompile` — how a run is begun.
* `compared_moves` — edits are compared with the present text.
-/

namespace Playground

open Playground.Text Playground.Clock

/-- The action triggers nothing: no compile, no timer, and no stop. -/
def Action.Passive : Action → Prop
  | .input _ => False
  | .setMode _ => False
  | .stop => False
  | .spawn _ => False
  | _ => True

instance : DecidablePred Action.Passive
  | .input _ => .isFalse id
  | .setMode _ => .isFalse id
  | .stop => .isFalse id
  | .spawn _ => .isFalse id
  | .selectOutput _ => .isTrue trivial
  | .dismiss _ => .isTrue trivial
  | .export => .isTrue trivial
  | .publish _ _ => .isTrue trivial
  | .subscribe _ _ => .isTrue trivial
  | .unsubscribe _ _ => .isTrue trivial
  | .subscribeAll _ => .isTrue trivial
  | .clearListeners => .isTrue trivial
  | .look => .isTrue trivial

/-- The run whose compiler was asked. -/
def Milestone.asked? : Milestone → Option Nat
  | .asked g _ => some g
  | _ => none

def Compiler.isScripted {α : Type} : Compiler α → Bool
  | .scripted _ => true
  | .bytecode _ => false

/-- What of a session only triggers change. -/
structure Stance where
  loop : Loop Job
  armed : Option Nat
  tasks : List TimerTask
  pending : Option Ticket
  accepted : Nat
  settings : Settings
  probe : Probe
  source : String
  lastTextInput : String
  compileMode : CompileMode
  alive : Bool
  compiling : Bool
  generation : Nat
  /-- Which compilers are known, and which of them by their answers. -/
  scripted : String → Option Bool
  /-- The runs that were begun, latest first. -/
  runs : List (Ticket × Nat)
  /-- The runs whose compiler was asked, latest first. -/
  asked : List Nat

namespace Session

variable {s t : Session Action}

@[inherit_doc Stance]
def stance (s : Session Action) : Stance where
  loop := s.loop
  armed := s.armed
  tasks := s.timerTasks
  pending := s.pending
  accepted := s.accepted
  settings := s.settings
  probe := s.probe
  source := s.state.source
  lastTextInput := s.state.lastTextInput
  compileMode := s.state.compileMode
  alive := s.state.alive
  compiling := s.state.compiling
  generation := s.state.generation
  scripted name := (s.compiler? name).map Compiler.isScripted
  runs := s.history.filterMap Milestone.run?
  asked := s.history.filterMap Milestone.asked?

/-- A note of the course adds the run that it begins, or whose compiler it says was asked. -/
theorem stance_mark (s : Session Action) (m : Milestone) :
    (s.mark m).stance = { s.stance with
      runs := m.run?.toList ++ s.stance.runs, asked := m.asked?.toList ++ s.stance.asked } := by
  have runs : (m :: s.history).filterMap Milestone.run? =
      m.run?.toList ++ s.history.filterMap Milestone.run? := by
    rw [List.filterMap_cons]
    cases m.run? <;> rfl
  have asked : (m :: s.history).filterMap Milestone.asked? =
      m.asked?.toList ++ s.history.filterMap Milestone.asked? := by
    rw [List.filterMap_cons]
    cases m.asked? <;> rfl
  show ({ s.stance with
    runs := (m :: s.history).filterMap Milestone.run?
    asked := (m :: s.history).filterMap Milestone.asked? } : Stance) = _
  rw [runs, asked]
  rfl

end Session

/-- Nothing was triggered, and no script has come to trigger anything. -/
structure Still (s t : Session Action) : Prop where
  stance : t.stance = s.stance
  passive : s.Admits Action.Passive → t.Admits Action.Passive
  cuts : s.core.cuts ≤ t.core.cuts

namespace Still

variable {s t u : Session Action}

theorem refl (s : Session Action) : Still s s := ⟨rfl, id, Nat.le_refl _⟩

theorem trans (h : Still s t) (k : Still t u) : Still s u :=
  ⟨k.stance.trans h.stance, fun passive => k.passive (h.passive passive),
    Nat.le_trans h.cuts k.cuts⟩

/-- Compilers and listeners stay as they are. -/
theorem of_eq (stance : t.stance = s.stance) (listeners : t.listeners = s.listeners)
    (compilers : t.compilers = s.compilers) (later : s.history <:+ t.history) : Still s t :=
  ⟨stance, fun passive => passive.of_eq listeners compilers, Core.cuts_le later⟩

/-- The same is noted on both sides. -/
theorem mark (h : Still s t) (m : Milestone) : Still (s.mark m) (t.mark m) :=
  ⟨by rw [Session.stance_mark, Session.stance_mark, h.stance],
    fun passive => (h.passive (passive.of_eq rfl rfl)).of_eq rfl rfl, by
      show List.countP _ (m :: s.history) ≤ List.countP _ (m :: t.history)
      rw [List.countP_cons, List.countP_cons]
      exact Nat.add_le_add_right h.cuts _⟩

end Still

namespace Session

variable {s t : Session Action}

/-! ### From the side -/

theorem stance_takeReaction (s : Session Action) (event listener : String) (data : Payload) :
    (s.takeReaction event listener data).1.stance = s.stance := by
  unfold takeReaction
  split <;> rfl

/-- What is known of a compiler moves on, but stays of its kind. -/
theorem stance_setCompiler {name : String} {own c : Compiler Action}
    (there : s.compiler? name = some own) (same : c.isScripted = own.isScripted) :
    (s.setCompiler name c).stance = s.stance := by
  have scripted : (fun n => ((s.setCompiler name c).compiler? n).map Compiler.isScripted) =
      fun n => (s.compiler? n).map Compiler.isScripted := by
    funext n
    rw [compiler?_setCompiler]
    split
    next eq =>
      rw [eq, there]
      exact congrArg some same
    next => rfl
  exact congrArg (fun scripted : String → Option Bool => { s.stance with scripted }) scripted

theorem stance_nudge (h : Nudge Action.Passive s t) : t.stance = s.stance := by
  cases h with
  | compiler _ _ _ there => exact stance_setCompiler there rfl
  | interpreter _ _ _ there => exact stance_setCompiler there rfl
  | heed event listener data => exact stance_takeReaction s event listener data
  | edit _ passive => exact passive.elim
  | turn _ _ passive => exact passive.elim
  | disarm _ _ passive => exact passive.elim
  | stop passive => exact passive.elim
  | spawn _ passive => exact passive.elim
  | scheduled data => exact stance_mark s _
  | _ => rfl

theorem still_nudge (h : Nudge Action.Passive s t) : Still s t :=
  ⟨stance_nudge h, fun passive => passive.nudge h, Core.cuts_le (beside_nudge h).later⟩

theorem still_nudges (h : Nudges Action.Passive s t) : Still s t := by
  induction h with
  | refl => exact .refl _
  | tail _ step ih => exact ih.trans (still_nudge step)

theorem still_work (h : Work Action.Passive s t) : Still s t := by
  cases h with
  | use use =>
    cases use with
    | nudge nudge => exact still_nudge nudge
    | called => exact .of_eq (stance_mark s _) rfl rfl (List.suffix_cons _ _)
  | publish | raise | cut | unrelease =>
    exact .of_eq (stance_mark s _) rfl rfl (List.suffix_cons _ _)
  | _ => exact .of_eq rfl rfl rfl (List.suffix_refl _)

theorem still_works (h : Works Action.Passive s t) : Still s t := by
  induction h with
  | refl => exact .refl _
  | tail _ step ih => exact ih.trans (still_work step)

/-! ### Within the pipeline -/

theorem still_asked {run : Run} {produced : Bool} (h : AskedBy Action.Passive run produced s t) :
    Still (s.mark (.asked run.generation produced)) t := by
  obtain ⟨u, nudges, rfl⟩ := h
  have consulted :
      Still s (s.consult run.request.compiler run.request.source run.request.options) := by
    unfold consult
    split
    · exact .of_eq rfl rfl rfl (List.suffix_refl _)
    · exact .refl s
  exact (consulted.trans (still_nudges nudges)).mark _

/-- **A step of a run only notes that it asks its compiler**, which the step that invokes it does,
if the compiler is there. -/
theorem still_stepRun (passive : s.Admits Action.Passive) (stage : Stage) (run : Run) :
    (Still s (s.stepRun Session.react stage run).1 ∧
        (stage = .invoke → s.state.alive = true → ¬ s.offers run.request.compiler)) ∨
      stage = .invoke ∧ ∃ produced,
        Still (s.mark (.asked run.generation produced)) (s.stepRun Session.react stage run).1 := by
  have worked : Worked Action.Passive stage run s (s.stepRun Session.react stage run).1 :=
    worked_stepRun reacts_react passive stage run
  cases worked with
  | works works why => exact .inl ⟨still_works works, why⟩
  | asks invoke _ _ produced u asked works =>
    exact .inr ⟨invoke, produced, (still_asked asked).trans (still_works works)⟩

/-- A run is opened, or breaks off at once if its request cannot be finalized. -/
theorem stance_openRun (ticket : Ticket) (after : After) (s : Session Action) :
    let r := s.openRun ticket after
    let begun : Stance := { s.stance with
      generation := s.state.generation + 1
      runs := (ticket, s.state.generation + 1) :: s.stance.runs }
    (∃ f, ticket.request.finalize s.probe = .error f ∧ r.2 = .ends (.error f) ∧
        r.1.stance = { begun with compiling := false }) ∨
      ∃ final, ticket.request.finalize s.probe = .ok final ∧
        r.2 = .waits (.staging .announce
          { request := final, generation := s.state.generation + 1 } after) ∧
        r.1.stance = begun := by
  let marked := s.mark (.began ticket.number (s.state.generation + 1) ticket.request)
  let opened := marked.modifyState fun st => { st with generation := st.generation + 1 }
  have stance : opened.stance = { s.stance with
      generation := s.state.generation + 1
      runs := (ticket, s.state.generation + 1) :: s.stance.runs } :=
    congrArg (fun c : Stance => { c with generation := c.generation + 1 }) (stance_mark s _)
  intro r begun
  show (∃ f, _ ∧ (openRun ticket after s).2 = _ ∧ (openRun ticket after s).1.stance = _) ∨
    ∃ final, _ ∧ (openRun ticket after s).2 = _ ∧ (openRun ticket after s).1.stance = _
  unfold openRun beginRun
  simp only
  cases finalized : ticket.request.finalize s.probe with
  | error f =>
    have finalized' : ticket.request.finalize opened.probe = .error f := finalized
    rw [finalized']
    refine .inl ⟨f, rfl, rfl, ?_⟩
    refine Eq.trans
      (congrArg (fun c : Stance => { c with compiling := false }) (stance_mark opened _)) ?_
    rw [stance]
    rfl
  | ok final =>
    have finalized' : ticket.request.finalize opened.probe = .ok final := finalized
    rw [finalized']
    refine .inr ⟨final, rfl, ?_⟩
    simp only
    split <;> exact ⟨rfl, stance⟩

/-- An idle session begins to run its own request. -/
theorem stance_enterCompile (alive : s.state.alive = true) (ready : s.state.ready = true)
    (idle : s.state.compiling = false) (after : After) :
    let r := s.enterCompile none after
    let begun : Stance := { s.stance with
      accepted := s.accepted + 1, generation := s.state.generation + 1
      runs := (⟨s.accepted, s.buildRequest⟩, s.state.generation + 1) :: s.stance.runs }
    (∃ f, s.buildRequest.finalize s.probe = .error f ∧ r.2 = .ends (.error f) ∧
        r.1.stance = begun) ∨
      ∃ final, s.buildRequest.finalize s.probe = .ok final ∧
        r.2 = .waits (.staging .announce
          { request := final, generation := s.state.generation + 1 } after) ∧
        r.1.stance = { begun with compiling := true } := by
  have due : (s.state.alive && s.state.ready) = true := by rw [alive, ready]; rfl
  let taken := (s.accept s.buildRequest).1.modifyState fun st => { st with compiling := true }
  have entered : s.enterCompile none after = taken.openRun ⟨s.accepted, s.buildRequest⟩ after := by
    unfold enterCompile
    rw [if_pos due]
    exact if_neg (by simp [requestOf, mark, idle])
  have stance : taken.stance = { s.stance with accepted := s.accepted + 1, compiling := true } :=
    congrArg (fun c : Stance => { c with compiling := true })
      (stance_mark { s with accepted := s.accepted + 1 } (.accepted s.accepted s.buildRequest))
  have opened := stance_openRun ⟨s.accepted, s.buildRequest⟩ after taken
  intro r
  rw [show r = _ from entered]
  rw [stance] at opened
  rcases opened with ⟨f, finalized, next, same⟩ | ⟨final, finalized, next, same⟩
  · exact .inl ⟨f, finalized, next, same.trans (by rw [← idle]; rfl)⟩
  · exact .inr ⟨final, finalized, next, same⟩

end Session

namespace Session

variable {P : Action → Prop} {s t : Session Action} {r : Session Action × Progress}

/-! ### The text that was compared last -/

/-- The text that edits are compared with is the present one, without the white space around it. -/
def Compared (s : Session Action) : Prop := s.state.lastTextInput = trimmed s.state.source

theorem Compared.of_state (h : s.Compared) (source : t.state.source = s.state.source)
    (last : t.state.lastTextInput = s.state.lastTextInput) : t.Compared := by
  unfold Compared
  rw [source, last]
  exact h

theorem state_rearm (s : Session Action) : s.rearm.1.state = s.state := by
  unfold rearm
  split <;> rfl

theorem compared_edit (text : String) (s : Session Action) : (s.edit text).Compared := by
  unfold edit
  simp only
  split
  next same => exact same.symm
  next =>
    have noted : ((s.modifyState fun st => { st with source := text }).modifyState fun st =>
      { st with lastTextInput := trimmed text }).Compared := rfl
    split
    · exact noted.of_state (congrArg State.source (state_rearm _))
        (congrArg State.lastTextInput (state_rearm _))
    · exact noted

theorem compared_nudge (h : Nudge P s t) (hs : s.Compared) : t.Compared := by
  cases h with
  | edit text => exact compared_edit text s
  | turn _ mode =>
    have turned : (s.cancelTimer.modifyState fun st => { st with compileMode := mode }).Compared :=
      hs.of_state rfl rfl
    unfold turn
    simp only
    split
    · exact turned.of_state (congrArg State.source (state_rearm _))
        (congrArg State.lastTextInput (state_rearm _))
    · exact turned
  | heed event listener data =>
    have kept := core_takeReaction s event listener data
    exact hs.of_state (congrArg (fun c : Core => c.state.source) kept)
      (congrArg (fun c : Core => c.state.lastTextInput) kept)
  | _ => exact hs.of_state rfl rfl

theorem compared_nudges (h : Nudges P s t) (hs : s.Compared) : t.Compared := by
  induction h with
  | refl => exact hs
  | tail _ step ih => exact compared_nudge step ih

theorem compared_work (h : Work P s t) (hs : s.Compared) : t.Compared := by
  cases h with
  | use use =>
    cases use with
    | nudge nudge => exact compared_nudge nudge hs
    | called => exact hs.of_state rfl rfl
  | _ => exact hs.of_state rfl rfl

theorem compared_lead (h : Lead P s t) (hs : s.Compared) : t.Compared := by
  cases h with
  | _ => exact hs.of_state rfl rfl

theorem compared_booking (h : Booking s t) (hs : s.Compared) : t.Compared := by
  cases h <;> exact hs.of_state rfl rfl

theorem Compared.of_core (h : s.Compared) {c : Core} (eq : t.core = c)
    (source : c.state.source = s.state.source)
    (last : c.state.lastTextInput = s.state.lastTextInput) : t.Compared :=
  h.of_state ((congrArg (fun c : Core => c.state.source) eq).trans source)
    ((congrArg (fun c : Core => c.state.lastTextInput) eq).trans last)

/-- **Edits are compared with the present text.** -/
theorem compared_moves (o : Opening) (ms : List Move) : (o.session.moves ms).Compared := by
  refine moves_induction Compared rfl fun m _ s hs => ?_
  cases turn_any s m with
  | acted a _ eq =>
    rw [eq]
    exact compared_nudges (nudges_act reacts_react (admits_all s) trivial) hs
  | kept eq => exact hs.of_core eq rfl rfl
  | called _ _ eq => exact hs.of_core eq rfl rfl
  | fired _ _ eq => exact hs.of_core eq rfl rfl
  | resumed u at_ lasting front popped eq =>
    have taken : u.Compared := hs.of_core popped rfl rfl
    have resumed : (u.resume Session.react at_).1.Compared :=
      keeps_resume (admits_all u) taken (fun lead h => compared_lead lead h)
        (fun booking h => compared_booking booking h) (fun _ _ _ h => h)
        (fun work h => compared_work work h) at_
    exact resumed.of_core eq rfl rfl

end Session

/-- The session has the stance, but for its loop and the text that was compared last. -/
def Stance.Holds (c : Stance) (s : Session Action) : Prop :=
  s.stance = { c with loop := s.loop, lastTextInput := s.state.lastTextInput }

/-- The loop does not matter. -/
theorem Stance.Holds.of_stance {c : Stance} {s t : Session Action} (h : c.Holds s)
    (same : { t.stance with loop := s.loop } = s.stance) : c.Holds t := by
  have last : t.state.lastTextInput = s.state.lastTextInput := congrArg Stance.lastTextInput same
  calc t.stance = { ({ t.stance with loop := s.loop } : Stance) with loop := t.loop } := rfl
    _ = { s.stance with loop := t.loop } := by rw [same]
    _ = { c with loop := t.loop, lastTextInput := t.state.lastTextInput } := by rw [h, last]

end Playground
