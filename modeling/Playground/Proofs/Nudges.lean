import Mathlib.Logic.Relation
import Playground.Proofs.Loop
import Playground.Proofs.Moves

/-!
# What is done to a session from within a stage

While a stage runs, compilers, modules and listeners are called, and these may act on the session.
All of it is made of a few small changes, so that what each of them keeps is kept by the whole call.
The changes can be confined to actions with a property `P`, which the scripts of compilers and
listeners must then have.

* `Session.Admits` — the compilers and listeners of a session only act with `P`.
* `Nudge` — one small change; `Nudges` — several.
* `reacts_react` — all that compilers and listeners do is made of small changes.
-/

namespace Playground

open Playground.Text Playground.Clock

structure CompilerScript.Admits (P : Action → Prop) (c : CompilerScript Action) : Prop where
  answers : ∀ answer ∈ c.compiles.first :: c.compiles.later, ∀ a ∈ answer.actions, P a
  interludes : ∀ i ∈ c.interludes, ∀ a ∈ i.actions, P a

instance {P : Action → Prop} [DecidablePred P] (c : CompilerScript Action) :
    Decidable (c.Admits P) :=
  decidable_of_iff ((∀ answer ∈ c.compiles.first :: c.compiles.later, ∀ a ∈ answer.actions, P a) ∧
    ∀ i ∈ c.interludes, ∀ a ∈ i.actions, P a) ⟨fun h => ⟨h.1, h.2⟩, fun h => ⟨h.1, h.2⟩⟩

def Compiler.Admits (P : Action → Prop) : Compiler Action → Prop
  | .scripted script => script.Admits P
  | .bytecode _ => True

instance {P : Action → Prop} [DecidablePred P] : DecidablePred (Compiler.Admits P)
  | .scripted script => inferInstanceAs (Decidable (script.Admits P))
  | .bytecode _ => .isTrue trivial

/-- All actions of a listener have the property, whatever it hears. -/
def Listener.Admits (P : Action → Prop) (l : Listener Action) : Prop :=
  ∀ n event data r, l.respond n event data = some r → ∀ a ∈ r.actions, P a

/-- What is left of a compiler's script after some of its answers were given. -/
structure CompilerScript.Leaves (c rest : CompilerScript Action) : Prop where
  loads : ∀ ending ∈ rest.loads.first :: rest.loads.later, ending ∈ c.loads.first :: c.loads.later
  answers : ∀ answer ∈ rest.compiles.first :: rest.compiles.later,
    answer ∈ c.compiles.first :: c.compiles.later
  interludes : rest.interludes = c.interludes

theorem CompilerScript.Admits.leaves {P : Action → Prop} {c rest : CompilerScript Action}
    (h : c.Admits P) (left : c.Leaves rest) : rest.Admits P :=
  ⟨fun answer ha => h.answers answer (left.answers answer ha), left.interludes ▸ h.interludes⟩

/-- The answers after the next one are among those that were there. -/
theorem Answers.mem_take {α : Type} {a : Answers α} {x : α}
    (h : x ∈ a.take.2.first :: a.take.2.later) : x ∈ a.first :: a.later := by
  revert h
  unfold take
  split
  · exact id
  next hl =>
    intro h
    rw [hl]
    exact List.mem_cons_of_mem _ h

/-- The next answer is one of them. -/
theorem Answers.take_mem {α : Type} (a : Answers α) : a.take.1 ∈ a.first :: a.later := by
  unfold take
  split <;> exact List.mem_cons_self

def Effect.compile? : Effect → Option (String × String × Options)
  | .compiled compiler text options => some (compiler, text, options)
  | _ => none

def Effect.load? : Effect → Option String
  | .loaded compiler => some compiler
  | _ => none

namespace Session

variable {P : Action → Prop}

/-- All actions of the listeners and compilers of a session have the property. -/
structure Admits (P : Action → Prop) (s : Session Action) : Prop where
  listeners : ∀ l ∈ s.listeners, l.2.Admits P
  compilers : ∀ name script, (name, Compiler.scripted script) ∈ s.compilers → script.Admits P

/-- Compilers that are known by their names can be looked through one by one. -/
theorem Admits.of_compilers {s : Session Action} (listeners : ∀ l ∈ s.listeners, l.2.Admits P)
    (compilers : ∀ c ∈ s.compilers, c.2.Admits P) : s.Admits P :=
  ⟨listeners, fun _ _ known => compilers _ known⟩

/-- The part of an edit that comes before the listeners hear of it. -/
def edit (text : String) (s : Session Action) : Session Action :=
  let s := s.modifyState fun st => { st with source := text }
  if trimmed text = s.state.lastTextInput then s
  else
    let s := s.modifyState fun st => { st with lastTextInput := trimmed text }
    if s.state.alive && s.state.compileMode = .auto then s.rearm.1 else s

/-- The part of a change of the mode that comes before the listeners hear of it. -/
def turn (mode : CompileMode) (s : Session Action) : Session Action :=
  let s := s.cancelTimer.modifyState fun st => { st with compileMode := mode }
  if mode = .auto && s.state.alive then s.rearm.1 else s

end Session

/-- One small change of a session by what is called from a stage. -/
inductive Nudge (P : Action → Prop) : Session Action → Session Action → Prop where
  | note (s : Session Action) (e : Effect) (h : e.compile? = none) (unloaded : e.load? = none) :
      Nudge P s (s.note e)
  | write (s : Session Action) (level : Log.Level) (logger message : String) :
      Nudge P s (s.write level logger message)
  | heed (s : Session Action) (event listener : String) (data : Payload) :
      Nudge P s (s.takeReaction event listener data).1
  | subscribe (s : Session Action) (b : EventBus) : Nudge P s { s with bus := b }
  | compiler (s : Session Action) (name : String) (script rest : CompilerScript Action)
      (h : s.compiler? name = some (.scripted script)) (left : script.Leaves rest) :
      Nudge P s (s.setCompiler name (.scripted rest))
  | interpreter (s : Session Action) (name : String) (own i : Bytecode.Interpreter)
      (h : s.compiler? name = some (.bytecode own)) :
      Nudge P s (s.setCompiler name (.bytecode i))
  | loaded (s : Session Action) (name : String) (own c : LoadedCompiler)
      (h : s.loaded? name = some own) (same : c.version = own.version) :
      Nudge P s (s.setLoaded name c)
  | edit (s : Session Action) (text : String) (h : P (.input text)) : Nudge P s (s.edit text)
  | turn (s : Session Action) (name : String) (mode : CompileMode) (h : P (.setMode name))
      (hm : CompileMode.ofName name = .ok mode) : Nudge P s (s.turn mode)
  /-- A mode that is none still clears the timer. -/
  | disarm (s : Session Action) (name : String) (f : Fault) (h : P (.setMode name))
      (hm : CompileMode.ofName name = .error f) : Nudge P s s.cancelTimer
  | scheduled (s : Session Action) (data : Payload) :
      Nudge P s (s.mark (.published compileScheduled data))
  | unheard (s : Session Action) (f : Fault) : Nudge P s (s.mark (.cutOff compileScheduled f))
  | select (s : Session Action) (t : OutputType) :
      Nudge P s (s.modifyState fun st => { st with outputType := t })
  | dismiss (s : Session Action) (key : Int) : Nudge P s (s.dismiss key).1
  | stop (s : Session Action) (h : P .stop) : Nudge P s s.stop
  | spawn (s : Session Action) (call : Call) (h : P (.spawn call)) :
      Nudge P s (s.spawn (Action.settleCall s.state.options call))

abbrev Nudges (P : Action → Prop) := Relation.ReflTransGen (Nudge P)

/-- What is carried out by `react` is made of small changes. -/
def Reacts (P : Action → Prop) (react : React Action) : Prop :=
  ∀ acts s, (∀ a ∈ acts, P a) → s.Admits P → Nudges P s (react acts s).1

namespace Session

variable {P : Action → Prop} {react : React Action} {s t : Session Action}

/-! ### The scripts stay confined -/

theorem mem_assign {β : Type} {name : String} {value : β} {x : String × β} :
    ∀ {l : List (String × β)}, x ∈ assign name value l → x = (name, value) ∨ x ∈ l
  | [], h => by simpa [assign] using h
  | e :: l, h => by
    unfold assign at h
    split at h
    · rcases List.mem_cons.1 h with h | h
      · exact .inl h
      · exact .inr (List.mem_cons_of_mem _ h)
    · rcases List.mem_cons.1 h with h | h
      · exact .inr (h ▸ List.mem_cons_self)
      · rcases mem_assign h with h | h
        · exact .inl h
        · exact .inr (List.mem_cons_of_mem _ h)

/-- A listener that is known reacts only with what it may do. -/
theorem Admits.listener_of_find {listener : String} {l : Listener Action} (hs : s.Admits P)
    (h : (s.listeners.find? fun l => l.1 = listener).map (·.2) = some l) : l.Admits P := by
  obtain ⟨e, he, rfl⟩ := Option.map_eq_some_iff.1 h
  exact hs.listeners e (List.mem_of_find?_eq_some he)

theorem Admits.takeReaction (hs : s.Admits P) (event listener : String) (data : Payload) :
    (s.takeReaction event listener data).1.Admits P ∧
      ∀ r, (s.takeReaction event listener data).2 = some r → ∀ a ∈ r.actions, P a := by
  unfold Session.takeReaction
  split
  · exact ⟨hs, nofun⟩
  next l h =>
    have hl := hs.listener_of_find h
    -- counting a call changes nothing of what the listener may do
    refine ⟨⟨fun x hx => ?_, hs.compilers⟩, fun r responds => hl _ _ _ r responds⟩
    rcases mem_assign hx with rfl | hx
    · exact hl
    · exact hs.listeners x hx

/-- A compiler that is known acts only with what its script holds. -/
theorem Admits.script (hs : s.Admits P) {name : String} {script : CompilerScript Action}
    (h : s.compiler? name = some (.scripted script)) : script.Admits P := by
  obtain ⟨⟨n, c⟩, he, rfl⟩ := Option.map_eq_some_iff.1 h
  exact hs.compilers n script (List.mem_of_find?_eq_some he)

theorem Admits.of_eq (hs : s.Admits P) (hl : t.listeners = s.listeners)
    (hc : t.compilers = s.compilers) : t.Admits P :=
  ⟨hl ▸ hs.listeners, hc ▸ hs.compilers⟩

theorem rearm_scripts (s : Session Action) :
    s.rearm.1.listeners = s.listeners ∧ s.rearm.1.compilers = s.compilers := by
  unfold rearm
  split <;> exact ⟨rfl, rfl⟩

theorem Admits.edit (hs : s.Admits P) (text : String) : (s.edit text).Admits P := by
  unfold Session.edit
  simp only
  split
  · exact hs.of_eq rfl rfl
  · split
    · exact hs.of_eq (rearm_scripts _).1 (rearm_scripts _).2
    · exact hs.of_eq rfl rfl

theorem Admits.turn (hs : s.Admits P) (mode : CompileMode) : (s.turn mode).Admits P := by
  unfold Session.turn
  simp only
  split
  · exact hs.of_eq (rearm_scripts _).1 (rearm_scripts _).2
  · exact hs.of_eq rfl rfl

theorem Admits.nudge (hs : s.Admits P) (h : Nudge P s t) : t.Admits P := by
  cases h with
  | heed event listener data => exact (hs.takeReaction event listener data).1
  | compiler name script rest known left =>
    refine ⟨hs.listeners, fun n script' hn => ?_⟩
    rcases mem_assign hn with h | h
    · cases h
      exact (hs.script known).leaves left
    · exact hs.compilers n script' h
  | interpreter name =>
    refine ⟨hs.listeners, fun n script hn => ?_⟩
    rcases mem_assign hn with h | h
    · cases h
    · exact hs.compilers n script h
  | edit text => exact hs.edit text
  | turn _ mode => exact hs.turn mode
  | _ => exact hs.of_eq rfl rfl

theorem Admits.nudges (hs : s.Admits P) (h : Nudges P s t) : t.Admits P := by
  induction h with
  | refl => exact hs
  | tail _ step ih => exact ih.nudge step

/-- Every session admits all actions. -/
theorem admits_all (s : Session Action) : s.Admits fun _ => True :=
  ⟨fun _ _ _ _ _ _ _ _ _ => trivial,
    fun _ _ _ => ⟨fun _ _ _ _ => trivial, fun _ _ _ _ => trivial⟩⟩

/-! ### Publishing -/

theorem nudges_callListener (hr : Reacts P react) (hs : s.Admits P) (event : String) (toAll : Bool)
    (listener : String) (data : Payload) :
    Nudges P s (callListener react event toAll listener s data).1 := by
  have step : Nudge P s (s.takeReaction event listener data).1 := .heed s event listener data
  have scripts := hs.takeReaction event listener data
  unfold callListener
  rcases hx : s.takeReaction event listener data with ⟨u, r⟩
  rw [hx] at step scripts
  cases r with
  | none => exact (Relation.ReflTransGen.single step).tail (.note _ _ rfl rfl)
  | some reaction =>
    have heard := (Relation.ReflTransGen.single step).tail
      (.note u (.heard listener event data toAll true) rfl rfl)
    have reacted := heard.trans
      (hr reaction.actions _ (scripts.2 reaction rfl) (hs.nudges heard))
    simp only
    split
    · exact reacted
    · split
      · exact reacted.tail (.write _ _ _ _)
      · exact reacted

theorem nudges_callListeners (hr : Reacts P react) (event : String) (toAll : Bool) :
    ∀ (ls : List String) {s : Session Action} (data : Payload), s.Admits P →
      Nudges P s (callListeners react event toAll ls s data).1
  | [], _, _, _ => .refl
  | l :: ls, s, data, hs => by
    have first := nudges_callListener hr hs event toAll l data
    unfold callListeners
    rcases hx : callListener react event toAll l s data with ⟨u, data', _ | f⟩ <;> rw [hx] at first
    · exact first.trans (nudges_callListeners hr event toAll ls data' (hs.nudges first))
    · exact first

theorem nudges_publish (hr : Reacts P react) (hs : s.Admits P) (event : String) (data : Payload) :
    Nudges P s (s.publish react event data).1 := by
  have named := nudges_callListeners hr event false (s.bus.listenersOf event) data hs
  unfold publish
  rcases hx : callListeners react event false (s.bus.listenersOf event) s data with
    ⟨u, data', _ | f⟩ <;> rw [hx] at named
  · exact named.trans (nudges_callListeners hr event true _ _ (hs.nudges named))
  · exact named

/-! ### Actions -/

/-- It is published that the timer was set. -/
theorem nudges_tellScheduled (hr : Reacts P react) (hs : s.Admits P) (data : Payload) :
    Nudges P s (s.tell react compileScheduled data).1 := by
  have told : Nudges P s (s.mark (.published compileScheduled data)) := .single (.scheduled s data)
  have published := told.trans (nudges_publish hr (hs.nudges told) compileScheduled data)
  unfold tell
  split <;> next hx =>
    rw [hx] at published
    first
    | exact published
    | exact published.tail (.unheard _ _)

/-- After the timer is set, its listeners are told. -/
theorem nudges_schedule (hr : Reacts P react) (hs : s.Admits P) :
    Nudges P s.rearm.1 (s.schedule react).1 := by
  have scripts := hs.of_eq (rearm_scripts s).1 (rearm_scripts s).2
  unfold schedule
  rcases hx : s.rearm with ⟨u, f⟩
  rw [hx] at scripts
  cases f with
  | some f => exact .refl
  | none =>
    have noted : Nudges P u (u.write .debug Debounce.loggerName
        (Debounce.scheduledMessage s.settings.autoCompileDelayMs)) := .single (.write _ _ _ _)
    exact noted.trans (nudges_tellScheduled hr (scripts.nudges noted) _)

/-- After an edit, the listeners of the timer are told, if it was set. -/
theorem nudges_after_edit (hr : Reacts P react) (hs : s.Admits P) (text : String) :
    Nudges P (s.edit text) (s.input react text).1 := by
  unfold edit input
  simp only
  split
  next => exact .refl
  next =>
    split
    next =>
      have told := nudges_schedule hr (s := (s.modifyState fun st =>
        { st with source := text }).modifyState fun st => { st with lastTextInput := trimmed text })
        (hs.of_eq rfl rfl)
      split <;> next hx => rw [hx] at told; exact told
    next => exact .refl

theorem nudges_input (hr : Reacts P react) (hs : s.Admits P) {text : String}
    (h : P (.input text)) : Nudges P s (s.input react text).1 :=
  (Relation.ReflTransGen.single (.edit s text h)).trans (nudges_after_edit hr hs text)

theorem nudges_setMode (hr : Reacts P react) (hs : s.Admits P) {name : String}
    (h : P (.setMode name)) : Nudges P s (s.setMode react name).1 := by
  unfold setMode
  simp only
  split
  next f hm => exact .single (.disarm s name f h hm)
  next mode hm =>
    have turned : Nudges P s (s.turn mode) := .single (.turn s name mode h hm)
    unfold turn at turned
    simp only at turned
    split
    next due =>
      rw [if_pos due] at turned
      exact turned.trans (nudges_schedule hr (hs.of_eq rfl rfl))
    next idle => simpa [idle] using turned

theorem nudges_act (hr : Reacts P react) (hs : s.Admits P) {a : Action} (h : P a) :
    Nudges P s (act react a s).1 := by
  cases a with
  | input text =>
    have edited := nudges_input hr hs h
    rcases hx : s.input react text with ⟨t, result⟩
    rw [hx] at edited
    simp only [act, hx]
    exact edited
  | setMode name =>
    have turned := nudges_setMode hr hs h
    unfold act
    simp only
    split <;> next hx => rw [hx] at turned; exact turned
  | selectOutput name =>
    unfold act selectOutput
    simp only
    cases OutputType.ofName name with
    | error f => exact .refl
    | ok t => exact .single (.select s t)
  | dismiss key =>
    have dismissed : Nudges P s (s.dismiss key).1 := .single (.dismiss s key)
    rcases hx : s.dismiss key with ⟨t, removed⟩
    rw [hx] at dismissed
    simp only [act, hx]
    exact dismissed
  | stop => exact .single (.stop s h)
  | «export» => exact .refl
  | publish event data =>
    have published := nudges_publish hr hs event data
    unfold act
    simp only
    split <;> next hx => rw [hx] at published; exact published
  | subscribe event listener => exact .single (.subscribe s _)
  | unsubscribe event listener => exact .single (.subscribe s _)
  | subscribeAll listener => exact .single (.subscribe s _)
  | clearListeners => exact .single (.subscribe s _)
  | spawn call => exact .single (.spawn s call h)
  | look => exact .refl

theorem nudges_actAll (hr : Reacts P react) :
    ∀ (acts : List Action) {s : Session Action}, (∀ a ∈ acts, P a) → s.Admits P →
      Nudges P s (actAll react acts s).1
  | [], _, _, _ => .refl
  | a :: acts, s, hP, hs => by
    have first := nudges_act hr hs (hP a List.mem_cons_self)
    unfold actAll
    split
    next u _ hx =>
      rw [hx] at first
      exact first.trans (nudges_actAll hr acts (fun b hb => hP b (List.mem_cons_of_mem _ hb))
        (hs.nudges first))
    next hx => rw [hx] at first; exact first

theorem reacts_reactTo : ∀ depth, Reacts P (reactTo depth)
  | 0 => by
    intro acts s _ _
    unfold reactTo
    split <;> exact .refl
  | depth + 1 => fun acts _ hP hs => nudges_actAll (reacts_reactTo depth) acts hP hs

/-- All that compilers and listeners do is made of small changes. -/
theorem reacts_react : Reacts P Session.react := reacts_reactTo actionDepth

end Session

end Playground
