import Playground.Proofs.Calls
import Playground.Proofs.Core

/-!
# What leads to a compile

The first step of a call, and every step of a loading, ends in one of three ways: at the way into
the pipeline, in a loading that gives way, or with nothing to compile. What it does until then is
made of small changes.

* `Lead`, `Leads` — the small changes.
* `Excused` — why a call ends with nothing to compile.
* `Led`, `led_begin`, `led_continueLoad` — the three ways.
* `led_or_staging` — whatever goes on does so in one of these ways, or makes a step of a run.
-/

namespace Playground

open Playground.Clock

/-- One small change by a coroutine that is not in the pipeline. -/
inductive Lead (P : Action → Prop) : Session Action → Session Action → Prop where
  | note (s : Session Action) (e : Effect) (h : e.compile? = none) : Lead P s (s.note e)
  | write (s : Session Action) (level : Log.Level) (logger message : String) :
      Lead P s (s.write level logger message)
  | compiler (s : Session Action) (name : String) (script rest : CompilerScript Action)
      (h : s.compiler? name = some (.scripted script)) (left : script.Leaves rest) :
      Lead P s (s.setCompiler name (.scripted rest))
  | loaded (s : Session Action) (name : String) (c : LoadedCompiler) :
      Lead P s (s.setLoaded name c)
  | stop (s : Session Action) : Lead P s s.stop
  | disarm (s : Session Action) : Lead P s s.cancelTimer
  | wake (s : Session Action) : Lead P s s.wake
  | unload (s : Session Action) (compiler : String) (f : Fault) :
      Lead P s (s.mark (.unloaded compiler f))
  | fit (s : Session Action) (ready : Bool) (version : String) :
      Lead P s (s.modifyState fun st => { st with ready := ready, version := version })
  | choose (s : Session Action) (compiler : String) (options : Options) :
      Lead P s (s.modifyState fun st => { st with compiler := compiler, options := options })

abbrev Leads (P : Action → Prop) := Relation.ReflTransGen (Lead P)

namespace Session

/-- Does a click for the mode, or for the mode of the session, compile nothing? -/
def declines (s : Session Action) : Option String → Prop
  | none => s.state.compileMode = .decompile
  | some name => CompileMode.ofName name ≠ .ok .auto ∧ CompileMode.ofName name ≠ .ok .manual

end Session

/-- Why the first step of a call, or a step of a loading, ends with nothing to compile. -/
inductive Excused (call : Option Call) (s t : Session Action) : Prop where
  | stopped (h : t.state.alive = false)
  | unready (h : t.state.ready = false)
  /-- The fault of a loading has no wording. -/
  | unloaded (compiler : String) (f : Fault) (h : .unloaded compiler f ∈ t.history)
  | kept (c : Call) (called : call = some c) (other : ∀ draft, c ≠ .compile draft)
      (h : t.core = s.core)
  | declined (mode : Option String) (clicked : call = some (.click mode)) (h : s.declines mode)
      (eq : t.core = s.cancelTimer.core)

/-- How a step of a coroutine that is not in the pipeline ends; `call` is the call, at its first
step. -/
inductive Led (P : Action → Prop) (call : Option Call) (s : Session Action)
    (r : Session Action × Session.Progress) : Prop where
  | rests (lead : Leads P s r.1) (next : r.2.waiting? = none) (why : Excused call s r.1)
  | loads (lead : Leads P s r.1) (compiler : String) (left : Nat) (ending : Option Fault)
      (purpose : LoadPurpose) (next : r.2 = .waits (.loading compiler left ending purpose))
  | enters (u : Session Action) (draft : Option Draft) (after : After) (lead : Leads P s u)
      (asked : draft = none ∨ call = some (.compile draft)) (eq : r = u.enterCompile draft after)

namespace Session

theorem Admits.lead {P : Action → Prop} {s t : Session Action} (hs : s.Admits P)
    (h : Lead P s t) : t.Admits P := by
  cases h with
  | compiler name script rest known left => exact hs.nudge (.compiler _ name script rest known left)
  | _ => exact hs.of_eq rfl rfl

variable {P : Action → Prop} {call : Option Call} {s t : Session Action}

/-! ### Loading -/

theorem leads_write (lead : Leads P s t) (level : Log.Level) (logger message : String) :
    Leads P s (t.write level logger message) := lead.tail (.write t level logger message)

/-- After a loading the session compiles, or it is not ready. -/
theorem led_afterLoad (lead : Leads P s t) (purpose : LoadPurpose) (compiler : String)
    (available : Bool) : Led P call s (t.afterLoad purpose compiler available) := by
  have unready : Leads P s (t.modifyState fun st => { st with ready := false }) :=
    lead.tail (.fit t false t.state.version)
  unfold afterLoad
  cases purpose with
  | switchCompiler =>
    cases available with
    | false => exact .enters t none _ lead (.inl rfl) rfl
    | true => exact .enters _ none _ (lead.tail (.fit t t.state.ready _)) (.inl rfl) rfl
  | start =>
    cases available with
    | true => exact .enters t none _ lead (.inl rfl) rfl
    | false => exact .rests unready rfl (.unready rfl)
  | startUp =>
    cases available with
    | true => exact .enters t none _ lead (.inl rfl) rfl
    | false => exact .rests (leads_write unready _ _ _) rfl (.unready rfl)

theorem led_endLoad (lead : Leads P s t) (compiler : String) (ending : Option Fault)
    (purpose : LoadPurpose) : Led P call s (t.endLoad compiler ending purpose) := by
  unfold endLoad
  split
  · split
    · exact led_afterLoad (leads_write lead _ _ _) purpose compiler false
    · split
      · exact led_afterLoad (leads_write lead _ _ _) purpose compiler false
      next why _ =>
        exact .rests (lead.tail (.unload t compiler why)) rfl
          (.unloaded compiler why List.mem_cons_self)
  · have loaded : Leads P s (t.setLoaded compiler (t.freshlyLoaded compiler)) :=
      lead.tail (.loaded t compiler _)
    exact led_afterLoad (leads_write (loaded.tail (.fit _ true _)) _ _ _) purpose compiler true

theorem led_continueLoad (lead : Leads P s t) (compiler : String) (left : Nat)
    (ending : Option Fault) (purpose : LoadPurpose) :
    Led P call s (t.continueLoad compiler left ending purpose) := by
  cases left with
  | zero => exact led_endLoad lead compiler ending purpose
  | succ n => exact .loads lead compiler n ending purpose rfl

theorem led_load (lead : Leads P s t) (compiler : String) (purpose : LoadPurpose) :
    Led P call s (t.load compiler purpose) := by
  unfold load beginLoad
  cases hc : t.compiler? compiler with
  | none => exact led_endLoad lead compiler _ purpose
  | some c =>
    cases c with
    | bytecode i => exact led_continueLoad lead compiler 0 none purpose
    | scripted script =>
      have noted : Leads P s (t.note (.loaded compiler)) := lead.tail (.note t _ rfl)
      have left : script.Leaves { script with loads := script.loads.take.2 } :=
        ⟨fun _ h => Answers.mem_take h, fun _ h => h, rfl⟩
      exact led_continueLoad (noted.tail (.compiler _ compiler script _ hc left)) compiler _ _
        purpose

/-! ### Calls -/

theorem led_click (mode : Option String) (s : Session Action) :
    Led P (some (.click mode)) s (begin (.click mode) s) := by
  have disarmed : Leads P s s.cancelTimer := .single (.disarm s)
  unfold begin
  cases mode with
  | none =>
    simp only
    split
    next declined => exact .rests (leads_write disarmed _ _ _) rfl (.declined none rfl declined rfl)
    next => exact .enters _ none _ disarmed (.inl rfl) rfl
  | some name =>
    simp only
    split
    next f hf => exact .rests disarmed rfl (.declined (some name) rfl (by simp [declines, hf]) rfl)
    next hd =>
      have declined : s.declines (some name) := by simp [declines, hd]
      exact .rests (leads_write disarmed _ _ _) rfl (.declined (some name) rfl declined rfl)
    next => exact .enters _ none _ disarmed (.inl rfl) rfl

/-- **The first step of a call reaches the way into the pipeline, loads or has nothing to
compile.** -/
theorem led_begin (call : Call) (s : Session Action) : Led P (some call) s (begin call s) := by
  have woken : Leads P s s.wake := .single (.wake s)
  have disarmed : Leads P s s.cancelTimer := .single (.disarm s)
  cases call with
  | start => exact led_load woken s.state.compiler .start
  | startUp => exact led_load woken s.state.compiler .startUp
  | compile draft => exact .enters s draft _ .refl (.inr rfl) rfl
  | click mode => exact led_click mode s
  | setOption key value =>
    unfold begin
    simp only
    split
    next =>
      split
      next => exact .rests .refl rfl (.kept _ rfl nofun rfl)
      next options _ =>
        have chosen : Leads P s (s.modifyState fun st => { st with options := options }) :=
          .single (.choose s s.state.compiler options)
        exact .enters _ none _ (chosen.tail (.disarm _)) (.inl rfl) rfl
    next => exact .rests .refl rfl (.kept _ rfl nofun rfl)
  | switchCompiler compiler =>
    have chosen :
        Leads P s (s.cancelTimer.modifyState fun st => { st with compiler := compiler }) :=
      disarmed.tail (.choose _ compiler s.state.options)
    unfold begin
    simp only
    split
    next => exact led_afterLoad chosen .switchCompiler compiler true
    next => exact led_load chosen compiler .switchCompiler
  | waitIdle =>
    obtain ⟨unchanged, next⟩ := waitIdle_rests s
    exact .rests (unchanged.symm ▸ .refl) next
      (.kept _ rfl nofun (congrArg core unchanged))
  | shutDown =>
    have stopped : Leads P s s.stop := .single (.stop s)
    obtain ⟨unchanged, next⟩ := waitIdle_rests s.stop
    exact .rests (unchanged.symm ▸ stopped) next (.stopped (unchanged.symm ▸ rfl))
  | turn => exact .rests .refl rfl (.kept _ rfl nofun rfl)

/-- **A coroutine goes on to a compile or makes a step of a run.** -/
theorem led_or_staging (P : Action → Prop) {at_ : Waiting} (lasting : at_.lasting? = some at_) :
    (at_.stage? = none ∧ Led P at_.call? s (s.resume Session.react at_)) ∨
      ∃ stage run after, at_ = .staging stage run after := by
  cases at_ with
  | fresh call => exact .inl ⟨rfl, led_begin call s⟩
  | loading compiler left ending purpose =>
    exact .inl ⟨rfl, led_continueLoad .refl compiler left ending purpose⟩
  | staging stage run after => exact .inr ⟨stage, run, after, rfl⟩
  | idle failure => cases lasting

end Session

end Playground
