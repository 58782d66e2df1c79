import Playground.Proofs.Nudges

/-!
# Calls of compilers and modules

A call of a compiler or of a module changes a session only by small changes: the state of the
compiler moves on, the script of the call is carried out, and at the end the call is noted.

* `Use`, `Uses` — the small changes by the calls of modules.
* `Asked`, `Called` — one call: whatever is done while it goes on, and the note of its end.
* `Session.consult` — the note that a compiler is called.
* `asked_compileSource`, `called_validateModule`, `called_optimizeModule`, `emitted_emitModule`,
  `disposed_emitAndDispose`, `disposed_releaseModule` — which calls a pipeline makes.
-/

namespace Playground

namespace CompilerScript

variable {P : Action → Prop} {c : CompilerScript Action}

theorem Admits.actions_take (h : c.Admits P) : ∀ a ∈ c.compiles.take.1.actions, P a :=
  h.answers _ (Answers.take_mem _)

/-- What is left after the next answer to a compile call. -/
theorem leaves_take (c : CompilerScript Action) (n : Nat) :
    c.Leaves { c with compiles := c.compiles.take.2, compiled := n } :=
  ⟨fun _ h => h, fun _ h => Answers.mem_take h, rfl⟩

theorem Admits.actionsDuring (h : c.Admits P) (number : Nat) (call : ModuleCall) :
    ∀ a ∈ c.actionsDuring number call, P a := by
  intro a ha
  obtain ⟨i, hi, ha⟩ := List.mem_flatMap.1 ha
  exact h.interludes i (List.mem_filter.1 hi).1 a ha

end CompilerScript

namespace Session

variable {P : Action → Prop} {react : React Action} {s : Session Action}

theorem Admits.actionsDuring (hs : s.Admits P) (compiler : String) (number : Nat)
    (call : ModuleCall) : ∀ a ∈ s.actionsDuring compiler number call, P a := by
  unfold Session.actionsDuring
  split
  next script h => exact (hs.script h).actionsDuring number call
  · simp

/-! ### Compilers -/

/-- The call of a compiler that is known by its answers is noted before it answers. -/
def consult (name text : String) (options : Options) (s : Session Action) : Session Action :=
  match s.compiler? name with
  | some (.scripted _) => s.note (.compiled name text options)
  | _ => s

theorem Admits.consult (hs : s.Admits P) (name text : String) (options : Options) :
    (s.consult name text options).Admits P := by
  unfold Session.consult
  split
  · exact hs.of_eq rfl rfl
  · exact hs

theorem nudges_compileScripted (hr : Reacts P react) (hs : s.Admits P) {name : String}
    {script : CompilerScript Action} (h : s.compiler? name = some (.scripted script))
    (text : String) (options : Options) :
    Nudges P (s.consult name text options)
      (s.compileScripted react name text options script).1 := by
  have consulted : s.consult name text options = s.note (.compiled name text options) := by
    unfold consult
    rw [h]
  have called : Nudges P (s.consult name text options)
      ((s.note (.compiled name text options)).setCompiler name (.scripted { script with
        compiles := script.compiles.take.2, compiled := script.compiled + 1 })) := by
    rw [consulted]
    exact .single (.compiler _ name script _ h (script.leaves_take _))
  have reacted := hr _ _ (hs.script h).actions_take
    ((hs.consult name text options).nudges called)
  unfold compileScripted
  simp only
  split <;> next hx =>
    rw [hx] at reacted
    try split
    all_goals exact called.trans reacted

theorem nudges_compileBytecode {name : String} {own : LoadedCompiler}
    (h : s.loaded? name = some own) (text : String) (options : Options)
    {interpreter : Bytecode.Interpreter} (there : s.compiler? name = some (.bytecode interpreter)) :
    Nudges P s (s.compileBytecode name text options own interpreter).1 := by
  have kept (i : Bytecode.Interpreter) (c : LoadedCompiler) (same : c.version = own.version) :
      Nudges P s ((s.setCompiler name (.bytecode i)).setLoaded name c) :=
    (Relation.ReflTransGen.single (.interpreter s name _ i there)).tail
      (.loaded _ name own c h same)
  unfold compileBytecode
  simp only
  split <;> exact kept _ _ rfl

theorem nudges_callScripted (hr : Reacts P react) (hs : s.Admits P) (compiler : String)
    (number : Nat) (script : ModuleScript) (call : ModuleCall) :
    Nudges P s (s.callScripted react compiler number script call).1 := by
  have noted : Nudges P s (s.note (.moduleCalled compiler number call)) :=
    .single (.note s _ rfl rfl)
  have hs' := hs.nudges noted
  have reacted := hr _ _ (hs'.actionsDuring compiler number call) hs'
  unfold callScripted
  simp only
  split <;> next hx =>
    rw [hx] at reacted
    try split
    all_goals exact noted.trans reacted

/-- An interpreter that moves on is a small change. -/
theorem nudges_setInterpreter (name : String) (i : Bytecode.Interpreter) :
    Nudges P s (s.setInterpreter name i) := by
  unfold setInterpreter
  split
  next own there => exact .single (.interpreter s name own i there)
  next => exact .refl

end Session

/-! ### One call -/

/-- One small change by the call of a module: what is called acts, or the call is noted. -/
inductive Use (P : Action → Prop) : Session Action → Session Action → Prop where
  | nudge {s t : Session Action} (h : Nudge P s t) : Use P s t
  | called (s : Session Action) (generation : Nat) (call : ModuleCall) (fault : Option Fault) :
      Use P s (s.mark (.called generation call fault))

/-- Several small changes by calls of modules. -/
abbrev Uses (P : Action → Prop) := Relation.ReflTransGen (Use P)

/-- The compiler of a run is asked: whatever it does meanwhile, and the note of its answer. -/
def Asked (P : Action → Prop) (generation : Nat) (name text : String) (options : Options)
    (produced : Bool) (s t : Session Action) : Prop :=
  ∃ u, Nudges P (s.consult name text options) u ∧ t = u.mark (.asked generation produced)

/-- The module of a run is called: whatever it does meanwhile, and the note of how it ended. -/
def Called (P : Action → Prop) (generation : Nat) (call : ModuleCall) (fault : Option Fault)
    (s t : Session Action) : Prop :=
  ∃ u, Nudges P s u ∧ t = u.mark (.called generation call fault)

/-- The text and the binary of a module are asked for, the latter only once the text is there. -/
inductive Emitted (P : Action → Prop) (generation : Nat) (s : Session Action) :
    Session Action × Except Fault Artifact → Prop where
  | text (t : Session Action) (f e : Fault) (h : Called P generation .emitText (some f) s t) :
      Emitted P generation s (t, .error e)
  | binary (u t : Session Action) (fault : Option Fault) (result : Except Fault Artifact)
      (text : Called P generation .emitText none s u)
      (binary : Called P generation .emitBinary fault u t) : Emitted P generation s (t, result)

section

variable {P : Action → Prop} {generation : Nat} {s t : Session Action}

theorem uses_of_nudges (h : Nudges P s t) : Uses P s t :=
  Relation.ReflTransGen.mono (fun _ _ step => .nudge step) _ _ h

theorem Called.uses {call : ModuleCall} {fault : Option Fault}
    (h : Called P generation call fault s t) : Uses P s t := by
  obtain ⟨u, nudges, rfl⟩ := h
  exact (uses_of_nudges nudges).tail (.called u generation call fault)

theorem Emitted.uses {r : Session Action × Except Fault Artifact} (h : Emitted P generation s r) :
    Uses P s r.1 := by
  cases h with
  | text t f e h => exact h.uses
  | binary u t fault result text binary => exact text.uses.trans binary.uses

end

namespace Session

variable {P : Action → Prop} {react : React Action} {s : Session Action}

theorem Admits.uses {t : Session Action} (hs : s.Admits P) (h : Uses P s t) : t.Admits P := by
  induction h with
  | refl => exact hs
  | tail _ step ih =>
    cases step with
    | nudge h => exact ih.nudge h
    | _ => exact ih.of_eq rfl rfl

def offers (s : Session Action) (name : String) : Prop :=
  (s.loaded? name).isSome = true ∧ (s.compiler? name).isSome = true

/-- **A run asks its compiler if it is there, and is turned away otherwise.** -/
theorem asked_compileSource (hr : Reacts P react) (hs : s.Admits P) (generation : Nat)
    (name text : String) (options : Options) :
    (¬ s.offers name ∧
      s.compileSource react generation name text options = (s, .error (.unknownCompiler name))) ∨
      s.offers name ∧ Asked P generation name text options
        (isProduced (s.compileSource react generation name text options).2) s
        (s.compileSource react generation name text options).1 := by
  unfold compileSource offers
  cases loaded : s.loaded? name with
  | none => exact .inl ⟨by simp, rfl⟩
  | some own =>
    cases known : s.compiler? name with
    | none => exact .inl ⟨by simp, rfl⟩
    | some c =>
      refine .inr ⟨⟨rfl, rfl⟩, ?_⟩
      cases c with
      | scripted script => exact ⟨_, nudges_compileScripted hr hs known text options, rfl⟩
      | bytecode i =>
        have consulted : s.consult name text options = s := by
          unfold consult
          rw [known]
        exact ⟨_, consulted.symm ▸ nudges_compileBytecode loaded text options known, rfl⟩

theorem called_validateModule (hr : Reacts P react) (hs : s.Admits P) (generation : Nat)
    (m : Module) :
    Called P generation .validate (failureOf (s.validateModule react generation m).2) s
      (s.validateModule react generation m).1 := by
  cases m with
  | scripted c n script => exact ⟨_, nudges_callScripted hr hs c n script .validate, rfl⟩
  | bytecode c b => exact ⟨_, nudges_setInterpreter c _, rfl⟩

theorem called_optimizeModule (hr : Reacts P react) (hs : s.Admits P) (generation : Nat)
    (m : Module) :
    Called P generation .optimize (failureOf (s.optimizeModule react generation m).2.2) s
      (s.optimizeModule react generation m).1 := by
  cases m with
  | scripted c n script => exact ⟨_, nudges_callScripted hr hs c n script .optimize, rfl⟩
  | bytecode c b => exact ⟨_, nudges_setInterpreter c _, rfl⟩

theorem called_emitModuleText (hr : Reacts P react) (hs : s.Admits P) (generation : Nat)
    (m : Module) :
    Called P generation .emitText (failureOf (s.emitModuleText react generation m).2) s
      (s.emitModuleText react generation m).1 := by
  cases m with
  | scripted c n script =>
    refine ⟨_, nudges_callScripted hr hs c n script .emitText, ?_⟩
    -- giving the text of the script adds no fault
    simp only [emitModuleText, noteCall]
    cases (s.callScripted react c n script .emitText).2 <;> rfl
  | bytecode c b => exact ⟨_, nudges_setInterpreter c _, rfl⟩

/-- The call may return a value that stands for no bytes, so that its fault is not that of the
result. -/
theorem called_emitModuleBinary (hr : Reacts P react) (hs : s.Admits P) (generation : Nat)
    (m : Module) :
    ∃ fault, Called P generation .emitBinary fault s
      (s.emitModuleBinary react generation m).1 := by
  cases m with
  | scripted c n script => exact ⟨_, _, nudges_callScripted hr hs c n script .emitBinary, rfl⟩
  | bytecode c b => exact ⟨_, _, nudges_setInterpreter c _, rfl⟩

theorem called_disposeModule (hr : Reacts P react) (hs : s.Admits P) (generation : Nat)
    (m : Module) :
    Called P generation .dispose (failureOf (s.disposeModule react generation m).2) s
      (s.disposeModule react generation m).1 := by
  cases m with
  | scripted c n script => exact ⟨_, nudges_callScripted hr hs c n script .dispose, rfl⟩
  | bytecode c b => exact ⟨s, .refl, rfl⟩

theorem emitted_emitModule (hr : Reacts P react) (hs : s.Admits P) (generation : Nat)
    (m : Module) : Emitted P generation s (s.emitModule react generation m) := by
  have text := called_emitModuleText hr hs generation m
  unfold emitModule
  rcases hx : s.emitModuleText react generation m with ⟨u, f | listing⟩ <;> rw [hx] at text
  · exact .text u f f text
  · obtain ⟨fault, binary⟩ := called_emitModuleBinary hr (hs.uses text.uses) generation m
    simp only
    split <;> next hy =>
      rw [hy] at binary
      exact .binary u _ fault _ text binary

/-- **However its output comes out, the module is disposed after that.** -/
theorem disposed_emitAndDispose (hr : Reacts P react) (hs : s.Admits P) (generation : Nat)
    (m : Module) :
    ∃ r fault, Emitted P generation s r ∧
      Called P generation .dispose fault r.1 (s.emitAndDispose react generation m).1 := by
  have emitted := emitted_emitModule hr hs generation m
  have disposed := called_disposeModule hr (hs.uses emitted.uses) generation m
  have last : (s.emitAndDispose react generation m).1 =
      ((s.emitModule react generation m).1.disposeModule react generation m).1 := by
    unfold emitAndDispose
    simp only
    split <;> next hx => rw [hx]
  rw [last]
  exact ⟨_, _, emitted, disposed⟩

theorem uses_emitAndDispose (hr : Reacts P react) (hs : s.Admits P) (generation : Nat)
    (m : Module) : Uses P s (s.emitAndDispose react generation m).1 := by
  obtain ⟨r, fault, emitted, disposed⟩ := disposed_emitAndDispose hr hs generation m
  exact emitted.uses.trans disposed.uses

/-- **A module that a run left behind is disposed**, and the release fails where the fault of that
has no wording. -/
theorem disposed_releaseModule (hr : Reacts P react) (hs : s.Admits P) {run : Run} {m : Module}
    (held : run.module = some m) :
    ∃ fault t, Called P run.generation .dispose fault s t ∧
      ((∃ u, Nudges P t u ∧ s.releaseModule react run = (u, none)) ∨
        ∃ why, s.releaseModule react run =
          (t.mark (.unreleased run.generation why), some why)) := by
  have disposed := called_disposeModule hr hs run.generation m
  unfold releaseModule
  rw [held]
  rcases hx : s.disposeModule react run.generation m with ⟨t, f | _⟩ <;> rw [hx] at disposed <;>
    refine ⟨_, t, disposed, ?_⟩ <;> simp only [hx]
  · cases f.headline with
    | ok headline => exact .inl ⟨_, .single (.write t _ _ _), rfl⟩
    | error why => exact .inr ⟨why, rfl⟩
  · exact .inl ⟨t, .refl, rfl⟩

theorem releaseModule_of_none {run : Run} (none : run.module = none) :
    s.releaseModule react run = (s, .none) := by
  unfold releaseModule
  rw [none]

theorem uses_releaseModule (hr : Reacts P react) (hs : s.Admits P) (run : Run) :
    ∃ t, Uses P s t ∧ (s.releaseModule react run = (t, none) ∨
      ∃ why, s.releaseModule react run = (t.mark (.unreleased run.generation why), some why)) := by
  cases held : run.module with
  | none => exact ⟨s, .refl, .inl (releaseModule_of_none held)⟩
  | some m =>
    obtain ⟨fault, t, disposed, ⟨u, written, eq⟩ | fails⟩ := disposed_releaseModule hr hs held
    · exact ⟨u, disposed.uses.trans (uses_of_nudges written), .inl eq⟩
    · exact ⟨t, disposed.uses, .inr fails⟩

end Session

end Playground
