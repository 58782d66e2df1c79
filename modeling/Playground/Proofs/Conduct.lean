import Playground.Proofs.Observers

/-!
# How a compiler conducts itself in a run

A run asks its compiler and the module that it hands out at most seven questions. What they answer
is known before the run, as long as nothing but harmless observers acts on the session meanwhile.

* `ModuleConduct`, `Conduct` — the answers to one run.
* `Session.conduct` — the answers that a session has ready for a request.
* `Keeps` — steps that leave a view of the session as it is, under the eyes of observers.
* `Session.Unhindered` — nothing that a run calls acts on the session.
* `validateModule_of_passive` and its kin — the calls of a module end as its conduct says, and the
  conduct of the later calls stays.
-/

namespace Playground

open Session

/-! ### Conduct -/

/-- How the calls of a module end; a call that is not made has no fault. -/
structure ModuleConduct where
  validate : Option Fault
  optimize : Option Fault
  text : Except Fault String
  binary : Except Fault (List UInt8)
  dispose : Option Fault

namespace ModuleConduct

/-- The text and then the binary, up to the first fault. -/
def emit (c : ModuleConduct) : Except Fault Artifact :=
  match c.text, c.binary with
  | .error f, _ => .error f
  | .ok _, .error f => .error f
  | .ok text, .ok binary => .ok ⟨text, binary⟩

def emitted (c : ModuleConduct) : Except Fault Artifact := c.dispose.elim c.emit .error

end ModuleConduct

/-- The answers of a compiler to one run. -/
inductive Conduct where
  /-- The compile call fails. -/
  | fails (fault : Fault)
  /-- The text is rejected; the question for the diagnostics may fail. -/
  | rejects (diagnostics : Except Fault (List String))
  /-- A module is handed out. -/
  | produces (module : ModuleConduct)

def ModuleScript.conduct (m : ModuleScript) (validates optimizes : Bool) : ModuleConduct where
  validate := if validates then m.validate else none
  optimize := if optimizes then m.optimize else none
  text := m.emitText.elim (.ok m.text) .error
  binary := m.emitBinary.elim (binaryOf m.binary) .error
  dispose := m.dispose

namespace Bytecode.Module

def afterOptimize (m : Module) (i : Interpreter) (optimizes : Bool) :
    Interpreter × Module × Except Fault Unit :=
  if optimizes then m.optimize i else (i, m, .ok ())

def afterValidate (m : Module) (i : Interpreter) (validates : Bool) :
    Interpreter × Except Fault Unit :=
  if validates then m.validate i else (i, .ok ())

/-- The conduct of a module of the bytecode compiler; each call finds the interpreter as the one
before it left it. -/
def conduct (m : Module) (i : Interpreter) (validates optimizes : Bool) : ModuleConduct :=
  let validated := m.afterValidate i validates
  let optimized := m.afterOptimize validated.1 optimizes
  let text := optimized.2.1.emitText optimized.1
  { validate := failureOf validated.2
    optimize := failureOf optimized.2.2
    text := text.2
    binary := (optimized.2.1.emitBinary text.1).2
    dispose := failureOf optimized.2.1.dispose.2 }

end Bytecode.Module

namespace Session

def moduleConduct (s : Session Action) (m : Module) (validates optimizes : Bool) :
    ModuleConduct :=
  match m with
  | .scripted _ _ script => script.conduct validates optimizes
  | .bytecode c b => b.conduct (s.interpreter c) validates optimizes

/-- The conduct that a session has ready for a request. -/
def conduct (s : Session Action) (r : Request) : Conduct :=
  match s.loaded? r.compiler, s.compiler? r.compiler with
  | some _, some (.scripted script) =>
    match script.compiles.take.1.verdict with
    | .fails f => .fails f
    | .rejects diagnostics => .rejects diagnostics
    | .produces m => .produces (m.conduct r.options.validate r.options.optimize)
  | some own, some (.bytecode interpreter) =>
    match own.bytecode.compileSource interpreter r.source r.options with
    | (_, _, .error f) => .fails f
    | (_, backend, .ok none) => .rejects (.ok backend.diagnostics)
    | (interpreter, _, .ok (some m)) =>
      .produces (m.conduct interpreter r.options.validate r.options.optimize)
  | _, _ => .fails (.unknownCompiler r.compiler)

/-! ### Views -/

/-- The session without its surroundings and its notes. -/
def unnoted (s : Session Action) : Session Action := { s.inside with history := [] }

/-- The unnoted session without its compilers. -/
def frame (s : Session Action) : Session Action := { s.unnoted with compilers := [], loaded := [] }

/-- The view of the session stays, and its observers stay harmless. -/
structure Keeps {β : Type} (view : Session Action → β) (s t : Session Action) : Prop where
  seen : view t = view s
  observed : s.Observed → t.Observed

namespace Keeps

variable {β : Type} {view : Session Action → β} {s t u : Session Action}

theorem refl (s : Session Action) : Keeps view s s := ⟨rfl, id⟩

theorem trans (h : Keeps view s t) (k : Keeps view t u) : Keeps view s u :=
  ⟨k.seen.trans h.seen, k.observed ∘ h.observed⟩

theorem framed (h : Keeps unnoted s t) : Keeps frame s t :=
  ⟨congrArg (fun u => { u with compilers := [], loaded := [] }) h.seen, h.observed⟩

theorem of_overheard (h : Overheard s t) : Keeps unnoted s t :=
  ⟨congrArg (fun u => { u with history := [] }) h.inside, h.observed⟩

theorem modifyState (h : Keeps unnoted s t) (f : State → State) :
    Keeps unnoted (s.modifyState f) (t.modifyState f) :=
  ⟨congrArg (fun u => u.modifyState f) h.seen, h.observed⟩

theorem state (h : Keeps frame s t) : t.state = s.state := by
  show t.frame.state = s.frame.state
  rw [h.seen]

theorem settings (h : Keeps frame s t) : t.settings = s.settings := by
  show t.frame.settings = s.frame.settings
  rw [h.seen]

theorem known (h : Keeps unnoted s t) (name : String) : t.compiler? name = s.compiler? name :=
  congrArg (fun u => u.compiler? name) h.seen

theorem actionsDuring (h : Keeps unnoted s t) (compiler : String) (number : Nat)
    (call : ModuleCall) :
    t.actionsDuring compiler number call = s.actionsDuring compiler number call := by
  unfold Session.actionsDuring
  rw [h.known]

theorem conduct (h : Keeps unnoted s t) (r : Request) : t.conduct r = s.conduct r :=
  congrArg (fun u => u.conduct r) h.seen

end Keeps

variable {s t : Session Action}

theorem keeps_mark (s : Session Action) (m : Milestone) : Keeps unnoted s (s.mark m) := ⟨rfl, id⟩

theorem keeps_note (s : Session Action) (e : Effect) : Keeps unnoted s (s.note e) := ⟨rfl, id⟩

theorem keeps_write (s : Session Action) (level : Log.Level) (logger message : String) :
    Keeps unnoted s (s.write level logger message) :=
  .of_overheard (overheard_write s level logger message)

/-- An event of the session's own is noted, and heard by observers only. -/
theorem keeps_tell (observed : s.Observed) (event : String) (data : Payload) :
    Keeps unnoted s (s.tell Session.react event data).1 ∧
      (s.tell Session.react event data).2 = none := by
  have reacts {actions : List Action} (h : ∀ a ∈ actions, a.observes = true) (s : Session Action) :
      Faint s (Session.react actions s) := faint_reactTo actionDepth h s
  obtain ⟨overheard, whole⟩ :=
    overheard_publish (s := s.mark (.published event data)) reacts event data observed
  have kept := (keeps_mark s (.published event data)).trans (.of_overheard overheard)
  unfold tell
  rcases told : (s.mark (.published event data)).publish Session.react event data with
    ⟨t, _ | f⟩ <;> rw [told] at kept whole
  · exact ⟨kept, rfl⟩
  · cases whole

/-! ### Calls that do nothing else -/

/-- The compiler of the module is still there, and the module does nothing to the session while it
is called. -/
def Passive (s : Session Action) : Module → Prop
  | .scripted compiler number _ => ∀ call, s.actionsDuring compiler number call = []
  | .bytecode compiler _ => ∃ i, s.compiler? compiler = some (.bytecode i)

/-- Nothing that is called in a run of the compiler acts on the session: observers are harmless, and
neither the compiler nor its next module does anything while it is called. -/
structure Unhindered (s : Session Action) (compiler : String) : Prop where
  observed : s.Observed
  compiles : ∀ script, s.compiler? compiler = some (.scripted script) →
    script.compiles.take.1.actions = []
  calls : ∀ script, s.compiler? compiler = some (.scripted script) →
    ∀ call, script.actionsDuring (script.compiled + 1) call = []

theorem Unhindered.keeps {compiler : String} (unhindered : s.Unhindered compiler)
    (h : Keeps unnoted s t) : t.Unhindered compiler where
  observed := h.observed unhindered.observed
  compiles := h.known compiler ▸ unhindered.compiles
  calls := h.known compiler ▸ unhindered.calls

theorem Passive.keeps {m : Module} (passive : s.Passive m) (h : Keeps unnoted s t) :
    t.Passive m := by
  cases m with
  | scripted compiler number script =>
    intro call
    rw [h.actionsDuring]
    exact passive call
  | bytecode compiler module =>
    obtain ⟨i, there⟩ := passive
    exact ⟨i, (h.known compiler).trans there⟩

theorem Passive.modifyState {m : Module} (passive : s.Passive m) (f : State → State) :
    (s.modifyState f).Passive m := by
  cases m <;> exact passive

/-- Without actions, nothing is carried out. -/
theorem react_nil (s : Session Action) : Session.react [] s = (s, none) := rfl

theorem callScripted_of_passive {compiler : String} {number : Nat} {script : ModuleScript}
    (passive : s.Passive (.scripted compiler number script)) (call : ModuleCall) :
    ∃ t, s.callScripted Session.react compiler number script call =
        (t, (script.fault call).elim (.ok ()) .error) ∧ Keeps unnoted s t := by
  have quiet : (s.note (.moduleCalled compiler number call)).actionsDuring compiler number call =
      [] := passive call
  refine ⟨s.note (.moduleCalled compiler number call), ?_, keeps_note s _⟩
  unfold callScripted
  simp only [quiet, react_nil]
  cases script.fault call <;> rfl

theorem elim_failureOf (r : Except Fault Unit) : (failureOf r).elim (.ok ()) .error = r := by
  cases r <;> rfl

/-- After a call, the interpreter behind a module is as the call left it, and nothing else is
changed. -/
theorem setInterpreter_of_passive {compiler : String} {b : Bytecode.Module}
    (passive : s.Passive (.bytecode compiler b)) (b' : Bytecode.Module) (i : Bytecode.Interpreter)
    (m : Milestone) :
    Keeps frame s ((s.setInterpreter compiler i).mark m) ∧
      ((s.setInterpreter compiler i).mark m).Passive (.bytecode compiler b') ∧
      ((s.setInterpreter compiler i).mark m).interpreter compiler = i := by
  obtain ⟨j, there⟩ := passive
  have known : ((s.setInterpreter compiler i).mark m).compiler? compiler = some (.bytecode i) := by
    unfold setInterpreter
    rw [there]
    exact (compiler?_setCompiler s compiler (.bytecode i) compiler).trans (if_pos rfl)
  refine ⟨?_, ⟨i, known⟩, ?_⟩
  · unfold setInterpreter
    rw [there]
    exact ⟨rfl, id⟩
  · unfold Session.interpreter
    rw [known]

/-! ### The calls of a module -/

variable {m : Module}

/-- A module is validated as its conduct says. -/
theorem validateModule_of_passive (passive : s.Passive m) (generation : Nat) (optimizes : Bool) :
    ∃ t, s.validateModule Session.react generation m =
        (t, (s.moduleConduct m true optimizes).validate.elim (.ok ()) .error) ∧
      Keeps frame s t ∧ t.Passive m ∧
      t.moduleConduct m false optimizes =
        { s.moduleConduct m true optimizes with validate := none } := by
  cases m with
  | scripted compiler number script =>
    obtain ⟨t, eq, keeps⟩ := callScripted_of_passive passive .validate
    have keeps := keeps.trans (keeps_mark t (.called generation .validate
      (failureOf ((script.fault .validate).elim (.ok ()) .error))))
    refine ⟨_, ?_, keeps.framed, passive.keeps keeps, rfl⟩
    show noteCall generation .validate _ = _
    rw [eq]
    rfl
  | bytecode compiler b =>
    obtain ⟨keeps, passive', same⟩ := setInterpreter_of_passive passive b
      (b.validate (s.interpreter compiler)).1
      (.called generation .validate (failureOf (b.validate (s.interpreter compiler)).2))
    refine ⟨_, ?_, keeps, passive', ?_⟩
    · show noteCall generation .validate _ = _
      exact congrArg (Prod.mk _) (elim_failureOf _).symm
    · unfold moduleConduct
      simp only [same]
      rfl

/-- A module is optimized as its conduct says. -/
theorem optimizeModule_of_passive (passive : s.Passive m) (generation : Nat) :
    ∃ t m', s.optimizeModule Session.react generation m =
        (t, m', (s.moduleConduct m false true).optimize.elim (.ok ()) .error) ∧
      Keeps frame s t ∧ t.Passive m' ∧
      t.moduleConduct m' false false = { s.moduleConduct m false true with optimize := none } := by
  cases m with
  | scripted compiler number script =>
    obtain ⟨t, eq, keeps⟩ := callScripted_of_passive passive .optimize
    have keeps := keeps.trans (keeps_mark t (.called generation .optimize
      (failureOf ((script.fault .optimize).elim (.ok ()) .error))))
    refine ⟨_, _, ?_, keeps.framed, passive.keeps keeps, rfl⟩
    unfold optimizeModule
    simp only [eq]
    rfl
  | bytecode compiler b =>
    obtain ⟨keeps, passive', same⟩ := setInterpreter_of_passive passive
      (b.optimize (s.interpreter compiler)).2.1 (b.optimize (s.interpreter compiler)).1
      (.called generation .optimize (failureOf (b.optimize (s.interpreter compiler)).2.2))
    refine ⟨_, .bytecode compiler (b.optimize (s.interpreter compiler)).2.1, ?_, keeps, passive',
      ?_⟩
    · show (_, _, _) = (_, _, _)
      refine congrArg (Prod.mk _) (congrArg (Prod.mk _) (elim_failureOf _).symm)
    · unfold moduleConduct
      simp only [same]
      rfl

def disposal : Module → Option Fault
  | .scripted _ _ script => script.dispose
  | .bytecode _ b => failureOf b.dispose.2

theorem disposeModule_of_passive (passive : s.Passive m) (generation : Nat) :
    ∃ t, s.disposeModule Session.react generation m = (t, (disposal m).elim (.ok ()) .error) ∧
      Keeps unnoted s t := by
  cases m with
  | scripted compiler number script =>
    obtain ⟨t, eq, keeps⟩ := callScripted_of_passive passive .dispose
    refine ⟨_, ?_, keeps.trans (keeps_mark t (.called generation .dispose
      (failureOf ((script.fault .dispose).elim (.ok ()) .error))))⟩
    show noteCall generation .dispose _ = _
    rw [eq]
    rfl
  | bytecode compiler b =>
    refine ⟨_, ?_, keeps_mark s (.called generation .dispose (failureOf b.dispose.2))⟩
    show noteCall generation .dispose _ = _
    exact congrArg (Prod.mk _) (elim_failureOf _).symm

def moduleBinary (s : Session Action) : Module → Except Fault (List UInt8)
  | .scripted _ _ script => script.emitBinary.elim (binaryOf script.binary) .error
  | .bytecode c b => (b.emitBinary (s.interpreter c)).2

theorem emitModuleText_of_passive (passive : s.Passive m) (generation : Nat) :
    ∃ t, s.emitModuleText Session.react generation m = (t, (s.moduleConduct m false false).text) ∧
      Keeps frame s t ∧ t.Passive m ∧
      t.moduleBinary m = (s.moduleConduct m false false).binary := by
  cases m with
  | scripted compiler number script =>
    obtain ⟨t, eq, keeps⟩ := callScripted_of_passive passive .emitText
    have keeps := keeps.trans (keeps_mark t (.called generation .emitText
      (failureOf ((script.fault .emitText).elim (.ok ()) .error))))
    refine ⟨_, ?_, keeps.framed, passive.keeps keeps, rfl⟩
    unfold emitModuleText
    simp only [eq]
    show (_, _) = (_, script.emitText.elim _ _)
    refine congrArg (Prod.mk _) ?_
    show Except.map _ (script.emitText.elim _ _) = _
    cases script.emitText <;> rfl
  | bytecode compiler b =>
    obtain ⟨keeps, passive', same⟩ := setInterpreter_of_passive passive b
      (b.emitText (s.interpreter compiler)).1
      (.called generation .emitText (failureOf (b.emitText (s.interpreter compiler)).2))
    exact ⟨(s.setInterpreter compiler (b.emitText (s.interpreter compiler)).1).mark _, rfl, keeps,
      passive', congrArg (fun i => (b.emitBinary i).2) same⟩

theorem emitModuleBinary_of_passive (passive : s.Passive m) (generation : Nat) :
    ∃ t, s.emitModuleBinary Session.react generation m = (t, s.moduleBinary m) ∧
      Keeps frame s t ∧ t.Passive m := by
  cases m with
  | scripted compiler number script =>
    obtain ⟨t, eq, keeps⟩ := callScripted_of_passive passive .emitBinary
    have keeps := keeps.trans (keeps_mark t (.called generation .emitBinary
      (failureOf ((script.fault .emitBinary).elim (.ok ()) .error))))
    refine ⟨_, ?_, keeps.framed, passive.keeps keeps⟩
    unfold emitModuleBinary
    simp only [eq]
    refine congrArg (Prod.mk _) ?_
    show Except.bind (script.emitBinary.elim _ _) _ = script.emitBinary.elim _ _
    cases script.emitBinary <;> rfl
  | bytecode compiler b =>
    obtain ⟨keeps, passive', -⟩ := setInterpreter_of_passive passive b
      (b.emitBinary (s.interpreter compiler)).1
      (.called generation .emitBinary (failureOf (b.emitBinary (s.interpreter compiler)).2))
    exact ⟨_, rfl, keeps, passive'⟩

/-- The output of a module is emitted as its conduct says; whether this fails or not, the module can
still be disposed. -/
theorem emitModule_of_passive (passive : s.Passive m) (generation : Nat) :
    ∃ t, s.emitModule Session.react generation m = (t, (s.moduleConduct m false false).emit) ∧
      Keeps frame s t ∧ t.Passive m := by
  obtain ⟨t, text, first, passive', ready⟩ := emitModuleText_of_passive passive generation
  unfold emitModule ModuleConduct.emit
  rw [text, ← ready]
  cases (s.moduleConduct m false false).text with
  | error f => exact ⟨t, rfl, first, passive'⟩
  | ok text =>
    obtain ⟨u, binary, second, passive'⟩ := emitModuleBinary_of_passive passive' generation
    refine ⟨u, ?_, first.trans second, passive'⟩
    simp only [binary]
    cases t.moduleBinary m <;> rfl

/-- A module is emitted and disposed as its conduct says. -/
theorem emitAndDispose_of_passive (passive : s.Passive m) (generation : Nat) :
    ∃ t, s.emitAndDispose Session.react generation m =
        (t, (s.moduleConduct m false false).emitted) ∧ Keeps frame s t := by
  obtain ⟨t, emits, first, passive'⟩ := emitModule_of_passive passive generation
  obtain ⟨u, disposes, second⟩ := disposeModule_of_passive passive' generation
  have same : (s.moduleConduct m false false).dispose = disposal m := by cases m <;> rfl
  refine ⟨u, ?_, first.trans second.framed⟩
  unfold emitAndDispose ModuleConduct.emitted
  simp only [emits, disposes, same]
  cases disposal m <;> rfl

/-! ### The compile call -/

/-- The compile call of a request ends as the conduct says: a module that is handed out has that
conduct ahead of it. -/
def AnswersAs (r : Request) (t : Session Action)
    (answer : Except Fault (Except (Except Fault (List String)) Module)) : Conduct → Prop
  | .fails f => answer = .error f
  | .rejects diagnostics => answer = .ok (.error diagnostics)
  | .produces c => ∃ m, answer = .ok (.ok m) ∧ t.Passive m ∧
      t.moduleConduct m r.options.validate r.options.optimize = c

theorem compileScripted_of_unhindered {r : Request} {script : CompilerScript Action}
    (h : s.Unhindered r.compiler) (loaded : (s.loaded? r.compiler).isSome = true)
    (known : s.compiler? r.compiler = some (.scripted script)) (generation : Nat) :
    ∃ t answer, noteAnswer generation
        (s.compileScripted Session.react r.compiler r.source r.options script) = (t, answer) ∧
      Keeps frame s t ∧ AnswersAs r t answer (s.conduct r) := by
  obtain ⟨own, ready⟩ := Option.isSome_iff_exists.1 loaded
  let left : Compiler Action := .scripted
    { script with compiles := script.compiles.take.2, compiled := script.compiled + 1 }
  let u := (s.note (.compiled r.compiler r.source r.options)).setCompiler r.compiler left
  have asked (m : Milestone) : (u.mark m).compiler? r.compiler = some left :=
    (compiler?_setCompiler _ r.compiler left r.compiler).trans (if_pos rfl)
  have keeps (m : Milestone) : Keeps frame s (u.mark m) := ⟨rfl, id⟩
  have conduct : s.conduct r = match script.compiles.take.1.verdict with
      | .fails f => .fails f
      | .rejects diagnostics => .rejects diagnostics
      | .produces m => .produces (m.conduct r.options.validate r.options.optimize) := by
    unfold Session.conduct
    rw [ready, known]
  have called : s.compileScripted Session.react r.compiler r.source r.options script =
      match script.compiles.take.1.verdict with
      | .fails f => (u, .error f)
      | .rejects diagnostics => (u, .ok (.error diagnostics))
      | .produces m => (u, .ok (.ok (.scripted r.compiler (script.compiled + 1) m))) := by
    unfold compileScripted
    simp only [h.compiles script known, react_nil]
    rfl
  rw [called, conduct]
  cases script.compiles.take.1.verdict with
  | fails f => exact ⟨_, _, rfl, keeps _, rfl⟩
  | rejects diagnostics => exact ⟨_, _, rfl, keeps _, rfl⟩
  | produces m =>
    refine ⟨_, _, rfl, keeps _, _, rfl, fun call => ?_, rfl⟩
    unfold Session.actionsDuring
    rw [asked]
    exact h.calls script known call

theorem compileBytecode_of_known {r : Request} {own : LoadedCompiler}
    {interpreter : Bytecode.Interpreter} (ready : s.loaded? r.compiler = some own)
    (known : s.compiler? r.compiler = some (.bytecode interpreter)) (generation : Nat) :
    ∃ t answer, noteAnswer generation
        (s.compileBytecode r.compiler r.source r.options own interpreter) = (t, answer) ∧
      Keeps frame s t ∧ AnswersAs r t answer (s.conduct r) := by
  have conduct : s.conduct r =
      match own.bytecode.compileSource interpreter r.source r.options with
      | (_, _, .error f) => .fails f
      | (_, backend, .ok none) => .rejects (.ok backend.diagnostics)
      | (interpreter, _, .ok (some m)) =>
        .produces (m.conduct interpreter r.options.validate r.options.optimize) := by
    unfold Session.conduct
    rw [ready, known]
  unfold compileBytecode
  rw [conduct]
  obtain ⟨i, backend, result⟩ := own.bytecode.compileSource interpreter r.source r.options
  let u := (s.setCompiler r.compiler (.bytecode i)).setLoaded r.compiler
    { own with bytecode := backend }
  have there (m : Milestone) : (u.mark m).compiler? r.compiler = some (.bytecode i) :=
    (compiler?_setCompiler s r.compiler (.bytecode i) r.compiler).trans (if_pos rfl)
  have keeps (m : Milestone) : Keeps frame s (u.mark m) := ⟨rfl, id⟩
  match result with
  | .error f => exact ⟨_, _, rfl, keeps _, rfl⟩
  | .ok none => exact ⟨_, _, rfl, keeps _, rfl⟩
  | .ok (some m) =>
    refine ⟨u.mark (.asked generation true), _, rfl, keeps _, _, rfl, ⟨i, there _⟩, ?_⟩
    show m.conduct ((u.mark _).interpreter r.compiler) _ _ = _
    unfold Session.interpreter
    rw [there]

/-- A compiler answers a request as its conduct says. -/
theorem compileSource_of_unhindered {r : Request} (h : s.Unhindered r.compiler)
    (generation : Nat) :
    ∃ t answer, s.compileSource Session.react generation r.compiler r.source r.options =
        (t, answer) ∧ Keeps frame s t ∧ AnswersAs r t answer (s.conduct r) := by
  unfold compileSource
  cases ready : s.loaded? r.compiler with
  | none =>
    refine ⟨s, _, rfl, .refl s, ?_⟩
    unfold Session.conduct
    rw [ready]
    rfl
  | some own =>
    cases known : s.compiler? r.compiler with
    | none =>
      refine ⟨s, _, rfl, .refl s, ?_⟩
      unfold Session.conduct
      rw [ready, known]
      rfl
    | some compiler =>
      cases compiler with
      | scripted script =>
        exact compileScripted_of_unhindered h (by rw [ready]; rfl) known generation
      | bytecode interpreter => exact compileBytecode_of_known ready known generation

end Session

end Playground
