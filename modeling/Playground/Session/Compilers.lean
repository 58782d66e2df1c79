import Playground.Session.Publish

/-!
# Calling compilers

* `Session.beginLoad` — opens the loading of a compiler.
* `Session.compileSource` — one compile call.
* `Session.validateModule` and its kin — the calls of a module's life.
-/

namespace Playground.Session

variable {α : Type}

def setCompiler (s : Session α) (name : String) (c : Compiler α) : Session α :=
  { s with compilers := assign name c s.compilers }

def setLoaded (s : Session α) (name : String) (c : LoadedCompiler) : Session α :=
  { s with loaded := assign name c s.loaded }

/-- Opens the loading of a compiler: how often it gives way and how it will end. -/
def beginLoad (s : Session α) (name : String) : Session α × Except Fault (Nat × Option Fault) :=
  match s.compiler? name with
  | none => (s, .error (.unknownCompiler name))
  | some (.bytecode _) => (s, .ok (0, none))
  | some (.scripted script) =>
    let (ending, later) := script.loads.take
    ((s.note (.loaded name)).setCompiler name (.scripted { script with loads := later }),
      .ok (script.loadYields, ending))

def freshlyLoaded (s : Session α) (name : String) : LoadedCompiler :=
  match s.compiler? name with
  | none => { version := "" }
  | some (.scripted script) => { version := script.version }
  | some (.bytecode interpreter) =>
    { version := interpreter.version, bytecode := ({} : Bytecode.Backend).load interpreter }

def compileBytecode (name text : String) (options : Options) (own : LoadedCompiler)
    (interpreter : Bytecode.Interpreter) (s : Session α) :
    Session α × Except Fault (Except (Except Fault (List String)) Module) :=
  match own.bytecode.compileSource interpreter text options with
  | (interpreter, backend, result) =>
    let s := (s.setCompiler name (.bytecode interpreter)).setLoaded name
      { own with bytecode := backend }
    match result with
    | .error f => (s, .error f)
    | .ok none => (s, .ok (.error (.ok backend.diagnostics)))
    | .ok (some m) => (s, .ok (.ok (.bytecode name m)))

def compileScripted (react : React α) (name text : String) (options : Options)
    (script : CompilerScript α) (s : Session α) :
    Session α × Except Fault (Except (Except Fault (List String)) Module) :=
  let (answer, later) := script.compiles.take
  let number := script.compiled + 1
  let s := s.note (.compiled name text options)
  let s := s.setCompiler name (.scripted { script with compiles := later, compiled := number })
  match react answer.actions s with
  | (s, some f) => (s, .error f)
  | (s, none) =>
    match answer.verdict with
    | .fails f => (s, .error f)
    | .rejects diagnostics => (s, .ok (.error diagnostics))
    | .produces m => (s, .ok (.ok (.scripted name number m)))

/-- Did a compile call hand out a module? -/
def isProduced (answer : Except Fault (Except (Except Fault (List String)) Module)) : Bool :=
  match answer with
  | .ok (.ok _) => true
  | _ => false

/-- Notes what the compiler of a run answered. -/
def noteAnswer (generation : Nat)
    (r : Session α × Except Fault (Except (Except Fault (List String)) Module)) :
    Session α × Except Fault (Except (Except Fault (List String)) Module) :=
  (r.1.mark (.asked generation (isProduced r.2)), r.2)

/-- The one compile call of a run: a fault, a rejection with the answer to the question for its
diagnostics, or a module. -/
def compileSource (react : React α) (generation : Nat) (name text : String) (options : Options)
    (s : Session α) : Session α × Except Fault (Except (Except Fault (List String)) Module) :=
  match s.loaded? name with
  | none => (s, .error (.unknownCompiler name))
  | some own =>
    match s.compiler? name with
    | none => (s, .error (.unknownCompiler name))
    | some (.scripted script) =>
      noteAnswer generation (compileScripted react name text options script s)
    | some (.bytecode interpreter) =>
      noteAnswer generation (compileBytecode name text options own interpreter s)

/-! ### Modules -/

def failureOf {β : Type} (result : Except Fault β) : Option Fault :=
  match result with
  | .ok _ => none
  | .error f => some f

/-- Notes how a call of the module of a run ended. -/
def noteCall {β : Type} (generation : Nat) (call : ModuleCall) (r : Session α × Except Fault β) :
    Session α × Except Fault β :=
  (r.1.mark (.called generation call (failureOf r.2)), r.2)

def actionsDuring (s : Session α) (compiler : String) (number : Nat) (call : ModuleCall) : List α :=
  match s.compiler? compiler with
  | some (.scripted script) => script.actionsDuring number call
  | _ => []

def callScripted (react : React α) (s : Session α) (compiler : String) (number : Nat)
    (script : ModuleScript) (call : ModuleCall) : Session α × Except Fault Unit :=
  let s := s.note (.moduleCalled compiler number call)
  match react (s.actionsDuring compiler number call) s with
  | (s, some f) => (s, .error f)
  | (s, none) =>
    match script.fault call with
    | some f => (s, .error f)
    | none => (s, .ok ())

def interpreter (s : Session α) (compiler : String) : Bytecode.Interpreter :=
  match s.compiler? compiler with
  | some (.bytecode i) => i
  | _ => {}

/-- Keeps the interpreter behind a compiler as it is after a call. -/
def setInterpreter (s : Session α) (compiler : String) (i : Bytecode.Interpreter) : Session α :=
  match s.compiler? compiler with
  | some (.bytecode _) => s.setCompiler compiler (.bytecode i)
  | _ => s

def validateModule (react : React α) (generation : Nat) (m : Module) (s : Session α) :
    Session α × Except Fault Unit :=
  match m with
  | .scripted c n script =>
    noteCall generation .validate (s.callScripted react c n script .validate)
  | .bytecode c b =>
    let (i, result) := b.validate (s.interpreter c)
    noteCall generation .validate (s.setInterpreter c i, result)

def optimizeModule (react : React α) (generation : Nat) (m : Module) (s : Session α) :
    Session α × Module × Except Fault Unit :=
  match m with
  | .scripted c n script =>
    let (s, result) := noteCall generation .optimize (s.callScripted react c n script .optimize)
    (s, m, result)
  | .bytecode c b =>
    let (i, b, result) := b.optimize (s.interpreter c)
    let (s, result) := noteCall generation .optimize (s.setInterpreter c i, result)
    (s, .bytecode c b, result)

def emitModuleText (react : React α) (generation : Nat) (m : Module) (s : Session α) :
    Session α × Except Fault String :=
  match m with
  | .scripted c n script =>
    let (s, result) := noteCall generation .emitText (s.callScripted react c n script .emitText)
    (s, result.map fun _ => script.text)
  | .bytecode c b =>
    let (i, result) := b.emitText (s.interpreter c)
    noteCall generation .emitText (s.setInterpreter c i, result)

def emitModuleBinary (react : React α) (generation : Nat) (m : Module) (s : Session α) :
    Session α × Except Fault (List UInt8) :=
  match m with
  | .scripted c n script =>
    let (s, result) := noteCall generation .emitBinary (s.callScripted react c n script .emitBinary)
    (s, result.bind fun _ => binaryOf script.binary)
  | .bytecode c b =>
    let (i, result) := b.emitBinary (s.interpreter c)
    noteCall generation .emitBinary (s.setInterpreter c i, result)

def disposeModule (react : React α) (generation : Nat) (m : Module) (s : Session α) :
    Session α × Except Fault Unit :=
  match m with
  | .scripted c n script => noteCall generation .dispose (s.callScripted react c n script .dispose)
  | .bytecode _ b => noteCall generation .dispose (s, b.dispose.2)

end Playground.Session
