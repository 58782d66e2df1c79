import Playground.Bytecode.Backend
import Playground.Compile.Outcome

/-!
# Compilers and the modules they produce

A compiler is a black box: it is loaded, asked to compile, and the module that it hands out is
called a few times and disposed. A compiler is either known by its answers or is the bytecode
compiler over an interpreter known by its answers.

* `ModuleScript`, `CompilerScript` — the answers of a module and of a compiler.
* `Interlude` — what a module does to its surroundings while it is called.
* `Compiler`, `Module` — compilers and modules of both kinds.
* `binaryOf` — the bytes that an emitted value stands for.
-/

namespace Playground

/-- The calls of a module's life. -/
inductive ModuleCall where
  | validate
  | optimize
  | emitText
  | emitBinary
  | dispose
  deriving DecidableEq, Repr

namespace ModuleCall

def name : ModuleCall → String
  | validate => "validate"
  | optimize => "optimize"
  | emitText => "emit_text"
  | emitBinary => "emit_binary"
  | dispose => "dispose"

end ModuleCall

/-- The answers of a module: one fault or none for every call, the text and the emitted value. -/
structure ModuleScript where
  text : String := "(module)"
  binary : Value := .bytes [0x00, 0x61, 0x73, 0x6d, 0x01, 0x00, 0x00, 0x00]
  validate : Option Fault := none
  optimize : Option Fault := none
  emitText : Option Fault := none
  emitBinary : Option Fault := none
  dispose : Option Fault := none
  deriving Repr, Inhabited

namespace ModuleScript

def fault (s : ModuleScript) : ModuleCall → Option Fault
  | .validate => s.validate
  | .optimize => s.optimize
  | .emitText => s.emitText
  | .emitBinary => s.emitBinary
  | .dispose => s.dispose

end ModuleScript

/-- How a compile call ends. -/
inductive Verdict where
  | fails (fault : Fault)
  /-- The text is rejected; then the diagnostics are asked for, which may fail too. -/
  | rejects (diagnostics : Except Fault (List String))
  | produces (module : ModuleScript)
  deriving Repr

instance : Inhabited Verdict := ⟨.produces {}⟩

/-- One compile call: what the compiler does to its surroundings while it runs, and how it ends. -/
structure CompileAnswer (α : Type) where
  actions : List α := []
  verdict : Verdict := default
  deriving Repr

instance {α : Type} : Inhabited (CompileAnswer α) := ⟨{}⟩

/-- What a module does to its surroundings during one of its calls. -/
structure Interlude (α : Type) where
  /-- The number of the compile call that handed the module out. -/
  number : Nat
  call : ModuleCall
  actions : List α
  deriving Repr

/-- A compiler that is known by its answers. -/
structure CompilerScript (α : Type) where
  version : String := "1.0"
  loads : Answers (Option Fault) := ⟨none, []⟩
  /-- How often a loading gives way to others before it ends. -/
  loadYields : Nat := 0
  compiles : Answers (CompileAnswer α) := default
  /-- The number of compile calls so far. -/
  compiled : Nat := 0
  interludes : List (Interlude α) := []
  deriving Repr

instance {α : Type} : Inhabited (CompilerScript α) := ⟨{}⟩

/-- What the module of a compile call does to its surroundings during one of its calls. -/
def CompilerScript.actionsDuring {α : Type} (s : CompilerScript α) (number : Nat)
    (call : ModuleCall) : List α :=
  (s.interludes.filter fun i => i.number = number && i.call = call).flatMap (·.actions)

/-- A compiler. -/
inductive Compiler (α : Type) where
  | scripted (script : CompilerScript α)
  | bytecode (interpreter : Bytecode.Interpreter)

instance {α : Type} : Inhabited (Compiler α) := ⟨.scripted {}⟩

/-- A compiler that has been loaded. -/
structure LoadedCompiler where
  version : String
  /-- The state of the bytecode compiler; others keep none of their own. -/
  bytecode : Bytecode.Backend := {}
  deriving Repr, Inhabited, DecidableEq

/-- A module that a compiler handed out. -/
inductive Module where
  | scripted (compiler : String) (number : Nat) (script : ModuleScript)
  | bytecode (compiler : String) (module : Bytecode.Module)

instance : Inhabited Module := ⟨.scripted "" 0 {}⟩

def Module.compiler : Module → String
  | .scripted c _ _ => c
  | .bytecode c _ => c

/-! ### Emitted values -/

def notAnIntegerKind (v : Value) : Fault :=
  .foreign "TypeError" ("'" ++ v.kindName ++ "' object cannot be interpreted as an integer")

/-- The byte that a member of an emitted list stands for. -/
def byteOf (v : Value) : Except Fault UInt8 :=
  match v.asInt? with
  | some i =>
    if 0 ≤ i && i < 256 then .ok (UInt8.ofNat i.toNat)
    else .error (.foreign "ValueError" "bytes must be in range(0, 256)")
  | none => .error (notAnIntegerKind v)

def bytesOfList : List Value → Except Fault (List UInt8)
  | [] => .ok []
  | v :: rest => do
    let b ← byteOf v
    let bs ← bytesOfList rest
    pure (b :: bs)

/-- The bytes that an emitted value stands for: bytes as they are, a list of byte values, or a
number of zeros; a mapping counts as the list of its keys. -/
def binaryOf : Value → Except Fault (List UInt8)
  | .bytes bs => .ok bs
  | .list xs => bytesOfList xs
  | .dict entries => bytesOfList (entries.map (·.1))
  | .str _ => .error (.foreign "TypeError" "string argument without an encoding")
  | v =>
    match v.asInt? with
    | some i =>
      if i < 0 then .error (.foreign "ValueError" "negative count")
      else .ok (List.replicate i.toNat 0)
    | none =>
      .error (.foreign "TypeError" ("cannot convert '" ++ v.kindName ++ "' object to bytes"))

end Playground
