import Playground.Bytecode.Module
import Playground.Compile.Options

/-!
# The bytecode compiler

Source texts are compiled by the interpreter's own compiler. Syntax errors become diagnostics, and
without the standard library imports of its modules are rejected.

* `Backend.load` — makes the compiler ready.
* `Backend.compileSource` — a module, or a rejection that the last diagnostics explain.
-/

namespace Playground.Bytecode

open Playground.Text

def compilerName : String := "CPython"

def syntaxCode : String := "CP1005"

def syntaxDiagnostic (s : SyntaxFault) : String :=
  let message := match s.message with
    | some m => if m = "" then "invalid syntax" else m
    | none => "invalid syntax"
  formatDiagnostic syntaxCode message s.line s.column "ERROR"

/-- The state of the compiler: ready or not, and why it last rejected a text. -/
structure Backend where
  version : String := ""
  isLoaded : Bool := false
  diagnostics : List String := []
  deriving Repr, Inhabited, DecidableEq

namespace Backend

def load (b : Backend) (i : Interpreter) : Backend :=
  { b with version := i.version, isLoaded := true }

/-- The fault of using a compiler that is not ready. -/
def notLoaded : Fault := .compiler (compilerName ++ " backend is not loaded") none

def newModule (text : String) (options : Options) (tree : List Node) (code : Code) : Module where
  held := some ⟨tree, code⟩
  sourceSize := (utf8Encode text.toList).length
  pointerSize := options.pointerSize

/-- Compiles a text: nothing is returned for a rejected text, and the diagnostics say why. -/
def compileSource (b : Backend) (i : Interpreter) (text : String) (options : Options) :
    Interpreter × Backend × Except Fault (Option Module) :=
  if b.isLoaded then
    let clean := { b with diagnostics := [] }
    match i.parse text with
    | (i, .syntaxFault s) => (i, { b with diagnostics := [syntaxDiagnostic s] }, .ok none)
    | (i, .fault f) => (i, clean, .error f)
    | (i, .ok tree) =>
      let forbidden := if options.stdlib then [] else forbiddenImports tree
      if forbidden.isEmpty then
        match i.compile (-1) with
        | (i, .syntaxFault s) => (i, { b with diagnostics := [syntaxDiagnostic s] }, .ok none)
        | (i, .fault f) => (i, clean, .error f)
        | (i, .ok code) => (i, clean, .ok (some (newModule text options tree code)))
      else (i, { b with diagnostics := forbidden }, .ok none)
  else (i, b, .error notLoaded)

end Backend

end Playground.Bytecode
