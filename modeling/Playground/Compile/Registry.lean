import Playground.Fault

/-!
# The registry of compilers

* `Registry` — the known compilers, by name.
* `Registry.available` — the names, sorted.
* `Registry.create` — a new compiler of a name.
-/

namespace Playground

/-- A compiler that has been created: its own name, and its version while it is not loaded. -/
structure CompilerStub where
  name : String
  version : String := ""
  deriving DecidableEq, Repr, Inhabited

/-- The known compilers: what each name creates. -/
abbrev Registry := List (String × CompilerStub)

namespace Registry

def initial : Registry := [("CPython", { name := "CPython" })]

def unregister (r : Registry) (name : String) : Registry := r.filter fun e => e.1 ≠ name

def register (r : Registry) (name : String) (stub : CompilerStub) : Registry :=
  r.unregister name ++ [(name, stub)]

def sorted (names : List String) : List String := names.mergeSort fun a b => !decide (b < a)

def available (r : Registry) : List String := sorted (r.map (·.1))

def create (r : Registry) (name : String) : Except Fault CompilerStub :=
  match r.find? fun e => e.1 = name with
  | some e => .ok e.2
  | none => .error (.unknownCompiler name)

end Registry

end Playground
