import Playground.Compile.Options
import Playground.Imports.Standard

/-!
# Compile requests

* `Request` — what is to be compiled.
* `Probe` — the judgement whether a source text needs the standard library.
* `Request.finalize` — the request as it is handed to the compiler.
-/

namespace Playground

/-- A snapshot of what is to be compiled. -/
structure Request where
  source : String
  compiler : String
  options : Options
  /-- Has the need of the standard library been judged? -/
  finalized : Bool := false
  deriving DecidableEq, Repr, Inhabited

/-- How the need of the standard library is judged: an answer for every source text, or a fault. -/
structure Probe where
  ask : String → Except Fault Bool

namespace Probe

def imports : Probe := ⟨fun source => .ok (Imports.requiresStdlib source)⟩

def always (answer : Bool) : Probe := ⟨fun _ => .ok answer⟩

def fails (fault : Fault) : Probe := ⟨fun _ => .error fault⟩

instance : Inhabited Probe := ⟨imports⟩

end Probe

namespace Request

def asksProbe (r : Request) : Bool := !r.finalized && !r.options.stdlib

/-- The request as it is handed to the compiler: the standard library is added where the probe asks
for it, and never taken away. -/
def finalize (r : Request) (probe : Probe) : Except Fault Request :=
  if r.finalized then .ok r
  else if r.options.stdlib then .ok { r with finalized := true }
  else
    match probe.ask r.source with
    | .error fault => .error fault
    | .ok needed =>
      .ok { r with options := { r.options with stdlib := needed }, finalized := true }

end Request

end Playground
