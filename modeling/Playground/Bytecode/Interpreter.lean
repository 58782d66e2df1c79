import Playground.Bytecode.Code
import Playground.Bytecode.Syntax
import Playground.Compile.Answers

/-!
# The interpreter

The interpreter whose own compiler the bytecode compiler uses is known by its answers.

* `Interpreter` — the answers to come and the calls made.
* `Interpreter.parse`, `Interpreter.compile` — one call each.
* `Interpreter.roundTrip` — writes a unit out and reads it in again.
-/

namespace Playground.Bytecode

open Playground.Decimal

/-- A syntax error of the interpreter; each part may be missing. -/
structure SyntaxFault where
  message : Option String := none
  line : Option Int := none
  column : Option Int := none
  deriving Repr, Inhabited, DecidableEq

/-- The number of a line as a fault's text gives it: a number that no signed word of 64 bits holds
is given as -1. -/
def lineInWord (line : Int) : Int :=
  if -9223372036854775808 ≤ line ∧ line ≤ 9223372036854775807 then line else -1

/-- A syntax error that nobody turns into a diagnostic. -/
def SyntaxFault.toFault (s : SyntaxFault) : Fault :=
  let message := s.message.getD "None"
  .foreign "SyntaxError" (match s.line with
    | none => message
    | some l => message ++ " (line " ++ integerText (lineInWord l) ++ ")")

/-- An answer of the interpreter that is not a syntax error only where all is well. -/
inductive Reply (α : Type) where
  | ok (value : α)
  | syntaxFault (s : SyntaxFault)
  | fault (f : Fault)
  deriving Repr

instance {α : Type} [Inhabited α] : Inhabited (Reply α) := ⟨.ok default⟩

/-- A call of the interpreter. -/
inductive Call where
  | parse (text filename : String)
  | compile (filename mode : String) (dontInherit : Bool) (optimize : Int)
  | dumps (name : String)
  | dis (name : String)
  deriving Repr, DecidableEq

/-- The interpreter: its version, its answers to come and the calls made so far. -/
structure Interpreter where
  version : String := "3.11.2"
  cacheTag : String := "cpython-311"
  magic : List UInt8 := [0xa7, 0x0d, 0x0d, 0x0a]
  parses : Answers (Reply (List Node)) := default
  compiles : Answers (Reply Code) := default
  calls : List Call := []
  readings : List String := []

namespace Interpreter

def note (i : Interpreter) (c : Call) : Interpreter := { i with calls := i.calls ++ [c] }

def parse (i : Interpreter) (text : String) : Interpreter × Reply (List Node) :=
  let (answer, later) := i.parses.take
  ({ i.note (.parse text sourceName) with parses := later }, answer)

def compile (i : Interpreter) (optimize : Int) : Interpreter × Reply Code :=
  let (answer, later) := i.compiles.take
  ({ i.note (.compile sourceName "exec" true optimize) with compiles := later }, answer)

/-- Writes a unit out and, if that can be done, reads it in again: the instructions that come
back. -/
def roundTrip (i : Interpreter) (u : CodeUnit) : Interpreter × Except Fault String :=
  let i := i.note (.dumps u.name)
  match u.dumpFault with
  | some f => (i, .error f)
  | none =>
    ({ i with readings := i.readings ++ [u.name] }, match u.loadFault with
      | some f => .error f
      | none => .ok u.restored)

end Interpreter

end Playground.Bytecode
