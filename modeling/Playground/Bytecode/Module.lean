import Playground.Bytecode.Interpreter
import Playground.Text.Utf8

/-!
# Compiled modules

A module holds a syntax tree and a code object until it is disposed, once.

* `Module.validate`, `Module.optimize`, `Module.emitText`, `Module.emitBinary`, `Module.dispose` —
  the calls of its life.
-/

namespace Playground.Bytecode

open Playground.Decimal

/-- What a module holds while it is in use. -/
structure Held where
  tree : List Node
  code : Code

/-- A compiled module; nothing is held once it is disposed. -/
structure Module where
  held : Option Held
  sourceSize : Nat
  pointerSize : Nat
  optimized : Bool := false

namespace Module

def isDisposed (m : Module) : Bool := m.held.isNone

def usedAfterDispose : Fault := .disposed "Compiled module used after dispose()" none

def disposedTwice : Fault := .disposed "dispose() called more than once" none

/-- The code of diagnostics for units that do not survive being written out. -/
def unstableCode : String := "CP5001"

/-- The diagnostic for a unit that comes back different. -/
def unstableUnit (u : CodeUnit) : String :=
  formatDiagnostic unstableCode ("Code object '" ++ u.name ++ "' does not survive serialization")
    (some u.line) (some 1) "ERROR"

/-- Writes out every unit and reads it in again; the diagnostics for those that come back
different, or the first fault of writing or reading. -/
def roundTrips (i : Interpreter) : List CodeUnit → Interpreter × Except Fault (List String)
  | [] => (i, .ok [])
  | u :: rest =>
    match i.roundTrip u with
    | (i, .error f) => (i, .error f)
    | (i, .ok restored) =>
      let (i, others) := roundTrips i rest
      (i, others.map fun ds => if restored = u.body then ds else unstableUnit u :: ds)

/-- Checks that every unit survives being written out. -/
def validate (m : Module) (i : Interpreter) : Interpreter × Except Fault Unit :=
  match m.held with
  | none => (i, .error usedAfterDispose)
  | some held =>
    match roundTrips i held.code.walk with
    | (i, .error f) => (i, .error f)
    | (i, .ok []) => (i, .ok ())
    | (i, .ok (d :: ds)) => (i, .error (.rejected (d :: ds) none))

/-- Compiles the tree anew without assertions and documentation; a failure leaves the module as it
was. -/
def optimize (m : Module) (i : Interpreter) : Interpreter × Module × Except Fault Unit :=
  match m.held with
  | none => (i, m, .error usedAfterDispose)
  | some held =>
    match i.compile 2 with
    | (i, .ok code) =>
      (i, { m with held := some { held with code := code }, optimized := true }, .ok ())
    | (i, .syntaxFault s) => (i, m, .error s.toFault)
    | (i, .fault f) => (i, m, .error f)

/-- The first lines of a listing. -/
def listingHeader (m : Module) (i : Interpreter) : String :=
  "; module " ++ sourceName ++ "\n; target: " ++ i.cacheTag ++ " uintptr=" ++
    naturalText m.pointerSize ++ " optimized=" ++ (if m.optimized then "yes" else "no") ++ "\n"

def emitText (m : Module) (i : Interpreter) : Interpreter × Except Fault String :=
  match m.held with
  | none => (i, .error usedAfterDispose)
  | some held =>
    let root := held.code.root
    (i.note (.dis root.name), match root.listingFault with
      | some f => .error f
      | none => .ok (m.listingHeader i ++ root.listing))

/-- The four bytes of a number, least significant first; higher bytes are dropped. -/
def littleEndian (n : Nat) : List UInt8 :=
  [UInt8.ofNat (n % 256), UInt8.ofNat (n / 256 % 256), UInt8.ofNat (n / 65536 % 256),
    UInt8.ofNat (n / 16777216 % 256)]

/-- The header of a binary: magic number, flags, time and the size of the source text. -/
def binaryHeader (m : Module) (i : Interpreter) : List UInt8 :=
  i.magic ++ littleEndian 0 ++ littleEndian 0 ++ littleEndian m.sourceSize

def emitBinary (m : Module) (i : Interpreter) : Interpreter × Except Fault (List UInt8) :=
  match m.held with
  | none => (i, .error usedAfterDispose)
  | some held =>
    let root := held.code.root
    (i.note (.dumps root.name), match root.dumpFault with
      | some f => .error f
      | none => .ok (m.binaryHeader i ++ root.dump))

/-- Gives up what the module holds; this succeeds once. -/
def dispose (m : Module) : Module × Except Fault Unit :=
  match m.held with
  | none => (m, .error disposedTwice)
  | some _ => ({ m with held := none }, .ok ())

end Module

end Playground.Bytecode
