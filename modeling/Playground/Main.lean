import Playground.CommandLine.Installed

/-!
# The program

* `main` — runs the program on the arguments, the environment and the disk that it finds.

The interpreter behind the bytecode compiler and the network are outside: the interpreter accepts
every text, and a server ends as soon as it is started.
-/

namespace Playground.CommandLine

def storedAt (place : Path) : IO Stored := do
  match ← (IO.FS.readBinFile place.text).toBaseIO with
  | .ok bytes => pure (.file bytes.toList)
  | .error (.noFileOrDirectory ..) => pure .missing
  | .error (.inappropriateType ..) => pure .folder
  | .error e => throw e

def diskOfPaths (paths : List Path) : IO Disk := do
  let mut d : Disk := {}
  for place in paths.flatMap Disk.way do
    match ← storedAt place with
    | .missing => pure ()
    | what => d := d.put place what
  pure d

def findEnvironment : IO (List (String × String)) := do
  let names := World.homeVariable :: Config.keys.map Config.variableName
  let found ← names.mapM fun name => do
    pure ((← IO.getEnv name).map fun value => (name, value))
  pure (found.filterMap id)

def findWorld (args : List String) : IO World := do
  let environment ← findEnvironment
  let w := { World.installed with environment, home := Path.ofString "/" }
  match Arguments.ofStrings args with
  | .ok a => pure { w with disk := ← diskOfPaths (w.paths a) }
  | .error _ => pure w

/-- Puts on the disk what the program has put there. -/
def keep (changes : List (Path × Stored)) : IO Unit := do
  for (place, what) in changes do
    match what with
    | .missing => pure ()
    | .folder => IO.FS.createDirAll place.text
    | .file bytes => IO.FS.writeBinFile place.text ⟨bytes.toArray⟩

end Playground.CommandLine

open Playground.CommandLine in
/-- Runs the program; its exit code is 1 for a fault that it does not handle. -/
def main (args : List String) : IO UInt32 := do
  let w ← findWorld args
  let (ending, d) := run w args
  keep (w.disk.since d.disk)
  IO.print d.board.out
  IO.eprint d.board.err
  match ending with
  | .ok code => pure code.toUInt32
  | .error f =>
    IO.eprintln f.traced
    pure 1
