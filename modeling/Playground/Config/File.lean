import Playground.Files.Disk
import Playground.Value.Basic

/-!
# Configuration files

What the bytes of a file stand for is up to a reader, which is chosen from outside.

* `Config.Reader` — what reads the bytes of files.
* `Config.File` — a configuration file, of which the first content that could be loaded is kept.
* `Config.File.load` — the mapping in a file.
-/

namespace Playground

namespace Config

/-- What reads the bytes of the file at a path: it finds a value, or the reason why there is none.
-/
abbrev Reader := Path → List UInt8 → Except String Value

abbrev Entries := List (Value × Value)

/-- A configuration file. -/
structure File where
  path : Path
  read : Reader
  stored : Stored := .missing
  /-- The problem of finding out what lies there. -/
  denied : Option DiskProblem := none
  loaded : Option Value := none
  deriving Inhabited

namespace File

def nothing : Value := .dict []

/-- The mapping that the present content is: one without entries if nothing lies there or if it is
something else, and the reason where it cannot be read. -/
def content (f : File) : Except String Value :=
  match f.stored with
  | .missing => .ok nothing
  | .folder => .error (DiskProblem.isAFolder.message f.path)
  | .file bytes =>
    match f.read f.path bytes with
    | .error reason => .error reason
    | .ok v =>
      match v.unrolled with
      | .dict _ => .ok v
      | _ => .ok nothing

def fault (f : File) (reason : String) : Fault :=
  .config ("Failed to load config from " ++ f.path.text ++ ": " ++ reason) none

/-- The mapping in a file: the one that was loaded before, or else the present one, which is
kept. -/
def load (f : File) : File × Except Fault Value :=
  match f.loaded, f.denied with
  | some v, _ => (f, .ok v)
  | none, some problem => (f, .error (problem.fault f.path))
  | none, none =>
    match f.content with
    | .ok v => ({ f with loaded := some v }, .ok v)
    | .error reason => (f, .error (f.fault reason))

end File

end Config

end Playground
