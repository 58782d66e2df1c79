import Playground.Fault
import Playground.Files.Path
import Playground.Text.Utf8

/-!
# The disk

A disk holds files and folders. What lies inside a folder makes it one, so that folders need to be
named only where they are empty.

* `Stored` — what lies under a path.
* `Disk.locate` — the place that a path leads to.
* `Disk.read`, `Disk.write`, `Disk.makeFolders` — the operations, with their failures.
* `textOfBytes` — the text of a file.
-/

namespace Playground

open Playground.Text

/-- What lies under a path. -/
inductive Stored where
  | missing
  | folder
  | file (bytes : List UInt8)
  deriving DecidableEq, Repr, Inhabited

/-- The text of bytes, every line end read as a line feed. -/
def textOfBytes (bytes : List UInt8) : Except Utf8Fault (List Char) :=
  (utf8Decode bytes).map unifyNewlines

/-- Why the disk refuses an operation. -/
inductive DiskProblem where
  | missing
  | taken
  | notAFolder
  | isAFolder
  | longName
  | nullCharacter
  deriving DecidableEq, Repr, Inhabited

namespace DiskProblem

/-- The name under which a problem is reported. -/
def kind : DiskProblem → String
  | missing => "FileNotFoundError"
  | taken => "FileExistsError"
  | notAFolder => "NotADirectoryError"
  | isAFolder => "IsADirectoryError"
  | longName => "OSError"
  | nullCharacter => "ValueError"

def reason : DiskProblem → String
  | missing => "[Errno 2] No such file or directory"
  | taken => "[Errno 17] File exists"
  | notAFolder => "[Errno 20] Not a directory"
  | isAFolder => "[Errno 21] Is a directory"
  | longName => "[Errno 36] File name too long"
  | nullCharacter => "embedded null byte"

/-- What is said about a problem with a path. -/
def message (problem : DiskProblem) (path : Path) : String :=
  match problem with
  | nullCharacter => problem.reason
  | _ => problem.reason ++ ": " ++ quote path.text

def fault (problem : DiskProblem) (path : Path) : Fault :=
  .foreign problem.kind (problem.message path)

end DiskProblem

/-- The files and folders of a disk, by their places. -/
structure Disk where
  entries : List (Path × Stored) := []
  deriving DecidableEq, Repr, Inhabited

namespace Disk

def longestName : Nat := 255

def longestPath : Nat := 4095

def leadsUp (name : String) : Bool := name = ".."

/-- A place without names, or above the working folder, is always a folder. -/
def isGiven (place : Path) : Bool := place.names.all leadsUp

/-- Does `place` lie inside the folder at `folder`? -/
def isInside (folder place : Path) : Bool :=
  place.root = folder.root && folder.names.isPrefixOf place.names &&
    folder.names.length < place.names.length

def stored (d : Disk) (place : Path) : Stored :=
  if isGiven place then .folder
  else
    match d.entries.find? fun e => e.1 = place with
    | some e => e.2
    | none => if d.entries.any fun e => isInside place e.1 then .folder else .missing

/-- The place that a name leads to from a folder. -/
def next (folder : Path) (name : String) : Path :=
  if leadsUp name then
    if isGiven folder then
      if folder.isAbsolute then folder else folder.child name
    else folder.parent
  else folder.child name

/-- The places that a path leads through, and the one that it leads to. -/
def way (p : Path) : List Path :=
  (p.names.foldl (fun (ways : List Path × Path) name =>
    let here := next ways.2 name
    (ways.1 ++ [here], here)) ([], { root := p.root })).1

/-- The place that names lead to from `here`; every one but the last has to name a folder. -/
def locateFrom (d : Disk) (here : Path) : List String → Except DiskProblem Path
  | [] => .ok here
  | name :: rest =>
    match d.stored here with
    | .missing => .error .missing
    | .file _ => .error .notAFolder
    | .folder =>
      if longestName < (utf8Encode name.toList).length then .error .longName
      else locateFrom d (next here name) rest

def locate (d : Disk) (p : Path) : Except DiskProblem Path :=
  if p.text.contains '\x00' then .error .nullCharacter
  else if longestPath < p.text.utf8ByteSize then .error .longName
  else d.locateFrom { root := p.root } p.names

/-- What lies under a path, where the way to it is open. -/
def look (d : Disk) (p : Path) : Stored :=
  match d.locate p with
  | .ok place => d.stored place
  | .error _ => .missing

/-- The problem of finding out what lies under a path; where the way to it is not open nothing
does. -/
def denial? (d : Disk) (p : Path) : Option DiskProblem :=
  match d.locate p with
  | .error .longName => some .longName
  | _ => none

def read (d : Disk) (p : Path) : Except DiskProblem (List UInt8) := do
  match d.stored (← d.locate p) with
  | .missing => throw .missing
  | .folder => throw .isAFolder
  | .file bytes => pure bytes

def since (before d : Disk) : List (Path × Stored) :=
  d.entries.filter fun e => before.stored e.1 ≠ e.2

def put (d : Disk) (place : Path) (what : Stored) : Disk :=
  { entries := d.entries.filter (fun e => e.1 ≠ place) ++ [(place, what)] }

def write (d : Disk) (p : Path) (bytes : List UInt8) : Except DiskProblem Disk := do
  let place ← d.locate p
  match d.stored place, d.stored place.parent with
  | .folder, _ => throw .isAFolder
  | .file _, _ => pure (d.put place (.file bytes))
  | .missing, .folder => pure (d.put place (.file bytes))
  | .missing, _ => throw .missing

def makeFolder (d : Disk) (p : Path) : Except DiskProblem Disk := do
  let place ← d.locate p
  match d.stored place with
  | .missing => pure (d.put place .folder)
  | _ => throw .taken

/-- Makes a folder that may be there already; with it come the folders on the way, of which there
are at most `depth`. -/
def makeFoldersTo (d : Disk) (p : Path) : Nat → Except (DiskProblem × Path) Disk
  | 0 => once d
  | depth + 1 =>
    match d.makeFolder p with
    | .error .missing => do once (← makeFoldersTo d p.parent depth)
    | _ => once d
where
  once (d : Disk) : Except (DiskProblem × Path) Disk :=
    match d.makeFolder p with
    | .ok d => .ok d
    | .error problem => if d.look p = .folder then .ok d else .error (problem, p)

/-- Makes a folder and the folders on the way to it; the problem comes with the path that it is
about. -/
def makeFolders (d : Disk) (p : Path) : Except (DiskProblem × Path) Disk :=
  d.makeFoldersTo p p.names.length

/-- What was put at a place lies there. -/
theorem stored_put (d : Disk) (place : Path) (what : Stored) (h : isGiven place = false) :
    (d.put place what).stored place = what := by
  simp only [stored, h, put]
  rw [List.find?_append, List.find?_eq_none.2 (by simp)]
  simp

end Disk

end Playground
