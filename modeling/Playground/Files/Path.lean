import Playground.Text.Split

/-!
# Paths

A path is a root and a list of names. Empty names and single points say nothing and are left out;
double points stay, since only the disk can tell where they lead.

* `Path.ofString` — the path that a text writes.
* `Path.text` — how a path is written.
* `Path.join` — a path taken from another one.
-/

namespace Playground

open Playground.Text

/-- A path: what it starts from and the names on the way. -/
structure Path where
  /-- Empty where the path starts from the working folder, else its slashes. -/
  root : String := ""
  names : List String := []
  deriving DecidableEq, Repr, Inhabited

namespace Path

/-- The root of a text: two slashes are a root of their own, and more count as one. -/
def rootOf (cs : List Char) : String :=
  match (cs.takeWhile (· = '/')).length with
  | 0 => ""
  | 2 => "//"
  | _ => "/"

def isTelling (name : List Char) : Bool := !name.isEmpty && name ≠ ['.']

def ofString (s : String) : Path where
  root := rootOf s.toList
  names := ((splitOn '/' s.toList).filter isTelling).map String.ofList

def isAbsolute (p : Path) : Bool := p.root ≠ ""

/-- How a path is written; a point stands for the working folder. -/
def text (p : Path) : String :=
  if p.root = "" && p.names.isEmpty then "." else p.root ++ "/".intercalate p.names

/-- A path taken from another one; one that starts from a root stands for itself. -/
def join (p q : Path) : Path :=
  if q.isAbsolute then q else { p with names := p.names ++ q.names }

def child (p : Path) (name : String) : Path := { p with names := p.names ++ [name] }

def parent (p : Path) : Path := { p with names := p.names.dropLast }

end Path

end Playground
