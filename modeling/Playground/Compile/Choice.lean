import Playground.Fault

/-!
# Choices

* `CompileMode` — when the playground compiles.
* `OutputType` — which output is shown.
-/

namespace Playground

open Playground.Text

/-- When the playground compiles: after every edit, on request, or not forward at all. -/
inductive CompileMode where
  | auto
  | manual
  | decompile
  deriving DecidableEq, Repr, Inhabited

namespace CompileMode

def name : CompileMode → String
  | auto => "auto"
  | manual => "manual"
  | decompile => "decompile"

def all : List CompileMode := [auto, manual, decompile]

def ofName? (s : String) : Option CompileMode := all.find? (fun m => m.name = s)

def ofName (s : String) : Except Fault CompileMode :=
  match ofName? s with
  | some m => .ok m
  | none => .error (.notAMember (quote s) "CompileMode")

end CompileMode

/-- Which output is shown. -/
inductive OutputType where
  | text
  | binary
  deriving DecidableEq, Repr, Inhabited

namespace OutputType

def name : OutputType → String
  | text => "text"
  | binary => "binary"

def all : List OutputType := [text, binary]

def ofName? (s : String) : Option OutputType := all.find? (fun t => t.name = s)

def ofName (s : String) : Except Fault OutputType :=
  match ofName? s with
  | some t => .ok t
  | none => .error (.notAMember (quote s) "OutputType")

end OutputType

end Playground
