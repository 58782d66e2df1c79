import Playground.Fault

/-!
# Status

* `BusyState` — the displayed status.
* `deriveBusyState` — the status that the flags of a session add up to.
* `statusMessage` — the text of the status bar.
* `Indicator` — the busy mark of the compile button.
-/

namespace Playground

open Playground.Decimal Playground.Text

/-- The displayed status. -/
inductive BusyState where
  | busy
  | success
  | failure
  deriving DecidableEq, Repr, Inhabited

namespace BusyState

def name : BusyState → String
  | busy => "busy"
  | success => "success"
  | failure => "failure"

def all : List BusyState := [busy, success, failure]

def ofName (s : String) : Except Fault BusyState :=
  match all.find? (fun b => b.name = s) with
  | some b => .ok b
  | none => .error (.notAMember (quote s) "BusyState")

end BusyState

/-- The status that the flags add up to; contradictory flags read as busy. -/
def deriveBusyState (ready success failure : Bool) : BusyState :=
  if ready && failure && !success then .failure
  else if ready && success && !failure then .success
  else .busy

def statusMessage (state : BusyState) (errorCount : Int) : String :=
  match state with
  | .success => "Compiled successfully"
  | .failure =>
    "(" ++ integerText errorCount ++ ") Error" ++ (if 1 < errorCount then "s" else "")
  | .busy => "Processing..."

/-- The busy mark of the compile button, with the number of times it was set and taken back. -/
structure Indicator where
  compiling : Bool := false
  started : Nat := 0
  ended : Nat := 0
  deriving DecidableEq, Repr, Inhabited

namespace Indicator

def start (i : Indicator) : Indicator := { i with compiling := true, started := i.started + 1 }

def finish (i : Indicator) : Indicator := { i with compiling := false, ended := i.ended + 1 }

end Indicator

end Playground
