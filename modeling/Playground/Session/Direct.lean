import Playground.Session.Pipeline

/-!
# Direct changes

A pipeline can run on a state of its own, which is changed directly and not through triggers.

* `DirectChange` — a change of the state.
* `Session.changeAll` — changes up to the first that fails.
-/

namespace Playground

/-- A change of the state of a pipeline. -/
inductive DirectChange where
  | setAlive (alive : Bool)
  | setMode (name : String)
  | push (message : String)
  deriving DecidableEq, Repr, Inhabited

namespace Session

def change (c : DirectChange) (s : Session DirectChange) :
    Session DirectChange × Option Fault :=
  match c with
  | .setAlive alive => (s.modifyState fun st => { st with alive := alive }, none)
  | .setMode name =>
    match CompileMode.ofName name with
    | .ok mode => (s.modifyState fun st => { st with compileMode := mode }, none)
    | .error f => (s, some f)
  | .push message =>
    (s.modifyState fun st =>
      { st with notifications := (st.notifications.push st.compileMode message).1 }, none)

/-- Makes changes up to the first that fails. -/
def changeAll : React DirectChange
  | [], s => (s, none)
  | c :: rest, s =>
    match s.change c with
    | (s, none) => changeAll rest s
    | (s, some f) => (s, some f)

end Session

end Playground
