import Playground.Session.Snapshot

/-!
# Actions

What front ends, compilers and listeners may do to a session.

* `Action` — one action.
* `Session.act` — carries out one action.
* `Session.react` — carries out the actions of compilers and listeners, which may call listeners in
  turn, down to a depth.
* `Session.perform` — carries out an action from the outside.
-/

namespace Playground

/-- One action on a session. -/
inductive Action where
  | input (text : String)
  | setMode (name : String)
  | selectOutput (name : String)
  | dismiss (key : Int)
  | stop
  | export
  | publish (event : String) (data : Payload)
  | subscribe (event listener : String)
  | unsubscribe (event listener : String)
  | subscribeAll (listener : String)
  | clearListeners
  /-- Starts a coroutine and leaves it to itself. -/
  | spawn (call : Call)
  | look
  deriving Repr, Inhabited

namespace Action

/-- A call whose request takes its open options from the session as it is now. -/
def settleCall (options : Options) : Call → Call
  | .compile (some draft) => .compile (some (draft.settle options))
  | call => call

end Action

/-- The answer to an action. -/
inductive Answer where
  | nothing
  | yes (b : Bool)
  | saved (e : BinaryExport)
  deriving DecidableEq, Repr, Inhabited

namespace Session

def act (react : React Action) (a : Action) (s : Session Action) :
    Session Action × Except Fault Answer :=
  match a with
  | .input text =>
    let (s, result) := s.input react text
    (s, result.map Answer.yes)
  | .setMode name =>
    match s.setMode react name with
    | (s, none) => (s, .ok .nothing)
    | (s, some f) => (s, .error f)
  | .selectOutput name =>
    match s.selectOutput name with
    | (s, none) => (s, .ok .nothing)
    | (s, some f) => (s, .error f)
  | .dismiss key =>
    let (s, removed) := s.dismiss key
    (s, .ok (.yes removed))
  | .stop => (s.stop, .ok .nothing)
  | .export => (s, s.export?.map Answer.saved)
  | .publish event data =>
    match s.publish react event data with
    | (s, none) => (s, .ok .nothing)
    | (s, some f) => (s, .error f)
  | .subscribe event listener =>
    ({ s with bus := s.bus.subscribe event listener }, .ok .nothing)
  | .unsubscribe event listener =>
    ({ s with bus := s.bus.unsubscribe event listener }, .ok .nothing)
  | .subscribeAll listener => ({ s with bus := s.bus.subscribeAll listener }, .ok .nothing)
  | .clearListeners => ({ s with bus := s.bus.clear }, .ok .nothing)
  | .spawn call => (s.spawn (Action.settleCall s.state.options call), .ok .nothing)
  | .look => (s, .ok .nothing)

/-- Carries out actions up to the first that fails. -/
def actAll (react : React Action) : List Action → Session Action → Session Action × Option Fault
  | [], s => (s, none)
  | a :: rest, s =>
    match act react a s with
    | (s, .ok _) => actAll react rest s
    | (s, .error f) => (s, some f)

/-- The fault of actions that call each other too deeply. -/
def tooDeep : Fault := .foreign "RecursionError" "maximum recursion depth exceeded"

/-- Carries out the actions of compilers and listeners; actions that call listeners may lead to
further actions, down to `depth`. -/
def reactTo : Nat → React Action
  | 0, actions, s => if actions.isEmpty then (s, none) else (s, some tooDeep)
  | depth + 1, actions, s => actAll (reactTo depth) actions s

/-- How deeply actions may call each other. -/
def actionDepth : Nat := 240

/-- Carries out the actions of compilers and listeners. -/
def react : React Action := reactTo actionDepth

/-- Carries out an action from the outside. -/
def perform (a : Action) (s : Session Action) : Session Action × Except Fault Answer :=
  act react a s

end Session

end Playground
