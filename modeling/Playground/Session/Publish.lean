import Playground.Session.Basic

/-!
# Publishing events

An event goes to the listeners of its name and then to the listeners of all events. A listener that
fails is noted in the log and stops nobody, unless its fault has no wording: then the publication
breaks off.

* `React` — what carries out the actions of compilers and listeners.
* `Session.publish`, `Session.tell` — publish an event, the latter one of the session's own.
-/

namespace Playground

open Playground.Text

/-- What carries out actions on a session, up to the first that fails. -/
abbrev React (α : Type) := List α → Session α → Session α × Option Fault

/-- The names of the events. -/
def compileScheduled : String := "compile.scheduled"

@[inherit_doc compileScheduled]
def compileStarted : String := "compile.started"

@[inherit_doc compileScheduled]
def compileFinished : String := "compile.finished"

@[inherit_doc compileScheduled]
def notificationPushed : String := "notification.pushed"

namespace Session

variable {α : Type}

def listenerFailure (event listener : String) (toAll : Bool) (f : Fault) : Except Fault String :=
  f.headline.map fun headline =>
    (if toAll then
      "Error in all-event handler (event='" ++ event ++ "', callback=" ++ listener ++ "): "
    else "Error in event handler for '" ++ event ++ "' (callback=" ++ listener ++ "): ") ++
      headline ++ "\n" ++ Log.traceText

theorem listenerFailure_of_wording {event listener text : String} {toAll : Bool} {f : Fault}
    (h : f.wording = .ok text) :
    ∃ message, listenerFailure event listener toAll f = .ok message := by
  unfold listenerFailure Fault.headline
  rw [h]
  exact ⟨_, rfl⟩

theorem listenerFailure_of_mute {event listener : String} {toAll : Bool} {f why : Fault}
    (h : f.wording = .error why) : listenerFailure event listener toAll f = .error why := by
  unfold listenerFailure
  rw [Fault.headline_eq_error.2 h]
  rfl

/-- The session in which the next call of a listener is counted, and its reaction to that call. -/
def takeReaction (s : Session α) (event listener : String) (data : Payload) :
    Session α × Option (Reaction α) :=
  match (s.listeners.find? fun l => l.1 = listener).map (·.2) with
  | none => (s, none)
  | some l =>
    ({ s with listeners := assign listener { l with calls := l.calls + 1 } s.listeners },
      l.respond l.calls event data)

/-- Calls one listener with the data as its forerunners left them. Its failure is noted in the log;
where that has no wording, the call fails. -/
def callListener (react : React α) (event : String) (toAll : Bool) (listener : String)
    (s : Session α) (data : Payload) : Session α × Payload × Option Fault :=
  match s.takeReaction event listener data with
  | (s, none) => (s.note (.heard listener event data toAll false), data, none)
  | (s, some reaction) =>
    let s := s.note (.heard listener event data toAll true)
    let data := reaction.alter data
    let (s, failure) := react reaction.actions s
    match failure.or reaction.fault with
    | none => (s, data, none)
    | some f =>
      match listenerFailure event listener toAll f with
      | .ok message => (s.write .error eventLogger message, data, none)
      | .error why => (s, data, some why)

/-- Calls listeners one after the other, up to the first call that fails. -/
def callListeners (react : React α) (event : String) (toAll : Bool) :
    List String → Session α → Payload → Session α × Payload × Option Fault
  | [], s, data => (s, data, none)
  | l :: rest, s, data =>
    match callListener react event toAll l s data with
    | (s, data, none) => callListeners react event toAll rest s data
    | (s, data, some f) => (s, data, some f)

/-- Publishes an event: to its listeners as they are now, then to the listeners of all events as
they are after that. -/
def publish (react : React α) (event : String) (data : Payload) (s : Session α) :
    Session α × Option Fault :=
  match callListeners react event false (s.bus.listenersOf event) s data with
  | (s, _, some f) => (s, some f)
  | (s, data, none) =>
    let (s, _, fault) := callListeners react event true s.bus.all s data
    (s, fault)

/-- Publishes an event of the session's own. -/
def tell (react : React α) (event : String) (data : Payload) (s : Session α) :
    Session α × Option Fault :=
  match (s.mark (.published event data)).publish react event data with
  | (s, none) => (s, none)
  | (s, some f) => (s.mark (.cutOff event f), some f)

end Session

end Playground
