import Playground.Session.Pipeline
import Playground.Text.LetterCase

/-!
# Triggers

What front ends call at once: edits, changes of the mode and the output, dismissals, downloads and
the end of the session.

* `Session.rearm`, `Session.schedule`, `Session.cancelTimer` — the timer that compiles after edits.
* `Session.input`, `Session.setMode`, `Session.selectOutput`, `Session.dismiss`, `Session.stop`,
  `Session.export?` — the triggers.
-/

namespace Playground.Session

open Playground.Text

variable {α : Type}

def cancelTimer (s : Session α) : Session α :=
  { s with loop := Debounce.cancel s.armed s.loop, armed := none }

/-- Sets the timer; a delay that is too large only clears it. -/
def rearm (s : Session α) : Session α × Option Fault :=
  match Debounce.schedule s.armed s.loop s.settings.autoCompileDelayMs with
  | (loop, .error f) => ({ s with loop := loop, armed := none }, some f)
  | (loop, .ok id) => ({ s with loop := loop, armed := some id }, none)

/-- Sets the timer and publishes that a compile was scheduled. -/
def schedule (react : React α) (s : Session α) : Session α × Option Fault :=
  let delay := s.settings.autoCompileDelayMs
  match s.rearm with
  | (s, some f) => (s, some f)
  | (s, none) =>
    let s := s.write .debug Debounce.loggerName (Debounce.scheduledMessage delay)
    s.tell react compileScheduled [("delay_ms", .int delay)]

/-- The text has changed. A compile is scheduled, and the answer true, where more than the white
space around the text has changed, every edit compiles and the session is alive. -/
def input (react : React α) (text : String) (s : Session α) : Session α × Except Fault Bool :=
  let s := s.modifyState fun st => { st with source := text }
  let core := trimmed text
  if core = s.state.lastTextInput then (s, .ok false)
  else
    let s := s.modifyState fun st => { st with lastTextInput := core }
    if s.state.alive && s.state.compileMode = .auto then
      match s.schedule react with
      | (s, none) => (s, .ok true)
      | (s, some f) => (s, .error f)
    else (s, .ok false)

def setMode (react : React α) (name : String) (s : Session α) : Session α × Option Fault :=
  let s := s.cancelTimer
  match CompileMode.ofName name with
  | .error f => (s, some f)
  | .ok mode =>
    let s := s.modifyState fun st => { st with compileMode := mode }
    if mode = .auto && s.state.alive then s.schedule react else (s, none)

def selectOutput (name : String) (s : Session α) : Session α × Option Fault :=
  match OutputType.ofName name with
  | .error f => (s, some f)
  | .ok t => (s.modifyState fun st => { st with outputType := t }, none)

/-- Removes the notification with the key and tells whether there was one. -/
def dismiss (key : Int) (s : Session α) : Session α × Bool :=
  let (queue, removed) := s.state.notifications.dismiss key
  (s.modifyState fun st => { st with notifications := queue }, removed)

/-- Ends the session: the timer, the waiting request and all listeners are given up. -/
def stop (s : Session α) : Session α :=
  let s := (s.modifyState fun st => { st with alive := false }).cancelTimer
  ({ s with pending := none, bus := s.bus.clear }.mark .stopped).write .debug sessionLogger
    "compile session stopped"

def canDownload (s : Session α) : Bool :=
  s.state.ready && s.state.isSuccess && !s.state.artifact.binary.isEmpty

/-- The name under which a compiler's binary is saved. -/
def exportName (compiler : String) : String := toLower compiler ++ ".module.wasm"

def export? (s : Session α) : Except Fault BinaryExport :=
  if s.canDownload then
    .ok { filename := exportName s.state.compiler, payload := s.state.artifact.binary }
  else .error .noArtifact

end Playground.Session
