import Playground.Session.Coroutine

/-!
# Snapshots

* `Session.snapshot` — everything that the page renders, as a record.
-/

namespace Playground

def Annotation.toRecord (a : Annotation) : List (String × Value) :=
  [("row", .int a.row), ("type", .str a.kind.name), ("text", .str a.text)]

namespace Session

variable {α : Type}

def busyState (s : Session α) : BusyState :=
  deriveBusyState s.state.ready s.state.isSuccess s.state.isFailure

def statusText (s : Session α) : String := statusMessage s.busyState s.state.errorCount

def binarySize (s : Session α) : String :=
  if s.state.artifact.binary.isEmpty then ""
  else
    match Format.formatSize s.state.artifact.binary.length with
    | .ok text => text
    | .error _ => ""

def renderedOutput (s : Session α) : String := s.state.artifact.render s.state.outputType

def editorView (s : Session α) : Value :=
  Value.record [("text", .str s.state.source),
    ("annotations", .list (s.state.annotations.map fun a => Value.record a.toRecord))]

def notificationList (s : Session α) : Value :=
  .list (s.state.notifications.items.map fun n => Value.record n.toRecord)

def snapshot (s : Session α) : List (String × Value) :=
  [("compiler", .str s.state.compiler),
    ("version", .str s.state.version),
    ("ready", .bool s.state.ready),
    ("compiling", .bool s.state.compiling),
    ("compile_mode", .str s.state.compileMode.name),
    ("options", Value.record s.state.options.toRecord),
    ("busy_state", .str s.busyState.name),
    ("status_message", .str s.statusText),
    ("error_count", .int s.state.errorCount),
    ("outcome", Value.ofStr? (s.state.outcome.map Outcome.kind)),
    ("editor", s.editorView),
    ("notifications", s.notificationList),
    ("output_type", .str s.state.outputType.name),
    ("output", .str s.renderedOutput),
    ("binary_size", .str s.binarySize),
    ("can_download", .bool s.canDownload)]

end Session

end Playground
