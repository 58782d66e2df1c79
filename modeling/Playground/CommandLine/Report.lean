import Playground.Console.Printer
import Playground.Session.Snapshot

/-!
# The report of a compile

* `findings` — what is printed about a session in front of its status: its notifications, its
  annotations, and the output that was asked for.
* `statusMarkup` — its status.
-/

namespace Playground.CommandLine

open Playground.Console Playground.Decimal

variable {α : Type} (p : Printer)

/-- The table of annotations; of each the first line is shown. -/
def annotationTable (annotations : List Annotation) : Table where
  title := "Annotations"
  columns :=
    [{ heading := "Line", side := .right }, { heading := "Kind" }, { heading := "Message" }]
  rows := annotations.map fun a =>
    [integerText (a.row + 1), a.kind.name, String.ofList ((Text.lines a.text.toList).headD [])]

def notificationText (s : Session α) : String :=
  "".intercalate (s.state.notifications.items.map fun n => p.panel n.message)

def annotationText (s : Session α) : String :=
  if s.state.annotations.isEmpty then "" else p.table (annotationTable s.state.annotations)

/-- The output that was asked for, where the compile succeeded. -/
def outputText (s : Session α) : Option OutputType → String
  | some t => if s.busyState = .success then p.plain (s.state.artifact.render t) else ""
  | none => ""

def findings (s : Session α) (output : Option OutputType) : String :=
  notificationText p s ++ annotationText p s ++ outputText p s output

def styleOf : BusyState → String
  | .busy => "yellow"
  | .success => "green"
  | .failure => "bold red"

def statusMarkup (s : Session α) : String :=
  "[" ++ styleOf s.busyState ++ "]" ++ s.statusText ++ "[/]" ++
    (if s.canDownload then "  [dim]" ++ s.binarySize ++ "[/dim]" else "")

end Playground.CommandLine
