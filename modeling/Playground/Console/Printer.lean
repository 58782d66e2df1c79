import Playground.Fault

/-!
# Printers

How text is laid out on the console is up to a printer, which is chosen from outside.

* `Table` — a title, columns with headings, and rows.
* `Printer` — what is asked of a printer.
-/

namespace Playground.Console

/-- On which side of a column the text stands. -/
inductive Side where
  | left
  | right
  deriving DecidableEq, Repr, Inhabited

/-- A column and its heading. -/
structure Column where
  heading : String
  side : Side := .left
  deriving DecidableEq, Repr, Inhabited

structure Table where
  title : String
  columns : List Column
  rows : List (List String)
  deriving DecidableEq, Repr, Inhabited

/-- What is asked of a printer: texts as they come out on the console. -/
structure Printer where
  escape : String → String
  markup : String → Except Fault String
  plain : String → String
  panel : String → String
  table : Table → String

end Playground.Console
