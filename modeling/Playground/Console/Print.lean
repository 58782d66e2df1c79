import Playground.Console.Frame
import Playground.Console.Markup

/-!
# Printing

* `linesText` — lines as they are written.
* `paragraph` — a text wrapped to the console.
* `markupText` — markup as it is shown, wrapped to the console.
* `printer` — all of it together.
-/

namespace Playground.Console

/-- Lines as they are written, each with its end. -/
def linesText (lines : List (List Char)) : String :=
  String.ofList (lines.flatMap fun line => line ++ ['\n'])

def paragraph (cs : List Char) : String := linesText (wrap .fold consoleWidth cs)

/-- The styles that have to be looked up, from the start of the text: when the text is cut into
lines, the styles of no characters are lost. -/
def stylesInUse (shown : Markup.Shown) (lines : List (List Char)) : List String :=
  let whole := lines.length = 1 && !shown.text.contains '\t'
  let spans := shown.spans.mergeSort fun a b => a.start ≤ b.start
  (spans.filter fun s => whole || s.start < s.stop).map (·.style)

def markupText (s : String) : Except Fault String := do
  let shown ← Markup.read s.toList
  let lines := wrap .fold consoleWidth shown.text
  let _ ← (stylesInUse shown lines).mapM Style.parse?
  pure (linesText lines)

def escaped (s : String) : String := String.ofList (Markup.escape s.toList)

def printer : Printer where
  escape := escaped
  markup := markupText
  plain s := paragraph s.toList
  panel s := linesText (Console.panel s.toList)
  table t := linesText t.render

end Playground.Console
