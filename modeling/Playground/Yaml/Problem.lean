import Playground.Decimal.Digits
import Playground.Text.Quoted

/-!
# Problems with documents

* `Mark` — a place in a document.
* `Problem` — why a text is no document, or a document without a value.
* `Problem.text` — the wording.
-/

namespace Playground.Yaml

open Playground.Decimal Playground.Text

/-- A place: the lines above it and the columns in front of it. -/
structure Mark where
  line : Nat := 0
  column : Nat := 0
  deriving DecidableEq, Repr, Inhabited

/-- How a place in the document of this name is written: lines and columns count from one. -/
def Mark.text (name : String) (m : Mark) : String :=
  "  in \"" ++ name ++ "\", line " ++ naturalText (m.line + 1) ++ ", column " ++
    naturalText (m.column + 1)

/-- What was going on when a problem showed, and where it had begun. -/
structure Activity where
  what : String
  since : Option Mark := none
  deriving DecidableEq, Repr, Inhabited

/-- Why a text is no document, or a document without a value. -/
inductive Problem where
  | marked (during : Option Activity) (what : String) (mark : Mark)
  /-- No document may hold the character at this position. -/
  | unacceptable (c : Char) (position : Nat)
  | worthless (what : String)
  | unreadable (what : String)
  /-- Too many collections lie within one another. -/
  | tooDeep
  /-- More steps were taken than any document asks for. -/
  | endless
  deriving DecidableEq, Repr, Inhabited

namespace Problem

/-- The lines for what was going on; its place is left out where it is that of the problem. -/
def activityLines (name : String) (a : Activity) (mark : Mark) : List String :=
  match a.since with
  | none => [a.what]
  | some since => if since = mark then [a.what] else [a.what, since.text name]

/-- The wording of a problem with the document of this name. -/
def text (name : String) : Problem → String
  | marked during what mark =>
    let lines := match during with
      | none => []
      | some a => activityLines name a mark
    "\n".intercalate (lines ++ [what, mark.text name])
  | unacceptable c position =>
    "unacceptable character #x" ++ String.ofList (hexNat 4 c.toNat) ++
      ": special characters are not allowed\n  in \"" ++ name ++ "\", position " ++
      naturalText position
  | worthless what | unreadable what => what
  | tooDeep => "maximum recursion depth exceeded"
  | endless => "endless document"

/-- Something else was expected than what was found. -/
def instead (wanted found : String) : String := "expected " ++ wanted ++ ", but found " ++ found

end Problem

end Playground.Yaml
