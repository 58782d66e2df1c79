import Playground.Yaml.Problem

/-!
# Places in a document

A document is read from a cursor that knows the rest of the text and the line and column of the
place. The text may break off, with a problem that shows when its end is reached. Line ends within
the text are line feeds, next-line characters and the line and paragraph separators. The cursor also
holds the length that the text had at first, which bounds the steps of whatever reads it.

* `Cursor` — a place in the text.
* `Cursor.advance`, `Cursor.skip` — the places further on.
* `Cursor.lineBreak?` — the place behind a line end.
* `Cursor.reached?` — the problem with which the text breaks off here.
* `Cursor.refuse` — the problem that shows at a place.
* `endsLine`, `endsField`, `endsWord` — what may follow a line, a field or a word.
-/

namespace Playground.Yaml

open Playground.Text

def isBreak (c : Char) : Bool :=
  c = '\n' || c.toNat = 0x85 || c.toNat = 0x2028 || c.toNat = 0x2029

def endsLine : Option Char → Bool
  | none => true
  | some c => isBreak c

def endsField : Option Char → Bool
  | none => true
  | some c => c = ' ' || isBreak c

/-- Does a word end here: at a space, at a tab or at the end of the line? -/
def endsWord : Option Char → Bool
  | none => true
  | some c => c = ' ' || c = '\t' || isBreak c

/-- A character of the names of anchors, directives and tag handles. -/
def isNameChar (c : Char) : Bool := c.isAlphanum || c = '-' || c = '_'

/-- A place in the text. -/
structure Cursor where
  rest : List Char
  index : Nat := 0
  line : Nat := 0
  column : Nat := 0
  /-- No more characters than these are left. -/
  bound : Nat := 0
  /-- What keeps the text from going on behind `rest`, if it does not end there. -/
  beyond : Option Problem := none
  deriving DecidableEq, Repr, Inhabited

namespace Cursor

def peek (c : Cursor) : Option Char := c.rest.head?

/-- The character that is `k` places further on. -/
def peekAt (c : Cursor) (k : Nat) : Option Char := c.rest[k]?

def at? (c : Cursor) (ch : Char) : Bool := c.rest.head? = some ch

/-- The next place; a byte order mark takes no column. -/
def advance (c : Cursor) : Cursor :=
  match c.rest with
  | [] => c
  | ch :: rest =>
    if isBreak ch then { c with rest, index := c.index + 1, line := c.line + 1, column := 0 }
    else if ch = '\ufeff' then { c with rest, index := c.index + 1 }
    else { c with rest, index := c.index + 1, column := c.column + 1 }

def skip : Nat → Cursor → Cursor
  | 0, c => c
  | n + 1, c => skip n c.advance

/-- The characters from here on that satisfy `p`, and the place behind them. -/
def span (p : Char → Bool) (c : Cursor) : List Char × Cursor :=
  let run := c.rest.takeWhile p
  (run, c.skip run.length)

def skipSpaces (c : Cursor) : Cursor := (c.span (· = ' ')).2

def skipLine (c : Cursor) : Cursor := (c.span (fun ch => !isBreak ch)).2

/-- The line end at this place, as text shows it, and the place behind it. -/
def lineBreak? (c : Cursor) : Option (Char × Cursor) :=
  match c.peek with
  | some ch =>
    if isBreak ch then
      some (if ch.toNat = 0x85 then '\n' else ch, c.advance)
    else none
  | none => none

/-- Does a mark of three characters that bounds documents stand here? -/
def hasMark (c : Cursor) (mark : Char) : Bool :=
  c.peek = some mark && c.peekAt 1 = some mark && c.peekAt 2 = some mark && endsWord (c.peekAt 3)

def atBound (c : Cursor) : Bool := c.hasMark '-' || c.hasMark '.'

def mark (c : Cursor) : Mark := ⟨c.line, c.column⟩

/-- How messages show the character that is `k` places further on; the end of the text counts as a
null character. -/
def shown (c : Cursor) (k : Nat) : String :=
  String.ofList (quoteChars [(c.peekAt k).getD '\x00'])

/-- The problem with which the text breaks off, where at most one more character is known. -/
def reached? (c : Cursor) : Option Problem :=
  match c.rest with
  | [] | [_] => c.beyond
  | _ => none

/-- The problem that shows here, unless the text breaks off here. -/
def fail {α : Type} (c : Cursor) (problem : Problem) : Except Problem α :=
  .error (c.reached?.getD problem)

/-- The problem that shows here in an activity that began at `since`. -/
def refuse {α : Type} (c : Cursor) (activity : String) (since : Mark) (what : String) :
    Except Problem α :=
  c.fail (.marked (some ⟨activity, some since⟩) what c.mark)

/-- The problem that something else was expected here. -/
def refuseNext {α : Type} (c : Cursor) (activity : String) (since : Mark) (wanted : String) :
    Except Problem α :=
  c.refuse activity since (Problem.instead wanted (c.shown 0))

/-- The place behind the rest of a line that holds nothing more than a comment. -/
def restOfLine (activity : String) (since : Mark) (c : Cursor) : Except Problem Cursor :=
  let c := c.skipSpaces
  let c := if c.at? '#' then c.skipLine else c
  if endsLine c.peek then
    match c.lineBreak? with
    | some (_, after) => .ok after
    | none => .ok c
  else c.refuseNext activity since "a comment or a line break"

end Cursor

end Playground.Yaml
