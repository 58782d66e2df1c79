import Playground.Console.Printer
import Playground.Console.Wrap
import Playground.Decimal.Rounding

/-!
# Frames and tables

* `panel` — a text in a frame that fits it.
* `shrink` — columns made narrower until they fit, the widest ones first.
* `Table.render` — the lines of a table.
-/

namespace Playground.Console

open Playground.Decimal Playground.Text

def consoleWidth : Nat := 80

def padded (cs : List Char) : List Char := ' ' :: cs ++ [' ']

def panel (text : List Char) : List (List Char) :=
  let inner := min (naturalWidth text) (consoleWidth - 4)
  let edge := List.replicate (inner + 2) '─'
  let body := if inner = 0 then [] else wrap .fold inner text
  ['╭' :: edge ++ ['╮']] ++
    (body.map fun line => '│' :: padded (padTo inner line) ++ ['│']) ++
    ['╰' :: edge ++ ['╯']]

/-! ### Tables -/

/-- Takes `excess` columns away from the widths that are the greatest, each by at most `most`; the
shares are even, rounded one after the other. -/
def shareOut (widest most : Nat) : Nat → Nat → List Nat → List Nat
  | _, _, [] => []
  | excess, sharers, w :: rest =>
    if w = widest && 0 < sharers then
      let share := min most (roundHalfEven excess sharers)
      (w - share) :: shareOut widest most (excess - share) (sharers - 1) rest
    else w :: shareOut widest most excess sharers rest

def sumOf : List Nat → Nat
  | [] => 0
  | w :: rest => w + sumOf rest

/-- Widths made smaller until their sum is at most `limit`: the greatest ones shrink first, to the
next smaller one at most; `fuel` bounds the number of rounds. -/
def shrink (limit : Nat) : Nat → List Nat → List Nat
  | 0, ws => ws
  | fuel + 1, ws =>
    let excess := sumOf ws - limit
    if excess = 0 then ws
    else
      let widest := ws.foldl max 0
      let second := (ws.filter (· ≠ widest)).foldl max 0
      let most := min excess (widest - second)
      shrink limit fuel (shareOut widest most excess (ws.count widest) ws)

namespace Table

/-- The texts of every column, the heading first. -/
def columnTexts (t : Table) : List (List (List Char)) :=
  t.columns.mapIdx fun i c => c.heading.toList :: t.rows.map fun row => (row.getD i "").toList

/-- The columns that are left for the texts and the spaces beside them. -/
def room (t : Table) : Nat := consoleWidth - (t.columns.length + 1)

/-- The widths of the columns, with the spaces beside the texts. -/
def widths (t : Table) : List Nat :=
  let natural := t.columnTexts.map fun texts =>
    min ((texts.map naturalWidth).foldl max 0 + 2) t.room
  shrink t.room (sumOf natural) natural

/-- A line on the left of a column. It is filled twice: a joiner at its end takes the first space of
the first filling with it, so that one column is still missing. -/
def fillLeft (total : Nat) (line : List Char) : List Char := padTo total (padTo total line)

def cell (side : Side) (total : Nat) (text : List Char) : List (List Char) :=
  let inner := total - 2
  if inner = 0 then []
  else
    (wrap .ellipsis inner text).map fun line =>
      match side with
      | .left => padded (fillLeft inner line)
      | .right =>
        let line := stripRight line
        padded (List.replicate (inner - width line) ' ' ++ line)

def row (bar : Char) (columns : List (Column × Nat)) (texts : List String) :
    List (List Char) :=
  let cells := (columns.zip texts).map fun (c, text) => (c.2, cell c.1.side c.2 text.toList)
  let height := (cells.map fun c => c.2.length).foldl max 1
  (List.range height).map fun i =>
    bar :: cells.flatMap fun (total, lines) =>
      lines.getD i (List.replicate total ' ') ++ [bar]

def rule (left line joint right : Char) (widths : List Nat) : List Char :=
  left :: joinWith [joint] (widths.map fun w => List.replicate w line) ++ [right]

def centred (total : Nat) (line : List Char) : List Char :=
  let line := stripRight line
  let left := (total - width line) / 2
  padTo total (List.replicate left ' ' ++ line)

def render (t : Table) : List (List Char) :=
  let widths := t.widths
  let total := sumOf widths + widths.length + 1
  let columns := t.columns.zip widths
  (wrap .fold total t.title.toList).map (centred total) ++
    [rule '┏' '━' '┳' '┓' widths] ++
    row '┃' columns (t.columns.map Column.heading) ++
    [rule '┡' '━' '╇' '┩' widths] ++
    t.rows.flatMap (row '│' columns) ++
    [rule '└' '─' '┴' '┘' widths]

end Table

end Playground.Console
