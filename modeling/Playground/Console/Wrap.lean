import Playground.Text.Cluster
import Playground.Text.Split

/-!
# Wrapping text

Text is laid out in lines of so many columns. A line breaks between words; a word that is wider than
a line is folded over several lines or cut short, and white space that sticks out at the end of a
line is dropped.

* `clip`, `padTo` — a line cut or filled to a width.
* `wrap` — the lines of a text.
-/

namespace Playground.Console

open Playground.Text

/-! ### Widths -/

/-- Characters that leave no trace: bell, backspace, vertical tab, form feed, carriage return. -/
def isTraceless (c : Char) : Bool :=
  c.toNat = 7 || c.toNat = 8 || (11 ≤ c.toNat && c.toNat ≤ 13)

/-- The text without the characters that leave no trace. -/
def visible (cs : List Char) : List Char := cs.filter fun c => !isTraceless c

/-- A line filled with spaces up to a width. -/
def padTo (total : Nat) (cs : List Char) : List Char :=
  cs ++ List.replicate (total - width cs) ' '

/-- The characters of the clusters that fit a width; a wide cluster of which only a part fits is
shown as a space. -/
def clipClusters : Nat → List Cluster → List Char
  | 0, _ => []
  | _, [] => []
  | total, k :: rest =>
    if total < k.width then [' '] else k.text ++ clipClusters (total - k.width) rest

def clip (total : Nat) (cs : List Char) : List Char :=
  if width cs ≤ total then cs else clipClusters total (clusters cs)

/-- What becomes of a word that is wider than a line. -/
inductive Overflow where
  | fold
  | ellipsis
  deriving DecidableEq, Repr, Inhabited

/-- A line cut to a width, with a mark where something is missing. -/
def Overflow.clip (o : Overflow) (total : Nat) (cs : List Char) : List Char :=
  if width cs ≤ total then cs
  else
    match o with
    | fold => Console.clip total cs
    | ellipsis => Console.clip (total - 1) cs ++ ['…']

/-! ### Words -/

/-- Pieces put together; behind each but the last stand spaces up to the next multiple of eight
columns, and one at least. -/
def alignPieces (column : Nat) : List (List Char) → List Char
  | [] => []
  | [last] => last
  | piece :: rest =>
    let reached := column + width (piece ++ [' '])
    let gap := (8 - reached % 8) % 8
    piece ++ List.replicate (gap + 1) ' ' ++ alignPieces (reached + gap) rest

def expandTabs (cs : List Char) : List Char := alignPieces 0 (splitOn '\t' cs)

/-- The words of a line, each with the white space behind it, and the first with what is in front;
`seen` tells whether the present word has begun. -/
def cutWords (seen : Bool) : List Char → List (List Char)
  | [] => []
  | [c] => [[c]]
  | c :: d :: rest =>
    let seen := seen || !isBlank c
    if seen && isBlank c && !isBlank d then [c] :: cutWords false (d :: rest)
    else
      match cutWords seen (d :: rest) with
      | [] => [[c]]
      | word :: others => (c :: word) :: others

/-- The pieces of a word that fit a width; `taken` columns of the present piece are used up. -/
def chopClusters (total taken : Nat) : List Cluster → List (List Char)
  | [] => [[]]
  | k :: rest =>
    if total < taken + k.width then
      match chopClusters total k.width rest with
      | [] => [[], k.text]
      | piece :: others => [] :: (k.text ++ piece) :: others
    else
      match chopClusters total (taken + k.width) rest with
      | [] => [k.text]
      | piece :: others => (k.text ++ piece) :: others

/-- The pieces of a word that fit a width. -/
def chop (total : Nat) (cs : List Char) : List (List Char) := chopClusters total 0 (clusters cs)

/-! ### Lines -/

/-- Lines in the making: those that are full, latest first, and the present one. -/
structure Filling where
  full : List (List Char) := []
  line : List Char := []
  /-- The columns that are used up in the present line, word by word. -/
  used : Nat := 0
  deriving Repr, Inhabited

namespace Filling

/-- Goes to a new line, unless nothing has been set yet. -/
def newLine (f : Filling) : Filling :=
  if f.full.isEmpty && f.line.isEmpty then f else { full := f.line :: f.full }

def add (f : Filling) (piece : List Char) : Filling :=
  { f with line := f.line ++ piece, used := f.used + width piece }

/-- Sets a word: in the present line if it fits there, else on a new one. -/
def set (overflow : Overflow) (total : Nat) (f : Filling) (word : List Char) : Filling :=
  let size := width (stripRight word)
  if f.used + size ≤ total then f.add word
  else if total < size && overflow = .fold then
    (chop total word).foldl (fun f piece => f.newLine.add piece) f
  else f.newLine.add word

def lines (f : Filling) : List (List Char) := (f.line :: f.full).reverse

end Filling

/-- The line without white space at its end, as far as it has too many characters. -/
def cropEnd (total : Nat) (cs : List Char) : List Char :=
  let blanks := (cs.reverse.takeWhile isBlank).length
  cs.take (cs.length - min blanks (cs.length - total))

def wrapLine (overflow : Overflow) (total : Nat) (cs : List Char) : List (List Char) :=
  let filling := (cutWords false (expandTabs cs)).foldl (Filling.set overflow total) {}
  filling.lines.map fun line => overflow.clip total (cropEnd total line)

def wrap (overflow : Overflow) (total : Nat) (cs : List Char) : List (List Char) :=
  (splitOn '\n' (visible cs)).flatMap (wrapLine overflow total)

/-- The columns that the widest line of a text takes before it is wrapped. -/
def naturalWidth (cs : List Char) : Nat := ((lines (visible cs)).map width).foldl max 0

end Playground.Console
