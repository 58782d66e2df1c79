import Playground.Decimal.Power
import Playground.Text.Hex
import Playground.Yaml.Cursor

/-!
# The texts of scalars

A scalar is written plainly, between quotes, or as a block of indented lines.

* `readPlain` — a plain scalar.
* `readQuoted` — a scalar between quotes.
* `readBlock` — a block scalar, whose lines are kept or folded.
-/

namespace Playground.Yaml

open Playground.Decimal Playground.Text

/-- Puts a piece behind a text that is kept with its last character first. -/
def putBehind (text piece : List Char) : List Char := piece.reverseAux text

/-! ### Plain scalars -/

/-- Characters that end a plain scalar inside brackets. -/
def isFlowMark (c : Char) : Bool := c = ',' || c = '[' || c = ']' || c = '\x7b' || c = '\x7d'

/-- Does a colon that is followed by this character end a plain scalar? -/
def closesPlain (inFlow : Bool) (next : Option Char) : Bool :=
  endsWord next || (inFlow && next.any isFlowMark)

/-- The characters of a plain scalar up to the next gap. -/
def plainRun (inFlow : Bool) : List Char → List Char
  | [] => []
  | c :: rest =>
    if endsWord (some c) || (c = ':' && closesPlain inFlow rest.head?) ||
        (inFlow && (isFlowMark c || c = '?')) then []
    else c :: plainRun inFlow rest

/-- Goes over blanks and line ends and collects the line ends; `none` in front of a bound of the
document. -/
def gapBreaks : Nat → List Char → Cursor → Option (List Char) × Cursor
  | 0, acc, c => (some acc.reverse, c)
  | fuel + 1, acc, c =>
    if c.at? ' ' then gapBreaks fuel acc c.advance
    else
      match c.lineBreak? with
      | none => (some acc.reverse, c)
      | some (ch, after) =>
        if after.atBound then (none, after) else gapBreaks fuel (ch :: acc) after

/-- A line end between two parts of a text: a lone one reads as a space, of several the first is
left out. -/
def foldBreak (first : Char) (others : List Char) : List Char :=
  if first ≠ '\n' then first :: others
  else if others.isEmpty then [' ']
  else others

/-- What a gap inside a plain scalar reads as, whether it holds a line end, and the place behind
it; nothing where the scalar ends. -/
def plainGap (c : Cursor) : List Char × Bool × Cursor :=
  let (blanks, c) := c.span (· = ' ')
  match c.lineBreak? with
  | none => (blanks, false, c)
  | some (first, after) =>
    if after.atBound then ([], true, after)
    else
      match gapBreaks after.bound [] after with
      | (none, c) => ([], true, c)
      | (some others, c) => (foldBreak first others, true, c)

/-- Reads a plain scalar on: `gap` is what separates the next part from those before. The text read
so far is kept with its last character first. -/
def plainFrom (inFlow : Bool) (indent : Int) :
    Nat → List Char → List Char → Bool → Cursor → List Char × Bool × Cursor
  | 0, acc, _, broken, c => (acc.reverse, broken, c)
  | fuel + 1, acc, gap, broken, c =>
    let run := if c.at? '#' then [] else plainRun inFlow c.rest
    if run.isEmpty then (acc.reverse, broken, c)
    else
      let acc := putBehind (putBehind acc gap) run
      let (gap, broken, c) := plainGap (c.skip run.length)
      if gap.isEmpty || c.at? '#' || (!inFlow && (c.column : Int) < indent) then
        (acc.reverse, broken, c)
      else plainFrom inFlow indent fuel acc gap broken c

/-- A plain scalar, whether a line ended behind it, and the place behind it; outside brackets its
further lines start at column `indent` or further right. -/
def readPlain (inFlow : Bool) (indent : Int) (c : Cursor) : String × Bool × Cursor :=
  let (text, broken, c) := plainFrom inFlow indent (c.bound + 1) [] [] false c
  (String.ofList text, broken, c)

/-! ### Quoted scalars -/

def escaped? (c : Char) : Option Char :=
  match c with
  | '0' => some '\x00'
  | 'a' => some '\x07'
  | 'b' => some '\x08'
  | 't' => some '\t'
  | '\t' => some '\t'
  | 'n' => some '\n'
  | 'v' => some '\x0b'
  | 'f' => some '\x0c'
  | 'r' => some '\r'
  | 'e' => some '\x1b'
  | ' ' => some ' '
  | '"' => some '"'
  | '\\' => some '\\'
  | '/' => some '/'
  | 'N' => some '\u0085'
  | '_' => some '\u00a0'
  | 'L' => some '\u2028'
  | 'P' => some '\u2029'
  | _ => none

def escapeDigits? (c : Char) : Option Nat :=
  match c with
  | 'x' => some 2
  | 'u' => some 4
  | 'U' => some 8
  | _ => none

/-- The character of a number; a number without one of its own stands for the replacement
character, and one past the last character is refused. -/
def charOfCode (n : Nat) : Except Problem Char :=
  if pow2 31 ≤ n then .error (.worthless "Python int too large to convert to C int")
  else if 0x10ffff < n then .error (.worthless "chr() arg not in range(0x110000)")
  else if 0xd800 ≤ n && n < 0xe000 then .ok '\ufffd'
  else .ok (Char.ofNat n)

def hexCode (cs : List Char) : Nat :=
  cs.foldl (fun acc c => 16 * acc + (hexValue? c).getD 0) 0

def isBlank (c : Char) : Bool := c = ' ' || c = '\t'

/-- A character that stands for itself between quotes of the given kind. -/
def standsForItself (quote c : Char) : Bool :=
  c ≠ quote && !(c = '\\' && quote = '"') && !isBlank c && !isBreak c

def readingQuoted : String := "while scanning a quoted scalar"

def readingEscape : String := "while scanning a double-quoted scalar"

/-- Goes over the blanks at the starts of lines and collects the line ends; a bound of the document
is refused. -/
def quotedBreaks (start : Mark) :
    Nat → List Char → Cursor → Except Problem (List Char × Cursor)
  | 0, acc, c => .ok (acc.reverse, c)
  | fuel + 1, acc, c =>
    if c.atBound then c.refuse readingQuoted start "found unexpected document separator"
    else
      let (_, c) := c.span isBlank
      match c.lineBreak? with
      | some (ch, after) => quotedBreaks start fuel (ch :: acc) after
      | none => .ok (acc.reverse, c)

/-- What the escape reads as that the character at this place names, and the place behind it. -/
def readEscape (start : Mark) (c : Cursor) : Except Problem (List Char × Cursor) := do
  let unknown : Except Problem (List Char × Cursor) :=
    c.refuse readingEscape start ("found unknown escape character " ++ c.shown 0)
  match c.peek with
  | none => unknown
  | some e =>
    match escaped? e, escapeDigits? e with
    | some s, _ => pure ([s], c.advance)
    | none, some n =>
      let c := c.advance
      let ds := (c.rest.take n).takeWhile fun d => (hexValue? d).isSome
      if ds.length < n then
        c.refuse readingEscape start
          (Problem.instead ("escape sequence of " ++ naturalText n ++ " hexadecimal numbers")
            (c.shown ds.length))
      else
        let s ← charOfCode (hexCode ds)
        pure ([s], c.skip n)
    | none, none =>
      match c.lineBreak? with
      | none => unknown
      | some (_, after) => quotedBreaks start (after.bound + 1) [] after

/-- Reads a quoted scalar on, up to its closing quote. The text read so far is kept with its last
character first. -/
def quotedFrom (quote : Char) (start : Mark) :
    Nat → List Char → Cursor → Except Problem (List Char × Cursor)
  | 0, _, _ => .error .endless
  | fuel + 1, acc, c =>
    match c.peek with
    | none => c.refuse readingQuoted start "found unexpected end of stream"
    | some ch =>
      if ch = quote then
        if quote = '\'' && c.peekAt 1 = some '\'' then
          quotedFrom quote start fuel ('\'' :: acc) (c.skip 2)
        else .ok (acc.reverse, c.advance)
      else if ch = '\\' && quote = '"' then do
        let (text, after) ← readEscape start c.advance
        quotedFrom quote start fuel (putBehind acc text) after
      else if isBlank ch || isBreak ch then
        let (blanks, c) := c.span isBlank
        match c.lineBreak? with
        | none => quotedFrom quote start fuel (putBehind acc blanks) c
        | some (first, after) => do
          let (others, after) ← quotedBreaks start (after.bound + 1) [] after
          quotedFrom quote start fuel (putBehind acc (foldBreak first others)) after
      else
        let (run, c) := c.span (standsForItself quote)
        quotedFrom quote start fuel (putBehind acc run) c

/-- A scalar between quotes of the given kind. -/
def readQuoted (quote : Char) (c : Cursor) : Except Problem (String × Cursor) :=
  (quotedFrom quote c.mark (c.bound + 1) [] c.advance).map fun (text, c) =>
    (String.ofList text, c)

/-! ### Block scalars -/

/-- What becomes of the line ends at the end of a block. -/
inductive Chomping where
  | strip
  | clip
  | keep
  deriving DecidableEq, Repr, Inhabited

/-- The head of a block: what becomes of its last line ends, and by how much it is indented. -/
structure BlockHead where
  chomping : Chomping := .clip
  increment : Option Nat := none
  deriving DecidableEq, Repr, Inhabited

def chomping? : Option Char → Option Chomping
  | some '+' => some .keep
  | some '-' => some .strip
  | _ => none

def increment? : Option Char → Option Nat
  | some c => if '0' ≤ c && c ≤ '9' then some (c.toNat - 48) else none
  | none => none

def readingBlock : String := "while scanning a block scalar"

/-- The digit in the head of a block, where there is one; it may not be zero. -/
def readIncrement (start : Mark) (c : Cursor) : Except Problem (Option Nat × Cursor) :=
  match increment? c.peek with
  | none => .ok (none, c)
  | some 0 =>
    c.refuse readingBlock start
      "expected indentation indicator in the range 1-9, but found 0"
  | some n => .ok (some n, c.advance)

/-- The sign and the digit in the head of a block, in either order. -/
def readIndicators (start : Mark) (c : Cursor) : Except Problem (BlockHead × Cursor) := do
  match chomping? c.peek with
  | some chomping =>
    let (increment, c) ← readIncrement start c.advance
    pure (⟨chomping, increment⟩, c)
  | none =>
    let (increment, c) ← readIncrement start c
    match increment, chomping? c.peek with
    | some _, some chomping => pure (⟨chomping, increment⟩, c.advance)
    | _, _ => pure (⟨.clip, increment⟩, c)

def readBlockHead (start : Mark) (c : Cursor) : Except Problem (BlockHead × Cursor) := do
  let (head, c) ← readIndicators start c
  if !endsField c.peek then
    c.refuseNext readingBlock start "chomping or indentation indicators"
  else
    let c ← c.restOfLine readingBlock start
    pure (head, c)

/-- Goes over the empty lines in front of a block and finds the widest indentation among them and
its first line. -/
def blockIndent : Nat → List Char → Nat → Cursor → List Char × Nat × Cursor
  | 0, acc, widest, c => (acc.reverse, widest, c)
  | fuel + 1, acc, widest, c =>
    if c.at? ' ' then blockIndent fuel acc (max widest (c.column + 1)) c.advance
    else
      match c.lineBreak? with
      | some (ch, after) => blockIndent fuel (ch :: acc) widest after
      | none => (acc.reverse, widest, c)

/-- The place behind at most as many spaces as lead to column `indent`. -/
def skipIndent (indent : Nat) (c : Cursor) : Cursor :=
  c.skip (min (indent - c.column) (c.rest.takeWhile (· = ' ')).length)

/-- Goes over empty lines and collects their ends. -/
def blockBreaks (indent : Nat) : Nat → List Char → Cursor → List Char × Cursor
  | 0, acc, c => (acc.reverse, c)
  | fuel + 1, acc, c =>
    let c := skipIndent indent c
    match c.lineBreak? with
    | some (ch, after) => blockBreaks indent fuel (ch :: acc) after
    | none => (acc.reverse, c)

def isIndented (c : Cursor) : Bool := c.at? ' ' || c.at? '\t'

/-- Reads the lines of a block on; `breaks` are the ends of the empty lines before. The answer
also holds the end of the last line and those of the empty lines behind it. The text read so far is
kept with its last character first. -/
def blockLines (folded : Bool) (indent : Nat) :
    Nat → List Char → List Char → Cursor → List Char × List Char × List Char × Cursor
  | 0, acc, breaks, c => (acc.reverse, [], breaks, c)
  | fuel + 1, acc, breaks, c =>
    if c.column ≠ indent || c.rest.isEmpty then (acc.reverse, [], breaks, c)
    else
      let flush := !isIndented c
      let (line, c) := c.span fun ch => !isBreak ch
      let acc := putBehind (putBehind acc breaks) line
      let (ending, c) := match c.lineBreak? with
        | some (ch, after) => ([ch], after)
        | none => ([], c)
      let (breaks, c) := blockBreaks indent (c.bound + 1) [] c
      if c.column = indent && !c.rest.isEmpty then
        let joint :=
          if folded && ending = ['\n'] && flush && !isIndented c then
            if breaks.isEmpty then [' '] else []
          else ending
        blockLines folded indent fuel (putBehind acc joint) breaks c
      else (acc.reverse, ending, breaks, c)

/-- A block scalar inside a collection that is indented by `indent`. -/
def readBlock (folded : Bool) (indent : Int) (c : Cursor) : Except Problem (String × Cursor) := do
  let (head, c) ← readBlockHead c.mark c.advance
  let least := (max (indent + 1) 1).toNat
  let (indent, breaks, c) :=
    match head.increment with
    | none =>
      let (breaks, widest, c) := blockIndent c.bound [] 0 c
      (max least widest, breaks, c)
    | some n =>
      let indent := least + n - 1
      let (breaks, c) := blockBreaks indent (c.bound + 1) [] c
      (indent, breaks, c)
  let (text, ending, breaks, c) := blockLines folded indent (c.bound + 1) [] breaks c
  let text := match head.chomping with
    | .strip => text
    | .clip => text ++ ending
    | .keep => text ++ ending ++ breaks
  pure (String.ofList text, c)

end Playground.Yaml
