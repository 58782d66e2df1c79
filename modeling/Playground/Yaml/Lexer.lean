import Playground.Text.Portions
import Playground.Yaml.Text
import Playground.Yaml.Token

/-!
# Cutting a text into tokens

Indentation is made explicit: where a line is indented further a collection starts, and where it is
indented less collections end. A key is known as one only when its colon is met, so the token in
front of a key is put in afterwards; until then the tokens from there on are held back.

* `Lexer` — the state of the cutting.
* `Lexer.ofText` — the start of a text.
* `Lexer.next` — the next token.
* `Lexer.drop` — takes the next token.
-/

namespace Playground.Yaml

open Playground.Text

/-- A token that may turn out to be a key. -/
structure KeyCandidate where
  position : Nat
  isRequired : Bool
  index : Nat
  mark : Mark
  deriving DecidableEq, Repr, Inhabited

/-- The state of the cutting. -/
structure Lexer where
  cursor : Cursor
  /-- The tokens that were cut and not taken yet. -/
  tokens : List Placed := []
  taken : Nat := 0
  depth : Nat := 0
  /-- The indentation of the innermost block, and of those around it. -/
  indent : Int := -1
  outerIndents : List Int := []
  mayOpenKey : Bool := true
  /-- The candidates for keys, at most one at every depth. -/
  candidates : List (Nat × KeyCandidate) := []
  /-- Was the end of the text met? -/
  isDone : Bool := false
  deriving Repr, Inhabited

abbrev Cut := Except Problem Lexer

namespace Lexer

/-- The problem that something does not belong at this place. -/
def misplaced (l : Lexer) (what : String) : Cut :=
  l.cursor.fail (.marked none (what ++ " are not allowed here") l.cursor.mark)

def inFlow (l : Lexer) : Bool := l.depth ≠ 0

def push (l : Lexer) (t : Token) : Lexer :=
  let here := l.cursor.mark
  { l with tokens := l.tokens ++ [⟨t, here, here⟩] }

/-- Adds a token that reaches up to a place. -/
def pushTo (l : Lexer) (t : Token) (c : Cursor) : Lexer :=
  { l with cursor := c, tokens := l.tokens ++ [⟨t, l.cursor.mark, c.mark⟩] }

/-- Puts a token without width in front of a candidate. -/
def insertAt (l : Lexer) (k : KeyCandidate) (t : Token) : Lexer :=
  let earlier := k.position - l.taken
  { l with tokens := l.tokens.take earlier ++ ⟨t, k.mark, k.mark⟩ :: l.tokens.drop earlier }

/-! ### Candidates for keys -/

def longestKey : Nat := 1024

/-- Is the candidate on an earlier line, or too far back? -/
def isStale (l : Lexer) (k : KeyCandidate) : Bool :=
  k.mark.line ≠ l.cursor.line || longestKey < l.cursor.index - k.index

/-- The problem of a required key without its colon. -/
def keyLost (l : Lexer) (k : KeyCandidate) : Cut :=
  l.cursor.refuse "while scanning a simple key" k.mark "could not find expected ':'"

/-- Drops the candidates that can no longer be keys; a required one may not be among them. -/
def dropStale (l : Lexer) : Cut :=
  match l.candidates.find? fun e => l.isStale e.2 && e.2.isRequired with
  | some e => l.keyLost e.2
  | none => .ok { l with candidates := l.candidates.filter fun e => !l.isStale e.2 }

def candidate? (l : Lexer) : Option KeyCandidate :=
  (l.candidates.find? fun e => e.1 = l.depth).map (·.2)

def forgetCandidate (l : Lexer) : Lexer :=
  { l with candidates := l.candidates.filter fun e => e.1 ≠ l.depth }

/-- Drops the candidate at the present depth, which may not be a required one. -/
def dropCandidate (l : Lexer) : Cut :=
  match l.candidate? with
  | some k => if k.isRequired then l.keyLost k else .ok l.forgetCandidate
  | none => .ok l

/-- Makes the coming token a candidate, where a key may start. -/
def noteCandidate (l : Lexer) : Cut :=
  if l.mayOpenKey then do
    let k : KeyCandidate := {
      position := l.taken + l.tokens.length
      isRequired := !l.inFlow && l.indent = (l.cursor.column : Int)
      index := l.cursor.index
      mark := l.cursor.mark }
    let l ← l.dropCandidate
    pure { l with candidates := (l.depth, k) :: l.candidates }
  else .ok l

/-! ### Indentation -/

/-- Ends the blocks that are indented further than `column`. -/
def closeBlocks (column : Int) : Nat → Lexer → Lexer
  | 0, l => l
  | fuel + 1, l =>
    if column < l.indent then
      closeBlocks column fuel
        { l.push .blockEnd with
          indent := l.outerIndents.headD (-1)
          outerIndents := l.outerIndents.tail }
    else l

/-- Ends the blocks that the present line is not part of; inside brackets indentation is free. -/
def unwind (l : Lexer) (column : Int) : Lexer :=
  if l.inFlow then l else closeBlocks column (l.outerIndents.length + 1) l

/-- Opens a block at a column that is further right than the present one; with it comes whether
one was opened. -/
def openBlock (l : Lexer) (column : Nat) : Lexer × Bool :=
  if l.indent < (column : Int) then
    ({ l with indent := column, outerIndents := l.indent :: l.outerIndents }, true)
  else (l, false)

/-- Opens a block with a token at this place, if it is further right than the present one. Inside
brackets there are no blocks; elsewhere what is called `what` has to be allowed. -/
def openHere (l : Lexer) (what : String) (t : Token) : Cut :=
  if l.inFlow then .ok l
  else if !l.mayOpenKey then l.misplaced what
  else
    let (l, opened) := l.openBlock l.cursor.column
    .ok (if opened then l.push t else l)

/-- Goes over spaces, comments and line ends; behind a line end a key may start. -/
def skipGap : Nat → Lexer → Lexer
  | 0, l => l
  | fuel + 1, l =>
    let c := l.cursor.skipSpaces
    let c := if c.at? '#' then c.skipLine else c
    match c.lineBreak? with
    | some (_, after) =>
      skipGap fuel { l with cursor := after, mayOpenKey := l.mayOpenKey || !l.inFlow }
    | none => { l with cursor := c }

/-! ### Tokens -/

def mark (l : Lexer) (t : Token) : Lexer := l.pushTo t l.cursor.advance

def takeDirective (l : Lexer) : Cut := do
  let l ← (l.unwind (-1)).dropCandidate
  let (d, c) ← readDirective l.cursor
  pure { l.pushTo (.directive d) c with mayOpenKey := false }

def takeBound (l : Lexer) (t : Token) : Cut := do
  let l ← (l.unwind (-1)).dropCandidate
  pure { l.pushTo t (l.cursor.skip 3) with mayOpenKey := false }

def finish (l : Lexer) : Cut := do
  let l ← (l.unwind (-1)).dropCandidate
  pure { l.push .streamEnd with candidates := [], mayOpenKey := false, isDone := true }

def takeOpening (l : Lexer) (t : Token) : Cut := do
  let l ← l.noteCandidate
  pure { l.mark t with depth := l.depth + 1, mayOpenKey := true }

def takeClosing (l : Lexer) (t : Token) : Cut := do
  let l ← l.dropCandidate
  pure { l.mark t with depth := l.depth - 1, mayOpenKey := false }

def takeComma (l : Lexer) : Cut := do
  let l ← l.dropCandidate
  pure { l.mark .flowEntry with mayOpenKey := true }

def takeDash (l : Lexer) : Cut := do
  let l ← l.openHere "sequence entries" .blockSequenceStart
  let l ← l.dropCandidate
  pure { l.mark .blockEntry with mayOpenKey := true }

def takeQuestion (l : Lexer) : Cut := do
  let l ← l.openHere "mapping keys" .blockMappingStart
  let l ← l.dropCandidate
  pure { l.mark .key with mayOpenKey := !l.inFlow }

/-- The colon in front of a value: it makes a key of the candidate, if there is one. -/
def takeColon (l : Lexer) : Cut :=
  match l.candidate? with
  | some k =>
    let l := l.forgetCandidate.insertAt k .key
    let l :=
      if l.inFlow then l
      else
        let (l, opened) := l.openBlock k.mark.column
        if opened then l.insertAt k .blockMappingStart else l
    .ok { l.mark .value with mayOpenKey := false }
  | none => do
    let l ← l.openHere "mapping values" .blockMappingStart
    let l ← l.dropCandidate
    pure { l.mark .value with mayOpenKey := !l.inFlow }

/-- A token that may be a key, as `read` finds it. -/
def takeNode (l : Lexer) (read : Cursor → Except Problem (Token × Cursor)) : Cut := do
  let l ← l.noteCandidate
  let (t, c) ← read l.cursor
  pure { l.pushTo t c with mayOpenKey := false }

def takeBlock (l : Lexer) (folded : Bool) : Cut := do
  let l ← l.dropCandidate
  let (text, c) ← readBlock folded l.indent l.cursor
  pure { l.pushTo (.scalar text false) c with mayOpenKey := true }

def takePlain (l : Lexer) : Cut := do
  let l ← l.noteCandidate
  let (text, broken, c) := readPlain l.inFlow (l.indent + 1) l.cursor
  pure { l.pushTo (.scalar text true) c with mayOpenKey := broken }

/-- Characters that open no plain scalar unless a word goes on behind them. -/
def isIndicator (c : Char) : Bool := "-?:,[]\x7b\x7d#&*!|>'\"%@\x60".toList.contains c

/-- Does a plain scalar start with `ch`, followed by `next`? -/
def opensPlain (inFlow : Bool) (ch : Char) (next : Option Char) : Bool :=
  !(endsWord (some ch) || isIndicator ch) ||
    (!endsWord next && (ch = '-' || (!inFlow && (ch = '?' || ch = ':'))))

def unknownStart (l : Lexer) : Cut :=
  l.cursor.fail (.marked (some ⟨"while scanning for the next token", none⟩)
    ("found character " ++ l.cursor.shown 0 ++ " that cannot start any token") l.cursor.mark)

/-- Cuts off the token that starts with `ch`. -/
def step (l : Lexer) (ch : Char) : Cut :=
  let next := l.cursor.peekAt 1
  let atMargin := l.cursor.column = 0
  let stands := l.inFlow || endsWord next
  if ch = '%' && atMargin then l.takeDirective
  else if atMargin && l.cursor.hasMark '-' then l.takeBound .documentStart
  else if atMargin && l.cursor.hasMark '.' then l.takeBound .documentEnd
  else if ch = '[' then l.takeOpening .flowSequenceStart
  else if ch = '\x7b' then l.takeOpening .flowMappingStart
  else if ch = ']' then l.takeClosing .flowSequenceEnd
  else if ch = '\x7d' then l.takeClosing .flowMappingEnd
  else if ch = ',' then l.takeComma
  else if ch = '-' && endsWord next then l.takeDash
  else if ch = '?' && stands then l.takeQuestion
  else if ch = ':' && stands then l.takeColon
  else if ch = '*' then
    l.takeNode fun c => (readAnchor "alias" c).map fun (name, c) => (.reference name, c)
  else if ch = '&' then
    l.takeNode fun c => (readAnchor "anchor" c).map fun (name, c) => (.anchor name, c)
  else if ch = '!' then l.takeNode fun c => (readTag c).map fun (t, c) => (.tag t.1 t.2, c)
  else if ch = '|' && !l.inFlow then l.takeBlock false
  else if ch = '>' && !l.inFlow then l.takeBlock true
  else if ch = '\'' || ch = '"' then
    l.takeNode fun c => (readQuoted ch c).map fun (text, c) => (.scalar text false, c)
  else if opensPlain l.inFlow ch next then l.takePlain
  else l.unknownStart

/-- Refuses a state in which the text has broken off. -/
def unbroken (l : Lexer) : Cut :=
  match l.cursor.reached? with
  | some problem => .error problem
  | none => .ok l

def cut (l : Lexer) : Cut := do
  let l ← (skipGap (l.cursor.bound + 1) l).unbroken
  let l ← l.dropStale
  let l := l.unwind l.cursor.column
  let l ← match l.cursor.peek with
    | none => l.finish
    | some ch => l.step ch
  l.unbroken

/-- Is the first token held back, because it may be a key? -/
def isHeldBack (l : Lexer) : Bool := l.candidates.any fun e => e.2.position = l.taken

/-- Cuts until the first token is certain. Every round takes a character, so the length of the text
bounds their number. -/
def settle : Nat → Lexer → Cut
  | 0, _ => .error .endless
  | fuel + 1, l =>
    if l.isDone then .ok l
    else if l.tokens.isEmpty then do settle fuel (← l.cut)
    else do
      let l ← l.dropStale
      if l.isHeldBack then settle fuel (← l.cut) else pure l

def next (l : Lexer) : Except Problem (Placed × Lexer) := do
  let l ← settle (l.cursor.bound + 2) l
  let last := l.cursor.mark
  pure (l.tokens.headD ⟨.streamEnd, last, last⟩, l)

def drop (l : Lexer) : Lexer := { l with tokens := l.tokens.tail, taken := l.taken + 1 }

def isAllowed (c : Char) : Bool :=
  let n := c.toNat
  n = 9 || n = 10 || n = 13 || (32 ≤ n && n ≤ 126) || n = 0x85 || (0xa0 ≤ n && n ≤ 0xfffd) ||
    0x10000 ≤ n

/-- A text is looked through in portions, the first two together. The end of the portions in front
of the one with this position. -/
def portionStart (position : Nat) : Nat :=
  if position < 2 * portionLength then 0 else position / portionLength * portionLength

/-- The start of a text that breaks off with the problem `beyond`, if there is one; a byte order
mark in front of it is left out. In front of a portion with a character that it may not hold the
text breaks off, too. -/
def ofText (text : List Char) (beyond : Option Problem) : Cut :=
  let text := if beyond.isSome then text.take (portionStart text.length) else text
  let (length, beyond) :=
    match text.zipIdx.find? fun e => !isAllowed e.1 with
    | some (c, position) => (portionStart position, some (.unacceptable c position))
    | none => (text.length, beyond)
  match text.take length, beyond with
  | [], some problem => .error problem
  | rest, beyond =>
    let start : Cursor := { rest, beyond, bound := rest.length }
    .ok { cursor := if start.at? '\ufeff' then start.advance else start }

end Lexer

end Playground.Yaml
