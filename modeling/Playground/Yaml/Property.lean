import Playground.Text.Utf8
import Playground.Yaml.Cursor

/-!
# Anchors, tags and directives

* `readAnchor` — the name of an anchor or of a reference to one.
* `readTag` — the handle and the suffix of a tag.
* `readDirective` — a directive in front of a document.
-/

namespace Playground.Yaml

open Playground.Text

/-- A directive in front of a document. -/
inductive Directive where
  | version (major : Nat)
  | handle (name start : String)
  | other
  deriving DecidableEq, Repr, Inhabited

def nameCharacter : String := "alphabetic or numeric character"

/-! ### Anchors -/

/-- Characters that may follow the name of an anchor. -/
def endsAnchor (c : Option Char) : Bool :=
  endsWord c ||
    match c with
    | some ch => "?:,]\x7d%@\x60".toList.contains ch
    | none => true

/-- The name behind the mark of what is called `kind`: an anchor or a reference to one. -/
def readAnchor (kind : String) (c : Cursor) : Except Problem (String × Cursor) :=
  let start := c.mark
  let (name, c) := c.advance.span isNameChar
  if name.isEmpty || !endsAnchor c.peek then
    c.refuseNext ("while scanning an " ++ kind) start nameCharacter
  else .ok (String.ofList name, c)

/-! ### Tags -/

def isUriChar (c : Char) : Bool :=
  c.isAlphanum || "-;/?:@&=+$,_.!~*'()[]%".toList.contains c

/-- The bytes that a run of percent signs with two digits each stands for. -/
def uriBytes (kind : String) (start : Mark) :
    Nat → List UInt8 → Cursor → Except Problem (List UInt8 × Cursor)
  | 0, acc, c => .ok (acc, c)
  | fuel + 1, acc, c =>
    if !c.at? '%' then .ok (acc, c)
    else
      let c := c.advance
      let refuse (k : Nat) : Except Problem (List UInt8 × Cursor) :=
        c.refuse ("while scanning a " ++ kind) start
          (Problem.instead "URI escape sequence of 2 hexadecimal numbers" (c.shown k))
      match c.peek.bind hexValue?, (c.peekAt 1).bind hexValue? with
      | none, _ => refuse 0
      | some _, none => refuse 1
      | some high, some low =>
        uriBytes kind start fuel (acc ++ [UInt8.ofNat (16 * high + low)]) (c.skip 2)

/-- The text of a tag from here on; the bytes of a run must be whole characters. -/
def uriFrom (kind : String) (start : Mark) :
    Nat → List Char → Cursor → Except Problem (List Char × Cursor)
  | 0, acc, c => .ok (acc, c)
  | fuel + 1, acc, c =>
    match c.peek with
    | none => .ok (acc, c)
    | some ch =>
      if ch = '%' then do
        let (bytes, after) ← uriBytes kind start fuel [] c
        match utf8Decode bytes with
        | .ok decoded => uriFrom kind start fuel (acc ++ decoded) after
        | .error fault => c.refuse ("while scanning a " ++ kind) start fault.message
      else if isUriChar ch then uriFrom kind start fuel (acc ++ [ch]) c.advance
      else .ok (acc, c)

/-- The text of a tag, at least one character; it is part of what is called `kind`, which begins at
`start`. -/
def readUri (kind : String) (start : Mark) (c : Cursor) : Except Problem (String × Cursor) := do
  let (text, after) ← uriFrom kind start (c.bound + 1) [] c
  if text.isEmpty then after.refuseNext ("while parsing a " ++ kind) start "URI"
  else pure (String.ofList text, after)

/-- A handle: an exclamation mark, or a name between two of them. -/
def readHandle (kind : String) (start : Mark) (c : Cursor) : Except Problem (String × Cursor) :=
  let refuse (c : Cursor) : Except Problem (String × Cursor) :=
    c.refuseNext ("while scanning a " ++ kind) start "'!'"
  if !c.at? '!' then refuse c
  else
    let first := c.advance
    if first.at? ' ' then .ok ("!", first)
    else
      let (name, after) := first.span isNameChar
      if after.at? '!' then .ok ("!" ++ String.ofList name ++ "!", after.advance) else refuse after

/-- A tag in one of its three forms: between angle brackets, a lone exclamation mark, or a handle
and a suffix. -/
def readTag (c : Cursor) : Except Problem ((Option String × String) × Cursor) := do
  let start := c.mark
  let (tag, after) ←
    match c.peekAt 1 with
    | some '<' => do
      let (suffix, c) ← readUri "tag" start (c.skip 2)
      if c.at? '>' then pure ((none, suffix), c.advance)
      else c.refuseNext "while parsing a tag" start "'>'"
    | next =>
      if endsWord next then pure ((none, "!"), c.advance)
      else
        let word := (c.rest.drop 1).takeWhile fun ch => !(ch = ' ' || isBreak ch)
        if word.contains '!' then do
          let (handle, c) ← readHandle "tag" start c
          let (suffix, c) ← readUri "tag" start c
          pure ((some handle, suffix), c)
        else do
          let (suffix, c) ← readUri "tag" start c.advance
          pure ((some "!", suffix), c)
  if endsField after.peek then pure (tag, after)
  else after.refuseNext "while scanning a tag" start "' '"

/-! ### Directives -/

def readingDirective : String := "while scanning a directive"

def readNumber (start : Mark) (c : Cursor) : Except Problem (Nat × Cursor) :=
  let (run, after) := c.span fun ch => '0' ≤ ch && ch ≤ '9'
  if run.isEmpty then c.refuseNext readingDirective start "a digit"
  else .ok (run.foldl (fun n ch => 10 * n + (ch.toNat - 48)) 0, after)

def readVersion (start : Mark) (c : Cursor) : Except Problem (Directive × Cursor) := do
  let (major, c) ← readNumber start c.skipSpaces
  if !c.at? '.' then c.refuseNext readingDirective start "a digit or '.'"
  else
    let (_, c) ← readNumber start c.advance
    if endsField c.peek then pure (.version major, c)
    else c.refuseNext readingDirective start "a digit or ' '"

def readTagDirective (start : Mark) (c : Cursor) : Except Problem (Directive × Cursor) := do
  let (handle, c) ← readHandle "directive" start c.skipSpaces
  if !c.at? ' ' then c.refuseNext readingDirective start "' '"
  else
    let (tagStart, c) ← readUri "directive" start c.skipSpaces
    if endsField c.peek then pure (.handle handle tagStart, c)
    else c.refuseNext readingDirective start "' '"

def readDirective (c : Cursor) : Except Problem (Directive × Cursor) := do
  let start := c.mark
  let (name, c) := c.advance.span isNameChar
  if name.isEmpty || !endsField c.peek then c.refuseNext readingDirective start nameCharacter
  else
    let (directive, c) ←
      if name = "YAML".toList then readVersion start c
      else if name = "TAG".toList then readTagDirective start c
      else pure (.other, c.skipLine)
    let c ← c.restOfLine readingDirective start
    pure (directive, c)

end Playground.Yaml
