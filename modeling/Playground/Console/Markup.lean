import Playground.Console.Style
import Playground.Console.Wrap
import Playground.Literal.Basic

/-!
# Markup

Text for the console can hold tags in square brackets, which open and close styles. A tag that names
an action can give it parameters, which have to be literals. A backslash in front of a tag makes it
plain text.

* `Markup.pieces` — the tags of a text and what stands between them.
* `Markup.escape` — a text whose tags are all made plain.
* `Markup.read` — the text that is shown, with the styles of its parts.
-/

namespace Playground.Console.Markup

open Playground.Decimal Playground.Text

/-- A piece of markup: text without tags, or a tag and the number of backslashes in front of it. -/
inductive Piece where
  | plain (text : List Char)
  | tag (backslashes : Nat) (body : List Char)
  deriving DecidableEq, Repr, Inhabited

/-- A character that the body of a tag can start with. -/
def opensBody (c : Char) : Bool := ('a' ≤ c && c ≤ 'z') || c = '#' || c = '/' || c = '@'

/-- The body of the tag that opens the text, and what is behind the tag; a body holds no bracket. -/
def tag? (cs : List Char) : Option (List Char × List Char) :=
  match cs with
  | '[' :: c :: rest =>
    let body := rest.takeWhile fun c => c ≠ '[' && c ≠ ']'
    match rest.drop body.length with
    | ']' :: rest => if opensBody c then some (c :: body, rest) else none
    | _ => none
  | _ => none

/-- Puts a character in front of the pieces. -/
def cons (c : Char) : List Piece → List Piece
  | .plain text :: rest => .plain (c :: text) :: rest
  | rest => .plain [c] :: rest

/-- The pieces of a text; `fuel` bounds their number. -/
def cut : Nat → List Char → List Piece
  | 0, _ => []
  | _, [] => []
  | fuel + 1, c :: cs =>
    let slashes := ((c :: cs).takeWhile (· = '\\')).length
    match tag? ((c :: cs).drop slashes) with
    | some (body, rest) => .tag slashes body :: cut fuel rest
    | none => cons c (cut fuel cs)

/-- The tags of a text and what stands between them. -/
def pieces (cs : List Char) : List Piece := cut (cs.length + 1) cs

def written (body : List Char) : List Char := '[' :: body ++ [']']

/-- A piece that shows as it is: the backslashes are doubled, and one more takes the tag's power. -/
def Piece.escape : Piece → List Char
  | plain text => text
  | tag n body => List.replicate (2 * n + 1) '\\' ++ written body

/-- A text whose tags are all made plain; a single backslash at the end is doubled, lest it touch
what follows. -/
def escape (cs : List Char) : List Char :=
  let escaped := (pieces cs).flatMap Piece.escape
  if escaped.getLast? = some '\\' && escaped.dropLast.getLast? ≠ some '\\' then escaped ++ ['\\']
  else escaped

/-- Plain text as it is shown: a bracket takes the backslash in front of it away. -/
def unescape : List Char → List Char
  | [] => []
  | '\\' :: '[' :: rest => '[' :: unescape rest
  | c :: rest => c :: unescape rest

def fault (message : String) : Fault := .foreign "MarkupError" message

/-- A tag that is open. -/
structure Opened where
  style : String
  parameters : Option (List Char) := none
  /-- How much text is shown before it. -/
  start : Nat := 0
  deriving DecidableEq, Repr, Inhabited

namespace Opened

def isAction (o : Opened) : Bool := o.style.toList.head? = some '@'

def asked (o : Opened) : String :=
  match o.parameters with
  | some parameters => o.style ++ " " ++ String.ofList parameters
  | none => o.style

/-- The literal among the parameters of an action: what stands in brackets behind a name, nothing
behind a name alone, or else all of it. -/
def literal? (parameters : List Char) : Option (List Char) :=
  let behind := parameters.dropWhile fun c => isWordChar c || c = '.'
  if behind.isEmpty then none
  else if behind.head? = some '(' && behind.getLast? = some ')' && !behind.contains '\n' then
    some behind
  else some parameters

def wrongParameters? (parameters : List Char) : Option Fault :=
  (literal? (strip parameters)).bind fun text =>
    match Literal.check text with
    | .ok _ => none
    | .error (.ill message) =>
      some (fault ("error parsing " ++ String.ofList (quoteChars text) ++ " in " ++
        String.ofList (quoteChars parameters) ++ "; " ++ message))
    | .error (.worthless message) =>
      some (fault ("error parsing " ++ String.ofList (quoteChars parameters) ++ "; " ++ message))

def wrong? (o : Opened) : Option Fault :=
  match o.parameters with
  | some parameters =>
    if o.isAction && !parameters.isEmpty then wrongParameters? parameters else none
  | none => none

end Opened

/-- A style and the part of the text that has it. -/
structure Span where
  start : Nat
  stop : Nat
  style : String
  deriving DecidableEq, Repr, Inhabited

/-- A text with the styles of its parts, latest first. -/
structure Shown where
  text : List Char
  spans : List Span := []
  deriving DecidableEq, Repr, Inhabited

/-- The state of the reading. -/
structure Reader where
  position : Nat := 0
  pieces : List (List Char) := []
  length : Nat := 0
  opened : List Opened := []
  /-- The styles of parts of the text, latest first. -/
  spans : List Span := []
  deriving Repr, Inhabited

namespace Reader

def put (r : Reader) (text : List Char) : Reader :=
  { r with pieces := text :: r.pieces, length := r.length + (visible text).length }

def close (r : Reader) (o : Opened) : Except Fault Reader :=
  match o.wrong? with
  | some f => .error f
  | none =>
    let opened := r.opened.erase o
    if o.isAction then .ok { r with opened }
    else .ok { r with opened, spans := ⟨o.start, r.length, o.asked⟩ :: r.spans }

/-- A tag: it opens a style, or it closes the innermost one or the innermost of a name. -/
def take (r : Reader) (body : List Char) : Except Fault Reader := do
  let name := body.takeWhile (· ≠ '=')
  let parameters := if name.length < body.length then some (body.drop (name.length + 1)) else none
  match name with
  | '/' :: name =>
    let style := trimmed (String.ofList name)
    if style = "" then
      match r.opened with
      | o :: _ => r.close o
      | [] =>
        .error (fault ("closing tag '[/]' at position " ++ naturalText r.position ++
          " has nothing to close"))
    else
      let style ← normalStyle style
      match r.opened.find? fun o => o.style = style with
      | some o => r.close o
      | none =>
        .error (fault ("closing tag '" ++ String.ofList (written body) ++ "' at position " ++
          naturalText r.position ++ " doesn't match any open tag"))
  | name =>
    let style ← normalStyle (String.ofList name)
    pure { r with opened := ⟨style, parameters, r.length⟩ :: r.opened }

def step (r : Reader) : Piece → Except Fault Reader
  | .plain text => .ok { r.put (unescape text) with position := r.position + text.length }
  | .tag n body => do
    let r := { r.put (List.replicate (n / 2) '\\') with position := r.position + n }
    let after ← if n % 2 = 1 then pure (r.put (written body)) else r.take body
    pure { after with position := r.position + body.length + 2 }

/-- The text that is shown, when all pieces have been read; what is open ends with the text. -/
def finish (r : Reader) : Shown where
  text := r.pieces.reverse.flatten
  spans := (r.opened.map fun o => ⟨o.start, r.length, o.asked⟩).reverse ++ r.spans

end Reader

def read (cs : List Char) : Except Fault Shown := do
  let r ← (pieces cs).foldlM Reader.step {}
  pure r.finish

end Playground.Console.Markup
