import Playground.Literal.Tree
import Std.Data.HashMap

/-!
# Reading expressions

A rule reads an expression at a place and goes on behind it, or is absent there and leaves the place
as it was. What a rule found at a place is remembered. When no rule reads the whole text, it is read
again with a watch for the usual mistakes.

* `Memory` — the place, and what is remembered.
* `Reading` — a reading that may be absent, or may end all reading.
* `firstOf`, `maybe`, `many`, `separated` — readings put together.
* `remembered` — a reading that is done once at each place.
-/

namespace Playground.Literal

/-- The rules whose findings are remembered. -/
inductive Rule where
  | expression
  | starExpression
  | disjunction
  | conjunction
  | inversion
  | bitOr
  | bitXor
  | bitAnd
  | shift
  | sum
  | term
  | factor
  | awaited
  | primary
  | strings
  | arguments
  | invalidNamed
  | starTarget
  | starAtomTarget
  | targetPrimary
  deriving DecidableEq, Repr, Hashable

/-- Why all reading ends. -/
inductive End where
  | stopped (message : String)
  /-- A mistake has been made out, while so many tokens had been looked at. -/
  | mistake (message : String) (seen : Nat)
  deriving Repr

/-- The place of the reading, and what is remembered. -/
structure Memory where
  source : Tokens
  place : Nat := 0
  /-- How many tokens have been looked at. -/
  seen : Nat := 0
  watch : Bool := false
  findings : Std.HashMap (Rule × Nat) (Option (Tree × Nat)) := {}

/-- A reading that may be absent, or may end all reading. -/
abbrev Reading := OptionT (StateT Memory (Except End))

def absent {α : Type} : Reading α := failure

def mistake {α : Type} (message : String) : Reading α := do
  throwThe End (.mistake message (← get).seen)

def peek : Reading Token := do
  let m ← get
  match m.source.tokens[m.place]? with
  | some t =>
    set { m with seen := max m.seen (m.place + 1) }
    pure t
  | none => throwThe End (.stopped ((m.source.stop.map (·.message)).getD ""))

def token (want : Token → Bool) : Reading Token := do
  let t ← peek
  if want t then
    modify fun m => { m with place := m.place + 1 }
    pure t
  else absent

/-- The token that was read last. -/
def lastToken : Reading Token := do
  let m ← get
  pure ((m.source.tokens[m.place - 1]?).getD default)

def goTo (place : Nat) : Reading Unit := modify fun m => { m with place }

def firstOf {α : Type} : List (Reading α) → Reading α
  | [] => absent
  | r :: rest => do
    let place := (← get).place
    r <|> do
      goTo place
      firstOf rest

def maybe {α : Type} (r : Reading α) : Reading (Option α) :=
  firstOf [some <$> r, pure none]

def ahead {α : Type} (r : Reading α) : Reading Bool := do
  let place := (← get).place
  let there ← maybe r
  goTo place
  pure there.isSome

/-- Goes on only if a reading is not there. -/
def notAhead {α : Type} (r : Reading α) : Reading Unit := do
  if ← ahead r then absent

/-- Goes on only if a reading is there. -/
def onAhead {α : Type} (r : Reading α) : Reading Unit := do
  if !(← ahead r) then absent

/-- The readings that come one after the other; `fuel` bounds their number. -/
def manyUpTo {α : Type} (r : Reading α) : Nat → Reading (List α)
  | 0 => pure []
  | fuel + 1 => do
    match ← maybe r with
    | some a => (a :: ·) <$> manyUpTo r fuel
    | none => pure []

/-- The readings that come one after the other. -/
def many {α : Type} (r : Reading α) : Reading (List α) := do
  manyUpTo r (← get).source.tokens.size

/-- The readings that come one after the other, one at least. -/
def some1 {α : Type} (r : Reading α) : Reading (List α) := do
  let first ← r
  (first :: ·) <$> many r

def mark (symbol : String) : Reading Token := token fun t => t.lexeme = .mark symbol

def keyword (word : String) : Reading Token := token fun t => t.lexeme = .name word

def anyName : Reading String := do
  match (← peek).lexeme with
  | .name word =>
    if keywords.contains word then absent
    else
      modify fun m => { m with place := m.place + 1 }
      pure word
  | _ => absent

/-- A name that starts like one that opens statements of its own in some places. -/
def softKeyword : Reading Unit := do
  let word ← anyName
  if !softKeywords.any fun k => word.toList.isPrefixOf k.toList then absent

def quotation : Reading Quotation := do
  match (← peek).lexeme with
  | .text q =>
    modify fun m => { m with place := m.place + 1 }
    pure q
  | _ => absent

/-- Readings with commas between them, one at least. -/
def separated {α : Type} (r : Reading α) : Reading (List α) := do
  let first ← r
  (first :: ·) <$> many (mark "," *> r)

/-- A reading of something that stands for a value. -/
def giving {α β : Type} (b : β) (r : Reading α) : Reading β := do
  discard r
  pure b

def maybeComma : Reading Unit := discard (maybe (mark ","))

/-- A reading that is only tried in the watch for mistakes. -/
def watched {α : Type} (r : Reading α) : Reading α := do
  if (← get).watch then r else absent

/-- A reading without the watch for mistakes. -/
def unwatched {α : Type} (r : Reading α) : Reading α := do
  let watch := (← get).watch
  modify fun m => { m with watch := false }
  let found ← maybe r
  modify fun m => { m with watch }
  match found with
  | some a => pure a
  | none => absent

/-- A reading that is done once at each place. -/
def remembered (rule : Rule) (r : Reading Tree) : Reading Tree := do
  let place := (← get).place
  match (← get).findings[(rule, place)]? with
  | some (some (t, next)) =>
    goTo next
    pure t
  | some none => absent
  | none =>
    let found ← maybe r
    modify fun m =>
      { m with findings := m.findings.insert (rule, place) (found.map fun t => (t, m.place)) }
    match found with
    | some t => pure t
    | none => absent

end Playground.Literal
