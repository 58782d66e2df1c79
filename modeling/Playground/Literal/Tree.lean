import Playground.Literal.Token

/-!
# Trees of expressions

* `Tree` — an expression, as far as it matters for the value of a literal and for what is said of a
  wrong one.
* `Tree.described` — what an expression is called.
* `Tree.unassignable?` — the part of an expression that keeps it from being assigned to.
* `Tree.value` — the value of a literal, as far as it can go wrong.
-/

namespace Playground.Literal

/-- A value that is written as such. -/
inductive Constant where
  | number (quantity : Quantity)
  | text
  | ellipsis
  | word (name : String)
  deriving DecidableEq, Repr, Inhabited

/-- An expression. -/
inductive Tree where
  | name (word : String)
  | constant (c : Constant)
  | tuple (items : List Tree)
  | set (items : List Tree)
  | dict (items : List Tree)
  | pair (key value : Tree)
  /-- The key of a dictionary that is unpacked into another. -/
  | absent
  | signed (operand : Tree)
  | sum (left right : Tree)
  /-- A call, of a name that is given nothing or of anything else. -/
  | call (bare : Option String)
  | comparison (within : Bool) (left : Tree)
  | starred (operand : Tree)
  | member
  /-- The arguments of a call: how many have no name, and is a dictionary among them? -/
  | arguments (count : Nat) (unpacks : Bool)
  | other (called : String)
  deriving Repr, Inhabited

/-- A reason why a text is no literal. -/
inductive Refusal where
  | ill (message : String)
  /-- The text is well written, but its value cannot be made. -/
  | worthless (message : String)
  deriving DecidableEq, Repr, Inhabited

namespace Tree

def described : Tree → String
  | name _ => "name"
  | constant .ellipsis => "ellipsis"
  | constant (.word w) => w
  | constant _ => "literal"
  | tuple _ => "tuple"
  | set _ => "set display"
  | dict _ => "dict literal"
  | signed _ | sum _ _ => "expression"
  | call _ => "function call"
  | comparison _ _ => "comparison"
  | starred _ => "starred"
  | member => "attribute"
  | other called => called
  | pair _ _ | absent | arguments _ _ => "expression"

mutual

/-- The first part of an expression that keeps it from being assigned to in turn. -/
def unassignable? : Tree → Option Tree
  | name _ | member => none
  | tuple items => firstUnassignable? items
  | starred t => unassignable? t
  | comparison within left => if within then unassignable? left else none
  | t => some t

/-- The first of several expressions that cannot be assigned to. -/
def firstUnassignable? : List Tree → Option Tree
  | [] => none
  | t :: rest => (unassignable? t).or (firstUnassignable? rest)

end

def quantity? : Tree → Option Quantity
  | constant (.number q) => some q
  | _ => none

def signedQuantity? : Tree → Option Quantity
  | signed t => quantity? t
  | t => quantity? t

def noLiteral : Refusal := .worthless "malformed node or string"

/-- What is said of a value that cannot be found again in a set or a dictionary. -/
def unhashable (kind : String) : Refusal :=
  .worthless ("unhashable type: '" ++ kind ++ "'")

mutual

/-- The kind of the value of a literal if it cannot be found again in a set or a dictionary. -/
def value : Tree → Except Refusal (Option String)
  | constant _ => .ok none
  | tuple items => values items
  | set items => do
    keys items
    pure (some "set")
  | dict items => do
    keys items
    pure (some "dict")
  | pair key value' =>
    match key with
    | absent => .error (.worthless "malformed node or string: None")
    | key => do
      let kind ← value key
      let _ ← value value'
      pure kind
  | call (some "set") => .ok (some "set")
  | sum left right =>
    match signedQuantity? left, quantity? right with
    | some .imaginary, _ => .error noLiteral
    | some _, some .imaginary => .ok none
    | _, _ => .error noLiteral
  | signed t => if (quantity? t).isSome then .ok none else .error noLiteral
  | _ => .error noLiteral

/-- The values of several literals; the first kind that cannot be found again stands for all. -/
def values : List Tree → Except Refusal (Option String)
  | [] => .ok none
  | t :: rest => do
    let kind ← value t
    let others ← values rest
    pure (kind.or others)

/-- Puts the values of literals into a set or a dictionary. -/
def keys : List Tree → Except Refusal Unit
  | [] => .ok ()
  | t :: rest => do
    match ← value t with
    | some kind => .error (unhashable kind)
    | none => keys rest

end

end Tree

end Playground.Literal
