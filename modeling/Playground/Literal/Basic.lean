import Playground.Literal.Grammar
import Playground.Literal.Lexer

/-!
# Literals

A literal is an expression whose value is written out: a number, a text, a constant, or a tuple, set
or dictionary of literals.

* `parse` — the expression that a text writes.
* `check` — why a text is no literal, if it is none.
-/

namespace Playground.Literal

/-- What is said of a text in which a mistake has been made out while `seen` tokens had been looked
at: what keeps the later tokens from going on comes first. -/
def settle (source : Tokens) (seen : Nat) (message : String) : String :=
  match source.stop with
  | none => message
  | some stop =>
    if stop.plain then stop.message
    else
      match stop.opened, source.tokens[seen - 1]? with
      | some (bracket, line), some t => if line < t.line then neverClosed bracket else message
      | _, _ => message

/-- How deeply rules are nested at most in an expression of so many tokens: brackets nest all rules
and everything else fewer. -/
def nesting (tokens : Nat) : Nat := 24 * (tokens + 2)

/-- What comes of reading tokens, with the watch for mistakes or without. -/
def attempt (source : Tokens) (watch : Bool) : Except End (Option Tree × Memory) :=
  (whole (nesting source.tokens.size)).run.run { source, watch }

def ending (source : Tokens) : End → Refusal
  | .stopped message => .ill message
  | .mistake message seen =>
    if source.touched && source.tokens.size ≤ seen then .ill message
    else .ill (settle source seen message)

/-- What is said of tokens that no rule reads, of which `last` was the last one wanted and `seen`
had been looked at when the usual mistakes were looked for. -/
def unread (source : Tokens) (last seen : Nat) : Refusal :=
  match source.tokens[last - 1]? with
  | some ⟨.indent, _, _⟩ => .ill "unexpected indent"
  | _ => .ill (settle source seen "invalid syntax")

def parse (cs : List Char) : Except Refusal Tree :=
  if cs.contains '\x00' then .error (.worthless "source code string cannot contain null bytes")
  else
    let source := tokensOf cs
    match attempt source false with
    | .ok (some t, _) => .ok t
    | .error e => .error (ending source e)
    | .ok (none, first) =>
      match attempt source true with
      | .error e => .error (ending source e)
      | .ok (_, second) => .error (unread source first.seen (max first.seen second.seen))

/-- Why a text is no literal, if it is none. -/
def check (cs : List Char) : Except Refusal Unit := do
  let t ← parse cs
  discard t.value

end Playground.Literal
