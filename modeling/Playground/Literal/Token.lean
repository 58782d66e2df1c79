import Playground.Decimal.Integer

/-!
# Tokens of expressions

* `Lexeme` — a name, a number, a text, an operator, or an end.
* `Token` — a lexeme with its line and the number of brackets that are open behind it.
* `Stop` — what keeps tokens from going on.
* `Tokens` — the tokens of an expression.
-/

namespace Playground.Literal

/-- A kind of number. -/
inductive Quantity where
  | whole
  | broken
  | imaginary
  deriving DecidableEq, Repr, Inhabited

/-- A text as it is written between quotes. -/
structure Quotation where
  bytes : Bool := false
  formatted : Bool := false
  problem : Option String := none
  deriving DecidableEq, Repr, Inhabited

/-- A unit of an expression. -/
inductive Lexeme where
  | name (word : String)
  | number (quantity : Quantity) (problem : Option String)
  | text (quotation : Quotation)
  | mark (symbol : String)
  | lineEnd
  | indent
  | finish
  deriving DecidableEq, Repr, Inhabited

/-- A unit of an expression in its place. -/
structure Token where
  lexeme : Lexeme
  line : Nat
  depth : Nat
  deriving DecidableEq, Repr, Inhabited

/-- What keeps tokens from going on. -/
structure Stop where
  message : String
  /-- Does it show even if the tokens before it are not all wanted? -/
  plain : Bool := true
  opened : Option (Char × Nat) := none
  deriving DecidableEq, Repr, Inhabited

/-- The tokens of an expression; if nothing stops them, the last one is `Lexeme.finish`. -/
structure Tokens where
  tokens : Array Token := #[]
  stop : Option Stop := none
  /-- Did the last token have to look at the end of the text to know where it ends? -/
  touched : Bool := false
  deriving Repr, Inhabited

def keywords : List String :=
  ["False", "None", "True", "and", "as", "assert", "async", "await", "break", "class", "continue",
    "def", "del", "elif", "else", "except", "finally", "for", "from", "global", "if", "import",
    "in", "is", "lambda", "nonlocal", "not", "or", "pass", "raise", "return", "try", "while",
    "with", "yield"]

/-- The names that open statements of their own in some places. -/
def softKeywords : List String := ["match", "case", "_"]

/-- The statements of old that look like a name in front of an expression. -/
def formerStatements : List String := ["print", "exec"]

def neverClosed (bracket : Char) : String :=
  "'" ++ String.ofList [bracket] ++ "' was never closed"

end Playground.Literal
