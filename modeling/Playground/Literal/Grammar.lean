import Playground.Literal.Reading

/-!
# The grammar of expressions

* `Part` — the rules that other rules refer to.
* `Grammar.part` — what each rule is made of.
* `Grammar.rule` — the rules, nested to a depth.
* `whole` — a whole expression.
-/

namespace Playground.Literal

/-- The rules that other rules refer to. -/
inductive Part where
  | expression
  | named
  | starNamed
  | starExpression
  | starExpressions
  | disjunction
  | conjunction
  | inversion
  | bitOr
  | factor
  | awaited
  | primary
  | arguments
  | starTarget
  | starAtomTarget
  deriving DecidableEq, Repr

abbrev Parts := Part → Reading Tree

namespace Grammar

/-! ### Expressions -/

def isFormerStatement : Tree → Bool
  | .name word => formerStatements.contains word
  | _ => false

def lambdaParameter (p : Parts) : Reading Unit :=
  firstOf [
    (do discard (mark "**"); discard anyName),
    (do discard (mark "*"); discard (maybe anyName)),
    discard (mark "/"),
    (do discard anyName; discard (maybe (mark "=" *> p .expression)))]

def lambda (p : Parts) : Reading Tree := do
  discard (keyword "lambda")
  discard (maybe (separated (lambdaParameter p) *> maybeComma))
  discard (mark ":")
  discard (p .expression)
  pure (.other "lambda")

def choice (p : Parts) : Reading Tree := do
  discard (p .disjunction)
  discard (keyword "if")
  discard (p .disjunction)
  discard (keyword "else")
  discard (p .expression)
  pure (.other "conditional expression")

/-- Two expressions without a comma between them, or half a choice. -/
def invalidExpression (p : Parts) : Reading Tree :=
  firstOf [
    (do
      notAhead (firstOf [(do discard anyName; discard quotation), softKeyword])
      let first ← p .disjunction
      discard (unwatched (firstOf [choice p, p .disjunction, lambda p]))
      if isFormerStatement first || (← lastToken).depth = 0 then absent
      else mistake "invalid syntax. Perhaps you forgot a comma?"),
    (do
      discard (p .disjunction)
      discard (keyword "if")
      discard (p .disjunction)
      notAhead (firstOf [keyword "else", mark ":"])
      mistake "expected 'else' after 'if' expression")]

def invalidFormerStatement (p : Parts) : Reading Tree := do
  let word ← anyName
  notAhead (mark "(")
  discard (p .starExpressions)
  if formerStatements.contains word then
    mistake ("Missing parentheses in call to '" ++ word ++ "'. Did you mean " ++ word ++ "(...)?")
  else absent

def expression (p : Parts) : Reading Tree :=
  remembered .expression (firstOf [
    watched (invalidExpression p),
    watched (invalidFormerStatement p),
    choice p,
    p .disjunction,
    lambda p])

def joined (word : String) (operand : Reading Tree) : Reading Tree := do
  let first ← operand
  let others ← many (keyword word *> operand)
  pure (if others.isEmpty then first else .other "expression")

def inversion (p : Parts) (comparison : Reading Tree) : Reading Tree :=
  remembered .inversion (firstOf [
    (do
      discard (keyword "not")
      discard (p .inversion)
      pure (.other "expression")),
    comparison])

def comparisonMark : Reading Bool :=
  firstOf ((["==", "!=", "<=", "<", ">=", ">"].map fun m => giving false (mark m)) ++ [
    giving false (keyword "not" *> keyword "in"),
    giving true (keyword "in"),
    giving false (keyword "is" *> keyword "not"),
    giving false (keyword "is")])

def comparison (p : Parts) : Reading Tree := do
  let first ← p .bitOr
  let others ← many (comparisonMark <* p .bitOr)
  pure (match others with
    | [] => first
    | within :: _ => .comparison within first)

/-! ### Arithmetic -/

/-- Operands with operators of one strength between them. -/
def chain (rule : Rule) (build : Tree → Tree → Tree) (symbols : List String)
    (operand : Reading Tree) : Reading Tree :=
  remembered rule (do
    let first ← operand
    let others ← many (firstOf (symbols.map mark) *> operand)
    pure (others.foldl build first))

def operation (_ _ : Tree) : Tree := .other "expression"

/-- Operations on whole numbers, sums and products. -/
def bitOr (p : Parts) : Reading Tree :=
  chain .bitOr operation ["|"] <|
    chain .bitXor operation ["^"] <|
      chain .bitAnd operation ["&"] <|
        chain .shift operation ["<<", ">>"] <|
          chain .sum Tree.sum ["+", "-"] <|
            chain .term operation ["*", "/", "//", "%", "@"] (p .factor)

def factor (p : Parts) : Reading Tree :=
  remembered .factor (firstOf [
    Tree.signed <$> (mark "+" *> p .factor),
    Tree.signed <$> (mark "-" *> p .factor),
    operation .absent <$> (mark "~" *> p .factor),
    (do
      let base ← p .awaited
      match ← maybe (mark "**" *> p .factor) with
      | some _ => pure (.other "expression")
      | none => pure base)])

def awaited (p : Parts) : Reading Tree :=
  remembered .awaited (firstOf [
    (do
      discard (keyword "await")
      discard (p .primary)
      pure (.other "await expression")),
    p .primary])

/-! ### Names and assignments in expressions -/

def assignment (p : Parts) : Reading Tree := do
  discard anyName
  discard (mark ":=")
  discard (p .expression)
  pure (.other "named expression")

def unassigned (p : Parts) : Reading Tree := do
  let t ← p .expression
  notAhead (mark ":=")
  pure t

/-! ### Comprehensions -/

def targetGoesOn : Reading Token := firstOf [mark "(", mark "[", mark "."]

def targetTuple (p : Parts) : Reading Unit := do
  discard (mark "(")
  discard (maybe (firstOf [
    (do
      discard (p .starTarget)
      discard (some1 (mark "," *> p .starTarget))
      maybeComma),
    (do
      discard (p .starTarget)
      discard (mark ","))]))
  discard (mark ")")

def targets (p : Parts) : Reading Unit :=
  firstOf [
    (do
      discard (p .starTarget)
      notAhead (mark ",")),
    (do
      discard (separated (p .starTarget))
      maybeComma)]

def starTarget (p : Parts) : Reading Tree :=
  remembered .starTarget (firstOf [
    (do
      discard (mark "*")
      notAhead (mark "*")
      Tree.starred <$> p .starTarget),
    p .starAtomTarget])

/-- What a comprehension runs over, with the conditions; if the beginning is there, the rest has to
be. -/
def comprehensionTail (p : Parts) : Reading Bool := do
  targets p
  discard (keyword "in")
  let rest ← maybe (do
    discard (p .disjunction)
    discard (many (keyword "if" *> p .disjunction)))
  pure rest.isSome

def comprehensionPart (p : Parts) : Reading Unit := do
  let complete ← firstOf [
    keyword "async" *> keyword "for" *> comprehensionTail p,
    keyword "for" *> comprehensionTail p,
    watched (do
      discard (maybe (keyword "async"))
      discard (keyword "for")
      match (← p .starExpressions).unassignable? with
      | some t => mistake ("cannot assign to " ++ t.described)
      | none => absent)]
  if !complete then absent

def comprehension (p : Parts) : Reading Unit := discard (some1 (comprehensionPart p))

/-- An expression that may not stand in a comprehension. -/
def starred (p : Parts) : Reading Tree := Tree.starred <$> (mark "*" *> p .expression)

/-- Several expressions, some of which may be unpacked, and a comma at the end. -/
def starNamedList (p : Parts) : Reading (List Tree) := separated (p .starNamed) <* maybeComma

def invalidComprehension (p : Parts) : Reading Tree :=
  firstOf [
    (do
      discard (firstOf [mark "[", mark "(", mark "\x7b"])
      discard (starred p)
      comprehension p
      mistake "iterable unpacking cannot be used in comprehension"),
    (do
      discard (firstOf [mark "[", mark "\x7b"])
      discard (p .starNamed)
      discard (mark ",")
      discard (starNamedList p)
      comprehension p
      mistake "did you forget parentheses around the comprehension target?"),
    (do
      discard (firstOf [mark "[", mark "\x7b"])
      discard (p .starNamed)
      discard (mark ",")
      comprehension p
      mistake "did you forget parentheses around the comprehension target?")]

/-! ### Brackets -/

def strings : Reading Tree :=
  remembered .strings (do
    let all ← some1 quotation
    let first := all.headD {}
    for q in all do
      match q.problem with
      | some problem => mistake problem
      | none =>
        if q.bytes != first.bytes then mistake "cannot mix bytes and nonbytes literals"
    pure (if all.any (·.formatted) then .other "f-string expression" else .constant .text))

def tuple (p : Parts) : Reading Tree := do
  discard (mark "(")
  let items ← maybe (do
    let first ← p .starNamed
    discard (mark ",")
    let others ← maybe (starNamedList p)
    pure (first :: others.getD []))
  discard (mark ")")
  pure (.tuple (items.getD []))

def yielded (p : Parts) : Reading Tree := do
  discard (keyword "yield")
  firstOf [
    (do
      discard (keyword "from")
      discard (p .expression)),
    discard (maybe (p .starExpressions))]
  pure (.other "yield expression")

def group (p : Parts) : Reading Tree :=
  firstOf [
    mark "(" *> firstOf [yielded p, p .named] <* mark ")",
    watched (firstOf [
      (do
        discard (mark "(" *> starred p <* mark ")")
        mistake "cannot use starred expression here"),
      (do
        discard (mark "(" *> mark "**" *> p .expression <* mark ")")
        mistake "cannot use double starred expression here")])]

def generator (p : Parts) : Reading Tree :=
  firstOf [
    (do
      discard (mark "(")
      discard (firstOf [assignment p, unassigned p])
      comprehension p
      discard (mark ")")
      pure (.other "generator expression")),
    watched (invalidComprehension p)]

def keyValue (p : Parts) : Reading Tree := do
  let key ← p .expression
  discard (mark ":")
  Tree.pair key <$> p .expression

def dictPart (p : Parts) : Reading Tree :=
  firstOf [Tree.pair .absent <$> (mark "**" *> p .bitOr), keyValue p]

def wrongDictValue (p : Parts) : Reading Tree :=
  firstOf [
    (do
      discard (p .expression *> mark ":" *> mark "*" *> p .bitOr)
      mistake "cannot use a starred expression in a dictionary value"),
    (do
      discard (p .expression *> mark ":")
      onAhead (firstOf [mark "\x7d", mark ","])
      mistake "expression expected after dictionary key and ':'")]

def wrongDictPart (p : Parts) : Reading Tree :=
  firstOf [
    (do
      discard (separated (dictPart p))
      discard (mark ",")
      firstOf [
        (do
          discard (p .expression)
          notAhead (mark ":")
          mistake "':' expected after dictionary key"),
        wrongDictValue p]),
    wrongDictValue p]

def dict (p : Parts) : Reading Tree :=
  firstOf [
    (do
      discard (mark "\x7b")
      let items ← maybe (separated (dictPart p) <* maybeComma)
      discard (mark "\x7d")
      pure (.dict (items.getD []))),
    mark "\x7b" *> wrongDictPart p <* mark "\x7d"]

def setDisplay (p : Parts) : Reading Tree := do
  discard (mark "\x7b")
  let items ← starNamedList p
  discard (mark "\x7d")
  pure (.set items)

def braceComprehension (p : Parts) : Reading Tree :=
  firstOf [
    (do
      discard (mark "\x7b")
      discard (keyValue p)
      comprehension p
      discard (mark "\x7d")
      pure (.other "dict comprehension")),
    watched (do
      discard (mark "\x7b" *> mark "**" *> p .bitOr)
      comprehension p
      discard (mark "\x7d")
      mistake "dict unpacking cannot be used in dict comprehension"),
    (do
      discard (mark "\x7b")
      discard (p .named)
      comprehension p
      discard (mark "\x7d")
      pure (.other "set comprehension")),
    watched (invalidComprehension p)]

/-- A list is never read: the texts at hand hold no square bracket. -/
def constantWord : Reading Tree := do
  match (← token fun t => t.lexeme = .name "True" || t.lexeme = .name "False" ||
    t.lexeme = .name "None").lexeme with
  | .name word => pure (.constant (.word word))
  | _ => absent

def quantity : Reading Tree := do
  match (← peek).lexeme with
  | .number q problem =>
    discard (token fun _ => true)
    match problem with
    | some problem => mistake problem
    | none => pure (.constant (.number q))
  | _ => absent

/-- A part of an expression that holds together by itself. -/
def atom (p : Parts) : Reading Tree :=
  firstOf [
    Tree.name <$> anyName,
    constantWord,
    strings,
    quantity,
    (do
      onAhead (mark "(")
      firstOf [tuple p, group p, generator p]),
    (do
      onAhead (mark "\x7b")
      firstOf [dict p, setDisplay p, braceComprehension p]),
    giving (.constant .ellipsis) (mark "...")]

/-! ### Calls -/

/-- What is called, if it is a name that is given nothing. -/
def bareCall (callee : Tree) (given : Option Tree) : Tree :=
  match callee, given with
  | .name word, none => .call (some word)
  | _, _ => .call none

/-- What may follow an operand: a member, or the arguments of a call. -/
def primaryTail (p : Parts) (t : Tree) : Reading Tree :=
  firstOf [
    giving .member (mark "." *> anyName),
    giving (.call none) (generator p),
    (do
      discard (mark "(")
      let given ← maybe (p .arguments)
      discard (mark ")")
      pure (bareCall t given))]

/-- An operand with all that follows it; `fuel` bounds the parts. -/
def primaryTails (p : Parts) : Nat → Tree → Reading Tree
  | 0, t => pure t
  | fuel + 1, t => do
    match ← maybe (primaryTail p t) with
    | some t => primaryTails p fuel t
    | none => pure t

def primary (p : Parts) : Reading Tree :=
  remembered .primary (do
    primaryTails p (← get).source.tokens.size (← atom p))

def invalidNamedArgument (p : Parts) : Reading Tree :=
  firstOf [
    (do
      let t ← constantWord
      discard (mark "=")
      mistake ("cannot assign to " ++ t.described)),
    (do
      discard (anyName *> mark "=" *> p .expression)
      comprehension p
      mistake "invalid syntax. Maybe you meant '==' or ':=' instead of '='?"),
    (do
      notAhead (anyName *> mark "=")
      discard (p .expression *> mark "=")
      mistake "expression cannot contain assignment, perhaps you meant \"==\"?")]

def namedArgument (p : Parts) : Reading Tree :=
  giving (.arguments 0 false) (anyName *> mark "=" *> p .expression)

def namedOrStarred (p : Parts) : Reading Tree :=
  firstOf [
    watched (invalidNamedArgument p),
    namedArgument p,
    giving (.arguments 1 false) (starred p)]

def namedOrUnpacked (p : Parts) : Reading Tree :=
  firstOf [
    watched (invalidNamedArgument p),
    namedArgument p,
    giving (.arguments 0 true) (mark "**" *> p .expression)]

def namedArguments (p : Parts) : Reading (List Tree) :=
  firstOf [
    (do
      let first ← separated (namedOrStarred p)
      discard (mark ",")
      (first ++ ·) <$> separated (namedOrUnpacked p)),
    separated (namedOrStarred p),
    separated (namedOrUnpacked p)]

def together (count : Nat) (named : List Tree) : Tree :=
  named.foldl (fun all t => match all, t with
    | .arguments n u, .arguments n' u' => .arguments (n + n') (u || u')
    | all, _ => all) (.arguments count false)

/-- The arguments of a call without a comma at the end. -/
def argumentList (p : Parts) : Reading Tree :=
  firstOf [
    (do
      let first ← separated (firstOf [
        starred p,
        (do
          let t ← firstOf [assignment p, unassigned p]
          notAhead (mark "=")
          pure t)])
      let named ← maybe (mark "," *> namedArguments p)
      pure (together first.length (named.getD []))),
    together 0 <$> namedArguments p]

def invalidArguments (p : Parts) : Reading Tree :=
  firstOf [
    (do
      discard (argumentList p *> mark "," *> mark "*")
      mistake "iterable argument unpacking follows keyword argument unpacking"),
    (do
      discard (p .expression)
      comprehension p
      discard (mark ",")
      discard (maybe (firstOf [
        discard (argumentList p),
        (do
          discard (p .expression)
          comprehension p)]))
      mistake "Generator expression must be parenthesized"),
    (do
      discard (anyName *> mark "=" *> p .expression)
      comprehension p
      mistake "invalid syntax. Maybe you meant '==' or ':=' instead of '='?"),
    (do
      let given ← argumentList p
      comprehension p
      match given with
      | .arguments (_ + 2) _ => mistake "Generator expression must be parenthesized"
      | _ => absent),
    (do
      discard (argumentList p *> mark "," *> p .expression)
      comprehension p
      mistake "Generator expression must be parenthesized"),
    (do
      let given ← argumentList p
      discard (mark ",")
      discard (argumentList p)
      match given with
      | .arguments _ true =>
        mistake "positional argument follows keyword argument unpacking"
      | _ => mistake "positional argument follows keyword argument")]

def arguments (p : Parts) : Reading Tree :=
  remembered .arguments (firstOf [
    (do
      let given ← argumentList p
      maybeComma
      onAhead (mark ")")
      pure given),
    watched (invalidArguments p)])

/-! ### Targets -/

/-- An operand that a target goes on from; `fuel` bounds the parts. -/
def targetTails (p : Parts) : Nat → Tree → Reading Tree
  | 0, t => pure t
  | fuel + 1, t => do
    match ← maybe (primaryTail p t <* onAhead targetGoesOn) with
    | some t => targetTails p fuel t
    | none => pure t

def targetPrimary (p : Parts) : Reading Tree :=
  remembered .targetPrimary (do
    let first ← atom p
    onAhead targetGoesOn
    targetTails p (← get).source.tokens.size first)

def starAtomTarget (p : Parts) : Reading Tree :=
  remembered .starAtomTarget (firstOf [
    (do
      discard (targetPrimary p *> mark "." *> anyName)
      notAhead targetGoesOn
      pure .member),
    Tree.name <$> anyName,
    mark "(" *> p .starAtomTarget <* mark ")",
    giving (.tuple []) (targetTuple p)])

/-! ### Named expressions -/

def invalidNamed (p : Parts) : Reading Tree :=
  remembered .invalidNamed (firstOf [
    (do
      let t ← p .expression
      discard (mark ":=" *> p .expression)
      mistake ("cannot use assignment expressions with " ++ t.described)),
    (do
      discard (anyName *> mark "=" *> p .bitOr)
      notAhead (firstOf [mark "=", mark ":="])
      mistake "invalid syntax. Maybe you meant '==' or ':=' instead of '='?"),
    (do
      notAhead (firstOf [tuple p, generator p, constantWord])
      let t ← p .bitOr
      discard (mark "=" *> p .bitOr)
      notAhead (firstOf [mark "=", mark ":="])
      mistake ("cannot assign to " ++ t.described ++
        " here. Maybe you meant '==' instead of '='?"))])

/-- An expression that may give a name to its value. -/
def named (p : Parts) : Reading Tree :=
  firstOf [assignment p, watched (invalidNamed p), unassigned p]

def starNamed (p : Parts) : Reading Tree :=
  firstOf [Tree.starred <$> (mark "*" *> p .bitOr), p .named]

/-- An expression that may be unpacked but has no name. -/
def starExpression (p : Parts) : Reading Tree :=
  remembered .starExpression (firstOf [Tree.starred <$> (mark "*" *> p .bitOr), p .expression])

def tupleOf (item : Reading Tree) : Reading Tree := do
  let first ← item
  let others ← many (mark "," *> item)
  let comma ← maybe (mark ",")
  pure (if others.isEmpty && comma.isNone then first else .tuple (first :: others))

def part (p : Parts) : Part → Reading Tree
  | .expression => expression p
  | .named => named p
  | .starNamed => starNamed p
  | .starExpression => starExpression p
  | .starExpressions => tupleOf (p .starExpression)
  | .disjunction => remembered .disjunction (joined "or" (p .conjunction))
  | .conjunction => remembered .conjunction (joined "and" (p .inversion))
  | .inversion => inversion p (comparison p)
  | .bitOr => bitOr p
  | .factor => factor p
  | .awaited => awaited p
  | .primary => primary p
  | .arguments => arguments p
  | .starTarget => starTarget p
  | .starAtomTarget => starAtomTarget p

def rule : Nat → Parts
  | 0, _ => absent
  | depth + 1, which => part (rule depth) which

end Grammar

def whole (depth : Nat) : Reading Tree := do
  let t ← Grammar.tupleOf (Grammar.rule depth .expression)
  discard (many (token fun t => t.lexeme = .lineEnd))
  discard (token fun t => t.lexeme = .finish)
  pure t

end Playground.Literal
