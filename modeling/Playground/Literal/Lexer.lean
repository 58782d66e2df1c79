import Playground.Literal.Token

/-!
# Cutting an expression into tokens

Within brackets line ends do not count; outside of them they end the expression.

* `number?` — the number at the start of a text.
* `quotation?` — the quoted text at the start of a text.
* `tokensOf` — the tokens of a text.
-/

namespace Playground.Literal

open Playground.Decimal Playground.Text

/-! ### Names -/

def opensName (c : Char) : Bool := isNameStart c || 128 ≤ c.toNat

def continuesName (c : Char) : Bool := opensName c || c.isDigit

/-- May the character stand in a name, in front or elsewhere? -/
def belongsToName (front : Bool) (c : Char) : Bool :=
  isWordChar c && (c.toNat < 128 || !isDigitLike c || (!front && isDecimalDigit c))

/-- A code point as text, with four digits at least. -/
def codePoint (c : Char) : String := String.ofList ((hexNat 4 c.toNat).map Char.toUpper)

def strangeCharacter (c : Char) : String :=
  if isPrintable c then
    "invalid character '" ++ String.ofList [c] ++ "' (U+" ++ codePoint c ++ ")"
  else "invalid non-printable character U+" ++ codePoint c

def nameProblem? : List Char → Option String
  | [] => none
  | c :: rest =>
    if !belongsToName true c then some (strangeCharacter c)
    else (rest.find? fun c => !belongsToName false c).map strangeCharacter

/-! ### Numbers -/

/-- The words that may follow a number without a space. -/
def numberFollowers : List String := ["and", "else", "for", "if", "in", "is", "or", "not"]

def endNumber (kind : String) (cs : List Char) : Except String Unit :=
  match cs with
  | [] => .ok ()
  | c :: _ =>
    if c.toNat < 128 && continuesName c &&
        !(numberFollowers.any fun w => w.toList.isPrefixOf cs) then
      .error ("invalid " ++ kind ++ " literal")
    else .ok ()

/-- What is behind further digits of a number; an underscore stands between digits. -/
def skipDecimals : List Char → Except String (List Char)
  | '_' :: d :: rest => if d.isDigit then skipDecimals rest else .error "invalid decimal literal"
  | ['_'] => .error "invalid decimal literal"
  | c :: rest => if c.isDigit then skipDecimals rest else .ok (c :: rest)
  | [] => .ok []

def startsWithDigit : List Char → Bool
  | c :: _ => c.isDigit
  | [] => false

def numberEnd (quantity : Quantity) (cs : List Char) : Except String (Quantity × List Char) :=
  match cs with
  | c :: rest =>
    if c = 'j' || c = 'J' then do
      endNumber "imaginary" rest
      pure (.imaginary, rest)
    else do
      endNumber "decimal" cs
      pure (quantity, cs)
  | [] => .ok (quantity, [])

def exponent (quantity : Quantity) (cs : List Char) : Except String (Quantity × List Char) :=
  match cs with
  | e :: rest =>
    if e = 'e' || e = 'E' then
      let (signed, unsigned) := match rest with
        | s :: rest' => if s = '+' || s = '-' then (true, rest') else (false, rest)
        | [] => (false, rest)
      if startsWithDigit unsigned then do
        numberEnd .broken (← skipDecimals (unsigned.drop 1))
      else if signed then .error "invalid decimal literal"
      else do
        endNumber "decimal" cs
        pure (quantity, cs)
    else numberEnd quantity cs
  | [] => .ok (quantity, [])

/-- The digits behind a point, the exponent and the end of a number. -/
def fraction (cs : List Char) : Except String (Quantity × List Char) := do
  let rest ← if startsWithDigit cs then skipDecimals (cs.drop 1) else pure cs
  exponent .broken rest

/-- What is said of a number in a base that is not well written. -/
def badNumber (kind : String) : Except String (Quantity × List Char) :=
  .error ("invalid " ++ kind ++ " literal")

def badDigit (kind : String) (c : Char) : Except String (Quantity × List Char) :=
  .error ("invalid digit '" ++ String.ofList [c] ++ "' in " ++ kind ++ " literal")

/-- A number in a base that its first letters name; `fuel` bounds the groups of digits. -/
def basedNumber (kind : String) (isDigit : Char → Bool) :
    Nat → List Char → Except String (Quantity × List Char)
  | 0, _ => badNumber kind
  | fuel + 1, cs =>
    match if cs.head? = some '_' then cs.drop 1 else cs with
    | [] => badNumber kind
    | c :: digits =>
      if !isDigit c then (if c.isDigit then badDigit kind c else badNumber kind)
      else
        match digits.dropWhile isDigit with
        | '_' :: rest => basedNumber kind isDigit fuel ('_' :: rest)
        | c :: rest =>
          if c.isDigit then badDigit kind c
          else do
            endNumber kind (c :: rest)
            pure (.whole, c :: rest)
        | [] => .ok (.whole, [])

/-- What is said of a whole number with zeros in front. -/
def leadingZeros : Except String (Quantity × List Char) :=
  .error ("leading zeros in decimal integer literals are not permitted; " ++
    "use an 0o prefix for octal integers")

/-- What is behind further zeros of a number; an underscore stands between digits. -/
def skipZeros : List Char → Option (List Char)
  | '_' :: d :: rest =>
    if d = '0' then skipZeros rest else if d.isDigit then some (d :: rest) else none
  | ['_'] => none
  | c :: rest => if c = '0' then skipZeros rest else some (c :: rest)
  | [] => some []

/-- A number that starts with a zero but names no base. -/
def zeroNumber (cs : List Char) : Except String (Quantity × List Char) := do
  match skipZeros cs with
  | none => .error "invalid decimal literal"
  | some rest =>
    let more := startsWithDigit rest
    let rest ← if more then skipDecimals (rest.drop 1) else pure rest
    match rest with
    | '.' :: rest => fraction rest
    | c :: _ =>
      if c = 'e' || c = 'E' || c = 'j' || c = 'J' then exponent .whole rest
      else if more then leadingZeros
      else numberEnd .whole rest
    | [] => if more then leadingZeros else .ok (.whole, [])

/-- The number at the start of a text, which starts with a digit or with a point and a digit, and
what follows it. -/
def number? (cs : List Char) : Except String (Quantity × List Char) :=
  match cs with
  | '.' :: rest => fraction rest
  | '0' :: rest =>
    match rest with
    | c :: digits =>
      let groups := digits.length + 1
      if c = 'x' || c = 'X' then
        basedNumber "hexadecimal" (fun c => (hexValue? c).isSome) groups digits
      else if c = 'o' || c = 'O' then
        basedNumber "octal" (fun c => '0' ≤ c && c < '8') groups digits
      else if c = 'b' || c = 'B' then
        basedNumber "binary" (fun c => c = '0' || c = '1') groups digits
      else zeroNumber rest
    | [] => .ok (.whole, [])
  | _ :: rest => do
    match ← skipDecimals rest with
    | '.' :: rest => fraction rest
    | rest => exponent .whole rest
  | [] => .ok (.whole, [])

def numberProblem? (quantity : Quantity) (written : List Char) : Option String :=
  let digits := written.filter Char.isDigit
  if quantity = .whole && written.head? ≠ some '0' && maxDigits < digits.length then
    some (overlongInteger digits.length ++
      " - Consider hexadecimal for huge integer literals to avoid decimal conversion limits.")
  else none

/-! ### Quoted texts -/

/-- The letters in front of a quoted text. -/
structure Marks where
  bytes : Bool := false
  raw : Bool := false
  unicode : Bool := false
  formatted : Bool := false
  deriving DecidableEq, Repr, Inhabited

/-- The marks with a letter more, if it may follow them. -/
def Marks.take? (m : Marks) (c : Char) : Option Marks :=
  let c := c.toLower
  if c = 'b' && !(m.bytes || m.unicode || m.formatted) then some { m with bytes := true }
  else if c = 'u' && !(m.bytes || m.unicode || m.raw || m.formatted) then
    some { m with unicode := true }
  else if c = 'r' && !(m.raw || m.unicode) then some { m with raw := true }
  else if c = 'f' && !(m.formatted || m.bytes || m.unicode) then some { m with formatted := true }
  else none

/-- The marks in front of a quote, and the text from the quote on. -/
def marks? (m : Marks) : List Char → Option (Marks × List Char)
  | [] => none
  | c :: rest =>
    if c = '\'' || c = '"' then some (m, c :: rest)
    else
      match m.take? c with
      | some m => marks? m rest
      | none => none

/-- The characters up to the quotes that close a text, these included, and what follows; `size`
quotes close it, of which `seen` have been met. -/
def quotedBody (quote : Char) (size seen : Nat) : List Char → Option (List Char × List Char)
  | [] => none
  | '\\' :: c :: rest =>
    (quotedBody quote size 0 rest).map fun (body, rest) => ('\\' :: c :: body, rest)
  | c :: rest =>
    if c = quote then
      if seen + 1 = size then some ([c], rest)
      else (quotedBody quote size (seen + 1) rest).map fun (body, rest) => (c :: body, rest)
    else if c = '\n' && size = 1 then none
    else (quotedBody quote size 0 rest).map fun (body, rest) => (c :: body, rest)

/-- The line ends that are passed while the end of a quoted text is looked for in vain. -/
def linesSearched (size : Nat) : List Char → Nat
  | [] => 0
  | '\\' :: c :: rest => (if c = '\n' then 1 else 0) + linesSearched size rest
  | c :: rest =>
    if c = '\n' then (if size = 1 then 0 else 1 + linesSearched size rest)
    else linesSearched size rest

def escapeDigits? (c : Char) : Option (Nat × String) :=
  if c = 'x' then some (2, "truncated \\xXX escape")
  else if c = 'u' then some (4, "truncated \\uXXXX escape")
  else if c = 'U' then some (8, "truncated \\UXXXXXXXX escape")
  else none

def wrongEscape (start stop : Nat) (why : String) : String :=
  "(unicode error) 'unicodeescape' codec can't decode bytes in position " ++ naturalText start ++
    "-" ++ naturalText (stop - 1) ++ ": " ++ why

/-- What is wrong with the escapes of a text; `place` counts characters, ten for one outside
ASCII. -/
def escapeProblem? : Nat → Nat → List Char → Option String
  | 0, _, _ => none
  | _, _, [] => none
  | fuel + 1, place, '\\' :: c :: rest =>
    match escapeDigits? c with
    | some (count, why) =>
      let digits := (rest.take count).takeWhile fun c => (hexValue? c).isSome
      if digits.length < count then some (wrongEscape place (place + 2 + digits.length) why)
      else if 0x10FFFF < digits.foldl (fun n c => 16 * n + (hexValue? c).getD 0) 0 then
        some (wrongEscape place (place + 2 + count) "illegal Unicode character")
      else escapeProblem? fuel (place + 2 + count) (rest.drop count)
    | none =>
      if c = 'N' then
        let name := (rest.drop 1).takeWhile (· ≠ '}')
        if rest.head? ≠ some '{' then
          some (wrongEscape place (place + 2) "malformed \\N character escape")
        else if rest.length ≤ name.length + 1 || name.isEmpty then
          some (wrongEscape place (place + 3 + name.length) "malformed \\N character escape")
        else escapeProblem? fuel (place + 4 + name.length) (rest.drop (name.length + 2))
      else escapeProblem? fuel (place + (if c.toNat < 128 then 2 else 11)) rest
  | fuel + 1, place, c :: rest =>
    escapeProblem? fuel (place + (if c.toNat < 128 then 1 else 10)) rest

def byteEscapeProblem? : Nat → List Char → Option String
  | _, [] => none
  | place, '\\' :: 'x' :: a :: b :: rest =>
    if (hexValue? a).isSome && (hexValue? b).isSome then byteEscapeProblem? (place + 4) rest
    else some ("(value error) invalid \\x escape at position " ++ naturalText place)
  | place, '\\' :: 'x' :: _ =>
    some ("(value error) invalid \\x escape at position " ++ naturalText place)
  | place, '\\' :: _ :: rest => byteEscapeProblem? (place + 2) rest
  | place, _ :: rest => byteEscapeProblem? (place + 1) rest

/-- A quoted text by its marks and its body. -/
def Marks.quotation (m : Marks) (body : List Char) : Quotation where
  bytes := m.bytes
  formatted := m.formatted
  problem :=
    if m.bytes && body.any fun c => 128 ≤ c.toNat then
      some "bytes can only contain ASCII literal characters"
    else if m.raw || (m.formatted && body.any fun c => c = '\x7b' || c = '\x7d') then none
    else if m.bytes then byteEscapeProblem? 0 body
    else escapeProblem? (body.length + 1) 0 body

/-! ### Operators -/

/-- The operators of several characters, longest first. -/
def longMarks : List String :=
  ["...", "**=", "//=", "<<=", ">>=", "!=", "%=", "&=", "**", "*=", "+=", "-=", "->", "//", "/=",
    ":=", "<<", "<=", "<>", "==", ">=", ">>", "@=", "^=", "|="]

def opener? (c : Char) : Option Char :=
  if c = ')' then some '(' else if c = ']' then some '[' else if c = '}' then some '{' else none

def maxDepth : Nat := 200

/-! ### The text -/

/-- A place in the text. -/
structure Scan where
  rest : List Char
  line : Nat := 1
  opened : List (Char × Nat) := []
  fresh : Bool := true
  bare : Bool := false
  found : Array Token := #[]
  /-- Did the last token have to look at the end of the text? -/
  touched : Bool := false
  deriving Repr, Inhabited

namespace Scan

def give (s : Scan) (lexeme : Lexeme) (rest : List Char) : Scan :=
  { s with rest, found := s.found.push ⟨lexeme, s.line, s.opened.length⟩, touched := rest.isEmpty }

/-- Nothing more can be read, for a reason that shows in any case. -/
def halt (s : Scan) (message : String) : Except Tokens Scan :=
  .error ⟨s.found, some ⟨message, true, s.opened.head?⟩, s.touched⟩

/-- Nothing more can be read, for a reason that shows only to those who want more. -/
def lack (s : Scan) (message : String) : Except Tokens Scan :=
  .error ⟨s.found, some ⟨message, false, s.opened.head?⟩, s.touched⟩

def finish (s : Scan) : Except Tokens Scan :=
  match s.opened with
  | (bracket, _) :: _ => s.lack (neverClosed bracket)
  | [] => .error ⟨(s.give .finish []).found, none, true⟩

def close (s : Scan) (c opener : Char) (rest : List Char) : Except Tokens Scan :=
  match s.opened with
  | [] => s.halt ("unmatched '" ++ String.ofList [c] ++ "'")
  | (bracket, line) :: opened =>
    if bracket = opener then .ok ({ s with opened }.give (.mark (String.ofList [c])) rest)
    else
      { s with opened }.halt ("closing parenthesis '" ++ String.ofList [c] ++
        "' does not match opening parenthesis '" ++ String.ofList [bracket] ++ "'" ++
        (if line = s.line then "" else " on line " ++ naturalText line))

def operator (s : Scan) (c : Char) (rest : List Char) : Except Tokens Scan :=
  match longMarks.find? fun m => m.toList.isPrefixOf (c :: rest) with
  | some m =>
    let next := s.give (.mark m) ((c :: rest).drop m.length)
    .ok { next with touched := next.touched && m.length < 3 }
  | none =>
    match opener? c with
    | some opener => s.close c opener rest
    | none =>
      if c = '(' || c = '[' || c = '{' then
        if maxDepth ≤ s.opened.length then s.halt "too many nested parentheses"
        else
          .ok ({ s with opened := (c, s.line) :: s.opened }.give (.mark (String.ofList [c])) rest)
      else if isPrintable c then .ok (s.give (.mark (String.ofList [c])) rest)
      else s.halt (strangeCharacter c)

def quoted (s : Scan) (m : Marks) (cs : List Char) : Except Tokens Scan :=
  match cs with
  | [] => .ok { s with rest := [] }
  | quote :: rest =>
    let triple := rest.take 2 = [quote, quote]
    let size := if triple then 3 else 1
    let text := if triple then rest.drop 2 else rest
    match quotedBody quote size 0 text with
    | some (body, rest) =>
      let token := s.give (.text (m.quotation (body.take (body.length - size)))) rest
      .ok { token with
        line := s.line + body.count '\n', touched := rest.isEmpty && body.length = 1 }
    | none =>
      s.halt ((if triple then "unterminated triple-quoted string literal"
        else "unterminated string literal") ++ " (detected at line " ++
        naturalText (s.line + linesSearched size text) ++ ")")

/-- Reads a name, which may turn out to be the marks of a quoted text. -/
def word (s : Scan) : Except Tokens Scan :=
  match marks? {} s.rest with
  | some (m, rest) => s.quoted m rest
  | none =>
    let word := s.rest.takeWhile continuesName
    match nameProblem? word with
    | some problem => s.halt problem
    | none => .ok (s.give (.name (String.ofList word)) (s.rest.drop word.length))

def number (s : Scan) : Except Tokens Scan :=
  match number? s.rest with
  | .ok (quantity, rest) =>
    let written := s.rest.take (s.rest.length - rest.length)
    .ok (s.give (.number quantity (numberProblem? quantity written)) rest)
  | .error problem => s.halt problem

/-- The column at which a line goes on and the text from there; the line may be carried on over
further lines before anything stands in it. -/
def indentation (column line : Nat) : List Char → Nat × Nat × List Char
  | '\\' :: '\n' :: rest =>
    let (later, line, rest) := indentation column (line + 1) rest
    (if column = 0 then later else column, line, rest)
  | c :: rest =>
    if c = ' ' || c = '\t' then indentation (column + 1) line rest
    else if c = '\x0c' then indentation 0 line rest
    else (column, line, c :: rest)
  | [] => (column, line, [])

def startLine (s : Scan) : Scan :=
  let (column, line, rest) := indentation 0 s.line s.rest
  let bare := rest.head? = some '\n' || rest.head? = some '#'
  let next := { s with rest, line, fresh := false, bare }
  if s.opened.isEmpty && !bare && 0 < column then next.give .indent rest else next

/-- Reads the end of a line: a token, unless brackets are open or the line is without tokens. -/
def endLine (s : Scan) (rest : List Char) : Scan :=
  let ended := if s.opened.isEmpty && !s.bare then s.give .lineEnd rest else { s with rest }
  { ended with line := s.line + 1, fresh := true }

/-- Reads one token, or what stands between tokens. -/
def step (s : Scan) : Except Tokens Scan :=
  match s.rest with
  | [] => s.finish
  | c :: rest =>
    if s.fresh then .ok s.startLine
    else if c = ' ' || c = '\t' || c = '\x0c' then .ok { s with rest }
    else if c = '#' then .ok { s with rest := rest.dropWhile (· ≠ '\n') }
    else if c = '\n' then .ok (s.endLine rest)
    else if c = '\\' then
      match rest with
      | '\n' :: rest =>
        if rest.isEmpty then
          s.lack (match s.opened with
            | (bracket, _) :: _ => neverClosed bracket
            | [] => "unexpected EOF while parsing")
        else .ok { s with rest, line := s.line + 1 }
      | _ => s.lack "unexpected character after line continuation character"
    else if opensName c then s.word
    else if c.isDigit || (c = '.' && startsWithDigit rest) then s.number
    else if c = '\'' || c = '"' then s.quoted {} s.rest
    else s.operator c rest

/-- Reads tokens; `fuel` bounds the steps. -/
def run : Nat → Scan → Tokens
  | 0, s => ⟨s.found, none, false⟩
  | fuel + 1, s =>
    match s.step with
    | .ok s => run fuel s
    | .error tokens => tokens

end Scan

def withLineFeeds : List Char → List Char
  | [] => []
  | '\r' :: '\n' :: rest => '\n' :: withLineFeeds rest
  | '\r' :: rest => '\n' :: withLineFeeds rest
  | c :: rest => c :: withLineFeeds rest

def tokensOf (cs : List Char) : Tokens :=
  let cs := withLineFeeds cs
  Scan.run (2 * cs.length + 3) { rest := cs }

end Playground.Literal
