import Playground.Compile.Choice
import Playground.Decimal.Integer
import Playground.Http.Problem
import Playground.Json
import Playground.Text.Encoding

/-!
# Requests

A request is matched to an endpoint by its path and its method, and its parts are checked before
anything is done.

* `Http.Request` — a request.
* `Http.Endpoint` — the places that can be asked.
* `Http.Ask` — what a request asks for.
* `Http.Check` — what checks requests; `Http.Request.ask` is one such check.
-/

namespace Playground.Http

open Playground.Decimal Playground.Text

/-- A request; its path is free of escapes. -/
structure Request where
  method : String
  path : String
  query : String := ""
  body : Option String := none
  deriving DecidableEq, Repr, Inhabited

/-! ### Endpoints -/

/-- The places that can be asked. -/
inductive Endpoint where
  | state
  | source
  | compile
  | mode
  | option (key : String)
  | compiler
  | notification (key : String)
  | output
  | artifact
  deriving DecidableEq, Repr, Inhabited

namespace Endpoint

def method : Endpoint → String
  | state | output | artifact => "GET"
  | source | compile => "POST"
  | mode | option _ | compiler => "PUT"
  | notification _ => "DELETE"

def fixed : List (String × Endpoint) :=
  [("/api/state", state), ("/api/source", source), ("/api/compile", compile),
    ("/api/compile-mode", mode), ("/api/compiler", compiler), ("/api/output", output),
    ("/api/artifact", artifact)]

/-- The last part of a path that starts in the given way. -/
def lastPart? (start : String) (path : String) : Option String :=
  match dropStart? start.toList path.toList with
  | some rest => if rest.isEmpty || rest.contains '/' then none else some (String.ofList rest)
  | none => none

/-- The place of a path; a line feed that closes a fixed path is overlooked. -/
def ofPath? (path : String) : Option Endpoint :=
  match fixed.find? (fun e => e.1 = path || e.1 ++ "\n" = path) with
  | some e => some e.2
  | none =>
    match lastPart? "/api/settings/" path with
    | some key => some (option key)
    | none => (lastPart? "/api/notifications/" path).map notification

end Endpoint

/-! ### Parts of requests -/

def isSpace (c : Char) : Bool := isBlank c && !(28 ≤ c.toNat && c.toNat ≤ 31)

/-- Drops the white space around a text. -/
def trim (cs : List Char) : List Char :=
  ((cs.dropWhile isSpace).reverse.dropWhile isSpace).reverse

def isDigit (c : Char) : Bool := '0' ≤ c && c ≤ '9'

/-- The longest number of more than 63 bits, in characters. -/
def longestInteger : Nat := 4300

/-- A digit other than zero, or a minus sign. -/
def opensInteger (c : Char) : Bool := c = '-' || ('1' ≤ c && c ≤ '9')

/-- A number without the zeros and underscores at its start, behind the character `last`; one
character is left in front of a point and at the end. -/
def withoutZeros (last : Char) : List Char → Option (List Char)
  | [] => some [last]
  | c :: rest =>
    if c = '0' || c = '_' then withoutZeros c rest
    else if opensInteger c then some (c :: rest)
    else if c = '.' then some (last :: c :: rest)
    else none

/-- A number without the zeros at its start; behind them a minus sign may still stand. -/
def withoutLeadingZeros : List Char → Option (List Char)
  | '0' :: rest => withoutZeros '0' rest
  | c :: rest => if opensInteger c then some (c :: rest) else none
  | [] => none

/-- A number without a point that only zeros follow. -/
def withoutZeroFraction (cs : List Char) : List Char :=
  match cs.dropWhile (· ≠ '.') with
  | _ :: d :: rest => if (d :: rest).all (· = '0') then cs.takeWhile (· ≠ '.') else cs
  | _ => cs

/-- A number without its underscores, none of which may stand at an end or beside another one. -/
def withoutUnderscores (cs : List Char) : Option (List Char) :=
  let groups := splitOn '_' cs
  if groups.any List.isEmpty then none else some groups.flatten

/-- The digits of an integer in a path, with its minus sign. -/
def bareInteger (text : String) : Option (List Char) := do
  let cs ← match trim text.toList with
    | '+' :: '-' :: _ => none
    | '+' :: rest => some rest
    | cs => some cs
  withoutUnderscores (withoutZeroFraction (← withoutLeadingZeros cs))

/-- An integer in a path. One of more than 63 bits is of limited length, and behind its sign it may
not start with a zero. -/
def readInteger (text : String) : Except Problem Int :=
  match bareInteger text with
  | none => .error .notAnInteger
  | some cs =>
    let (negative, body) := splitSign cs
    let digits := body.takeWhile isDigit
    let i := withSign negative (ofDigits digits)
    if digits = body && !body.isEmpty && -(pow2 63) ≤ i && i < pow2 63 then .ok i
    else if digits.head? = some '0' || digits.isEmpty then .error .notAnInteger
    else if longestInteger < (if negative then 1 else 0) + digits.length then .error .longInteger
    else if digits = body then .ok i
    else .error .notAnInteger

def trueWords : List String := ["1", "t", "y", "on", "yes", "true"]

def falseWords : List String := ["0", "f", "n", "no", "off", "false"]

/-- Is the number whole and no longer than 63 bits? -/
def isWhole (x : Binary64) : Bool :=
  let (n, d) := x.ratio
  x.isFinite && n % d = 0 && n.natAbs < pow2 63 * d

/-- Truth values: themselves, zero and one, and words in any letter case. -/
def readBool : Value → Except Problem Bool
  | .bool b => .ok b
  | .int i =>
    if i = 0 then .ok false
    else if i = 1 then .ok true
    else if -(pow2 63) ≤ i && i < pow2 63 then .error .unclearBool
    else .error .notBool
  | .float x =>
    if x.eqInt 0 then .ok false
    else if x.eqInt 1 then .ok true
    else if isWhole x then .error .unclearBool
    else .error .notBool
  | .str s =>
    let word := String.ofList (s.toList.map Char.toLower)
    if trueWords.contains word then .ok true
    else if falseWords.contains word then .ok false
    else .error .unclearBool
  | _ => .error .notBool

def readText (field : String) : Value → Except Problem String
  | .str s => .ok s
  | _ => .error (.notText field)

def readName (field : String) (v : Value) : Except Problem String :=
  match readText field v with
  | .ok s => if s = "" then .error (.emptyText field) else .ok s
  | .error p => .error p

def readMode : Value → Except Problem CompileMode
  | .str s =>
    match CompileMode.ofName? s with
    | some m => .ok m
    | none => .error .unknownMode
  | _ => .error .unknownMode

def readOpenMode : Value → Except Problem (Option CompileMode)
  | .null => .ok none
  | v => (readMode v).map some

/-- The text of a part of a query: a plus stands for a space, and a percent sign with two digits for
a byte. Bytes read as characters of their number, since only ASCII names are asked for. -/
def unescape : List Char → List Char
  | '+' :: rest => ' ' :: unescape rest
  | '%' :: a :: b :: rest =>
    match hexValue? a, hexValue? b with
    | some high, some low => Char.ofNat (16 * high + low) :: unescape rest
    | _, _ => '%' :: unescape (a :: b :: rest)
  | c :: rest => c :: unescape rest
  | [] => []

/-- The values that a query gives to a name, in order; a name without a value has an empty one. -/
def queryValues (query : String) (name : String) : List String :=
  (splitOn '&' query.toList).filterMap fun part =>
    let key := unescape (part.takeWhile (· ≠ '='))
    let value := unescape ((part.dropWhile (· ≠ '=')).drop 1)
    if !part.isEmpty && String.ofList key = name then some (String.ofList value) else none

/-- The output type that a query asks for: the last one that it names. -/
def readOutput (query : String) : Except Problem (Option OutputType) :=
  match (queryValues query "type").getLast? with
  | none => .ok none
  | some name =>
    match OutputType.ofName? name with
    | some t => .ok (some t)
    | none => .error .unknownOutput

/-! ### What is asked for -/

/-- What a request asks for. -/
inductive Ask where
  | state
  | setSource (text : String)
  | compile (mode : Option CompileMode)
  | setMode (mode : CompileMode)
  | setOption (key : String) (value : Bool)
  | switchCompiler (compiler : String)
  | dismiss (key : Int)
  | output (type : Option OutputType)
  | artifact
  deriving DecidableEq, Repr, Inhabited

/-- Why a request is refused before anything is done. -/
inductive Refusal where
  | notFound
  | wrongMethod
  /-- The place is found without the slashes at the end of the path. -/
  | elsewhere
  | invalid (problem : Problem)
  | unreadableBody
  deriving DecidableEq, Repr, Inhabited

/-- What checks requests before anything is done: it finds what a request asks for, or why it is
refused. -/
abbrev Check := Request → Except Refusal Ask

/-- The text that a body stands for, if it stands for one; a byte order mark is left out. -/
def bodyText? (body : String) : Option (List Char) :=
  let bytes := utf8Encode body.toList
  match body.toList with
  | '\ufeff' :: rest => some rest
  | _ => (Encoding.guess bytes).decode? bytes

def readBody (body : Option String) : Except Refusal (Option Value) :=
  match body with
  | none => .ok none
  | some "" => .ok none
  | some body =>
    match bodyText? body with
    | none => .error .unreadableBody
    | some text =>
      match Json.parse (String.ofList text) with
      | .ok v => .ok (some v)
      | .error (.malformed position) => .error (.invalid (.notJson position))
      | .error (.tooManyDigits _) | .error .tooDeep => .error .unreadableBody

def readObject : Option Value → Except Problem (List (Value × Value))
  | none => .error .missingBody
  | some (.dict entries) => .ok entries
  | some _ => .error .notAnObject

def readField {β : Type} (body : Option String) (field : String) (read : Value → Except Problem β) :
    Except Refusal β :=
  match readBody body with
  | .error r => .error r
  | .ok v =>
    let checked : Except Problem β := do
      let entries ← readObject v
      match Value.lookup field entries with
      | none => .error (.missingField field)
      | some v => read v
    checked.mapError .invalid

/-- The mode that the body of a compile request gives, if it has a body that gives one. -/
def readCompileBody (body : Option String) : Except Refusal (Option CompileMode) :=
  match readBody body with
  | .error r => .error r
  | .ok none => .ok none
  | .ok (some .null) => .ok none
  | .ok (some v) =>
    let checked : Except Problem (Option CompileMode) := do
      let entries ← readObject (some v)
      readOpenMode ((Value.lookup "mode" entries).getD .null)
    checked.mapError .invalid

def withoutSlashes (path : String) : String :=
  String.ofList (path.toList.reverse.dropWhile (· = '/')).reverse

def strayPath (path : String) : Refusal :=
  if path ≠ "/" && path.toList.getLast? = some '/' &&
      (Endpoint.ofPath? (withoutSlashes path)).isSome then .elsewhere
  else .notFound

def Request.askAt (r : Request) : Endpoint → Except Refusal Ask
  | .state => .ok .state
  | .source => (readField r.body "text" (readText "text")).map .setSource
  | .compile => (readCompileBody r.body).map .compile
  | .mode => (readField r.body "mode" readMode).map .setMode
  | .option key => (readField r.body "value" readBool).map (.setOption key)
  | .compiler => (readField r.body "compiler" (readName "compiler")).map .switchCompiler
  | .notification key => ((readInteger key).map .dismiss).mapError .invalid
  | .output => ((readOutput r.query).map .output).mapError .invalid
  | .artifact => .ok .artifact

/-- What a request asks for by its endpoint, or why it is refused. -/
def Request.ask (r : Request) : Except Refusal Ask :=
  match Endpoint.ofPath? r.path with
  | none => .error (strayPath r.path)
  | some e => if e.method = r.method then r.askAt e else .error .wrongMethod

end Playground.Http
