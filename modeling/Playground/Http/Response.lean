import Playground.Http.Request
import Playground.Session.Running

/-!
# Responses

* `Http.Response` — a response.
* `Http.refusal` — the response to a refused request.
* `Http.failure` — the response where a request fails in the doing.
* `Http.serve` — carries out a request on a session and answers it.
-/

namespace Playground.Http

open Playground.Text

/-- The content of a response. -/
inductive Content where
  | json (v : Value)
  | bytes (media : String) (bs : List UInt8)
  deriving Repr, Inhabited

/-- A response. -/
structure Response where
  status : Nat
  content : Content
  disposition : Option String := none
  raised : Option Fault := none
  deriving Repr, Inhabited

def jsonMedia : String := "application/json"

def Content.media : Content → String
  | json _ => jsonMedia
  | bytes media _ => media

def detail (status : Nat) (text : String) : Response :=
  { status, content := .json (.record [("detail", .str text)]) }

def refusal : Refusal → Response
  | .notFound => detail 404 "Not Found"
  | .wrongMethod => detail 405 "Method Not Allowed"
  | .elsewhere => { status := 307, content := .bytes "" [] }
  | .invalid problem => { status := 422, content := .json (.list [problem.toValue]) }
  | .unreadableBody => detail 400 "There was an error parsing the body"

/-- The text of the response to a fault that nobody handles. -/
def internalError : String := "Internal Server Error"

/-- The response where a request fails in the doing: faults of the playground are explained, and a
missing binary counts as not found. -/
def failure (f : Fault) : Response :=
  match f with
  | .noArtifact => { status := 404, content := explained }
  | _ =>
    if f.isOwn then { status := 400, content := explained }
    else
      { status := 500
        content := .bytes "text/plain; charset=utf-8" (utf8Encode internalError.toList)
        raised := some f }
where
  explained : Content :=
    .json (.record [("error", .str f.message), ("suggestion", Value.ofStr? f.suggestion?)])

def success (v : Value) : Response := { status := 200, content := .json v }

def page (s : Session Action) : Value := .record s.snapshot

def outputPage (s : Session Action) : Value :=
  .record [("type", .str s.state.outputType.name), ("output", .str s.renderedOutput),
    ("binary_size", .str s.binarySize)]

/-! ### Downloads -/

def isHeaderChar (c : Char) : Bool := c.toNat < 256

/-- A character that headers cannot hold, as messages show it. -/
def escapedChar (c : Char) : String :=
  if c.toNat < 0x10000 then "\\u" ++ String.ofList (hexNat 4 c.toNat)
  else "\\U" ++ String.ofList (hexNat 8 c.toNat)

/-- The fault of a header with characters that it cannot hold: the first run of them is named. -/
def headerFault (header : List Char) : Fault :=
  let start := (header.takeWhile isHeaderChar).length
  let run := (header.drop start).takeWhile fun c => !isHeaderChar c
  let what := match run with
    | [c] => "character '" ++ escapedChar c ++ "' in position " ++ Decimal.naturalText start
    | _ => "characters in position " ++ Decimal.naturalText start ++ "-" ++
        Decimal.naturalText (start + run.length - 1)
  .foreign "UnicodeEncodeError"
    ("'latin-1' codec can't encode " ++ what ++ ": ordinal not in range(256)")

/-- The response that carries a binary to be saved. -/
def download (e : BinaryExport) : Response :=
  let header := "attachment; filename=\"" ++ e.filename ++ "\""
  if header.toList.all isHeaderChar then
    { status := 200, content := .bytes e.mediaType e.payload, disposition := some header }
  else failure (headerFault header.toList)

/-! ### Serving -/

/-- What a request that takes several ticks calls. -/
def Ask.call? : Ask → Option Call
  | .compile mode => some (.click (mode.map CompileMode.name))
  | .setOption key value => some (.setOption key (.bool value))
  | .switchCompiler compiler => some (.switchCompiler compiler)
  | _ => none

def respondToCall (a : Ask) (result : Value) (s : Session Action) : Response :=
  match a, result with
  | .setOption _ _, .bool false => detail 409 "compiler not ready"
  | .switchCompiler _, available =>
    success (.record [("available", available), ("state", page s)])
  | _, _ => success (page s)

/-- Carries out a request that takes no time. -/
def respondNow (a : Ask) (s : Session Action) : Session Action × Response :=
  match a with
  | .setSource text =>
    match s.perform (.input text) with
    | (s, .ok (.yes scheduled)) =>
      (s, success (.record [("scheduled", .bool scheduled), ("state", page s)]))
    | (s, .ok _) => (s, success (page s))
    | (s, .error f) => (s, failure f)
  | .setMode mode =>
    match s.perform (.setMode mode.name) with
    | (s, .ok _) => (s, success (page s))
    | (s, .error f) => (s, failure f)
  | .dismiss key =>
    let (s, removed) := s.dismiss key
    (s, success (.record [("removed", .bool removed), ("notifications", s.notificationList)]))
  | .output none => (s, success (outputPage s))
  | .output (some t) =>
    match s.selectOutput t.name with
    | (s, none) => (s, success (outputPage s))
    | (s, some f) => (s, failure f)
  | .artifact =>
    match s.export? with
    | .ok e => (s, download e)
    | .error f => (s, failure f)
  | _ => (s, success (page s))

/-- Carries out what is asked for and answers it. -/
def respond (a : Ask) (s : Session Action) : Session Action × Response :=
  match a.call? with
  | none => s.inTurn (respondNow a)
  | some call =>
    let done := s.await call
    match done.result with
    | .ok v => (done.after, respondToCall a v done.atEnd)
    | .error f => (done.after, failure f)

/-- Carries out a request and answers it, after a check of what it asks for; a refused one has its
turn in the queue all the same. -/
def serve (check : Check) (r : Request) (s : Session Action) : Session Action × Response :=
  match check r with
  | .ok a => respond a s
  | .error why => s.inTurn fun s => (s, refusal why)

/-- How much a server writes, by how much the log shows. -/
def serverLevel (shown : Value) : Except Fault String :=
  match shown.atMost? 0, shown.atMost? 2 with
  | some isQuiet, some isUsual =>
    .ok (if isQuiet then "error" else if isUsual then "info" else "debug")
  | _, _ => .error (.incomparable "<=" shown.kindName "VerbosityLevel")

end Playground.Http
