import Playground.Fault
import Playground.Text.LetterCase
import Playground.Text.Split

/-!
# The log

Messages of four levels of urgency are delivered to sinks and printed, as far as the verbosity
allows.

* `Verbosity` — how much is shown.
* `Log.Board` — verbosity, colours, sinks and the two output streams.
* `Log.Board.setVerbosity` — sets how much is shown.
* `Log.Board.emit` — delivers and prints one message.
-/

namespace Playground

open Playground.Decimal Playground.Text

/-- How much is shown: a named level, or something else that was set in its place, a number or a
value that is none. -/
inductive Verbosity where
  | level (n : Fin 4)
  | loose (x : Binary64)
  | unordered (v : Value)
  deriving Repr

namespace Verbosity

def quiet : Verbosity := level 0

def normal : Verbosity := level 1

def verbose : Verbosity := level 2

def debug : Verbosity := level 3

instance : Inhabited Verbosity := ⟨normal⟩

/-- Is the rank of a message too high to be shown? -/
def hides (v : Verbosity) (rank : Nat) : Bool :=
  match v with
  | level n => n.val < rank
  | loose x => x.ltInt rank
  | unordered _ => true

def fault? : Verbosity → Option Fault
  | unordered v => some (.incomparable ">" "VerbosityLevel" v.kindName)
  | _ => none

/-- The names of the levels, least shown first. -/
def names : List String := ["quiet", "normal", "verbose", "debug"]

def ofInt (i : Int) : Except Fault Verbosity :=
  if i = 0 then .ok quiet
  else if i = 1 then .ok normal
  else if i = 2 then .ok verbose
  else if i = 3 then .ok debug
  else .error (.notAMember (integerText i) "VerbosityLevel")

/-- The level of a name, letter case and white space around it aside. -/
def ofName (s : String) : Except Fault Verbosity :=
  let key := toLower (trimmed s)
  if key = "quiet" then .ok quiet
  else if key = "normal" then .ok normal
  else if key = "verbose" then .ok verbose
  else if key = "debug" then .ok debug
  else .error (.missingKey (some key))

/-- The verbosity that a value sets: a name, a whole number or anything else as it is. -/
def ofValue (v : Value) : Except Fault Verbosity :=
  match v with
  | .str s => ofName s
  | .bool b => .ok (if b then normal else quiet)
  | .int i => ofInt i
  | .float x => .ok (loose x)
  | v => .ok (unordered v)

def toValue : Verbosity → Value
  | level n => .int n.val
  | loose x => .float x
  | unordered v => v

end Verbosity

namespace Log

/-- The urgency of a message. -/
inductive Level where
  | debug
  | verbose
  | info
  | warning
  | error
  deriving DecidableEq, Repr, Inhabited

namespace Level

def name : Level → String
  | debug => "DEBUG"
  | verbose => "VERBOSE"
  | info => "INFO"
  | warning => "WARNING"
  | error => "ERROR"

/-- The name of a level as a message carries it. -/
def tag : Level → String
  | debug => "debug"
  | verbose => "verbose"
  | info => "info"
  | warning => "warning"
  | error => "error"

/-- The least verbosity that shows a level; errors are shown wherever warnings are. -/
def rank : Level → Nat
  | debug => 3
  | verbose => 2
  | info => 1
  | warning => 0
  | error => 0

/-- The terminal code of a level's colour. -/
def colour : Level → String
  | debug => "\x1b[36m"
  | verbose => "\x1b[34m"
  | info => "\x1b[32m"
  | warning => "\x1b[33m"
  | error => "\x1b[31m"

def all : List Level := [debug, verbose, info, warning, error]

def ofTag? (s : String) : Option Level := all.find? (fun l => l.tag = s)

end Level

/-- A message as sinks receive it. -/
structure Record where
  level : Level
  plain : String
  logger : String
  deriving DecidableEq, Repr, Inhabited

/-- What a sink does when it is called: it may unregister itself, and fail. -/
structure Mood where
  removesItself : Bool := false
  fault : Option Fault := none
  deriving DecidableEq, Repr, Inhabited

/-- The state of the log. -/
structure Board where
  verbosity : Verbosity := .normal
  colours : Bool := true
  terminal : Bool := false
  /-- The names of the sinks, once for each registration. -/
  sinks : List String := []
  /-- What sinks do, by the number of the call, the name of the sink and the record. -/
  mood : Nat → String → Record → Mood := fun _ _ _ => {}
  /-- The number of calls of sinks so far. -/
  calls : Nat := 0
  out : String := ""
  err : String := ""
  deriving Inhabited

def record (level : Level) (logger message : String) : Record :=
  ⟨level, "[" ++ level.tag ++ "] " ++ message, logger⟩

/-- The text that stands for the place where a fault arose. -/
def traceText : String := "<traceback>\n"

def sinkNote : String := "Log sink raised; suppressed.\n" ++ traceText

namespace Board

def line (b : Board) (level : Level) (message : String) : String :=
  if b.colours && b.terminal then
    level.colour ++ "[" ++ level.tag ++ "]" ++ "\x1b[0m" ++ " " ++ message
  else "[" ++ level.tag ++ "] " ++ message

/-- Sets the verbosity that a value stands for; a value that stands for none changes nothing. -/
def setVerbosity (b : Board) (v : Value) : Board × Except Fault Unit :=
  match Verbosity.ofValue v with
  | .ok verbosity => ({ b with verbosity }, .ok ())
  | .error f => (b, .error f)

def addSink (b : Board) (name : String) : Board := { b with sinks := b.sinks ++ [name] }

/-- Unregisters the first sink of the name, if there is one. -/
def removeSink (b : Board) (name : String) : Board := { b with sinks := b.sinks.erase name }

/-- Calls one sink with a record: it may unregister itself, and its failure is noted. -/
def callSink (r : Record) (b : Board) (name : String) : Board :=
  let mood := b.mood b.calls name r
  let b := { b with calls := b.calls + 1 }
  let b := if mood.removesItself then b.removeSink name else b
  if mood.fault.isSome then { b with err := b.err ++ sinkNote } else b

/-- Writes a line to the stream of the level. -/
def print (b : Board) (level : Level) (text : String) : Board :=
  if level = .error then { b with err := b.err ++ text ++ "\n" }
  else { b with out := b.out ++ text ++ "\n" }

/-- Delivers a message to every sink that is registered at the moment and prints it; with it come
the deliveries, in order. -/
def emit (b : Board) (level : Level) (logger message : String) :
    Board × List (String × Record) :=
  if b.verbosity.hides level.rank then (b, [])
  else
    let r := record level logger message
    let called := b.sinks.foldl (callSink r) b
    (called.print level (b.line level message), b.sinks.map fun name => (name, r))

/-- Delivers and prints a message, unless the verbosity cannot be compared with. -/
def tryEmit (b : Board) (level : Level) (logger message : String) :
    Except Fault (Board × List (String × Record)) :=
  match b.verbosity.fault? with
  | some f => .error f
  | none => .ok (b.emit level logger message)

end Board

end Log

end Playground
