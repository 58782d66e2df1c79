import Playground.Decimal.Integer
import Playground.Value.Written

/-!
# Faults

Everything that can go wrong in the playground, by its cause. The wording of a fault is derived
from the cause.

* `Fault` — the causes.
* `Fault.kind` — the name under which a fault is reported.
* `Fault.wording` — the full wording, with the suggestion where there is one. Not every fault has
  one: whoever words a fault must reckon with another fault in its place.
* `Fault.inStage` — what becomes of a fault in a stage after compilation.
* `Fault.ancestors` — the wider kinds that a fault belongs to.
-/

namespace Playground

open Playground.Decimal Playground.Text

/-- A cause of failure. -/
inductive Fault where
  /-- A failure of a kind that only its reporter knows. -/
  | foreign (kind message : String)
  | missingKey (key : Option String)
  /-- A run of digits is longer than numbers are read from. -/
  | tooManyDigits (count : Nat)
  | notAnInteger (text : String)
  | unwritten (why : Unwritten)
  /-- An integer is larger than every floating point number. -/
  | tooLargeForFloat
  /-- Values of two kinds are not ordered by a comparison. -/
  | incomparable (comparison left right : String)
  /-- The value is no member of the named set of choices. -/
  | notAMember (shown set : String)
  | playground (message : String) (suggestion : Option String)
  | config (message : String) (suggestion : Option String)
  | compiler (message : String) (suggestion : Option String)
  /-- A compiled module was used after its release. -/
  | disposed (message : String) (suggestion : Option String)
  | unknownCompiler (name : String)
  | rejected (diagnostics : List String) (message : Option String)
  /-- A stage after compilation failed for another cause. -/
  | crash (stage : String) (cause : Fault)
  | noArtifact
  /-- A failure that passes for another one but has no wording: to word it is a failure in turn, of
  a kind that only its reporter knows. -/
  | mute (guise : Fault) (kind message : String)
  deriving DecidableEq, Repr, Inhabited

namespace Fault

/-- The name under which a fault is reported. -/
def kind : Fault → String
  | foreign k _ => k
  | missingKey _ => "KeyError"
  | tooManyDigits _ | notAnInteger _ | notAMember _ _ => "ValueError"
  | incomparable .. => "TypeError"
  | unwritten .longInteger => "ValueError"
  | unwritten .tooDeep => "RecursionError"
  | tooLargeForFloat => "OverflowError"
  | playground _ _ => "CompilePadError"
  | config _ _ => "ConfigError"
  | compiler _ _ => "CompilerError"
  | disposed _ _ => "ArtifactDisposedError"
  | unknownCompiler _ => "CompilerNotFoundError"
  | rejected _ _ => "CompileFailure"
  | crash _ _ => "StageCrash"
  | noArtifact => "ArtifactUnavailableError"
  | mute guise _ _ => guise.kind

def suggestion? : Fault → Option String
  | playground _ s | config _ s | compiler _ s | disposed _ s => s
  | unknownCompiler _ => some "Check available compilers with: compilepad compile --help"
  | noArtifact => some "Fix the reported errors and compile again"
  | mute guise _ _ => guise.suggestion?
  | _ => none

/-- A message with its suggestion on a line of its own; an empty suggestion is none. -/
def withSuggestion (message : String) (suggestion : Option String) : String :=
  match suggestion with
  | some s => if s = "" then message else message ++ "\nSuggestion: " ++ s
  | none => message

/-- The message of a rejection: its own if it has one, else the count of its diagnostics. -/
def rejectionMessage (diagnostics : List String) (message : Option String) : String :=
  match message with
  | some m => if m = "" then counted else m
  | none => counted
where
  counted : String :=
    "Compilation failed with " ++ naturalText diagnostics.length ++ " diagnostic(s)"

def message : Fault → String
  | foreign _ m => m
  | missingKey none => ""
  | missingKey (some key) => quote key
  | tooManyDigits n => overlongInteger n
  | notAnInteger t => noInteger 10 t.toList
  | incomparable comparison left right =>
    "'" ++ comparison ++ "' not supported between instances of '" ++ left ++ "' and '" ++
      right ++ "'"
  | unwritten .longInteger =>
    "Exceeds the limit (4300 digits) for integer string conversion; " ++
      "use sys.set_int_max_str_digits() to increase the limit"
  | unwritten .tooDeep => "maximum recursion depth exceeded while getting the repr of an object"
  | tooLargeForFloat => "int too large to convert to float"
  | notAMember shown set => shown ++ " is not a valid " ++ set
  | playground m _ | config m _ | compiler m _ | disposed m _ => m
  | unknownCompiler name => "Compiler '" ++ name ++ "' not supported"
  | rejected ds m => rejectionMessage ds m
  | crash stage cause =>
    stage ++ " stage crashed: " ++ cause.kind ++ ": " ++
      withSuggestion cause.message cause.suggestion?
  | noArtifact => "No compiled binary available"
  | mute guise _ _ => guise.message

def wording : Fault → Except Fault String
  | mute _ kind message => .error (.foreign kind message)
  | f => .ok (withSuggestion f.message f.suggestion?)

def isWorded (f : Fault) : Bool := f.wording.toBool

def headline (f : Fault) : Except Fault String := f.wording.map fun text => f.kind ++ ": " ++ text

theorem headline_eq_error {f why : Fault} :
    f.headline = .error why ↔ f.wording = .error why := by
  unfold headline
  cases f.wording <;> simp [Except.map]

/-- What stands in a trace for a fault, whether it has a wording or not. -/
def traced (f : Fault) : String :=
  f.kind ++ ": " ++ f.wording.toOption.getD "<exception str() failed>"

/-- What a fault becomes in a stage after compilation: a crash that words it, or the fault of
wording it. -/
def inStage (stage : String) (f : Fault) : Fault :=
  match f.wording with
  | .ok _ => crash stage f
  | .error why => why

def diagnostics? : Fault → Option (List String)
  | rejected ds _ => some ds
  | mute guise _ _ => guise.diagnostics?
  | _ => none

def isUnknownCompiler : Fault → Bool
  | unknownCompiler _ => true
  | mute guise _ _ => guise.isUnknownCompiler
  | _ => false

def isOwn : Fault → Bool
  | playground .. | config .. | compiler .. | disposed .. | unknownCompiler _ | rejected ..
  | crash .. | noArtifact => true
  | mute guise _ _ => guise.isOwn
  | _ => false

def ownMessage? (f : Fault) : Option String := if f.isOwn then some f.message else none

/-- The wider kinds that a fault belongs to, nearest first. -/
def ancestors : Fault → List String
  | foreign "ZeroDivisionError" _ | tooLargeForFloat => ["ArithmeticError", "Exception"]
  | foreign "IndexError" _ | missingKey _ => ["LookupError", "Exception"]
  | foreign _ _ => ["Exception"]
  | unwritten .tooDeep => ["RuntimeError", "Exception"]
  | tooManyDigits _ | notAnInteger _ | notAMember _ _ | incomparable .. | unwritten .longInteger =>
    ["Exception"]
  | playground .. => ["Exception"]
  | config .. | compiler .. | noArtifact => ["CompilePadError", "Exception"]
  | disposed .. | unknownCompiler _ | rejected .. | crash .. =>
    ["CompilerError", "CompilePadError", "Exception"]
  | mute guise _ _ => guise.ancestors

def crashed? : Fault → Option Fault
  | crash _ c => some c
  | mute guise _ _ => guise.crashed?
  | _ => none

/-- The fault that a report of a failed stage names: the cause of a crash, else the fault. -/
def cause (f : Fault) : Fault := f.crashed?.getD f

end Fault

end Playground
