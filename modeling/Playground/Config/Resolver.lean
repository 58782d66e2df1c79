import Playground.Config.File
import Playground.Text.LetterCase

/-!
# Resolving configuration keys

A key is looked up on the command line, in the environment, in the user's file, in the system's
file and among the defaults; the first value that is not null counts.

* `Config.nested?` — the value under a key whose parts are separated by points.
* `Config.Resolver` — the sources.
* `Config.resolve` — the value of a key, with the source that it comes from.
-/

namespace Playground.Config

open Playground.Text

/-- Where a value comes from. -/
inductive Source where
  | commandLine
  | environment
  | userFile
  | systemFile
  | defaults
  deriving DecidableEq, Repr, Inhabited

def Source.name : Source → String
  | commandLine => "cli"
  | environment => "env"
  | userFile => "user_config"
  | systemFile => "system_config"
  | defaults => "default"

def present? : Option Value → Option Value
  | some .null => none
  | v => v

/-- Descends into mappings along the parts of a key; null counts as absent. -/
def descend? : List String → Value → Option Value
  | [], v => some v
  | part :: parts, v =>
    match v.unrolled with
    | .dict entries => (present? (Value.lookup part entries)).bind (descend? parts)
    | _ => none

def parts (key : String) : List String := (splitOn '.' key.toList).map String.ofList

/-- The value under a key whose parts are separated by points. -/
def nested? (v : Value) (key : String) : Option Value := descend? (parts key) v

/-- The value that the command line gives: an entry with the whole key hides nested ones. -/
def commandLine? (entries : Entries) (key : String) : Option Value :=
  match Value.lookup key entries with
  | some v => present? (some v)
  | none => nested? (.dict entries) key

/-- The name of the variable for a key: capitals, with underscores for points. -/
def variableName (key : String) : String :=
  "COMPILEPAD_" ++
    String.ofList ((toUpper key).toList.map fun c => if c = '.' then '_' else c)

def builtIn : Entries :=
  [(.str "compiler", .str "CPython"),
    (.str "compile_mode", .str "auto"),
    (.str "auto_compile_delay_ms", .int 800),
    (.str "max_printing_errors", .int 8),
    (.str "notification_dismiss_ms", .int 5000),
    (.str "options", .record [("stdlib", .bool false), ("validate", .bool true),
      ("optimize", .bool true), ("wide_address_mode", .bool false)]),
    (.str "logging", .record [("level", .str "normal"), ("color", .bool true)]),
    (.str "web", .record [("host", .str "127.0.0.1"), ("port", .int 8080)])]

/-- The sources of configuration. -/
structure Resolver where
  commandLine : Entries := []
  environment : List (String × String) := []
  user : File
  system : File
  defaults : Entries := builtIn
  /-- How many collections may lie within one another where a value is written. -/
  room : Nat
  deriving Inhabited

/-- A look into the configuration: it may fail, and what it loads is kept even so. -/
abbrev Lookup := ExceptT Fault (StateM Resolver)

def loadUser : Lookup Value := fun r =>
  let (file, result) := r.user.load
  (result, { r with user := file })

def loadSystem : Lookup Value := fun r =>
  let (file, result) := r.system.load
  (result, { r with system := file })

def Resolver.variable? (r : Resolver) (name : String) : Option String :=
  (r.environment.find? fun e => e.1 = name).map (·.2)

/-- The value of a key and the source that it comes from. -/
def resolve (key : String) : Lookup (Value × Source) := do
  let r ← get
  match commandLine? r.commandLine key with
  | some v => return (v, .commandLine)
  | none => pure ()
  match r.variable? (variableName key) with
  | some s => return (.str s, .environment)
  | none => pure ()
  match nested? (← loadUser) key with
  | some v => return (v, .userFile)
  | none => pure ()
  match nested? (← loadSystem) key with
  | some v => return (v, .systemFile)
  | none => pure ()
  match nested? (.dict r.defaults) key with
  | some v => return (v, .defaults)
  | none => throw (.config ("Config key '" ++ key ++ "' not found in any source") none)

end Playground.Config
