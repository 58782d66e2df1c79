import Playground.Config.Resolver
import Playground.Log

/-!
# Values of one kind

* `Config.resolveBool`, `Config.resolveInt`, `Config.resolveText` — the value of a key as a truth
  value, an integer or a text.
* `Config.resolveLevel` — how much the log shows.
-/

namespace Playground.Config

open Playground.Decimal Playground.Text

def trueWords : List String := ["1", "true", "yes", "on"]

def falseWords : List String := ["0", "false", "no", "off"]

/-- The truth value that a text stands for, letter case and white space around it aside. -/
def boolOfText? (s : String) : Option Bool :=
  let word := toLower (trimmed s)
  if trueWords.contains word then some true
  else if falseWords.contains word then some false
  else none

/-- The truth value of a value: numbers count as true unless they are zero. -/
def boolOf? : Value → Option Bool
  | .bool b => some b
  | .int i => some (i ≠ 0)
  | .str s => boolOfText? s
  | _ => none

/-- What a fault says about the value of a key. -/
def complaint (key wanted shown : String) (source : Source) : Fault :=
  .config ("Config key '" ++ key ++ "' must be " ++ wanted ++ ", got " ++ shown ++ " (source: " ++
    source.name ++ ")") none

/-- The fault of a value that is not what is wanted under a key; it shows the value. -/
def unsuitable (room : Nat) (key wanted : String) (v : Value) (source : Source) : Fault :=
  match v.written room with
  | .ok shown => complaint key wanted shown source
  | .error why => .unwritten why

def resolveBool (key : String) : Lookup Bool := do
  let (v, source) ← resolve key
  match boolOf? v with
  | some b => pure b
  | none => throw (unsuitable (← get).room key "a bool" v source)

/-- The number that digits stand for: there may not be too many, and none that is no decimal
digit. -/
def numberOfDigits (ds : List Char) : Except Fault Nat :=
  let run := ds.takeWhile isDecimalDigit
  if maxDigits < run.length then .error (.tooManyDigits run.length)
  else if run.length < ds.length then .error (.notAnInteger (String.ofList ds))
  else .ok (ofDigits ds)

/-- The value of a key as an integer, which a text may hold in digits. -/
def resolveInt (key : String) : Lookup Int := do
  let (v, source) ← resolve key
  match v with
  | .bool _ => throw (complaint key "an int" "bool" source)
  | .int i => pure i
  | .str s =>
    let ds := strip s.toList
    if !ds.isEmpty && ds.all isDigitLike then
      match numberOfDigits ds with
      | .ok n => pure n
      | .error f => throw f
    else throw (unsuitable (← get).room key "an int" v source)
  | _ => throw (unsuitable (← get).room key "an int" v source)

def notText (key : String) (v : Value) : Fault :=
  .config ("Config key '" ++ key ++ "' must be a string, got " ++ v.kindName) none

/-- The value of a key as a text, without white space around it, which may not be empty. -/
def resolveText (key : String) : Lookup String := do
  match ← resolve key with
  | (.str s, _) =>
    if trimmed s = "" then throw (.config ("Config key '" ++ key ++ "' must not be empty") none)
    else pure (trimmed s)
  | (v, _) => throw (notText key v)

def levelKey : String := "logging.level"

def levelOf (v : Value) : Except Fault Verbosity :=
  match v with
  | .str s =>
    match Verbosity.ofName s with
    | .ok level => .ok level
    | .error _ =>
      .error (.config ("Invalid '" ++ levelKey ++ "': " ++ quote s ++
        ". Allowed values: debug, normal, quiet, verbose") none)
  | v => .error (notText levelKey v)

/-- How much the log shows; where the configuration keeps the key from being resolved, the normal
level. -/
def resolveLevel : Lookup Verbosity := fun r =>
  match resolve levelKey r with
  | (.ok (v, _), r) => (levelOf v, r)
  | (.error (.config _ _), r) => (.ok .normal, r)
  | (.error f, r) => (.error f, r)

end Playground.Config
