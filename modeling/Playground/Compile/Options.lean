import Playground.Fault

/-!
# Compile options

* `Options` — the switches of one compilation.
* `Options.replace` — the options with one switch set by name.
-/

namespace Playground

open Playground.Text

/-- The switches of one compilation. -/
structure Options where
  stdlib : Bool := false
  validate : Bool := true
  optimize : Bool := true
  wideAddressMode : Bool := false
  deriving DecidableEq, Repr, Inhabited

namespace Options

def pointerSize (o : Options) : Nat := if o.wideAddressMode then 8 else 4

def keys : List String := ["stdlib", "validate", "optimize", "wide_address_mode"]

/-- The options with the named switch set, for a known name. -/
def set? (o : Options) (key : String) (b : Bool) : Option Options :=
  if key = "stdlib" then some { o with stdlib := b }
  else if key = "validate" then some { o with validate := b }
  else if key = "optimize" then some { o with optimize := b }
  else if key = "wide_address_mode" then some { o with wideAddressMode := b }
  else none

/-- The options with one switch set; the name must be known and the value a truth value. -/
def replace (o : Options) (key : String) (value : Value) : Except Fault Options :=
  if keys.contains key then
    match value with
    | .bool b =>
      match o.set? key b with
      | some o' => .ok o'
      | none => .ok o
    | v =>
      .error (.config
        ("Compile option " ++ quote key ++ " must be a bool, got " ++ v.kindName) none)
  else
    .error (.config
      ("Unknown compile option " ++ quote key ++ ". Allowed options: " ++ ", ".intercalate keys)
      none)

def toRecord (o : Options) : List (String × Value) :=
  [("stdlib", .bool o.stdlib), ("validate", .bool o.validate), ("optimize", .bool o.optimize),
    ("wide_address_mode", .bool o.wideAddressMode)]

end Options

end Playground
