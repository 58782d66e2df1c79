import Playground.CommandLine.Taking
import Playground.Compile.Choice
import Playground.Config.Resolver
import Playground.Decimal.Integer
import Playground.Files.Path

/-!
# Arguments

What the arguments of the program ask for.

* `Given` — what is given for a switch.
* `Arguments`, `Command` — all that can be asked for.
* `Ending` — why the program ends before it has done anything.
* `Arguments.ofStrings` — what arguments ask for.
* `Arguments.entries` — the configuration that the arguments give.
-/

namespace Playground.CommandLine

open Playground.Decimal Playground.Text

/-- What is given for a switch that takes a value: nothing, a bar in place of the value, or the
value. -/
inductive Given (α : Type) where
  | absent
  | bar
  | value (a : α)
  deriving DecidableEq, Repr, Inhabited

def Given.value? {α : Type} : Given α → Option α
  | value a => some a
  | _ => none

/-- What a text gives, which `read` makes a value of; a bar is no value. -/
def Given.ofText {α ε : Type} (read : String → Except ε α) (text : Option String) :
    Except ε (Given α) :=
  match text with
  | none => .ok absent
  | some "--" => .ok bar
  | some s => (read s).map value

/-- What is given for a switch whose texts are all values. -/
def Given.ofAny {α : Type} (make : String → α) (text : Option String) : Given α :=
  match text with
  | none => absent
  | some "--" => bar
  | some s => value (make s)

/-- What a compile is asked for; what is not given is left to the configuration. -/
structure CompileArguments where
  file : Path
  compiler : Given String := .absent
  stdlib : Option Bool := none
  validate : Option Bool := none
  optimize : Option Bool := none
  wideAddressMode : Option Bool := none
  output : Given OutputType := .absent
  download : Given Path := .absent
  deriving DecidableEq, Repr, Inhabited

/-- What serving is asked for. -/
structure ServeArguments where
  host : Given String := .absent
  port : Given Int := .absent
  deriving DecidableEq, Repr, Inhabited

/-- A command. -/
inductive Command where
  | compile (a : CompileArguments)
  | serve (a : ServeArguments)
  | compilers
  deriving DecidableEq, Repr, Inhabited

def Command.name : Command → String
  | compile _ => "compile"
  | serve _ => "serve"
  | compilers => "compilers"

/-- What the arguments ask for. -/
structure Arguments where
  config : Given Path := .absent
  verbose : Nat := 0
  quiet : Bool := false
  command : Command
  deriving DecidableEq, Repr, Inhabited

/-- Why the program ends before it has done anything. -/
inductive Ending where
  | help (p : Program)
  | version
  | complaint (p : Program) (text : String)
  deriving DecidableEq, Repr, Inhabited

/-! ### Commands -/

/-- What is said about a value that is none of those allowed. -/
def notAllowed (value : String) (allowed : List String) : String :=
  "invalid choice: " ++ quote value ++ " (choose from " ++ ", ".intercalate (allowed.map quote) ++
    ")"

def missing (o : Operand) : String := "the following arguments are required: " ++ o.label

/-- The file among the arguments that the operand got; the bar is none. -/
def fileOf (given : List String) : Option Path := (given.erase "--").head?.map Path.ofString

/-- A compile before its file is known, and the arguments that nobody asked for. -/
abbrev CompileDraft := CompileArguments × Option Path × List String

def readOutput (name : String) : Except Ending OutputType :=
  match OutputType.all.find? fun t => t.name = name with
  | some t => .ok t
  | none =>
    .error (.complaint .compile
      (Switch.output.complain (notAllowed name (OutputType.all.map OutputType.name))))

def takeForCompile (draft : CompileDraft) (t : Taking) : Except Ending CompileDraft :=
  let (a, file, extras) := draft
  match t with
  | .switch .compiler v => .ok ({ a with compiler := Given.ofAny id v }, file, extras)
  | .switch .stdlib _ => .ok ({ a with stdlib := some true }, file, extras)
  | .switch .noValidate _ => .ok ({ a with validate := some false }, file, extras)
  | .switch .noOptimize _ => .ok ({ a with optimize := some false }, file, extras)
  | .switch .wide _ => .ok ({ a with wideAddressMode := some true }, file, extras)
  | .switch .output v => do
    let output ← Given.ofText readOutput v
    pure ({ a with output }, file, extras)
  | .switch .download v =>
    .ok ({ a with download := Given.ofAny Path.ofString v }, file, extras)
  | .switch _ _ => .error (.help .compile)
  | .operand given => .ok (a, fileOf given, extras)
  | .extra arg => .ok (a, file, extras ++ [arg])
  | .refusal why => .error (.complaint .compile why)

/-- What the arguments of a compile ask for, and those that nobody asked for. -/
def readCompile (args : List String) : Except Ending (Command × List String) := do
  let (a, file, extras) ←
    (Program.compile.takings args).foldlM takeForCompile (({ file := {} }, none, []) : CompileDraft)
  match file with
  | some file => pure (.compile { a with file }, extras)
  | none => throw (.complaint .compile (missing .file))

def readPort (text : String) : Except Ending Int :=
  match integer? text.toList with
  | some i => .ok i
  | none => .error (.complaint .serve (Switch.port.complain ("invalid int value: " ++ quote text)))

def takeForServe (draft : ServeArguments × List String) (t : Taking) :
    Except Ending (ServeArguments × List String) :=
  let (a, extras) := draft
  match t with
  | .switch .host v => .ok ({ a with host := Given.ofAny id v }, extras)
  | .switch .port v => do
    let port ← Given.ofText readPort v
    pure ({ a with port }, extras)
  | .switch _ _ => .error (.help .serve)
  | .operand given => .ok (a, extras ++ given)
  | .extra arg => .ok (a, extras ++ [arg])
  | .refusal why => .error (.complaint .serve why)

/-- What the arguments of serving ask for, and those that nobody asked for. -/
def readServe (args : List String) : Except Ending (Command × List String) := do
  let (a, extras) ← (Program.serve.takings args).foldlM takeForServe ({}, [])
  pure (.serve a, extras)

def takeForCompilers (extras : List String) (t : Taking) : Except Ending (List String) :=
  match t with
  | .switch _ _ => .error (.help .compilers)
  | .operand given => .ok (extras ++ given)
  | .extra arg => .ok (extras ++ [arg])
  | .refusal why => .error (.complaint .compilers why)

/-- What the arguments of the list of compilers ask for, and those that nobody asked for. -/
def readCompilers (args : List String) : Except Ending (Command × List String) := do
  let extras ← (Program.compilers.takings args).foldlM takeForCompilers []
  pure (.compilers, extras)

def commands : List (String × (List String → Except Ending (Command × List String))) :=
  [("compile", readCompile), ("serve", readServe), ("compilers", readCompilers)]

/-- The command that arguments name, and the arguments that nobody asked for. -/
def readCommand (given : List String) : Except Ending (Command × List String) :=
  let name := given.headD ""
  match commands.find? fun c => c.1 = name with
  | some c => c.2 given.tail
  | none =>
    .error (.complaint .main
      ("argument " ++ Operand.command.label ++ ": " ++ notAllowed name (commands.map (·.1))))

/-! ### The program -/

/-- The arguments of the program before its command is known. -/
structure Draft where
  config : Given Path := .absent
  verbose : Nat := 0
  quiet : Bool := false
  command : Option Command := none
  extras : List String := []
  commandExtras : List String := []
  deriving Repr, Inhabited

/-- What is said about a switch that another one forbids. -/
def Switch.forbidden (s by_ : Switch) : Ending :=
  .complaint .main (s.complain ("not allowed with argument " ++ by_.label))

def Draft.take (d : Draft) (t : Taking) : Except Ending Draft :=
  match t with
  | .switch .config v => .ok { d with config := Given.ofAny Path.ofString v }
  | .switch .verbose _ =>
    if d.quiet then .error (Switch.verbose.forbidden .quiet)
    else .ok { d with verbose := d.verbose + 1 }
  | .switch .quiet _ =>
    if 0 < d.verbose then .error (Switch.quiet.forbidden .verbose)
    else .ok { d with quiet := true }
  | .switch .version _ => .error .version
  | .switch _ _ => .error (.help .main)
  | .operand given => do
    let (command, extras) ← readCommand given
    pure { d with command := some command, commandExtras := extras }
  | .extra arg => .ok { d with extras := d.extras ++ [arg] }
  | .refusal why => .error (.complaint .main why)

/-- The arguments of a draft; there has to be a command, and everything has to be asked for. -/
def Draft.finish (d : Draft) : Except Ending Arguments :=
  match d.command with
  | none => .error (.complaint .main (missing .command))
  | some command =>
    match d.extras ++ d.commandExtras with
    | [] => .ok { config := d.config, verbose := d.verbose, quiet := d.quiet, command }
    | extras =>
      .error (.complaint .main ("unrecognized arguments: " ++ " ".intercalate extras))

namespace Arguments

def ofStrings (args : List String) : Except Ending Arguments := do
  (← (Program.main.takings args).foldlM Draft.take {}).finish

/-! ### Configuration -/

def textEntry (key : String) : Option String → Config.Entries
  | some s => if s = "" then [] else [(.str key, .str s)]
  | none => []

def flagEntry (key : String) : Option Bool → Config.Entries
  | some b => [(.str key, .bool b)]
  | none => []

/-- An entry for an integer other than zero. -/
def numberEntry (key : String) : Option Int → Config.Entries
  | some i => if i = 0 then [] else [(.str key, .int i)]
  | none => []

def commandEntries : Command → Config.Entries
  | .compile a =>
    textEntry "compiler" a.compiler.value? ++ flagEntry "options.stdlib" a.stdlib ++
      flagEntry "options.validate" a.validate ++ flagEntry "options.optimize" a.optimize ++
      flagEntry "options.wide_address_mode" a.wideAddressMode
  | .serve a => textEntry "web.host" a.host.value? ++ numberEntry "web.port" a.port.value?
  | .compilers => []

/-- The configuration that the arguments give; empty texts and zeros count as not given. -/
def entries (a : Arguments) : Config.Entries := commandEntries a.command

end Arguments

end Playground.CommandLine
