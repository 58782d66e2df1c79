import Playground.CommandLine.Arguments
import Playground.CommandLine.Report
import Playground.Compile.Registry
import Playground.Config.Settings
import Playground.Files.Disk
import Playground.Http.Response

/-!
# Running the program

* `World` — what the program finds.
* `Desk` — what it has done so far.
* `run` — runs the program to its exit code, or to a fault that it does not handle.
-/

namespace Playground.CommandLine

open Playground.Console Playground.Text

/-- How a server ends. -/
inductive ServerEnd where
  | stops
  | interrupted
  | fails (f : Fault)
  deriving DecidableEq, Repr, Inhabited

def ownCompilers : List (String × Compiler Action) := [(Bytecode.compilerName, .bytecode {})]

/-- What the program finds. -/
structure World where
  environment : List (String × String) := []
  disk : Disk := {}
  /-- The folder of the user, where no variable names another one. -/
  home : Path := {}
  compilers : List (String × Compiler Action) := ownCompilers
  probe : Probe := .imports
  serverEnd : ServerEnd := .stops
  reader : Config.Reader
  /-- How many collections may lie within one another where a value is written. -/
  room : Nat
  printer : Printer

namespace World

def homeVariable : String := "HOME"

/-- The folder that a variable names; slashes at its end say nothing, and a tilde names none. -/
def folderOf (text : String) : Except Fault Path :=
  let names := (text.toList.reverse.dropWhile (· = '/')).reverse
  match names with
  | [] => .ok (Path.ofString "/")
  | '~' :: _ => .error (.foreign "RuntimeError" "Could not determine home directory.")
  | names => .ok (Path.ofString (String.ofList names))

def userFolder (w : World) : Except Fault Path :=
  match w.environment.find? fun e => e.1 = homeVariable with
  | some (_, text) => folderOf text
  | none => .ok w.home

/-- The user's configuration file: that of the arguments, or else the one in the user's folder. -/
def userFile (w : World) (a : Arguments) : Except Fault Path :=
  match a.config with
  | .value path => .ok path
  | _ => w.userFolder.map fun folder => folder.join (Path.ofString ".config/compilepad/config.yaml")

def systemFile : Path := Path.ofString "/etc/compilepad/config.yaml"

def paths (w : World) (a : Arguments) : List Path :=
  let own := match a.command with
    | .compile c => c.file :: c.download.value?.toList
    | _ => []
  (w.userFile a).toOption.toList ++ systemFile :: own

def configFile (w : World) (path : Path) : Config.File :=
  { path, read := w.reader, stored := w.disk.look path, denied := w.disk.denial? path }

def resolver (w : World) (a : Arguments) : Except Fault Config.Resolver := do
  let path ← w.userFile a
  pure {
    commandLine := a.entries
    environment := w.environment
    user := w.configFile path
    system := w.configFile systemFile
    room := w.room }

end World

/-- What a server is started with. -/
structure Serving where
  host : String
  port : Int
  level : String
  settings : Settings
  source : String
  deriving DecidableEq, Repr, Inhabited

/-- What the program has done so far. -/
structure Desk where
  /-- The log, with all that was written to the two streams. -/
  board : Log.Board := { colours := false }
  resolver : Config.Resolver := default
  disk : Disk
  served : Option Serving := none
  /-- Is the server kept from writing to the log? -/
  silenced : Bool := false
  /-- What was done to compilers, latest first. -/
  journal : List Effect := []

abbrev Act := ExceptT Fault (StateM Desk)

/-! ### Parts -/

def print (text : String) : Act Unit :=
  modify fun d => { d with board := { d.board with out := d.board.out ++ text } }

/-- The value of a result, whose fault is raised. -/
def ofResult {β : Type} : Except Fault β → Act β
  | .ok b => pure b
  | .error f => throw f

def printMarkup (p : Printer) (s : String) : Act Unit := do print (← ofResult (p.markup s))

def look {β : Type} (l : Config.Lookup β) : Act β := do
  let d ← get
  let (result, resolver) := l d.resolver
  set { d with resolver }
  ofResult result

/-- How much the log shows: the arguments decide before the configuration does. -/
def chooseVerbosity (a : Arguments) : Act Unit := do
  let verbosity ←
    if a.quiet then pure Verbosity.quiet
    else
      match a.verbose with
      | 0 => look Config.resolveLevel
      | 1 => pure Verbosity.verbose
      | _ => pure Verbosity.debug
  modify fun d => { d with board := { d.board with verbosity } }
  let colours ← look (Config.resolveBool "logging.color")
  modify fun d => { d with board := { d.board with colours } }

def configure (a : Arguments) : Act Settings := do
  chooseVerbosity a
  look Config.resolveSettings

def isConfigFault : Fault → Bool
  | .config _ _ => true
  | .missingKey _ => true
  | _ => false

/-! ### Commands -/

/-- Starts a session, ends it and waits until nothing is running. -/
def compileOnce (s : Session Action) : Session Action × Except Fault Bool :=
  let started := s.await .start
  let ended := ({ started.atEnd with completed := none }).stop.await .waitIdle
  (ended.after,
    match ended.result, started.result with
    | .error f, _ => .error f
    | .ok _, .error f => .error f
    | .ok _, .ok (.bool b) => .ok b
    | .ok _, .ok _ => .ok false)

/-- Saves the binary of a session in a folder; a bar is none. -/
def save (p : Printer) (s : Session Action) (folder : Option Path) : Act Unit := do
  let e ← ofResult s.export?
  let some folder := folder
    | throw (.foreign "AttributeError" "'list' object has no attribute 'mkdir'")
  let target := folder.join (Path.ofString e.filename)
  match (← get).disk.makeFolders folder with
  | .ok disk => modify fun d => { d with disk }
  | .error (problem, path) => throw (problem.fault path)
  match (← get).disk.write target e.payload with
  | .ok disk => modify fun d => { d with disk }
  | .error problem => throw (problem.fault target)
  printMarkup p ("Saved " ++ target.text)

/-- Compiles a text and reports what came of it: 0 for success, 1 for failure and 2 where there is
no compiler. -/
def compileText (w : World) (a : CompileArguments) (settings : Settings) (source : String) :
    Act Nat := do
  let settings := { settings with compileMode := .manual }
  let d ← get
  let s := { Session.new settings source w.probe w.compilers with log := d.board }
  let (s, started) := compileOnce s
  set { d with board := s.log, journal := s.journal }
  if !(← ofResult started) then
    printMarkup w.printer ("[red]Compiler '" ++ settings.compiler ++ "' is not available[/red]")
    return 2
  print (findings w.printer s a.output.value?)
  printMarkup w.printer (statusMarkup s)
  if a.download ≠ .absent && s.canDownload then save w.printer s a.download.value?
  return if s.busyState = .success then 0 else 1

def compileFile (w : World) (a : CompileArguments) (settings : Settings) : Act Nat := do
  match (← get).disk.read a.file with
  | .error .nullCharacter => throw (DiskProblem.nullCharacter.fault a.file)
  | .error problem =>
    printMarkup w.printer ("[red]Cannot read " ++ w.printer.escape a.file.text ++ ": " ++
      w.printer.escape (problem.message a.file) ++ "[/red]")
    return 2
  | .ok bytes =>
    match textOfBytes bytes with
    | .ok source => compileText w a settings (String.ofList source)
    | .error problem => throw (.foreign "UnicodeDecodeError" problem.message)

/-- Serves the playground until the server ends. -/
def serve (w : World) (settings : Settings) : Act Nat := do
  let shown := (← get).board.verbosity.toValue
  if shown.atMost? 0 = some true then modify fun d => { d with silenced := true }
  let host ← look (Config.resolveText "web.host")
  let port ← look (Config.resolveInt "web.port")
  let level ← ofResult (Http.serverLevel shown)
  modify fun d =>
    { d with served := some { host, port, level, settings, source := defaultSource } }
  match w.serverEnd with
  | .stops => return 0
  | .interrupted =>
    printMarkup w.printer "\nInterrupted"
    return 130
  | .fails f => throw f

def listCompilers (w : World) : Act Nat := do
  for name in Registry.sorted (w.compilers.map (·.1)) do
    printMarkup w.printer name
  return 0

/-- Carries out a command with the settings of the configuration; the playground's own faults are
reported with 1. -/
def perform (w : World) (command : Settings → Act Nat) (a : Arguments) : Act Nat := do
  let resolver ← ofResult (w.resolver a)
  modify fun d => { d with resolver }
  let settings ←
    try
      let settings ← configure a
      pure (some settings)
    catch f =>
      if isConfigFault f then
        let text ← ofResult f.wording
        printMarkup w.printer ("[red]Configuration error:[/red] " ++ w.printer.escape text)
        pure none
      else throw f
  match settings with
  | none => return 2
  | some settings =>
    try command settings
    catch f =>
      if f.isOwn then
        let text ← ofResult f.wording
        printMarkup w.printer ("[red]" ++ w.printer.escape text ++ "[/red]")
        return 1
      else throw f

def obey (w : World) (a : Arguments) : Act Nat :=
  match a.command with
  | .compilers => listCompilers w
  | .compile c => perform w (compileFile w c) a
  | .serve _ => perform w (serve w) a

/-! ### The program -/

def version : String := "0.1.0"

def usage (p : Program) : String :=
  let switches := p.switches.map fun s => " [" ++ s.label ++ "]"
  let operand := match p.operand with
    | some o => " " ++ o.label
    | none => ""
  "usage: " ++ p.name ++ "".intercalate switches ++ operand ++ "\n"

/-- What the program has written when it ends before it has done anything, and its exit code. -/
def Ending.close (b : Log.Board) : Ending → Log.Board × Nat
  | help p => ({ b with out := b.out ++ usage p }, 0)
  | version =>
    ({ b with out := b.out ++ Program.main.name ++ " " ++ CommandLine.version ++ "\n" }, 0)
  | complaint p text => ({ b with err := b.err ++ p.name ++ ": error: " ++ text ++ "\n" }, 2)

/-- Runs the program to its exit code, or to a fault that it does not handle. -/
def run (w : World) (args : List String) : Except Fault Nat × Desk :=
  match Arguments.ofStrings args with
  | .ok a => (obey w a).run.run { disk := w.disk }
  | .error ending =>
    let start : Desk := { disk := w.disk }
    let (board, code) := ending.close start.board
    (.ok code, { start with board })

end Playground.CommandLine
