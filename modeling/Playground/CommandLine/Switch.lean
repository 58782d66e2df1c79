import Playground.Decimal.Digits
import Playground.Text.Split

/-!
# Switches

The program and each of its commands know switches of their own. An argument is told apart before
anything is taken from it: it is a switch, perhaps shortened or with something joined to it, or it
stands for itself.

* `Program` — who reads arguments.
* `Switch` — the switches.
* `Mark`, `Program.mark` — what an argument is.
-/

namespace Playground.CommandLine

open Playground.Text

/-- A switch. -/
inductive Switch where
  | help
  | version
  | config
  | verbose
  | quiet
  | compiler
  | stdlib
  | noValidate
  | noOptimize
  | wide
  | output
  | download
  | host
  | port
  deriving DecidableEq, Repr, Inhabited

namespace Switch

def names : Switch → List String
  | help => ["-h", "--help"]
  | version => ["--version"]
  | config => ["--config"]
  | verbose => ["-v", "--verbose"]
  | quiet => ["-q", "--quiet"]
  | compiler => ["--compiler"]
  | stdlib => ["--stdlib"]
  | noValidate => ["--no-validate"]
  | noOptimize => ["--no-optimize"]
  | wide => ["--wide"]
  | output => ["--output"]
  | download => ["--download"]
  | host => ["--host"]
  | port => ["--port"]

def takesValue : Switch → Bool
  | config | compiler | output | download | host | port => true
  | _ => false

def label (s : Switch) : String := "/".intercalate s.names

end Switch

/-- What arguments that are no switches stand for. -/
inductive Operand where
  | command
  | file
  deriving DecidableEq, Repr, Inhabited

def Operand.label : Operand → String
  | command => "command"
  | file => "file"

/-- Who reads arguments: the program itself or one of its commands. -/
inductive Program where
  | main
  | compile
  | serve
  | compilers
  deriving DecidableEq, Repr, Inhabited

namespace Program

def name : Program → String
  | main => "compilepad"
  | compile => "compilepad compile"
  | serve => "compilepad serve"
  | compilers => "compilepad compilers"

def switches : Program → List Switch
  | main => [.help, .version, .config, .verbose, .quiet]
  | compile => [.help, .compiler, .stdlib, .noValidate, .noOptimize, .wide, .output, .download]
  | serve => [.help, .host, .port]
  | compilers => [.help]

def operand : Program → Option Operand
  | main => some .command
  | compile => some .file
  | _ => none

def switch? (p : Program) (name : String) : Option Switch :=
  p.switches.find? fun s => s.names.contains name

end Program

/-! ### Marks -/

/-- A switch as an argument writes it. -/
structure Found where
  switch : Option Switch
  name : String
  joined : Option (List Char) := none
  deriving DecidableEq, Repr, Inhabited

/-- What an argument is. -/
inductive Mark where
  | operand
  /-- The mark behind which nothing is a switch. -/
  | bar
  | switch (f : Found)
  deriving DecidableEq, Repr, Inhabited

def Mark.isSwitch : Mark → Bool
  | switch _ => true
  | _ => false

/-- A text up to the first equals sign, and what is joined by that sign. -/
def splitEquals (cs : List Char) : List Char × Option (List Char) :=
  match cs.dropWhile (· ≠ '=') with
  | _ :: text => (cs.takeWhile (· ≠ '='), some text)
  | [] => (cs, none)

/-- Is it a negative number? A line feed may follow it. -/
def isNegativeNumber (cs : List Char) : Bool :=
  let cs := if cs.getLast? = some '\n' then cs.dropLast else cs
  match cs with
  | '-' :: body =>
    let rest := body.dropWhile isDecimalDigit
    match rest with
    | [] => !body.isEmpty
    | '.' :: fraction => !fraction.isEmpty && fraction.all isDecimalDigit
    | _ => false
  | _ => false

namespace Program

/-- The switches that an argument may mean: a long name may be shortened, and behind a name of one
letter more can follow. -/
def candidates (p : Program) (cs : List Char) : List Found :=
  let named := p.switches.flatMap fun s => s.names.map fun name => (s, name)
  match cs with
  | '-' :: '-' :: _ =>
    let (start, joined) := splitEquals cs
    (named.filter fun e => startsWith start e.2.toList).map fun e => ⟨some e.1, e.2, joined⟩
  | _ =>
    (named.filter fun e => e.2.toList = cs.take 2).map fun e =>
      ⟨some e.1, e.2, some (cs.drop 2)⟩

/-- What is said about an argument that may mean several switches. -/
def ambiguity (arg : String) (found : List Found) : String :=
  "ambiguous option: " ++ arg ++ " could match " ++ ", ".intercalate (found.map (·.name))

/-- What an argument is; a negative number or a text with a space in it is no switch unless it is
known as one. -/
def mark (p : Program) (arg : String) : Except String Mark :=
  match arg.toList with
  | '-' :: c :: cs =>
    match p.switch? arg with
    | some s => .ok (.switch ⟨some s, arg, none⟩)
    | none =>
      let (start, joined) := splitEquals ('-' :: c :: cs)
      let name := String.ofList start
      match joined, p.switch? name with
      | some joined, some s => .ok (.switch ⟨some s, name, some joined⟩)
      | _, _ =>
        match p.candidates ('-' :: c :: cs) with
        | [found] => .ok (.switch found)
        | [] =>
          if isNegativeNumber ('-' :: c :: cs) || (c :: cs).contains ' ' then .ok .operand
          else .ok (.switch ⟨none, arg, none⟩)
        | found => .error (ambiguity arg found)
  | _ => .ok .operand

def marks (p : Program) : List String → Except String (List (String × Mark))
  | [] => .ok []
  | "--" :: rest => .ok (("--", .bar) :: rest.map fun arg => (arg, .operand))
  | arg :: rest => do
    let mark ← p.mark arg
    pure ((arg, mark) :: (← p.marks rest))

end Program

end Playground.CommandLine
