import Playground.CommandLine.Switch
import Playground.Text.Quoted

/-!
# Taking arguments

The arguments of a program are taken in order: switches with their values, the operand, and what
nobody asked for.

* `Taking` — something that is taken.
* `Program.takings` — all that is taken from arguments, up to the first refusal.
-/

namespace Playground.CommandLine

open Playground.Text

/-- Something that is taken from the arguments. -/
inductive Taking where
  | switch (s : Switch) (value : Option String)
  | operand (given : List String)
  | extra (arg : String)
  /-- The arguments cannot be taken; nothing follows. -/
  | refusal (why : String)
  deriving DecidableEq, Repr, Inhabited

def Switch.complain (s : Switch) (what : String) : String :=
  "argument " ++ s.label ++ ": " ++ what

/-- What is said about a text that is joined to a switch without a value. -/
def ignored (s : Switch) (text : List Char) : String :=
  s.complain ("ignored explicit argument " ++ String.ofList (quoteChars text))

/-- What is taken from one argument, and the switch that still asks for a value, if there is one. -/
abbrev Handful := List Taking × Option Switch

/-- A switch without anything joined to it. -/
def bare (s : Switch) : Handful :=
  if s.takesValue then ([], some s) else ([.switch s none], none)

/-- What a switch takes from the text that is joined to it: its value or, where its name has one
letter and asks for none, further switches of one letter. Where one of these is not known nothing
is taken. -/
def spread (p : Program) (s : Switch) (isShort : Bool) : List Char → Except String Handful
  | [] => if s.takesValue then .ok ([.switch s (some "")], none) else .error (ignored s [])
  | c :: cs =>
    if s.takesValue then .ok ([.switch s (some (String.ofList (c :: cs)))], none)
    else if !isShort then .error (ignored s (c :: cs))
    else do
      let (later, waiting) ←
        match p.switch? (String.ofList ['-', c]), cs with
        | none, _ => throw (ignored s (c :: cs))
        | some next, [] => pure (bare next)
        | some next, d :: cs => spread p next true (d :: cs)
      pure (.switch s none :: later, waiting)
termination_by cs => cs.length

def isShortName (name : String) : Bool :=
  match name.toList with
  | '-' :: '-' :: _ => false
  | _ => true

def Found.handful (p : Program) (arg : String) (f : Found) : Except String Handful :=
  match f.switch with
  | none => .ok ([.extra arg], none)
  | some s =>
    match f.joined with
    | none => .ok (bare s)
    | some joined => spread p s (isShortName f.name) joined

/-- The arguments for the operand in front of the others: a command takes all, a file itself with
the bar beside it. -/
def Operand.take? (o : Operand) (args : List (String × Mark)) :
    Option (List String × List (String × Mark)) :=
  match o, args with
  | .command, (_, .operand) :: _ | .command, (_, .bar) :: _ :: _ =>
    some (args.map (·.1), [])
  | .file, (bar, .bar) :: (arg, .operand) :: rest => some ([bar, arg], rest)
  | .file, (arg, .operand) :: (bar, .bar) :: rest => some ([arg, bar], rest)
  | .file, (arg, .operand) :: rest => some ([arg], rest)
  | _, _ => none

def extras (args : List (String × Mark)) : List Taking := args.map fun e => .extra e.1

/-- What is taken from marked arguments while `awaited` is the operand that is still asked for;
every round takes an argument, so their number bounds that of the rounds. -/
def take (p : Program) : Nat → Option Operand → List (String × Mark) → List Taking
  | 0, _, _ => []
  | _ + 1, _, [] => []
  | fuel + 1, awaited, (arg, .switch f) :: rest =>
    match f.handful p arg with
    | .error why => [.refusal why]
    | .ok (takings, none) => takings ++ take p fuel awaited rest
    | .ok (takings, some s) =>
      match rest with
      | (value, .operand) :: rest =>
        takings ++ .switch s (some value) :: take p fuel awaited rest
      | _ => [.refusal (s.complain "expected one argument")]
  | fuel + 1, awaited, args =>
    match awaited.bind (·.take? args) with
    | some (given, rest) => .operand given :: take p fuel none rest
    | none =>
      let (lead, rest) := args.span fun e => !e.2.isSwitch
      extras lead ++ take p fuel awaited rest

/-- All that a program takes from arguments, up to the first refusal. -/
def Program.takings (p : Program) (args : List String) : List Taking :=
  match p.marks args with
  | .error why => [.refusal why]
  | .ok args => take p (args.length + 1) p.operand args

end Playground.CommandLine
