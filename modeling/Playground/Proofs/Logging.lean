import Mathlib.Data.List.Basic
import Mathlib.Data.List.Induction
import Mathlib.Tactic.SplitIfs
import Playground.Log

/-!
# The log delivers exactly

Sinks are registered and unregistered, the verbosity is set and messages are logged. A sink may be
registered several times, and in any of its calls unregister itself and fail; whatever came before,
a message that the verbosity shows is delivered to every sink that was registered when it came.

* `Setting`, `BoardCall`, `Board.serve` — what the verbosity may be set to, a call, and what it
  does.
* `leaving`, `failing` — the sinks that unregister themselves, and those that fail, of a message.
* `Register` — the verbosity, the registered sinks and the number of their calls, as calls alone
  determine them.
* `foldl_callSink` — what is left of the sinks when all of them have been called.
* `Keeps.serve`, `keeps_boardAfter` — what one call and what all calls preserve.
* `Exact`, `log_delivers` — what the log does after any calls.
-/

namespace Playground.Log

open Playground.Text

/-! ### Calls -/

/-- What the verbosity may be set to: the name or the number of a level, or a truth value, which
counts as a number. -/
inductive Setting where
  | name (s : String)
  | number (i : Int)
  | flag (b : Bool)

namespace Setting

def value : Setting → Value
  | name s => .str s
  | number i => .int i
  | flag b => .bool b

/-- The level that is meant, if there is one; names are compared without regard to letter case and
to the white space around them. -/
def level? : Setting → Option (Fin 4)
  | name s => (List.finRange 4).find? fun n =>
    Verbosity.names[n.val]? = some (toLower (trimmed s))
  | number i => (List.finRange 4).find? fun n => (n.val : Int) = i
  | flag b => (List.finRange 4).find? fun n => n.val = b.toNat

/-- The kind of the fault if there is none. -/
def refusal : Setting → String
  | name _ => "KeyError"
  | _ => "ValueError"

/-- The level that is meant is set, and a setting that means none is a fault. -/
theorem ofValue_value (v : Setting) :
    (∃ n, v.level? = some n ∧ Verbosity.ofValue v.value = .ok (.level n)) ∨
      (v.level? = none ∧ ∃ f, Verbosity.ofValue v.value = .error f ∧ f.kind = v.refusal) := by
  cases v with
  | name s =>
    simp only [level?, value, Verbosity.ofValue, Verbosity.ofName]
    generalize toLower (trimmed s) = key
    split_ifs with quiet normal verbose debug
    · exact Or.inl ⟨0, by subst quiet; rfl, rfl⟩
    · exact Or.inl ⟨1, by subst normal; rfl, rfl⟩
    · exact Or.inl ⟨2, by subst verbose; rfl, rfl⟩
    · exact Or.inl ⟨3, by subst debug; rfl, rfl⟩
    · refine Or.inr ⟨?_, _, rfl, rfl⟩
      simp [Fin.forall_fin_succ, Verbosity.names, Ne.symm quiet, Ne.symm normal, Ne.symm verbose,
        Ne.symm debug]
  | number i =>
    simp only [level?, value, Verbosity.ofValue, Verbosity.ofInt]
    split_ifs with zero one two three
    · exact Or.inl ⟨0, by subst zero; rfl, rfl⟩
    · exact Or.inl ⟨1, by subst one; rfl, rfl⟩
    · exact Or.inl ⟨2, by subst two; rfl, rfl⟩
    · exact Or.inl ⟨3, by subst three; rfl, rfl⟩
    · refine Or.inr ⟨?_, _, rfl, rfl⟩
      simp [Fin.forall_fin_succ, Ne.symm zero, Ne.symm one, Ne.symm two, Ne.symm three]
  | flag b => cases b <;> exact Or.inl ⟨_, rfl, rfl⟩

/-- A board is set to the level that is meant; a setting that means none fails and changes
nothing. -/
theorem setVerbosity_value (b : Board) (v : Setting) :
    (∃ n, v.level? = some n ∧
        b.setVerbosity v.value = ({ b with verbosity := .level n }, .ok ())) ∨
      (v.level? = none ∧ ∃ f, b.setVerbosity v.value = (b, .error f) ∧ f.kind = v.refusal) := by
  rcases v.ofValue_value with ⟨n, meant, set⟩ | ⟨unknown, f, failed, kind⟩
  · exact Or.inl ⟨n, meant, by simp only [Board.setVerbosity, set]⟩
  · exact Or.inr ⟨unknown, f, by simp only [Board.setVerbosity, failed], kind⟩

end Setting

inductive BoardCall where
  | addSink (name : String)
  | removeSink (name : String)
  | setVerbosity (v : Setting)
  | log (level : Level) (logger message : String)

section

variable (mood : Nat → String → Record → Mood)

/-- The board after a call; a call that fails leaves it as it is. -/
def Board.serve (b : Board) : BoardCall → Board
  | .addSink name => b.addSink name
  | .removeSink name => b.removeSink name
  | .setVerbosity v => (b.setVerbosity v.value).1
  | .log level logger message =>
    match b.tryEmit level logger message with
    | .ok (after, _) => after
    | .error _ => b

def boardAfter (level : Fin 4) (colours terminal : Bool) (calls : List BoardCall) : Board :=
  calls.foldl Board.serve { verbosity := .level level, colours, terminal, mood }

/-! ### What calls determine -/

/-- The sinks that unregister themselves when all of them are called with a record, after `k` other
calls of sinks. -/
def leaving (r : Record) (k : Nat) (names : List String) : List String :=
  ((names.zipIdx k).filter fun call => (mood call.2 call.1 r).removesItself).map (·.1)

/-- The sinks that fail when all of them are called with a record, after `k` other calls. -/
def failing (r : Record) (k : Nat) (names : List String) : List String :=
  ((names.zipIdx k).filter fun call => (mood call.2 call.1 r).fault.isSome).map (·.1)

/-- The notes on standard error of the sinks that fail. -/
def notesOf (r : Record) (k : Nat) (names : List String) : String :=
  String.join ((failing mood r k names).map fun _ => sinkNote)

/-- The verbosity, the sinks that are registered, once for each registration, and the number of
calls of sinks. -/
structure Register where
  level : Fin 4
  names : List String := []
  calls : Nat := 0

/-- A register after a call; a sink that unregisters itself gives up its first registration. -/
def Register.serve (r : Register) : BoardCall → Register
  | .addSink name => { r with names := r.names ++ [name] }
  | .removeSink name => { r with names := r.names.erase name }
  | .setVerbosity v => { r with level := v.level?.getD r.level }
  | .log level logger message =>
    if level.rank ≤ r.level.val then
      { r with
        names := r.names.diff (leaving mood (record level logger message) r.calls r.names)
        calls := r.calls + r.names.length }
    else r

def registerAfter (level : Fin 4) (calls : List BoardCall) : Register :=
  calls.foldl (Register.serve mood) { level }

/-! ### Calling the sinks -/

theorem leaving_cons (r : Record) (k : Nat) (name : String) (names : List String) :
    leaving mood r k (name :: names) =
      (if (mood k name r).removesItself then [name] else []) ++ leaving mood r (k + 1) names := by
  cases removes : (mood k name r).removesItself <;> simp [leaving, removes]

theorem notesOf_cons (r : Record) (k : Nat) (name : String) (names : List String) :
    notesOf mood r k (name :: names) =
      (if (mood k name r).fault.isSome then sinkNote else "") ++ notesOf mood r (k + 1) names := by
  cases fails : (mood k name r).fault <;>
    simp [notesOf, failing, fails, String.join_cons]

/-- **When all sinks have been called, those that unregistered themselves are gone**, once for every
call in which they did, and those that failed have been noted. -/
theorem foldl_callSink (r : Record) (names : List String) (b : Board) :
    names.foldl (Board.callSink r) b =
      { b with
        sinks := b.sinks.diff (leaving b.mood r b.calls names)
        calls := b.calls + names.length
        err := b.err ++ notesOf b.mood r b.calls names } := by
  induction names generalizing b with
  | nil => simp [leaving, notesOf, failing]
  | cons name names ih =>
    have first : b.callSink r name =
        { b with
          sinks := b.sinks.diff (if (b.mood b.calls name r).removesItself then [name] else [])
          calls := b.calls + 1
          err := b.err ++ if (b.mood b.calls name r).fault.isSome then sinkNote else "" } := by
      unfold Board.callSink Board.removeSink
      by_cases removes : (b.mood b.calls name r).removesItself <;>
        by_cases fails : (b.mood b.calls name r).fault.isSome <;> simp [removes, fails]
    rw [List.foldl_cons, ih, first, leaving_cons, notesOf_cons, List.diff_append, List.length_cons]
    simp only [String.append_assoc, Nat.add_assoc, Nat.add_comm 1]

/-! ### One call -/

/-- The board shows as much and holds the sinks as the register says. -/
structure Keeps (r : Register) (b : Board) : Prop where
  mood : b.mood = mood
  verbosity : b.verbosity = .level r.level
  sinks : b.sinks = r.names
  calls : b.calls = r.calls

/-- The board after a message was delivered to the sinks and printed. -/
def Board.posted (b : Board) (r : Register) (level : Level) (logger message : String) : Board :=
  { b with
    sinks := r.names.diff (leaving mood (record level logger message) r.calls r.names)
    calls := r.calls + r.names.length
    out := b.out ++ if level = .error then "" else b.line level message ++ "\n"
    err := b.err ++ notesOf mood (record level logger message) r.calls r.names ++
      if level = .error then b.line level message ++ "\n" else "" }

namespace Keeps

variable {mood} {r : Register} {b : Board} (keeps : Keeps mood r b)

include keeps

/-- A message that the verbosity hides leaves no trace. -/
theorem hidden {level : Level} (urgent : r.level.val < level.rank) (logger message : String) :
    b.tryEmit level logger message = .ok (b, []) := by
  simp [Board.tryEmit, Board.emit, keeps.verbosity, Verbosity.fault?, Verbosity.hides, urgent]

/-- A message that the verbosity shows is delivered to every sink and printed. -/
theorem shown {level : Level} (urgent : level.rank ≤ r.level.val) (logger message : String) :
    b.tryEmit level logger message =
      .ok (b.posted mood r level logger message,
        r.names.map fun name => (name, record level logger message)) := by
  have shows : b.verbosity.hides level.rank = false := by
    simp [keeps.verbosity, Verbosity.hides, urgent]
  have emitted : b.emit level logger message =
      (b.posted mood r level logger message,
        r.names.map fun name => (name, record level logger message)) := by
    simp only [Board.emit, shows, foldl_callSink, keeps.mood, keeps.sinks, keeps.calls,
      Board.print, Board.posted]
    by_cases isError : level = .error <;> simp [isError, String.append_assoc]
  simp [Board.tryEmit, keeps.verbosity, Verbosity.fault?, emitted]

/-- **What one call preserves.** -/
theorem serve (c : BoardCall) : Keeps mood (r.serve mood c) (b.serve c) := by
  cases c with
  | addSink name =>
    refine ⟨keeps.mood, keeps.verbosity, ?_, keeps.calls⟩
    exact congrArg (· ++ [name]) keeps.sinks
  | removeSink name =>
    refine ⟨keeps.mood, keeps.verbosity, ?_, keeps.calls⟩
    exact congrArg (·.erase name) keeps.sinks
  | setVerbosity v =>
    rcases v.setVerbosity_value b with ⟨n, meant, set⟩ | ⟨unknown, f, failed, -⟩
    · simp only [Board.serve, Register.serve, set, meant]
      exact ⟨keeps.mood, rfl, keeps.sinks, keeps.calls⟩
    · simp only [Board.serve, Register.serve, failed, unknown]
      exact keeps
  | log level logger message =>
    by_cases urgent : level.rank ≤ r.level.val
    · simp only [Board.serve, Register.serve, keeps.shown urgent, urgent, if_true]
      exact ⟨keeps.mood, keeps.verbosity, rfl, rfl⟩
    · simp only [Board.serve, Register.serve, keeps.hidden (Nat.lt_of_not_le urgent), urgent,
        if_false]
      exact keeps

end Keeps

/-- **What all calls preserve.** -/
theorem keeps_boardAfter (level : Fin 4) (colours terminal : Bool) (calls : List BoardCall) :
    Keeps mood (registerAfter mood level calls) (boardAfter mood level colours terminal calls) := by
  induction calls using List.reverseRecOn with
  | nil => exact ⟨rfl, rfl, rfl, rfl⟩
  | append_singleton calls c ih =>
    simp only [registerAfter, boardAfter, List.foldl_append, List.foldl_cons, List.foldl_nil]
    exact ih.serve c

/-- What a board does that keeps a register. -/
structure Exact (r : Register) (b : Board) : Prop where
  verbosity : b.verbosity = .level r.level
  sinks : b.sinks = r.names
  /-- A message above the verbosity is neither delivered nor printed. -/
  hidden : ∀ (level : Level) (logger message : String), r.level.val < level.rank →
    b.tryEmit level logger message = .ok (b, [])
  /-- Any other is delivered as one record to every sink, once for each registration and in order;
  then it is printed. -/
  shown : ∀ (level : Level) (logger message : String), level.rank ≤ r.level.val →
    b.tryEmit level logger message =
      .ok (b.posted mood r level logger message,
        r.names.map fun name => (name, record level logger message))
  /-- Warnings and errors are always shown. -/
  urgent : ∀ level : Level, level = .warning ∨ level = .error → level.rank ≤ r.level.val
  /-- The level that is meant is set. -/
  sets : ∀ (v : Setting) n, v.level? = some n →
    b.setVerbosity v.value = ({ b with verbosity := .level n }, .ok ())
  /-- A setting that means no level fails and changes nothing. -/
  refuses : ∀ v : Setting, v.level? = none →
    ∃ f, b.setVerbosity v.value = (b, .error f) ∧ f.kind = v.refusal

/-- **The log delivers exactly**, after any sequence of calls: the verbosity and the registered
sinks are those that the calls determine, and what becomes of a message depends on nothing else. -/
theorem log_delivers (level : Fin 4) (colours terminal : Bool) (calls : List BoardCall) :
    Exact mood (registerAfter mood level calls) (boardAfter mood level colours terminal calls) := by
  have keeps := keeps_boardAfter mood level colours terminal calls
  constructor
  case verbosity => exact keeps.verbosity
  case sinks => exact keeps.sinks
  case hidden =>
    intro level logger message above
    exact keeps.hidden above logger message
  case shown =>
    intro level logger message within
    exact keeps.shown within logger message
  case urgent =>
    rintro level (rfl | rfl)
    · exact Nat.zero_le _
    · exact Nat.zero_le _
  case sets =>
    intro v n meant
    rcases v.setVerbosity_value (boardAfter mood level colours terminal calls) with
      ⟨n', meant', set⟩ | ⟨unknown, -⟩
    · obtain rfl : n = n' := Option.some.inj (meant.symm.trans meant')
      exact set
    · cases meant.symm.trans unknown
  case refuses =>
    intro v unknown
    rcases v.setVerbosity_value (boardAfter mood level colours terminal calls) with
      ⟨n, meant, -⟩ | ⟨-, refused⟩
    · cases meant.symm.trans unknown
    · exact refused

/-- A sink that is registered twice unregisters itself in its second call, beside one that fails,
and hears a message twice: every sink that was registered is called, and one registration is gone.
-/
example :
    let mood : Nat → String → Record → Mood
      | k, "once", _ => { removesItself := k = 2 }
      | _, _, _ => { fault := some .noArtifact }
    let calls : List BoardCall := [.addSink "once", .addSink "loud", .addSink "once"]
    let heard := (boardAfter mood 1 false false calls).tryEmit .error "core" "no"
    heard.toOption.map (fun h => (h.2.map (·.1), h.1.sinks, h.1.err)) =
      some (["once", "loud", "once"], ["loud", "once"], sinkNote ++ "[error] no\n") := by
  decide +kernel

end

end Playground.Log
