import Mathlib.Data.List.TakeWhile
import Playground.CommandLine.Installed
import Playground.Proofs.Precedence

/-!
# What the arguments say about the configuration

Seven switches stand for keys of the configuration. Of several that are given for one key the last
counts, and what it gives wins over all other sources, unless it is an empty text, a zero or a bar:
these leave the key to the other sources, as if the switch were not there.

* `Switch.key?`, `Switch.value?` — the key that a switch stands for, and the value that it gives.
* `given?` — what the arguments give for a switch.
* `held_of_accepted` — the arguments that are read hold what is given.
* `commandLine?_entries` — what the resolver finds of it.
* `commandLine_wins_iff` — which values win.
-/

namespace Playground.CommandLine

open Playground.Config Playground.Decimal

/-! ### What is given -/

namespace Switch

/-- The key that a switch stands for. -/
def key? : Switch → Option String
  | compiler => some "compiler"
  | stdlib => some "options.stdlib"
  | noValidate => some "options.validate"
  | noOptimize => some "options.optimize"
  | wide => some "options.wide_address_mode"
  | host => some "web.host"
  | port => some "web.port"
  | _ => none

/-- The value that a switch gives with the text behind it; a bar in place of the text makes a list
without elements. -/
def value? (s : Switch) (text : Option String) : Option Value :=
  match s with
  | stdlib | wide => some (.bool true)
  | noValidate | noOptimize => some (.bool false)
  | compiler | host => text.map fun t => if t = "--" then .list [] else .str t
  | port => text.bind fun t => if t = "--" then some (.list []) else (integer? t.toList).map .int
  | _ => none

def ofKeys : List Switch := [compiler, stdlib, noValidate, noOptimize, wide, host, port]

end Switch

def Taking.text? (s : Switch) : Taking → Option (Option String)
  | .switch s' text => if s' = s then some text else none
  | _ => none

def Taking.operand? : Taking → Option (List String)
  | .operand given => some given
  | _ => none

/-- The latest of the things taken that `look` knows. -/
def latest? {γ : Type} (look : Taking → Option γ) (ts : List Taking) : Option γ :=
  (ts.filterMap look).getLast?

/-- The program that reads the arguments of a command. -/
def Program.ofCommand? : String → Option Program
  | "compile" => some .compile
  | "serve" => some .serve
  | "compilers" => some .compilers
  | _ => none

/-- What the command takes from the arguments behind its name. -/
def commandTakings (args : List String) : List Taking :=
  match latest? Taking.operand? (Program.main.takings args) with
  | some given => (Program.ofCommand? (given.headD "")).elim [] (·.takings given.tail)
  | none => []

/-- What the arguments give for a switch: of several occurrences the last counts. -/
def given? (args : List String) (s : Switch) : Option Value :=
  (latest? (Taking.text? s) (commandTakings args)).bind s.value?

/-- Does a value count that is given? -/
def counts : Value → Bool
  | .null => false
  | .str s => s ≠ ""
  | .int i => i ≠ 0
  | .list vs => !vs.isEmpty
  | _ => true

/-! ### What is held -/

/-- The value of what is given. -/
def Given.held {α : Type} (make : α → Value) : Given α → Option Value
  | absent => none
  | bar => some (.list [])
  | value a => some (make a)

def CompileArguments.held (a : CompileArguments) : Switch → Option Value
  | .compiler => a.compiler.held .str
  | .stdlib => a.stdlib.map .bool
  | .noValidate => a.validate.map .bool
  | .noOptimize => a.optimize.map .bool
  | .wide => a.wideAddressMode.map .bool
  | _ => none

def ServeArguments.held (a : ServeArguments) : Switch → Option Value
  | .host => a.host.held .str
  | .port => a.port.held .int
  | _ => none

def Command.held : Command → Switch → Option Value
  | .compile a => a.held
  | .serve a => a.held
  | .compilers => fun _ => none

theorem held_ofAny (text : Option String) :
    (Given.ofAny id text).held .str =
      text.map fun t => if t = "--" then .list [] else .str t := by
  unfold Given.ofAny
  split
  next => rfl
  next => rfl
  next t other => simp [Given.held, if_neg other]

theorem held_ofText {text : Option String} {g : Given Int}
    (h : Given.ofText readPort text = .ok g) : g.held .int = Switch.port.value? text := by
  unfold Given.ofText at h
  split at h
  next => cases h; rfl
  next => cases h; rfl
  next t other =>
    unfold readPort at h
    cases known : integer? t.toList with
    | some i =>
      simp only [known] at h
      cases h
      simp [Given.held, Switch.value?, if_neg other, known]
    | none =>
      simp only [known] at h
      cases h

/-- **One thing is taken**: the value that is held changes with what is looked for, and with nothing
else. -/
theorem takeForCompile_held {draft draft' : CompileDraft} {t : Taking} {s : Switch} {key : String}
    (own : s.key? = some key) (h : takeForCompile draft t = .ok draft') :
    draft'.1.held s = ((t.text? s).map s.value?).getD (draft.1.held s) := by
  obtain ⟨a, file, extras⟩ := draft
  cases t with
  | switch s' text =>
    cases s' with
    | output =>
      have read : (Given.ofText readOutput text >>= fun output =>
          pure ({ a with output }, file, extras)) = .ok draft' := h
      cases known : Given.ofText readOutput text with
      | error ending => rw [known] at read; cases read
      | ok output =>
        rw [known] at read
        cases read
        cases s <;> cases own <;> rfl
    | _ =>
      cases h <;> cases s <;> cases own <;>
        simp [Taking.text?, CompileArguments.held, Switch.value?, held_ofAny]
  | operand given => cases h; rfl
  | extra arg => cases h; rfl
  | refusal why => cases h

theorem takeForServe_held {draft draft' : ServeArguments × List String} {t : Taking} {s : Switch}
    {key : String} (own : s.key? = some key) (h : takeForServe draft t = .ok draft') :
    draft'.1.held s = ((t.text? s).map s.value?).getD (draft.1.held s) := by
  obtain ⟨a, extras⟩ := draft
  cases t with
  | switch s' text =>
    cases s' with
    | port =>
      have read : (Given.ofText readPort text >>= fun port =>
          pure ({ a with port }, extras)) = .ok draft' := h
      cases known : Given.ofText readPort text with
      | error ending => rw [known] at read; cases read
      | ok port =>
        rw [known] at read
        cases read
        cases s <;> cases own <;>
          simp [Taking.text?, ServeArguments.held, held_ofText known]
    | _ =>
      cases h <;> cases s <;> cases own <;>
        simp [Taking.text?, ServeArguments.held, Switch.value?, held_ofAny]
  | operand given => cases h; rfl
  | extra arg => cases h; rfl
  | refusal why => cases h

/-! ### All is taken -/

/-- **What the last taking leaves**: a fold over takings that changes what is seen only with what
`look` knows leaves what the latest of these gives. -/
theorem foldlM_latest {δ γ β ε : Type} {step : δ → Taking → Except ε δ} {ts : List Taking}
    {d d' : δ} (h : ts.foldlM step d = .ok d') (look : Taking → Option γ) (give : γ → β)
    (view : δ → β)
    (steps : ∀ d t d', step d t = .ok d' → view d' = ((look t).map give).getD (view d)) :
    view d' = ((latest? look ts).map give).getD (view d) := by
  induction ts generalizing d with
  | nil =>
    cases h
    rfl
  | cons t ts ih =>
    rw [List.foldlM_cons] at h
    cases first : step d t with
    | error ending => rw [first] at h; cases h
    | ok d₁ =>
      rw [first] at h
      rw [ih h, steps d t d₁ first]
      unfold latest?
      cases known : look t with
      | none => rw [List.filterMap_cons_none known]; rfl
      | some c =>
        rw [List.filterMap_cons_some known, List.getLast?_cons]
        cases (ts.filterMap look).getLast? <;> rfl

/-- What the arguments of a command hold is what is given last for each switch. -/
theorem readCompile_held {args : List String} {c : Command} {extras : List String} {s : Switch}
    {key : String} (own : s.key? = some key) (h : readCompile args = .ok (c, extras)) :
    c.held s = (latest? (Taking.text? s) (Program.compile.takings args)).bind s.value? := by
  unfold readCompile at h
  cases read : (Program.compile.takings args).foldlM takeForCompile
      (({ file := {} }, none, []) : CompileDraft) with
  | error ending => rw [read] at h; cases h
  | ok draft =>
    rw [read] at h
    obtain ⟨a, file, extras'⟩ := draft
    have held := foldlM_latest read (Taking.text? s) s.value? (·.1.held s)
      fun _ _ _ => takeForCompile_held own
    cases file with
    | none => cases h
    | some file =>
      cases h
      have file_aside : (Command.compile { a with file }).held s = a.held s := by
        cases s <;> rfl
      rw [file_aside, held]
      cases latest? (Taking.text? s) (Program.compile.takings args) with
      | some text => rfl
      | none => cases s <;> rfl

theorem readServe_held {args : List String} {c : Command} {extras : List String} {s : Switch}
    {key : String} (own : s.key? = some key) (h : readServe args = .ok (c, extras)) :
    c.held s = (latest? (Taking.text? s) (Program.serve.takings args)).bind s.value? := by
  unfold readServe at h
  cases read : (Program.serve.takings args).foldlM takeForServe ({}, []) with
  | error ending => rw [read] at h; cases h
  | ok draft =>
    rw [read] at h
    cases h
    rw [show (Command.serve draft.1).held s = draft.1.held s from rfl,
      foldlM_latest read (Taking.text? s) s.value? (·.1.held s)
        fun _ _ _ => takeForServe_held own]
    cases latest? (Taking.text? s) (Program.serve.takings args) with
    | some text => rfl
    | none => cases s <;> rfl

/-- The list of compilers takes no switch that stands for a key. -/
theorem readCompilers_held {args : List String} {c : Command} {extras : List String} {s : Switch}
    (h : readCompilers args = .ok (c, extras)) :
    c.held s = (latest? (Taking.text? s) (Program.compilers.takings args)).bind s.value? := by
  unfold readCompilers at h
  cases read : (Program.compilers.takings args).foldlM takeForCompilers [] with
  | error ending => rw [read] at h; cases h
  | ok extras' =>
    rw [read] at h
    cases h
    have nothing : (none : Option Value) =
        ((latest? (Taking.text? s) (Program.compilers.takings args)).map s.value?).getD none := by
      refine foldlM_latest read _ _ (fun _ => none) fun d t d' taken => ?_
      cases t with
      | switch s' text => cases taken
      | _ => rfl
    rw [show Command.compilers.held s = none from rfl, nothing]
    cases latest? (Taking.text? s) (Program.compilers.takings args) <;> rfl

theorem readCommand_held {args : List String} {c : Command} {extras : List String} {s : Switch}
    {key : String} (own : s.key? = some key) (h : readCommand args = .ok (c, extras)) :
    c.held s =
      (latest? (Taking.text? s)
        ((Program.ofCommand? (args.headD "")).elim [] (·.takings args.tail))).bind s.value? := by
  unfold readCommand at h
  dsimp only at h
  cases known : commands.find? fun c => c.1 = args.headD "" with
  | none => rw [known] at h; cases h
  | some reader =>
    rw [known] at h
    have named : args.headD "" = reader.1 := by
      simpa [eq_comm] using List.find?_some known
    rw [named]
    have mem : reader ∈ commands := List.mem_of_find?_eq_some known
    simp only [commands, List.mem_cons, List.not_mem_nil, or_false] at mem
    rcases mem with rfl | rfl | rfl
    · exact readCompile_held own h
    · exact readServe_held own h
    · exact readCompilers_held h

theorem take_command {d d' : Draft} {t : Taking} (h : d.take t = .ok d') :
    d'.command =
      (t.operand?.map fun given => (readCommand given).toOption.map (·.1)).getD d.command := by
  cases t with
  | switch s text =>
    cases s with
    | verbose | quiet =>
      simp only [Draft.take] at h
      split at h <;> cases h
      rfl
    | _ => cases h <;> rfl
  | operand given =>
    have read : (readCommand given >>= fun p =>
        pure { d with command := some p.1, commandExtras := p.2 }) = .ok d' := h
    cases known : readCommand given with
    | error ending => rw [known] at read; cases read
    | ok p =>
      rw [known] at read
      cases read
      simp [Taking.operand?, known, Except.toOption]
  | extra arg => cases h; rfl
  | refusal why => cases h

/-- The command that is read is the one that is named. -/
theorem command_of_accepted {args : List String} {a : Arguments}
    (accepted : Arguments.ofStrings args = .ok a) :
    ∃ given extras, latest? Taking.operand? (Program.main.takings args) = some given ∧
      readCommand given = .ok (a.command, extras) := by
  unfold Arguments.ofStrings at accepted
  cases read : (Program.main.takings args).foldlM Draft.take {} with
  | error ending => rw [read] at accepted; cases accepted
  | ok d =>
    rw [read] at accepted
    have finished : d.finish = .ok a := accepted
    have held : d.command = some a.command := by
      unfold Draft.finish at finished
      split at finished
      next => cases finished
      next command known =>
        split at finished
        next => cases finished; exact known
        next => cases finished
    have named := foldlM_latest read Taking.operand?
      (fun given => (readCommand given).toOption.map (·.1)) Draft.command
      fun _ _ _ => take_command
    rw [held] at named
    cases latest : latest? Taking.operand? (Program.main.takings args) with
    | none => rw [latest] at named; cases named
    | some given =>
      rw [latest] at named
      cases known : readCommand given with
      | error ending => simp [known, Except.toOption] at named
      | ok p =>
        refine ⟨given, p.2, rfl, ?_⟩
        simp only [known, Except.toOption, Option.map_some, Option.getD_some,
          Option.some.injEq] at named
        rw [known, named]

/-- **What is read is what is given.** The command holds for each switch what the arguments give. -/
theorem held_of_accepted {args : List String} {a : Arguments} {s : Switch} {key : String}
    (accepted : Arguments.ofStrings args = .ok a) (own : s.key? = some key) :
    a.command.held s = given? args s := by
  obtain ⟨given, extras, latest, read⟩ := command_of_accepted accepted
  rw [readCommand_held own read, given?, commandTakings, latest]

/-! ### What the resolver finds -/

theorem lookup_append (key : String) (xs ys : Entries) :
    Value.lookup key (xs ++ ys) = (Value.lookup key xs).or (Value.lookup key ys) := by
  induction xs with
  | nil => rfl
  | cons e xs ih =>
    obtain ⟨k, v⟩ := e
    cases k with
    | str s =>
      simp only [List.cons_append, Value.lookup]
      split
      · rfl
      · exact ih
    | _ => exact ih

/-- The entries of a value under a key, if it counts. -/
def entriesOf (key : String) (v : Option Value) : Entries :=
  ((v.filter counts).map fun v => (Value.str key, v)).toList

theorem lookup_entriesOf (key key' : String) (v : Option Value) :
    Value.lookup key' (entriesOf key v) = if key = key' then v.filter counts else none := by
  unfold entriesOf
  cases v.filter counts <;> simp [Value.lookup]

/-- **The entries of a command** are what counts of what it holds, key after key. -/
theorem commandEntries_eq (c : Command) :
    Arguments.commandEntries c =
      Switch.ofKeys.flatMap fun s => entriesOf (s.key?.getD "") (c.held s) := by
  have text (key : String) (g : Given String) :
      Arguments.textEntry key g.value? = entriesOf key (g.held .str) := by
    cases g with
    | value s =>
      by_cases empty : s = "" <;>
        simp [Arguments.textEntry, Given.value?, Given.held, entriesOf, counts, empty,
          Option.filter]
    | _ => rfl
  have number (key : String) (g : Given Int) :
      Arguments.numberEntry key g.value? = entriesOf key (g.held .int) := by
    cases g with
    | value i =>
      by_cases zero : i = 0 <;>
        simp [Arguments.numberEntry, Given.value?, Given.held, entriesOf, counts, zero,
          Option.filter]
    | _ => rfl
  have flag (key : String) (b : Option Bool) :
      Arguments.flagEntry key b = entriesOf key (b.map .bool) := by
    cases b <;> rfl
  cases c with
  | compile a =>
    simp only [Arguments.commandEntries, text, flag]
    simp [Switch.ofKeys, Switch.key?, Command.held, CompileArguments.held, entriesOf]
  | serve a =>
    simp only [Arguments.commandEntries, text, number]
    simp [Switch.ofKeys, Switch.key?, Command.held, ServeArguments.held, entriesOf]
  | compilers => rfl

theorem lookup_commandEntries (c : Command) (key : String) :
    Value.lookup key (Arguments.commandEntries c) =
      Switch.ofKeys.findSome? fun s =>
        if s.key?.getD "" = key then (c.held s).filter counts else none := by
  rw [commandEntries_eq]
  induction Switch.ofKeys with
  | nil => rfl
  | cons s rest ih =>
    rw [List.flatMap_cons, lookup_append, ih, lookup_entriesOf, List.findSome?_cons]
    cases (if s.key?.getD "" = key then (c.held s).filter counts else none) <;> rfl

/-- **What the resolver finds** under the key of a switch is what the command holds for it, if that
counts. -/
theorem commandLine?_entries (c : Command) {s : Switch} {key : String} (own : s.key? = some key) :
    commandLine? (Arguments.commandEntries c) key = (c.held s).filter counts := by
  have found : Value.lookup key (Arguments.commandEntries c) = (c.held s).filter counts := by
    rw [lookup_commandEntries]
    cases s <;> cases own <;>
      (simp [Switch.ofKeys, Switch.key?, List.findSome?_cons]
       cases Option.filter counts _ <;> rfl)
  unfold commandLine?
  rw [found]
  cases counted : (c.held s).filter counts with
  | some v =>
    have notNull : counts v = true := (Option.filter_eq_some_iff.1 counted).2
    cases v <;> first | rfl | cases notNull
  | none =>
    -- a key with a point in it is none that an entry is named by before the point
    have lead (part : String) (first : (parts key).head? = some part)
        (absent : Value.lookup part (Arguments.commandEntries c) = none) :
        nested? (.dict (Arguments.commandEntries c)) key = none := by
      have plain : (Value.dict (Arguments.commandEntries c)).unrolled =
          .dict (Arguments.commandEntries c) := by
        rw [Value.unrolled]
        nofun
      obtain ⟨rest, eq⟩ := List.head?_eq_some_iff.1 first
      rw [nested?, eq, descend?, plain]
      simp [absent, present?]
    have pointless (part : String) (other : ∀ s ∈ Switch.ofKeys, s.key?.getD "" ≠ part) :
        Value.lookup part (Arguments.commandEntries c) = none := by
      rw [lookup_commandEntries, List.findSome?_eq_none_iff]
      exact fun s mem => if_neg (other s mem)
    cases s <;> cases own <;> dsimp only
    case none.compiler.refl => exact lead "compiler" (by decide) (found.trans counted)
    case none.host.refl | none.port.refl =>
      exact lead "web" (by decide) (pointless "web" (by decide))
    all_goals exact lead "options" (by decide) (pointless "options" (by decide))

/-! ### The answers -/

theorem answer_of_commandLine {r : Resolver} {key : String} {v : Value}
    (h : commandLine? r.commandLine key = some v) : r.answer key = .ok (v, .commandLine) := by
  rw [Resolver.answer, resolve_eq, Resolver.candidates, h]
  rfl

theorem answer_of_environment {r : Resolver} {key text : String}
    (h : commandLine? r.commandLine key = none) (h' : environment? r.environment key = some text) :
    r.answer key = .ok (.str text, .environment) := by
  rw [Resolver.answer, resolve_eq, Resolver.candidates, h, h']
  rfl

/-- A command line that knows nothing of a key is as good as none. -/
theorem answer_of_silence {r : Resolver} {key : String}
    (h : commandLine? r.commandLine key = none) (h' : commandLine? [] key = none) :
    r.answer key = Resolver.answer { r with commandLine := [] } key := by
  rw [Resolver.answer, Resolver.answer, resolve_eq, resolve_eq]
  simp only [Resolver.candidates, h, h']

theorem mem_of_firstOf {key : String} {v : Value} {source : Source} {cs : List Candidate}
    (h : firstOf key cs = .ok (v, source)) : (source, .ok (some v)) ∈ cs := by
  induction cs with
  | nil => cases h
  | cons c cs ih =>
    rcases c with ⟨source', fault | _ | v'⟩
    · cases h
    · exact List.mem_cons_of_mem _ (ih h)
    · cases h
      exact List.mem_cons_self

theorem answer_source {r : Resolver} {key : String} {v : Value}
    (h : commandLine? r.commandLine key = none) : r.answer key ≠ .ok (v, .commandLine) := by
  intro answer
  rw [Resolver.answer, resolve_eq] at answer
  have mem := mem_of_firstOf answer
  simp [Resolver.candidates, h] at mem

/-- **Which values win.** What the arguments give last for a switch is the answer for its key
exactly if it counts; where nothing that counts is given, the answer is the same as without
arguments. -/
theorem commandLine_wins_iff {args : List String} {a : Arguments}
    (accepted : Arguments.ofStrings args = .ok a) {w : World} {r : Resolver}
    (sources : w.resolver a = .ok r) {s : Switch} {key : String} (own : s.key? = some key) :
    (∀ v, given? args s = some v → (r.answer key = .ok (v, .commandLine) ↔ counts v = true)) ∧
      ((∀ v, given? args s = some v → counts v = false) →
        r.answer key = Resolver.answer { r with commandLine := [] } key) := by
  have line : r.commandLine = Arguments.commandEntries a.command := by
    unfold World.resolver at sources
    cases file : w.userFile a with
    | error f => rw [file] at sources; cases sources
    | ok path => rw [file] at sources; cases sources; rfl
  have found : commandLine? r.commandLine key = (given? args s).filter counts := by
    rw [line, commandLine?_entries _ own, held_of_accepted accepted own]
  have silence : commandLine? [] key = none := commandLine?_entries .compilers own
  refine ⟨fun v given => ⟨fun answer => ?_, fun counted => ?_⟩, fun none => ?_⟩
  · cases counted : counts v with
    | true => rfl
    | false =>
      exact absurd answer
        (answer_source (by rw [found, given]; simp [Option.filter, counted]))
  · exact answer_of_commandLine (by rw [found, given]; simp [Option.filter, counted])
  · refine answer_of_silence ?_ silence
    rw [found, Option.filter_eq_none_iff]
    intro v given
    simp [none v given]

/-- An environment that names a compiler and a port. -/
def namingWorld : World :=
  { World.installed with
    environment := [("COMPILEPAD_COMPILER", "A"), ("COMPILEPAD_WEB_PORT", "9000")] }

theorem commandLine_wins_twice :
    let args := ["compile", "--compiler", "A", "a.py", "--compiler", "B"]
    ∃ a r, Arguments.ofStrings args = .ok a ∧ namingWorld.resolver a = .ok r ∧
      Switch.compiler.key? = some "compiler" ∧ given? args .compiler = some (.str "B") ∧
      r.answer "compiler" = .ok (.str "B", .commandLine) := by
  intro args
  have accepted : Arguments.ofStrings args =
      .ok { command := .compile { file := Path.ofString "a.py", compiler := .value "B" } } := by
    decide +kernel
  have given : given? args .compiler = some (.str "B") := by
    rw [given?, show latest? (Taking.text? .compiler) (commandTakings args) = some (some "B") by
      decide +kernel]
    rfl
  exact ⟨_, _, accepted, rfl, rfl, given,
    ((commandLine_wins_iff accepted (w := namingWorld) rfl rfl).1 _ given).2 (by decide)⟩

/-- **Not every value wins.** A zero is given for the port, and the environment is asked. -/
theorem zero_port_loses :
    let args := ["serve", "--port", "0"]
    ∃ a r, Arguments.ofStrings args = .ok a ∧ namingWorld.resolver a = .ok r ∧
      given? args .port = some (.int 0) ∧
      r.answer "web.port" = .ok (.str "9000", .environment) := by
  intro args
  refine ⟨{ command := .serve { port := .value 0 } }, _, by decide +kernel, rfl, ?_, ?_⟩
  · rw [given?, show latest? (Taking.text? .port) (commandTakings args) = some (some "0") by
      decide +kernel]
    have zero : integer? ['0'] = some 0 := by decide +kernel
    simp [Switch.value?, zero]
  · exact answer_of_environment
      (commandLine?_entries (.serve { port := .value 0 }) (s := .port) rfl)
      (by decide +kernel)

end Playground.CommandLine
