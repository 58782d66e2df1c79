import Playground.Proofs.CompileExits
import Playground.Proofs.Exchanges
import Playground.Proofs.Reporting

/-!
# The last diagnostics

The bytecode compiler keeps the diagnostics of its latest call, and may be asked for them at any
time. What it answers explains this call alone: there is something exactly if the text was rejected.
A run whose text is rejected therefore has something to report.

* `Bytecode.Demand`, `Bytecode.Backend.serve` — the calls of a compiler's life.
* `Bytecode.keptAfter` — what the latest compile call left.
* `Bytecode.Accounts.serve` — what one call preserves; `Bytecode.accounts_of_exchanges` — what holds
  at every call.
* `Session.exit_of_refuses` — a refusal of the bytecode compiler in a session.
* `Session.errorCount_of_reject`, `Session.errorCount_of_refusal` — the number of errors that the
  report of a refusal shows.
* `last_diagnostics_explain` — compile calls and the diagnostics after them agree.
-/

namespace Playground

/-! ### A compiler that is called again and again -/

namespace Bytecode

/-- The calls of a compiler's life. -/
inductive Demand where
  | load
  | compile (text : String) (options : Options)
  | lastDiagnostics

/-- The interpreter and the compiler after a call. -/
def Backend.serve (s : Interpreter × Backend) : Demand → Interpreter × Backend
  | .load => (s.1, s.2.load s.1)
  | .compile text options =>
    ((s.2.compileSource s.1 text options).1, (s.2.compileSource s.1 text options).2.1)
  | .lastDiagnostics => s

/-- A call with the interpreter and the compiler that it meets. -/
abbrev Encounter := Exchange (Interpreter × Backend) Demand

namespace Encounter

variable (x : Encounter)

def interpreter : Interpreter := x.state.1

def backend : Backend := x.state.2

def compiles : Bool :=
  match x.call with
  | .compile .. => true
  | _ => false

/-- The diagnostics that are kept after the call. -/
def kept : List String := (Backend.serve x.state x.call).2.diagnostics

end Encounter

/-- The diagnostics that the latest compile call of `past` left. -/
def keptAfter (past : List Encounter) : List String :=
  (past.reverse.find? Encounter.compiles).elim [] Encounter.kept

/-- The compiler knows whether it was loaded, and keeps what the latest compile call left. -/
structure Accounts (past : List Encounter) (b : Backend) : Prop where
  loaded : b.isLoaded = true ↔ ∃ z ∈ past, z.call = .load
  latest : b.diagnostics = keptAfter past

theorem keptAfter_concat (past : List Encounter) (x : Encounter) :
    keptAfter (past ++ [x]) = if x.compiles then x.kept else keptAfter past := by
  simp only [keptAfter, List.reverse_append, List.reverse_singleton, List.singleton_append,
    List.find?_cons]
  cases x.compiles <;> rfl

/-- Calls that compile nothing leave the diagnostics. -/
theorem keptAfter_append {before between : List Encounter} {x : Encounter}
    (compiles : x.compiles = true) (quiet : ∀ z ∈ between, z.compiles = false) :
    keptAfter (before ++ x :: between) = x.kept := by
  have silent : between.reverse.find? Encounter.compiles = none := by
    rw [List.find?_eq_none]
    intro z among
    simp [quiet z (List.mem_reverse.1 among)]
  simp only [keptAfter, List.reverse_append, List.reverse_cons, List.append_assoc,
    List.find?_append, silent, List.singleton_append, List.find?_cons, compiles, Option.none_or]
  rfl

/-- No compile call makes a compiler ready. -/
theorem isLoaded_compileSource (b : Backend) (i : Interpreter) (text : String) (options : Options) :
    (b.compileSource i text options).2.1.isLoaded = b.isLoaded := by
  cases ready : b.isLoaded with
  | false => rw [b.compileSource_of_unready i text options ready, ready]
  | true =>
    obtain ⟨j, ds, result, answers, -⟩ := b.exit_of_compileSource i text options ready
    rw [answers]
    exact ready

/-- What one call preserves. -/
theorem Accounts.serve {past : List Encounter} {x : Encounter}
    (accounts : Accounts past x.state.2) :
    Accounts (past ++ [x]) (Backend.serve x.state x.call).2 := by
  have loaded : (∃ z ∈ past ++ [x], z.call = .load) ↔
      x.state.2.isLoaded = true ∨ x.call = .load := by
    rw [accounts.loaded]
    simp only [List.mem_append, List.mem_singleton, or_and_right, exists_or, exists_eq_left]
  refine ⟨?_, ?_⟩
  · rw [loaded]
    cases x.call with
    | load => simp [Backend.serve, Backend.load]
    | compile text options => simp [Backend.serve, isLoaded_compileSource]
    | lastDiagnostics => simp [Backend.serve]
  · rw [keptAfter_concat, Encounter.compiles, Encounter.kept]
    cases x.call with
    | load => exact accounts.latest
    | compile text options => rfl
    | lastDiagnostics => exact accounts.latest

/-- What holds at first and is preserved by one call holds at every call. -/
theorem accounts_of_exchanges {i : Interpreter} {demands : List Demand}
    {earlier later : List Encounter} {x : Encounter}
    (split : exchanges Backend.serve (i, {}) demands = earlier ++ x :: later) :
    Accounts earlier x.backend := by
  have start : Accounts [] ({} : Backend) := ⟨by simp, rfl⟩
  exact exchanges_invariant (P := fun past s => Accounts past s.2) (fun _ _ h => h.serve) start
    split

end Bytecode

/-! ### Refusals in a session -/

namespace Session

variable {s t u : Session Action} {run run' : Run} {ds ds' : List String}
  {others : Stage → List Move}

/-- A refusal of the bytecode compiler is the exit of its call. -/
theorem exit_of_refuses {i : Bytecode.Interpreter}
    (known : u.compiler? run.request.compiler = some (.bytecode i)) (refuses : Refuses run u t ds) :
    ∃ j, Bytecode.Exit i run.request.source run.request.options j ds (.ok none) := by
  unfold Refuses compileSource at refuses
  cases own : u.loaded? run.request.compiler with
  | none =>
    rw [own] at refuses
    cases refuses
  | some loaded =>
    rw [own, known] at refuses
    have answer : (compileBytecode run.request.compiler run.request.source run.request.options
        loaded i u).2 = .ok (.error (.ok ds)) := congrArg Prod.snd refuses
    unfold compileBytecode at answer
    cases ready : loaded.bytecode.isLoaded with
    | false =>
      rw [loaded.bytecode.compileSource_of_unready _ _ _ ready] at answer
      cases answer
    | true =>
      obtain ⟨j, kept, result, answers, exit⟩ :=
        loaded.bytecode.exit_of_compileSource i run.request.source run.request.options ready
      rw [answers] at answer
      match result, answer, exit with
      | .ok none, rfl, exit => exact ⟨j, exit⟩

/-- Closing a run leaves the number of errors as it is. -/
theorem errorCount_closeRun (s : Session Action) (run : Run) :
    (s.closeRun react run).1.state.errorCount = s.state.errorCount := by
  obtain ⟨closing, -, alters, -⟩ := alters_closeRun reacts_react s run
  have shown := congrArg Face.shown alters.face
  rw [Face.shown_close] at shown
  exact congrArg (fun p => p.2.1) shown

/-- What is reported of a fault that is no rejection is an internal error, if anything. -/
theorem reportFault_of_plain (s : Session Action) (run : Run) {f : Fault}
    (plain : f.diagnostics? = none) :
    (s.reportFault react run f).2.1 = run ∧
        (s.reportFault react run f).1.state.errorCount = s.state.errorCount ∨
      ∃ message, (s.reportFault react run f).2.1.outcome = some (.internalError message) := by
  unfold reportFault
  split
  · rw [plain]
    dsimp only
    rcases alters_reportInternalError reacts_react s run f with
      ⟨why, -, eq⟩ | ⟨message, t, fault, -, eq, -⟩
    · rw [eq]
      exact .inl ⟨rfl, rfl⟩
    · rw [eq]
      exact .inr ⟨message, rfl⟩
  · exact .inl ⟨rfl, rfl⟩

/-- **A run that ends as a failure where its refusal is reported shows the number of its
diagnostics**, even if a listener breaks the report off. -/
theorem errorCount_of_reject {fault : Option Fault}
    (ends : s.stepRun react .reject run = (t, .over run' fault)) (fresh : run.outcome = none)
    (failed : run'.outcome = some (.failure ds)) :
    t.state.errorCount = run.diagnostics.length := by
  -- a fault of the report leaves the outcome and the number of errors, or both are its own
  have reported (u : Session Action) (run₁ : Run) {f : Fault} (plain : f.diagnostics? = none)
      (ends : afterStage react .reject (u, run₁, .error f) = (t, .over run' fault)) :
      run₁.outcome = some (.failure ds) ∧ t.state.errorCount = u.state.errorCount := by
    rw [afterStage_error] at ends
    obtain ⟨rfl, ended⟩ := Prod.mk.inj ends
    injection ended with closed
    rw [← closed, run_closeRun reacts_react] at failed
    rcases reportFault_of_plain (u.mark (.raised .reject f)) run₁ plain with
      ⟨same, count⟩ | ⟨message, crashed⟩
    · rw [same] at failed
      exact ⟨failed, (errorCount_closeRun _ _).trans count⟩
    · cases crashed.symm.trans failed
  cases alive : s.state.alive with
  | false =>
    rw [stepRun_of_dead alive] at ends
    obtain ⟨-, ended⟩ := Prod.mk.inj ends
    injection ended with closed
    rw [← closed, run_closeRun reacts_react] at failed
    cases fresh.symm.trans failed
  | true =>
    rw [stepRun_of_alive alive] at ends
    generalize entered : ({ run with stages := run.stages ++ [Stage.reject.name] } : Run) = run₀
      at ends
    obtain ⟨noted, fresh₀⟩ : run₀.diagnostics = run.diagnostics ∧ run₀.outcome = none := by
      rw [← entered]
      exact ⟨rfl, fresh⟩
    rw [← noted]
    obtain ⟨u, run₁, fault₁, refused, rejects⟩ := refused_rejectStage reacts_react s run₀
    change s.runStage react .reject run₀ = _ at rejects
    have total {limited : LimitedDiagnostics}
        (limits : limitDiagnostics run₀.diagnostics s.settings.maxPrintingErrors = .ok limited) :
        (limited.total : Int) = run₀.diagnostics.length :=
      congrArg Int.ofNat (limitDiagnostics_parts limits).2
    cases refused with
    | unread e limits =>
      rw [rejects] at ends
      have plain := (Fault.plain_of_unowned (unowned_limitDiagnostics _ _ e limits).1).1
      cases fresh₀.symm.trans (reported _ _ plain ends).1
    | shown limited u limits alters =>
      rw [rejects, afterStage_last] at ends
      obtain ⟨rfl, -⟩ := Prod.mk.inj ends
      rw [errorCount_closeRun, ← total limits]
      exact congrArg Face.errorCount alters.face
    | cut limited u e foreign limits alters =>
      rw [rejects] at ends
      rw [(reported _ _ (Fault.reported_of_foreign foreign).1 ends).2, ← total limits]
      exact congrArg Face.errorCount alters.face

/-- **The report of a refusal shows the number of its diagnostics.** The run returns unless a
listener breaks a publication off. -/
theorem errorCount_of_refusal {request : Request} {alive : Bool} (tolerates : Tolerates others s)
    (refuses : refusalAmid others request s = some (ds, alive)) :
    ((pipelineAmid others request s).1.core.cuts = s.core.cuts →
        ∃ run', (pipelineAmid others request s).2 = .ok run') ∧
      ∀ run', (pipelineAmid others request s).2 = .ok run' →
        ∀ ds', run'.outcome = some (.failure ds') →
          (pipelineAmid others request s).1.state.errorCount = ds.length := by
  refine ⟨fun uncut => ?_, fun run' returns ds' failed => ?_⟩
  · obtain ⟨run', returns, -⟩ := pipelineAmid_of_refusal tolerates refuses uncut
    exact ⟨run', returns⟩
  · obtain ⟨u, run, t, called, refuses, rfl⟩ := refuses_of_refusalAmid refuses
    obtain ⟨v, rfl, living, fresh, -, tolerates', -, -, goes⟩ := goesOn_of_called tolerates called
    obtain ⟨-, -, w, run'', fault, reports, onward⟩ := runAmid_of_refuses living tolerates' refuses
    rw [goes, onward] at returns ⊢
    cases fault with
    | some f => cases returns
    | none =>
      cases returns
      exact errorCount_of_reject reports fresh failed

end Session

/-! ### Calls and diagnostics agree -/

open Bytecode Session

/-- **Compile calls and the last diagnostics agree.** Whatever is asked of a compiler, and whatever
the interpreter answers, the diagnostics between a compile call and the next one are those of the
exit of this call, so that there are some exactly if nothing was returned; a compiler that was never
loaded fails and is left as it was. A run of a session whose text this compiler refuses has
diagnostics, and returns unless a listener breaks a publication off; if it is reported as a failure
then at least one error is shown. -/
theorem last_diagnostics_explain (i : Interpreter) (demands : List Demand) :
    (∀ (before : List Encounter) (x : Encounter) (between : List Encounter) (y : Encounter)
        (rest : List Encounter) (text : String) (options : Options),
      exchanges Backend.serve (i, {}) demands = before ++ x :: (between ++ y :: rest) →
      x.call = .compile text options → (∀ z ∈ between, z.compiles = false) →
      ((∃ z ∈ before, z.call = .load) → ∃ j result,
        x.backend.compileSource x.interpreter text options =
            (j, { x.backend with diagnostics := y.backend.diagnostics }, result) ∧
          Exit x.interpreter text options j y.backend.diagnostics result ∧
          (y.backend.diagnostics ≠ [] ↔ result = .ok none)) ∧
      ((∀ z ∈ before, z.call ≠ .load) → ∃ f,
        x.backend.compileSource x.interpreter text options = (x.interpreter, x.backend, .error f) ∧
          f.kind = "CompilerError" ∧ y.backend.diagnostics = x.backend.diagnostics)) ∧
    ∀ (s u : Session Action) (others : Stage → List Move) (request : Request) (run : Run)
      (j : Interpreter) (ds : List String) (alive : Bool),
      Tolerates others s → calledAmid others request s = some (u, run) →
      u.compiler? run.request.compiler = some (.bytecode j) →
      refusalAmid others request s = some (ds, alive) →
      (∃ k, Exit j run.request.source run.request.options k ds (.ok none)) ∧ ds ≠ [] ∧
        ((pipelineAmid others request s).1.core.cuts = s.core.cuts →
          ∃ run', (pipelineAmid others request s).2 = .ok run') ∧
        ∀ run', (pipelineAmid others request s).2 = .ok run' →
          ∀ ds', run'.outcome = some (.failure ds') →
            1 ≤ (pipelineAmid others request s).1.state.errorCount := by
  refine ⟨?_, ?_⟩
  · intro before x between y rest text options split compiles quiet
    have first : Accounts before x.backend := accounts_of_exchanges split
    have regrouped : exchanges Backend.serve (i, {}) demands =
        (before ++ x :: between) ++ y :: rest := by
      rw [split, List.append_assoc, List.cons_append]
    have second : Accounts (before ++ x :: between) y.backend := accounts_of_exchanges regrouped
    have compiling : x.compiles = true := by simp only [Encounter.compiles, compiles]
    have kept : y.backend.diagnostics =
        (x.backend.compileSource x.interpreter text options).2.1.diagnostics := by
      rw [second.latest, keptAfter_append compiling quiet, Encounter.kept, compiles]
      rfl
    refine ⟨?_, ?_⟩
    · intro loaded
      obtain ⟨j, ds, result, answers, exit⟩ :=
        x.backend.exit_of_compileSource x.interpreter text options (first.loaded.2 loaded)
      rw [answers] at kept
      refine ⟨j, result, ?_, ?_, ?_⟩
      · rw [kept, answers]
      · rw [kept]
        exact exit
      · rw [kept]
        exact exit.explains_iff
    · intro unloaded
      have unready : x.backend.isLoaded = false := by
        rw [Bool.eq_false_iff]
        intro ready
        obtain ⟨z, among, loads⟩ := first.loaded.1 ready
        exact unloaded z among loads
      have answers := x.backend.compileSource_of_unready x.interpreter text options unready
      refine ⟨_, answers, rfl, ?_⟩
      rw [kept, answers]
  · intro s u others request run j ds alive tolerates called known refuses
    obtain ⟨u', run', t, called', refusing, -⟩ := refuses_of_refusalAmid refuses
    rw [called] at called'
    cases called'
    obtain ⟨k, exit⟩ := exit_of_refuses known refusing
    have found : ds ≠ [] := exit.explains_iff.2 rfl
    obtain ⟨returns, counts⟩ := errorCount_of_refusal tolerates refuses
    refine ⟨⟨k, exit⟩, found, returns, ?_⟩
    intro run' returned ds' failed
    rw [counts run' returned ds' failed]
    have filled := List.length_pos_of_ne_nil found
    omega

def Compiler.isBytecode {α : Type} : Compiler α → Bool
  | scripted _ => false
  | bytecode _ => true

/-- A started session with the bytecode compiler, whose interpreter finds a syntax error. -/
def unparsedSession : Session Action :=
  { busySession { plainOpening with compilers := [("CPython", .bytecode { parses :=
      ⟨.syntaxFault { line := some 1, column := some 4 }, []⟩ })] } with
    loaded := [("CPython", { version := "3.11.2", bytecode := { isLoaded := true } })] }

/-- Nothing is compiled before the compiler is loaded; then one text has a syntax error, the next
one has none, and the session reports another. -/
theorem last_diagnostics_explain_unparsed :
    let i : Interpreter := { parses := ⟨.syntaxFault {}, [.ok []]⟩ }
    let demands : List Demand :=
      [.compile "x =" {}, .load, .compile "x =" {}, .lastDiagnostics,
        .compile "x" { stdlib := true }, .lastDiagnostics]
    let all := exchanges Backend.serve (i, {}) demands
    (∃ x y z w, all = all.take 2 ++ [x, y, z, w] ∧ y.state.2.diagnostics ≠ [] ∧
      w.state.2.diagnostics = []) ∧
    1 ≤ (pipelineAmid (fun _ => []) unparsedSession.buildRequest
      unparsedSession).1.state.errorCount := by
  intro i demands all
  obtain ⟨agree, reports⟩ := last_diagnostics_explain i demands
  refine ⟨⟨_, _, _, _, rfl, ?_, ?_⟩, ?_⟩
  · obtain ⟨j, result, answers, -, found⟩ :=
      (agree (all.take 2) _ [] _ _ "x =" {} rfl rfl (List.forall_mem_nil _)).1
        ⟨_, List.mem_of_getElem? (i := 1) rfl, rfl⟩
    exact found.2 (congrArg (fun r => r.2.2) answers).symm
  · obtain ⟨j, result, answers, -, found⟩ :=
      (agree (all.take 4) _ [] _ [] "x" { stdlib := true } rfl rfl (List.forall_mem_nil _)).1
        ⟨_, List.mem_of_getElem? (i := 1) rfl, rfl⟩
    have produced : result = .ok (some _) := (congrArg (fun r => r.2.2) answers).symm
    refine Decidable.of_not_not fun explained => ?_
    rw [found.1 explained] at produced
    cases produced
  · have refuses : refusalAmid (fun _ => []) unparsedSession.buildRequest unparsedSession =
        some (["ERROR CP1005: invalid syntax\n in input.py(1,4)"], true) := by decide +kernel
    have asked : (calledAmid (fun _ => []) unparsedSession.buildRequest unparsedSession).any
        (fun p => (p.1.compiler? p.2.request.compiler).any Compiler.isBytecode) = true := by
      decide +kernel
    have fails : (pipelineAmid (fun _ => []) unparsedSession.buildRequest
        unparsedSession).2.toOption.bind (fun run => run.outcome) =
        some (.failure ["ERROR CP1005: invalid syntax\n in input.py(1,4)"]) := by decide +kernel
    obtain ⟨⟨u, run⟩, called, known⟩ := (Option.any_eq_true _ _).1 asked
    obtain ⟨compiler, chosen, isBytecode⟩ := (Option.any_eq_true _ _).1 known
    cases compiler with
    | scripted script => cases isBytecode
    | bytecode j =>
      obtain ⟨-, -, returns, counts⟩ := reports unparsedSession u (fun _ => [])
        unparsedSession.buildRequest run j _ true (Or.inl fun _ => rfl) called chosen refuses
      obtain ⟨run', returned⟩ := returns (by decide +kernel)
      rw [returned] at fails
      exact counts run' returned _ fails

end Playground
