import Playground.Proofs.Origins

/-!
# Which compilers are there

A run asks the compiler of its request, if it is loaded by then, and is turned away otherwise. A
compiler that can be loaded is loaded some time after it was chosen, and requests that name it are
taken at once, so that one that is run before the loading has ended is turned away too.

* `Core.Supports` — the compiler is known, and whenever it is loaded, it loads.
* `Minded` — the invariant: a supported compiler that is chosen is loaded, or is being loaded, or
  the session is not ready.
* `minded_moves` — the invariant holds after all moves.
* `asked_or_turned` — which runs are turned away.
* `turned_away_while_loading` — when a run for a supported compiler is.
* `turned_away_early` — one that is.
-/

namespace Playground

open Playground.Core Playground.Clock

def CompilerScript.Loads (script : CompilerScript Action) : Prop :=
  ∀ ending ∈ script.loads.first :: script.loads.later, ending = none

namespace Core

/-- The compiler is known, and whenever it is loaded, it loads. -/
def Supports (compiler : String) (c : Core) : Prop :=
  ∃ known, (c.compilers.find? fun e => e.1 = compiler).map (·.2) = some known ∧
    ∀ script, known = .scripted script → script.Loads

/-- The compiler is known by its answers. -/
def Scripts (compiler : String) (c : Core) : Prop :=
  ∃ script, (c.compilers.find? fun e => e.1 = compiler).map (·.2) = some (.scripted script)

/-- Coroutines may have been called, and a compiler that was supported still is. -/
structure Hosts (compiler : String) (c d : Core) : Prop where
  waiting : ∃ calls : List Call, d.waiting = c.waiting ++ calls.map .fresh
  supports : c.Supports compiler → d.Supports compiler
  scripts : c.Scripts compiler → d.Scripts compiler

variable {compiler : String} {c d e : Core}

theorem Hosts.of_eq (eq : d = e) (waiting : e.waiting = c.waiting)
    (compilers : e.compilers = c.compilers) : Hosts compiler c d := by
  subst eq
  refine ⟨⟨[], by simp [waiting]⟩, fun h => ?_, fun h => ?_⟩
  · unfold Supports
    rw [compilers]
    exact h
  · unfold Scripts
    rw [compilers]
    exact h

theorem Hosts.trans (h : Hosts compiler c d) (k : Hosts compiler d e) : Hosts compiler c e := by
  obtain ⟨calls, hc⟩ := h.waiting
  obtain ⟨more, hm⟩ := k.waiting
  exact ⟨⟨calls ++ more, by rw [hm, hc, List.map_append, List.append_assoc]⟩,
    fun known => k.supports (h.supports known), fun known => k.scripts (h.scripts known)⟩

theorem Hosts.await (c : Core) (call : Call) :
    Hosts compiler c (c.await (some (.fresh call))) := ⟨⟨[call], rfl⟩, id, id⟩

/-- No coroutine comes to wait in a loading. -/
theorem Hosts.loading_iff (h : Hosts compiler c d) {name : String} {left : Nat}
    {ending : Option Fault} {purpose : LoadPurpose} :
    .loading name left ending purpose ∈ d.waiting ↔
      .loading name left ending purpose ∈ c.waiting := by
  obtain ⟨calls, waiting⟩ := h.waiting
  rw [waiting, List.mem_append]
  refine or_iff_left fun called => ?_
  obtain ⟨call, -, eq⟩ := List.mem_map.1 called
  cases eq

end Core

namespace Session

variable {P : Action → Prop} {s t : Session Action} {r : Session Action × Progress}
  {compiler : String}

/-! ### Compilers that load -/

theorem supports_setCompiler {name : String} {c : Compiler Action} (h : s.core.Supports compiler)
    (loads : name = compiler → ∀ script, c = .scripted script → script.Loads) :
    (s.setCompiler name c).core.Supports compiler := by
  obtain ⟨known, found, reliable⟩ := h
  by_cases here : compiler = name
  · refine ⟨c, ?_, loads here.symm⟩
    exact (compiler?_setCompiler s name c compiler).trans (if_pos here)
  · refine ⟨known, ?_, reliable⟩
    exact (compiler?_setCompiler s name c compiler).trans ((if_neg here).trans found)

theorem scripts_setCompiler {name : String} {c : Compiler Action} (h : s.core.Scripts compiler)
    (scripted : name = compiler → ∃ script, c = .scripted script) :
    (s.setCompiler name c).core.Scripts compiler := by
  by_cases here : compiler = name
  · obtain ⟨script, rfl⟩ := scripted here.symm
    exact ⟨script, (compiler?_setCompiler s name _ compiler).trans (if_pos here)⟩
  · obtain ⟨script, found⟩ := h
    exact ⟨script, (compiler?_setCompiler s name c compiler).trans ((if_neg here).trans found)⟩

/-- What is left of the answers of a compiler that loads still loads. -/
theorem hosts_leaves {name : String} {script rest : CompilerScript Action}
    (there : s.compiler? name = some (.scripted script)) (left : script.Leaves rest) :
    Hosts compiler s.core (s.setCompiler name (.scripted rest)).core := by
  refine ⟨⟨[], by simp [core, setCompiler, waiting]⟩, fun h => supports_setCompiler h ?_,
    fun h => scripts_setCompiler h fun _ => ⟨rest, rfl⟩⟩
  rintro rfl _ ⟨⟩ ending given
  obtain ⟨known, found, reliable⟩ := h
  obtain rfl : known = .scripted script := Option.some.inj (found.symm.trans there)
  exact reliable script rfl ending (left.loads ending given)

theorem hosts_interpreter {name : String} {own : Bytecode.Interpreter}
    (there : s.compiler? name = some (.bytecode own)) (i : Bytecode.Interpreter) :
    Hosts compiler s.core (s.setCompiler name (.bytecode i)).core := by
  refine ⟨⟨[], by simp [core, setCompiler, waiting]⟩,
    fun h => supports_setCompiler h ?_, fun h => scripts_setCompiler h ?_⟩
  · rintro - script ⟨⟩
  · rintro rfl
    obtain ⟨script, found⟩ := h
    cases there.symm.trans found

/-! ### Who waits -/

theorem hosts_nudge (h : Nudge P s t) : Hosts compiler s.core t.core := by
  cases h with
  | edit text =>
    unfold edit
    simp only
    split
    · exact .of_eq rfl rfl rfl
    · split
      · exact .of_eq (core_rearm _) rfl rfl
      · exact .of_eq rfl rfl rfl
  | turn _ mode =>
    have turned : Hosts compiler s.core
        (s.cancelTimer.modifyState fun st => { st with compileMode := mode }).core := by
      refine .of_eq (e := { s.core with
        armed := none, state := { s.state with compileMode := mode } }) ?_ rfl rfl
      exact congrArg (fun c : Core => { c with state := { s.state with compileMode := mode } })
        (core_cancelTimer s)
    unfold turn
    simp only
    split
    · exact turned.trans (.of_eq (core_rearm _) rfl rfl)
    · exact turned
  | disarm => exact .of_eq (core_cancelTimer s) rfl rfl
  | stop => exact .of_eq (core_stop s) rfl rfl
  | heed event listener data => exact .of_eq (core_takeReaction s event listener data) rfl rfl
  | compiler name script rest there left => exact hosts_leaves there left
  | interpreter name own i there => exact hosts_interpreter there i
  | spawn call =>
    have spawned := core_enqueue { s with spawned := s.spawned + 1 }
      (.resume (.spawned (s.spawned + 1)) (.fresh (Action.settleCall s.state.options call)))
    unfold spawn
    rw [spawned]
    exact .await s.core _
  | _ => exact .of_eq rfl rfl rfl

theorem hosts_nudges (h : Nudges P s t) : Hosts compiler s.core t.core := by
  induction h with
  | refl => exact .of_eq rfl rfl rfl
  | tail _ step ih => exact ih.trans (hosts_nudge step)

theorem hosts_lead (h : Lead P s t) : Hosts compiler s.core t.core := by
  cases h with
  | stop => exact .of_eq (core_stop _) rfl rfl
  | disarm => exact .of_eq (core_cancelTimer _) rfl rfl
  | compiler name script rest there left => exact hosts_leaves there left
  | _ => exact .of_eq rfl rfl rfl

theorem hosts_work (h : Work P s t) : Hosts compiler s.core t.core := by
  cases h with
  | use use =>
    cases use with
    | nudge nudge => exact hosts_nudge nudge
    | called => exact .of_eq rfl rfl rfl
  | _ => exact .of_eq rfl rfl rfl

/-- The account of the requests does not matter. -/
theorem hosts_booking (h : Booking s t) : Hosts compiler s.core t.core := by
  cases h <;> exact .of_eq rfl rfl rfl

/-- While a coroutine makes a step, others may be called; it waits itself only after that. -/
theorem hosts_resume (at_ : Waiting) (s : Session Action) :
    Hosts compiler s.core (s.resume Session.react at_).1.core :=
  keeps_resume (I := fun u => Hosts compiler s.core u.core) (admits_all s) (.of_eq rfl rfl rfl)
    (fun lead h => h.trans (hosts_lead lead)) (fun booking h => h.trans (hosts_booking booking))
    (fun _ _ _ h => h) (fun work h => h.trans (hosts_work work)) at_

/-- A move that goes on with no coroutine may call one. -/
theorem hosts_of_spared (h : Spared s t) : Hosts compiler s.core t.core := by
  cases h with
  | acted nudges => exact hosts_nudges nudges
  | kept core _ => exact .of_eq core rfl rfl
  | awaits call armed core _ =>
    have armed : Hosts compiler s.core { s.core with armed := armed } := .of_eq rfl rfl rfl
    rw [core]
    exact armed.trans (.await _ call)

/-! ### Chosen compilers are loaded -/

/-- A loading of the compiler is under way. -/
def Loading (compiler : String) (s : Session Action) : Prop :=
  ∃ left ending purpose, .loading compiler left ending purpose ∈ s.waiting

/-- A supported compiler that is chosen is loaded, or it is being loaded and will be there, or else
nothing is being loaded and the session is not ready. -/
structure Minded (compiler : String) (s : Session Action) : Prop where
  supports : s.core.Supports compiler
  ends : ∀ left ending purpose, .loading compiler left ending purpose ∈ s.waiting → ending = none
  chosen : s.state.compiler = compiler → s.outfit.loaded compiler = none →
    s.Loading compiler ∨ s.state.ready = false ∧ ∀ name, ¬ s.Loading name

/-- Whatever leaves the outfit as it is and lets no coroutine wait in a loading. -/
theorem Minded.hosts (h : s.Minded compiler) (hosts : Hosts compiler s.core t.core)
    (outfit : t.outfit = s.outfit) : t.Minded compiler := by
  have loading_iff (name : String) : t.Loading name ↔ s.Loading name :=
    exists_congr fun _ => exists_congr fun _ => exists_congr fun _ => hosts.loading_iff
  refine ⟨hosts.supports h.supports, fun left ending purpose hl => ?_, fun same missing => ?_⟩
  · exact h.ends left ending purpose (hosts.loading_iff.1 hl)
  · have compiler_eq : t.state.compiler = s.state.compiler := congrArg Outfit.compiler outfit
    have ready_eq : t.state.ready = s.state.ready := congrArg Outfit.ready outfit
    rw [outfit] at missing
    rw [ready_eq]
    rcases h.chosen (compiler_eq.symm.trans same) missing with loading | ⟨unready, none⟩
    · exact .inl ((loading_iff compiler).2 loading)
    · exact .inr ⟨unready, fun name loading => none name ((loading_iff name).1 loading)⟩

/-- A coroutine that goes on with a loading waited in it, or it begins one for the compiler that it
leaves chosen. -/
theorem loading_or_begins {at_ : Waiting} {name : String} {left : Nat} {ending : Option Fault}
    (loading : s.loadingAt? at_ = some (name, left, ending)) :
    (at_.chooses? = none ∧ ∃ purpose, at_ = .loading name left ending purpose) ∨
      at_.chooses?.getD s.state.compiler = name ∧ s.prospect name = (left, ending) := by
  cases at_ with
  | loading name' left' ending' purpose =>
    cases loading
    exact .inl ⟨rfl, purpose, rfl⟩
  | fresh call =>
    cases call with
    | start =>
      obtain ⟨same, prospect⟩ := Prod.mk.inj (Option.some.inj loading)
      exact .inr ⟨same, same ▸ prospect⟩
    | startUp =>
      obtain ⟨same, prospect⟩ := Prod.mk.inj (Option.some.inj loading)
      exact .inr ⟨same, same ▸ prospect⟩
    | switchCompiler name' =>
      unfold loadingAt? at loading
      simp only at loading
      split at loading
      · cases loading
      · obtain ⟨same, prospect⟩ := Prod.mk.inj (Option.some.inj loading)
        exact .inr ⟨same, same ▸ prospect⟩
    | _ => cases loading
  | _ => cases loading

/-- A supported compiler that begins to be loaded will be there. -/
theorem ending_of_prospect {left : Nat} {ending : Option Fault} (h : s.core.Supports compiler)
    (prospect : s.prospect compiler = (left, ending)) : ending = none := by
  obtain ⟨known, found, reliable⟩ := h
  have there : s.compiler? compiler = some known := found
  unfold Session.prospect at prospect
  rw [there] at prospect
  cases known with
  | bytecode i =>
    cases prospect
    rfl
  | scripted script =>
    cases prospect
    exact reliable script rfl _ (Answers.take_mem _)

/-- What a coroutine leaves behind when it has gone on. -/
theorem loading_of_resumed {at_ : Waiting} {u : Session Action} (resumed : Resumes at_ u s t)
    {name : String} {left : Nat} {ending : Option Fault} {purpose : LoadPurpose} :
    .loading name left ending purpose ∈ t.waiting ↔
      .loading name left ending purpose ∈ u.waiting ∨
        (u.resume Session.react at_).2 = .waits (.loading name left ending purpose) := by
  obtain ⟨-, -, -, -, eq⟩ := resumed
  have hosts : Hosts "" u.core (u.resume Session.react at_).1.core := hosts_resume at_ u
  have waiting : t.waiting = (u.resume Session.react at_).1.waiting ++
      (u.resume Session.react at_).2.waiting?.toList := congrArg Core.waiting eq
  rw [waiting, List.mem_append]
  refine or_congr hosts.loading_iff ?_
  cases (u.resume Session.react at_).2 with
  | waits w => cases w <;> simp [Progress.waiting?, Waiting.lasting?, eq_comm]
  | gathers => simp [Progress.waiting?]
  | ends => simp [Progress.waiting?]

/-- A loading that others wait in is waited in after the step of one. -/
theorem Loading.resumed {at_ : Waiting} {u : Session Action} {name : String} (h : s.Loading name)
    (resumed : Resumes at_ u s t)
    (other : ∀ left ending purpose, at_ ≠ .loading name left ending purpose) : t.Loading name := by
  obtain ⟨left, ending, purpose, hl⟩ := h
  rw [resumed.front] at hl
  rcases List.mem_cons.1 hl with here | hl
  · exact absurd here.symm (other left ending purpose)
  · exact ⟨left, ending, purpose, (loading_of_resumed resumed).2 (.inl hl)⟩

/-- A coroutine that does not come to wait in a loading adds none. -/
theorem Loading.of_resumed {at_ : Waiting} {u : Session Action} {name : String} (h : t.Loading name)
    (resumed : Resumes at_ u s t) (next : (u.resume Session.react at_).2.loading? = none) :
    s.Loading name := by
  obtain ⟨left, ending, purpose, hl⟩ := h
  rcases (loading_of_resumed resumed).1 hl with hl | waits
  · exact ⟨left, ending, purpose, resumed.front ▸ List.mem_cons_of_mem _ hl⟩
  · rw [waits] at next
    cases next

/-- While another compiler is being loaded, the chosen one is being loaded too. -/
theorem Minded.elsewhere {at_ : Waiting} {u : Session Action} (h : s.Minded compiler)
    (resumes : Resumes at_ u s t) {name : String} {left : Nat} {ending : Option Fault}
    (loading : s.loadingAt? at_ = some (name, left, ending)) (other : name ≠ compiler)
    (chosen : at_.chooses?.getD s.state.compiler = compiler)
    (missing : s.outfit.loaded compiler = none) : t.Loading compiler := by
  rcases loading_or_begins loading with ⟨unchosen, purpose, rfl⟩ | ⟨begins, -⟩
  · rw [unchosen] at chosen
    rcases h.chosen chosen missing with loading | ⟨-, none⟩
    · refine loading.resumed resumes fun left' ending' purpose' eq => ?_
      cases eq
      exact other rfl
    · refine absurd ⟨left, ending, purpose, ?_⟩ (none name)
      rw [resumes.front]
      exact List.mem_cons_self
  · exact absurd (begins.symm.trans chosen) other

/-- Nobody waits for a supported compiler that will not be there. -/
theorem Minded.ending {at_ : Waiting} {u : Session Action} (h : s.Minded compiler)
    (resumes : Resumes at_ u s t) {left : Nat} {ending : Option Fault}
    (loading : s.loadingAt? at_ = some (compiler, left, ending)) : ending = none := by
  rcases loading_or_begins loading with ⟨-, purpose, rfl⟩ | ⟨-, prospect⟩
  · exact h.ends left ending purpose (resumes.front ▸ List.mem_cons_self)
  · exact ending_of_prospect h.supports prospect

/-- A coroutine that loads nothing and chooses nothing leaves things as they are. -/
theorem Minded.undisturbed {at_ : Waiting} {u : Session Action} (h : s.Minded compiler)
    (resumes : Resumes at_ u s t) (idle : s.loadingAt? at_ = none)
    (next : (u.resume Session.react at_).2.loading? = none)
    (compiler_eq : t.state.compiler = s.state.compiler)
    (loaded : t.outfit.loaded = s.outfit.loaded) (ready : t.state.ready = s.state.ready) :
    t.state.compiler = compiler → t.outfit.loaded compiler = none →
      t.Loading compiler ∨ t.state.ready = false ∧ ∀ name, ¬ t.Loading name := by
  intro chosen missing
  rw [loaded] at missing
  rw [ready]
  rcases h.chosen (compiler_eq.symm.trans chosen) missing with loading | ⟨unready, none⟩
  · refine .inl (loading.resumed resumes ?_)
    rintro left ending purpose rfl
    cases idle
  · exact .inr ⟨unready, fun name loading => none name (loading.of_resumed resumes next)⟩

/-- A coroutine that has gone on with a loading waits in it. -/
theorem loading_of_next {at_ : Waiting} {u : Session Action} (resumes : Resumes at_ u s t)
    {name : String} {left : Nat} {ending : Option Fault}
    (next : (u.resume Session.react at_).2.loading? = some (name, left, ending)) :
    t.Loading name := by
  cases hx : (u.resume Session.react at_).2 with
  | waits w =>
    rw [hx] at next
    cases w with
    | loading name' left' ending' purpose =>
      cases next
      exact ⟨left, ending, purpose, (loading_of_resumed resumes).2 (.inr hx)⟩
    | _ => cases next
  | gathers =>
    rw [hx] at next
    cases next
  | ends result =>
    rw [hx] at next
    cases next

/-- **A step of a coroutine keeps the invariant.** -/
theorem minded_resumed {at_ : Waiting} {u : Session Action} (h : s.Minded compiler)
    (resumed : Resumed at_ u s t) : t.Minded compiler := by
  have resumes := resumed.toResumes
  have refits := resumed.refits
  refine ⟨?_, fun left ending purpose hl => ?_, ?_⟩
  · have before : u.core.Supports compiler := by
      rw [resumes.popped]
      exact h.supports
    have after := (hosts_resume at_ u).supports before
    rw [resumes.eq]
    exact after
  · rcases (loading_of_resumed resumes).1 hl with hl | waits
    · exact h.ends left ending purpose (resumes.front ▸ List.mem_cons_of_mem _ hl)
    · have next : (u.resume Session.react at_).2.loading? = some (compiler, left, ending) := by
        rw [waits]
        rfl
      exact h.ending resumes (refits.loading_before next)
  · -- a coroutine of a loading either loads the compiler or shows that it is being loaded elsewhere
    cases refits with
    | keeps idle _ _ calls _ kept next =>
      have outfit := resumed.outfit.trans kept
      exact h.undisturbed resumes idle next (congrArg Outfit.compiler outfit)
        ((congrArg Outfit.loaded outfit).trans rfl) (congrArg Outfit.ready outfit)
    | sets idle _ _ options _ _ _ kept next =>
      have outfit := resumed.outfit.trans kept
      exact h.undisturbed resumes idle next (congrArg Outfit.compiler outfit)
        ((congrArg Outfit.loaded outfit).trans rfl) (congrArg Outfit.ready outfit)
    | shows _ name version _ there kept _ =>
      intro chosen missing
      rw [resumed.outfit, kept] at missing
      have outfit := resumed.outfit.trans kept
      obtain rfl : name = compiler := (congrArg Outfit.compiler outfit).symm.trans chosen
      cases there.symm.trans missing
    | waits name left ending loading kept next =>
      intro chosen missing
      rw [resumed.outfit, kept] at missing
      by_cases own : name = compiler
      · subst own
        exact .inl (loading_of_next resumes next)
      · have outfit := resumed.outfit.trans kept
        exact .inl (h.elsewhere resumes loading own
          ((congrArg Outfit.compiler outfit).symm.trans chosen) missing)
    | fits name version loading kept next =>
      intro chosen missing
      rw [resumed.outfit, kept] at missing
      have own : name ≠ compiler := by
        rintro rfl
        cases (Function.update_self ..).symm.trans missing
      have outfit := resumed.outfit.trans kept
      exact .inl (h.elsewhere resumes loading own
        ((congrArg Outfit.compiler outfit).symm.trans chosen)
        ((Function.update_of_ne own.symm _ _).symm.trans missing))
    | fails name f ready loading _ kept next =>
      intro chosen missing
      rw [resumed.outfit, kept] at missing
      have own : name ≠ compiler := by
        rintro rfl
        cases h.ending resumes loading
      have outfit := resumed.outfit.trans kept
      exact .inl (h.elsewhere resumes loading own
        ((congrArg Outfit.compiler outfit).symm.trans chosen) missing)

/-- **A move keeps the invariant.** -/
theorem minded_move (m : Move) (h : s.Minded compiler) : (s.move m).Minded compiler := by
  rcases resumed_or_spared m s with ⟨at_, u, -, resumed⟩ | ⟨-, spared⟩
  · exact minded_resumed h resumed
  · exact h.hosts (hosts_of_spared spared) spared.outfit

/-- **A supported compiler that is chosen is loaded or being loaded, once the session is ready.** -/
theorem minded_moves {o : Opening} (supports : o.session.core.Supports compiler) (ms : List Move) :
    (o.session.moves ms).Minded compiler :=
  moves_induction (fun s => s.Minded compiler) ⟨supports, nofun, fun _ _ => .inr ⟨rfl, nofun⟩⟩
    fun m _ _ h => minded_move m h

/-! ### Who is turned away -/

/-- A compiler that is loaded stays so. -/
theorem loaded_move {name : String} (m : Move) (there : (s.loaded? name).isSome = true) :
    ((s.move m).loaded? name).isSome = true := by
  have iff (t : Session Action) :
      (t.loaded? name).isSome = true ↔ t.outfit.loaded name ≠ none := by
    simp [outfit, Option.isSome_iff_ne_none]
  rw [iff] at there ⊢
  rcases resumed_or_spared m s with ⟨at_, u, -, resumed⟩ | ⟨-, spared⟩
  · rw [resumed.outfit]
    rcases resumed.refits.loaded with same | ⟨other, version, -, updated⟩
    · exact same ▸ there
    · rw [updated, Function.update_apply]
      split
      · exact Option.some_ne_none version
      · exact there
  · exact spared.outfit ▸ there

theorem loaded_moves {name : String} (ms : List Move) (there : (s.loaded? name).isSome = true) :
    ((s.moves ms).loaded? name).isSome = true :=
  moves_induction (fun t => (t.loaded? name).isSome = true) there fun m _ _ h => loaded_move m h

/-- The run that a live session leads to its compiler in a move. -/
def invokes? (m : Move) (s : Session Action) : Option Run :=
  match s.goesOn? m with
  | some (.staging .invoke run _) => if s.state.alive then some run else none
  | _ => none

def unsupportedMessage (compiler : String) : String :=
  "<" ++ compiler ++ "> internal error:\n" ++ Fault.withSuggestion
    (Fault.unknownCompiler compiler).message (Fault.unknownCompiler compiler).suggestion?

theorem internalErrorMessage_unknownCompiler (compiler : String) :
    internalErrorMessage compiler (.unknownCompiler compiler) = .ok (unsupportedMessage compiler) :=
  rfl

/-- What a run comes to that is turned away. -/
def turnedAway (run : Run) : Outcome := .internalError (unsupportedMessage run.request.compiler)

/-- A run is over with this outcome. -/
def Over (generation : Nat) (outcome : Option Outcome) (ms : List Milestone) : Prop :=
  ∃ m ∈ ms, m.IsEnd generation outcome

/-- What a step of a run notes is noted after all that follows it. -/
theorem later_resumeStage (stage : Stage) (run : Run) (after : After) (s : Session Action) :
    (s.stepRun Session.react stage run).1.history <:+
      (s.resumeStage Session.react stage run after).1.history := by
  rcases step : s.stepRun Session.react stage run with ⟨t, ⟨next, run'⟩ | ⟨run', fault⟩⟩
  · have history : (s.resumeStage Session.react stage run after).1.history = t.history :=
      congrArg Core.history (core_resumeStage_of_next after step)
    exact history.symm ▸ List.suffix_refl _
  · exact (ends_resumeStage_of_over after step).beside.later

/-- The end of a run is noted, whatever follows it. -/
theorem over_resumeStage {stage : Stage} {run run' : Run} {fault : Option Fault} (after : After)
    (step : s.stepRun Session.react stage run = (t, .over run' fault)) :
    Over run'.generation run'.outcome
      (s.resumeStage Session.react stage run after).1.history := by
  obtain ⟨m, isEnd, later⟩ := (ends_resumeStage_of_over after step).noted
  exact ⟨m, later.mem List.mem_cons_self, isEnd⟩

/-- A run that does not find its compiler is over. -/
theorem turned_stepRun {run : Run} (alive : s.state.alive = true)
    (missing : ¬ s.offers run.request.compiler) :
    ∃ t run' fault, s.stepRun Session.react .invoke run = (t, .over run' fault) ∧
      run'.generation = run.generation ∧ run'.outcome = some (turnedAway run) := by
  have asked := asked_invokeStage reacts_react (admits_all s)
    { run with stages := run.stages ++ [Stage.invoke.name] }
  obtain ⟨-, turned⟩ | ⟨there, -⟩ := asked
  · let here : Run := { run with stages := run.stages ++ [Stage.invoke.name] }
    let f : Fault := .unknownCompiler run.request.compiler
    let raised := s.mark (.raised .invoke f)
    have ran : s.runStage Session.react .invoke here = (s, here, .error f) := turned
    have heard : raised.reportFault Session.react here f =
        raised.reportInternalError Session.react here f := if_pos alive
    -- the fault has a wording, so its report is made
    obtain ⟨_, unworded, -⟩ | ⟨message, u, fault, worded, reported, -⟩ :=
      alters_reportInternalError reacts_react raised here f
    · cases unworded
    obtain rfl : unsupportedMessage run.request.compiler = message :=
      Except.ok.inj ((internalErrorMessage_unknownCompiler _).symm.trans worded)
    obtain ⟨closing, closed, -⟩ := alters_closeRun reacts_react u
      { here with outcome := some (turnedAway run) }
    refine ⟨(u.closeRun Session.react { here with outcome := some (turnedAway run) }).1,
      { here with outcome := some (turnedAway run), module := none }, closing.fault.or fault, ?_,
      rfl, rfl⟩
    rw [stepRun_of_alive alive, ran]
    simp only [afterStage]
    rw [heard, reported]
    exact Prod.ext rfl
      (congrArg (fun r : Run × Option Fault => RunStep.over r.1 (r.2.or fault)) closed)
  · exact absurd there missing

/-- **A run asks its compiler if that is there, and is turned away otherwise.** -/
theorem asked_or_turned {m : Move} {run : Run} (h : s.invokes? m = some run) :
    (s.offers run.request.compiler ∧
      ∃ produced, .asked run.generation produced ∈ (s.move m).history) ∨
    ¬ s.offers run.request.compiler ∧
      Over run.generation (some (turnedAway run)) (s.move m).history := by
  unfold invokes? at h
  split at h
  next run' after goesOn =>
    split at h
    next alive =>
      obtain rfl := Option.some.inj h
      rcases resumed_or_spared m s with ⟨at_, u, goesOn', resumed⟩ | ⟨none, -⟩
      · obtain rfl := Option.some.inj (goesOn.symm.trans goesOn')
        obtain ⟨⟨-, ⟨rest, rfl⟩, -, -, core⟩, -⟩ := resumed
        have history : (s.move m).history =
            ((s.pop rest).resumeStage Session.react .invoke run' after).1.history :=
          congrArg Core.history core
        rw [history]
        by_cases there : s.offers run'.request.compiler
        · refine .inl ⟨there, ?_⟩
          have later := later_resumeStage .invoke run' after (s.pop rest)
          have worked := worked_stepRun reacts_react (admits_all (s.pop rest)) .invoke run'
          cases worked with
          | works _ why => exact absurd there (why rfl alive)
          | asks _ _ _ produced v asked works =>
            obtain ⟨w, -, rfl⟩ := asked
            exact ⟨produced, later.mem ((later_works works).mem List.mem_cons_self)⟩
        · refine .inr ⟨there, ?_⟩
          obtain ⟨t, run₂, fault, step, generation, outcome⟩ :=
            turned_stepRun (s := s.pop rest) alive there
          have ended := over_resumeStage after step
          rwa [generation, outcome] at ended
      · cases goesOn.symm.trans none
    next => cases h
  next => cases h

/-- The run is at the front of the pipeline. -/
theorem staged_of_invokes {m : Move} {run : Run} (h : s.invokes? m = some run) :
    (.invoke, run) ∈ s.inPipeline := by
  unfold invokes? at h
  split at h
  next run' after goesOn =>
    split at h
    next =>
      obtain rfl := Option.some.inj h
      rcases resumed_or_spared m s with ⟨at_, u, goesOn', resumed⟩ | ⟨none, -⟩
      · obtain rfl := Option.some.inj (goesOn.symm.trans goesOn')
        unfold inPipeline
        rw [resumed.front]
        exact List.mem_cons_self
      · cases goesOn.symm.trans none
    next => cases h
  next => cases h

/-- **A run for a supported compiler is turned away only if its request was taken while the compiler
was being loaded.** Whenever a run comes to its compiler, it asks the compiler if that is there, and
is turned away otherwise. A compiler that is known, and loads whenever it is loaded, is missing then
only if it was being loaded when the request was taken, or if the request was brought along. -/
theorem turned_away_while_loading (o : Opening) (ms : List Move) (m : Move) (run : Run)
    (invokes : (o.session.moves ms).invokes? m = some run) :
    let s := o.session.moves ms
    let compiler := run.request.compiler
    ((s.loaded? compiler).isSome = true ∧ (s.compiler? compiler).isSome = true ∧
        ∃ produced, .asked run.generation produced ∈ (s.move m).history) ∨
      Over run.generation (some (turnedAway run)) (s.move m).history ∧
        (o.session.core.Supports compiler → ∃ t ms₁ m' ms₂, ms = ms₁ ++ m' :: ms₂ ∧
          (o.session.moves ms₁).Accepts m' t ∧
          .began t.number run.generation t.request ∈ s.history ∧
          ((o.session.moves ms₁).brings? m' = none →
            (o.session.moves (ms₁ ++ [m'])).Loading compiler)) := by
  intro s compiler
  rcases asked_or_turned invokes with ⟨there, asked⟩ | ⟨missing, turned⟩
  · exact .inl ⟨there.1, there.2, asked⟩
  refine .inr ⟨turned, fun supports => ?_⟩
  obtain ⟨known, found, -⟩ := (minded_moves supports ms).supports
  have unloaded : ¬ (s.loaded? compiler).isSome = true := by
    intro loaded
    have known : s.compiler? compiler = some known := found
    exact missing ⟨loaded, by rw [known]; rfl⟩
  have traces : s.core.Traces o.probe (Snapped o ms) := traces_moves o ms
  obtain ⟨t, ⟨ms₁, m', ms₂, split, accepts⟩, begun, finalized⟩ :=
    traces.staged _ (staged_of_invokes invokes)
  refine ⟨t, ms₁, m', ms₂, split, accepts, begun, fun unbrought => ?_⟩
  have snapshot := accepts.snapshot unbrought
  have unjudged : t.request.finalized = false := by
    rw [snapshot]
    rfl
  have upgraded := Request.upgraded_finalize unjudged finalized
  rw [moves_concat]
  have chosen : ((o.session.moves ms₁).move m').state.compiler = compiler := by
    have same := upgraded.compiler
    rw [snapshot] at same
    exact same.symm
  have before : ((o.session.moves ms₁).move m').outfit.loaded compiler = none := by
    refine Option.map_eq_none_iff.2 (Option.not_isSome_iff_eq_none.1 fun loaded => unloaded ?_)
    have later := loaded_moves ms₂ loaded
    rw [← moves_concat, ← moves_append, List.append_assoc] at later
    rw [show s = o.session.moves (ms₁ ++ ([m'] ++ ms₂)) from congrArg _ split]
    exact later
  have minded := minded_move m' (minded_moves supports ms₁)
  rcases minded.chosen chosen before with loading | ⟨unready, -⟩
  · exact loading
  · cases accepts.ready.symm.trans unready

/-- Two compilers, of which the one that is not chosen at first takes a while to load. -/
def quickOpening : Opening :=
  { settings := { compiler := "fast" }, source := "x = 1", probe := .always false
    compilers := [("fast", .scripted {}), ("slow", .scripted { loadYields := 5 })] }

theorem supports_quickOpening : quickOpening.session.core.Supports "slow" := by
  refine ⟨.scripted { loadYields := 5 }, rfl, fun script eq => ?_⟩
  cases eq
  unfold CompilerScript.Loads
  decide

/-- The session is started and has compiled; the slow compiler is chosen, and the button is clicked
while it is being loaded. The last callback of these moves is the one before the compiler is
called. -/
def hastyMoves : List Move :=
  [.act (.spawn .start)] ++ smallTicks 8 ++ [.act (.spawn (.switchCompiler "slow"))] ++
    smallTicks 1 ++ [.act (.spawn (.click none))] ++ smallTicks 2 ++ [.openTick, .step]

theorem turned_away_while_loading_hasty :
    let s := quickOpening.session.moves hastyMoves
    ∃ run, s.invokes? .step = some run ∧ run.request.compiler = "slow" ∧
      Over 2 (some (turnedAway run)) (s.move .step).history ∧
      ∃ t ms₁ m ms₂, hastyMoves = ms₁ ++ m :: ms₂ ∧
        (quickOpening.session.moves ms₁).Accepts m t ∧ .began t.number 2 t.request ∈ s.history := by
  have invokes : ((quickOpening.session.moves hastyMoves).invokes? .step).map
      (fun run => (run.request.compiler, run.generation)) = some ("slow", 2) := by decide +kernel
  have missing : ((quickOpening.session.moves hastyMoves).loaded? "slow").isSome = false := by
    decide +kernel
  obtain ⟨run, same, found⟩ := Option.map_eq_some_iff.1 invokes
  obtain ⟨slow, second⟩ := Prod.mk.inj found
  have told := turned_away_while_loading quickOpening hastyMoves .step run same
  simp only [slow, second] at told
  rcases told with ⟨there, -⟩ | ⟨turned, taken⟩
  · cases missing.symm.trans there
  obtain ⟨t, ms₁, m, ms₂, split, accepts, begun, -⟩ := taken supports_quickOpening
  exact ⟨run, same, slow, turned, t, ms₁, m, ms₂, split, accepts, begun⟩

/-- **A compiler that loads is reported as not supported**, when it is run while it is being
loaded. -/
theorem turned_away_early :
    quickOpening.session.core.Supports "slow" ∧
      let s := quickOpening.session.moves (hastyMoves ++ [.step])
      (latestRun? s.history).map (fun run => (run.1.request.compiler, run.2)) = some ("slow", 2) ∧
        latestEnd? s.history = some (2, some (.internalError (unsupportedMessage "slow"))) ∧
        ((s.moves (smallTicks 8)).loaded? "slow").isSome = true := by
  refine ⟨supports_quickOpening, ?_⟩
  decide +kernel

end Session

end Playground
