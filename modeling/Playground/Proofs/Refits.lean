import Playground.Proofs.Outfits

/-!
# What coroutines make of the outfit

Only coroutines outside the pipeline change the outfit of a session, each in its own way: one sets
an option, another chooses a compiler, and at the end of a loading the compiler is fitted or not. A
move that goes on with no coroutine leaves the outfit as it is.

* `Session.goesOn?` — where the coroutine waits that a move goes on with.
* `Session.settingAt?`, `Session.loadingAt?`, `Waiting.chooses?` — what it is about to do.
* `Refits`, `refits_resume` — what it makes of the outfit.
* `resumed_or_spared` — a move goes on with a coroutine, or spares the outfit.
* `Session.asks?`, `calls_move` — the compile calls that are noted are those that runs make.
-/

namespace Playground

open Playground.Clock

def Waiting.chooses? : Waiting → Option String
  | .fresh (.switchCompiler compiler) => some compiler
  | _ => none

namespace Session

variable {s t : Session Action}

def goesOn? (m : Move) (s : Session Action) : Option Waiting :=
  match m, s.loop.batch with
  | .step, .job j :: _ => j.waiting?
  | _, _ => none

/-! ### Loading and settings -/

/-- How often a loading gives way, and how it ends. -/
def prospect (compiler : String) (s : Session Action) : Nat × Option Fault :=
  match s.compiler? compiler with
  | none => (0, some (.unknownCompiler compiler))
  | some (.bytecode _) => (0, none)
  | some (.scripted script) => (script.loadYields, script.loads.take.1)

/-- The compiler that is loaded when a coroutine goes on, how often the loading still gives way and
how it ends. -/
def loadingAt? (at_ : Waiting) (s : Session Action) : Option (String × Nat × Option Fault) :=
  match at_ with
  | .loading compiler left ending _ => some (compiler, left, ending)
  | .fresh .start => some (s.state.compiler, s.prospect s.state.compiler)
  | .fresh .startUp => some (s.state.compiler, s.prospect s.state.compiler)
  | .fresh (.switchCompiler compiler) =>
    if (s.loaded? compiler).isSome then none else some (compiler, s.prospect compiler)
  | _ => none

/-- The setting that a coroutine applies when it goes on: a ready session refuses only unknown
names and wrong values. -/
def settingAt? (at_ : Waiting) (s : Session Action) : Option (String × Value) :=
  match at_ with
  | .fresh (.setOption key value) =>
    if s.state.ready && (s.state.options.replace key value).isOk then some (key, value) else none
  | _ => none

variable {at_ : Waiting}

/-- A coroutine that loads sets no option. -/
theorem unset_of_loading {x : String × Nat × Option Fault} (loading : s.loadingAt? at_ = some x) :
    s.settingAt? at_ = none := by
  cases at_ with
  | fresh call =>
    cases call with
    | setOption => cases loading
    | _ => rfl
  | _ => rfl

/-- A coroutine that chooses a compiler sets no option. -/
theorem unset_of_chooses {compiler : String} (chosen : at_.chooses? = some compiler) :
    s.settingAt? at_ = none := by
  cases at_ with
  | fresh call =>
    cases call with
    | setOption => cases chosen
    | _ => rfl
  | _ => rfl

end Session

/-- The loading that a coroutine goes on with, after its step. -/
def Session.Progress.loading? : Session.Progress → Option (String × Nat × Option Fault)
  | .waits (.loading compiler left ending _) => some (compiler, left, ending)
  | _ => none

/-- What a step of a coroutine makes of the outfit. -/
inductive Refits (at_ : Waiting) (s : Session Action) (r : Session Action × Session.Progress) :
    Prop where
  /-- Runs may add compile calls. -/
  | keeps (idle : s.loadingAt? at_ = none) (unset : s.settingAt? at_ = none)
      (chosen : at_.chooses? = none) (calls : List (String × String × Options))
      (outside : at_.stage? = none → calls = s.outfit.calls)
      (outfit : r.1.outfit = { s.outfit with calls := calls }) (next : r.2.loading? = none)
  | sets (idle : s.loadingAt? at_ = none) (key : String) (value : Value) (options : Options)
      (set : s.settingAt? at_ = some (key, value)) (chosen : at_.chooses? = none)
      (replaced : s.state.options.replace key value = .ok options)
      (outfit : r.1.outfit = { s.outfit with options := options }) (next : r.2.loading? = none)
  /-- A compiler is chosen that is loaded already. -/
  | shows (idle : s.loadingAt? at_ = none) (compiler version : String)
      (chosen : at_.chooses? = some compiler) (there : s.outfit.loaded compiler = some version)
      (outfit : r.1.outfit = { s.outfit with compiler := compiler, version := version })
      (next : r.2.loading? = none)
  | waits (compiler : String) (left : Nat) (ending : Option Fault)
      (loading : s.loadingAt? at_ = some (compiler, left + 1, ending))
      (outfit : r.1.outfit = s.outfit.choose at_.chooses?)
      (next : r.2.loading? = some (compiler, left, ending))
  | fits (compiler version : String) (loading : s.loadingAt? at_ = some (compiler, 0, none))
      (outfit : r.1.outfit = (s.outfit.choose at_.chooses?).fit compiler version)
      (next : r.2.loading? = none)
  | fails (compiler : String) (f : Fault) (ready : Bool)
      (loading : s.loadingAt? at_ = some (compiler, 0, some f))
      (cautious : ready = true → s.state.ready = true)
      (outfit : r.1.outfit = { s.outfit.choose at_.chooses? with ready := ready })
      (next : r.2.loading? = none)

theorem Refits.loading_before {at_ : Waiting} {s : Session Action}
    {r : Session Action × Session.Progress} (h : Refits at_ s r) {compiler : String} {left : Nat}
    {ending : Option Fault} (next : r.2.loading? = some (compiler, left, ending)) :
    s.loadingAt? at_ = some (compiler, left + 1, ending) := by
  cases h with
  | waits compiler' left' ending' loading _ next' =>
    obtain ⟨rfl, rfl, rfl⟩ : compiler' = compiler ∧ left' = left ∧ ending' = ending := by
      simpa using next'.symm.trans next
    exact loading
  | keeps _ _ _ _ _ _ none => cases none.symm.trans next
  | sets _ _ _ _ _ _ _ _ none => cases none.symm.trans next
  | shows _ _ _ _ _ _ none => cases none.symm.trans next
  | fits _ _ _ _ none => cases none.symm.trans next
  | fails _ _ _ _ _ _ none => cases none.symm.trans next

/-- Only a loading that ends well changes which compilers are loaded. -/
theorem Refits.loaded {at_ : Waiting} {s : Session Action}
    {r : Session Action × Session.Progress} (h : Refits at_ s r) :
    r.1.outfit.loaded = s.outfit.loaded ∨
      ∃ compiler version, s.loadingAt? at_ = some (compiler, 0, none) ∧
        r.1.outfit.loaded = Function.update s.outfit.loaded compiler (some version) := by
  cases h with
  | keeps _ _ _ _ _ outfit _ => exact .inl ((congrArg Outfit.loaded outfit).trans rfl)
  | sets _ _ _ _ _ _ _ outfit _ => exact .inl ((congrArg Outfit.loaded outfit).trans rfl)
  | shows _ _ _ _ _ outfit _ => exact .inl ((congrArg Outfit.loaded outfit).trans rfl)
  | waits _ _ _ _ outfit _ => exact .inl ((congrArg Outfit.loaded outfit).trans rfl)
  | fits compiler version loading outfit _ =>
    exact .inr ⟨compiler, version, loading, congrArg Outfit.loaded outfit⟩
  | fails _ _ _ _ _ outfit _ => exact .inl ((congrArg Outfit.loaded outfit).trans rfl)

namespace Session

variable {s t : Session Action}

theorem progress_openRun (ticket : Ticket) (after : After) (s : Session Action) :
    (s.openRun ticket after).2.loading? = none := by
  unfold openRun
  simp only
  split <;> rfl

/-- The way into the pipeline leads to no loading. -/
theorem progress_enterCompile (draft : Option Draft) (after : After) (s : Session Action) :
    (s.enterCompile draft after).2.loading? = none := by
  unfold enterCompile
  split
  · simp only
    split
    · rfl
    · exact progress_openRun _ _ _
  · rfl

/-- After a loading that failed, the session keeps its compilers. -/
theorem fails_afterLoad (purpose : LoadPurpose) (compiler : String) (s : Session Action) :
    ∃ ready, (ready = true → s.state.ready = true) ∧
      (s.afterLoad purpose compiler false).1.outfit = { s.outfit with ready := ready } ∧
      (s.afterLoad purpose compiler false).2.loading? = none := by
  cases purpose with
  | switchCompiler =>
    exact ⟨s.state.ready, id, outfit_enterCompile none (.answer false) s,
      progress_enterCompile none (.answer false) s⟩
  | start => exact ⟨false, nofun, rfl, rfl⟩
  | startUp => exact ⟨false, nofun, outfit_write _ _ _ _, rfl⟩

/-- After a loading that succeeded, the version of the compiler is shown. -/
theorem fits_afterLoad (purpose : LoadPurpose) {compiler version : String} {s : Session Action}
    (there : s.outfit.loaded compiler = some version) (shown : s.outfit.version = version) :
    (s.afterLoad purpose compiler true).1.outfit = s.outfit ∧
      (s.afterLoad purpose compiler true).2.loading? = none := by
  cases purpose with
  | switchCompiler =>
    have same : ((s.loaded? compiler).map (·.version)).getD s.state.version = s.state.version := by
      rw [show (s.loaded? compiler).map (·.version) = some version from there]
      exact shown.symm
    refine ⟨(outfit_enterCompile none (.answer true) _).trans ?_,
      progress_enterCompile none (.answer true) _⟩
    exact congrArg (fun version => ({ s.outfit with version := version } : Outfit)) same
  | start =>
    exact ⟨outfit_enterCompile none (.answer true) s, progress_enterCompile none (.answer true) s⟩
  | startUp =>
    exact ⟨outfit_enterCompile none .nothing s, progress_enterCompile none .nothing s⟩

/-- The end of a loading: the compiler is fitted, or the session keeps those that it has. -/
theorem outfit_endLoad (compiler : String) (ending : Option Fault) (purpose : LoadPurpose)
    (s : Session Action) :
    (s.endLoad compiler ending purpose).2.loading? = none ∧
      match ending with
      | none => (s.endLoad compiler ending purpose).1.outfit =
          s.outfit.fit compiler (s.freshlyLoaded compiler).version
      | some _ => ∃ ready, (ready = true → s.state.ready = true) ∧
          (s.endLoad compiler ending purpose).1.outfit = { s.outfit with ready := ready } := by
  have failed (level : Log.Level) (message : String) :
      ((s.write level sessionLogger message).afterLoad purpose compiler false).2.loading? = none ∧
      ∃ ready, (ready = true → s.state.ready = true) ∧
        ((s.write level sessionLogger message).afterLoad purpose compiler false).1.outfit =
          { s.outfit with ready := ready } := by
    obtain ⟨ready, cautious, outfit, next⟩ :=
      fails_afterLoad purpose compiler (s.write level sessionLogger message)
    exact ⟨next, ready, cautious, by rw [outfit, outfit_write]⟩
  unfold endLoad
  cases ending with
  | some f =>
    simp only
    split
    · exact failed _ _
    · split
      · exact failed _ _
      · exact ⟨rfl, s.state.ready, id, rfl⟩
  | none =>
    let own := s.freshlyLoaded compiler
    let fitted := (s.setLoaded compiler own).modifyState fun st =>
      { st with ready := true, version := own.version }
    let told := compiler ++ " " ++ own.version ++ " ready"
    have outfit : (fitted.write .info sessionLogger told).outfit =
        s.outfit.fit compiler own.version := by
      rw [outfit_write]
      have loaded : fitted.outfit.loaded =
          Function.update s.outfit.loaded compiler (some own.version) := by
        funext n
        show ((s.setLoaded compiler own).loaded? n).map (·.version) = _
        rw [loaded?_setLoaded, Function.update_apply]
        split <;> rfl
      exact congrArg (fun loaded => ({ s.outfit with
        ready := true, version := own.version, loaded := loaded } : Outfit)) loaded
    have there : (fitted.write .info sessionLogger told).outfit.loaded compiler =
        some own.version := by
      rw [outfit]
      exact Function.update_self ..
    obtain ⟨kept, next⟩ := fits_afterLoad purpose there (by rw [outfit]; rfl)
    exact ⟨next, kept.trans outfit⟩

/-- A loading gives way, or it ends and the compiler is fitted or not. -/
theorem refits_continueLoad {at_ : Waiting} {compiler : String} {left : Nat}
    {ending : Option Fault} (loading : s.loadingAt? at_ = some (compiler, left, ending))
    (outfit : t.outfit = s.outfit.choose at_.chooses?) (purpose : LoadPurpose) :
    Refits at_ s (t.continueLoad compiler left ending purpose) := by
  cases left with
  | succ n => exact .waits compiler n ending loading outfit rfl
  | zero =>
    have ended := outfit_endLoad compiler ending purpose t
    cases ending with
    | none =>
      obtain ⟨next, fitted⟩ := ended
      exact .fits compiler _ loading (fitted.trans (by rw [outfit])) next
    | some f =>
      obtain ⟨next, ready, cautious, failed⟩ := ended
      have same : t.state.ready = s.state.ready := congrArg Outfit.ready outfit
      exact .fails compiler f ready loading (fun h => same ▸ cautious h)
        (failed.trans (by rw [outfit])) next

theorem refits_load {at_ : Waiting} {compiler : String}
    (loading : s.loadingAt? at_ = some (compiler, s.prospect compiler))
    (known : t.compilers = s.compilers) (outfit : t.outfit = s.outfit.choose at_.chooses?)
    (purpose : LoadPurpose) : Refits at_ s (t.load compiler purpose) := by
  have same : t.compiler? compiler = s.compiler? compiler := by
    unfold compiler?
    rw [known]
  unfold load beginLoad
  unfold prospect at loading
  rw [same]
  cases found : s.compiler? compiler with
  | none =>
    rw [found] at loading
    exact @refits_continueLoad _ _ _ _ 0 _ loading outfit purpose
  | some c =>
    rw [found] at loading
    cases c with
    | bytecode i => exact refits_continueLoad loading outfit purpose
    | scripted script =>
      refine refits_continueLoad loading (Eq.trans ?_ outfit) purpose
      exact outfit_note t (e := .loaded compiler) rfl

/-- A call that neither loads nor chooses a compiler nor sets an option. -/
theorem refits_keeps {at_ : Waiting} {r : Session Action × Progress}
    (idle : s.loadingAt? at_ = none) (unset : s.settingAt? at_ = none)
    (chosen : at_.chooses? = none) (h : r.1.outfit = s.outfit ∧ r.2.loading? = none) :
    Refits at_ s r := .keeps idle unset chosen s.outfit.calls (fun _ => rfl) h.1 h.2

theorem refits_setOption (key : String) (value : Value) (s : Session Action) :
    Refits (.fresh (.setOption key value)) s (begin (.setOption key value) s) := by
  unfold begin
  simp only
  by_cases ready : s.state.ready = true
  · rw [if_pos ready]
    cases replaced : s.state.options.replace key value with
    | error f =>
      have unset : s.settingAt? (.fresh (.setOption key value)) = none := by
        simp [settingAt?, replaced, Except.isOk, Except.toBool]
      exact refits_keeps rfl unset rfl ⟨rfl, rfl⟩
    | ok options =>
      have set : s.settingAt? (.fresh (.setOption key value)) = some (key, value) := by
        simp [settingAt?, ready, replaced, Except.isOk, Except.toBool]
      exact .sets rfl key value options set rfl replaced
        (outfit_enterCompile none (.answer true) _) (progress_enterCompile none (.answer true) _)
  · rw [if_neg ready]
    have unset : s.settingAt? (.fresh (.setOption key value)) = none := by
      simp [settingAt?, ready]
    exact refits_keeps rfl unset rfl ⟨rfl, rfl⟩

theorem refits_switchCompiler (compiler : String) (s : Session Action) :
    Refits (.fresh (.switchCompiler compiler)) s (begin (.switchCompiler compiler) s) := by
  unfold begin
  simp only
  by_cases there : (s.loaded? compiler).isSome = true
  · have there' : ((s.cancelTimer.modifyState fun st =>
        { st with compiler := compiler }).loaded? compiler).isSome = true := there
    rw [if_pos there']
    obtain ⟨own, loaded⟩ := Option.isSome_iff_exists.1 there
    refine .shows (if_pos there) compiler own.version rfl ?_ ?_
      (progress_enterCompile none (.answer true) _)
    · exact congrArg (Option.map (·.version)) loaded
    · refine (outfit_enterCompile none (.answer true) _).trans ?_
      have version : ((s.loaded? compiler).map (·.version)).getD s.state.version =
          own.version := by
        rw [loaded]
        rfl
      exact congrArg (fun version =>
        ({ s.outfit with compiler := compiler, version := version } : Outfit)) version
  · have there' : ¬ ((s.cancelTimer.modifyState fun st =>
        { st with compiler := compiler }).loaded? compiler).isSome = true := there
    rw [if_neg there']
    have loading : s.loadingAt? (.fresh (.switchCompiler compiler)) =
        some (compiler, s.prospect compiler) := if_neg there
    exact refits_load (t := s.cancelTimer.modifyState fun st => { st with compiler := compiler })
      loading rfl rfl .switchCompiler

theorem refits_begin (call : Call) (s : Session Action) :
    Refits (.fresh call) s (begin call s) := by
  cases call with
  | start => exact refits_load (s := s) (t := s.wake) rfl rfl rfl .start
  | startUp => exact refits_load (s := s) (t := s.wake) rfl rfl rfl .startUp
  | compile draft =>
    exact refits_keeps rfl rfl rfl
      ⟨outfit_enterCompile draft .nothing s, progress_enterCompile draft .nothing s⟩
  | click mode =>
    have entered : (s.cancelTimer.enterCompile none .nothing).1.outfit = s.outfit ∧
        (s.cancelTimer.enterCompile none .nothing).2.loading? = none :=
      ⟨outfit_enterCompile none .nothing s.cancelTimer, progress_enterCompile none .nothing _⟩
    have declined : (s.cancelTimer.write .debug sessionLogger
        "decompile not supported yet").outfit = s.outfit := outfit_write s.cancelTimer _ _ _
    refine refits_keeps rfl rfl rfl ?_
    unfold begin
    cases mode with
    | none =>
      simp only
      split
      · exact ⟨declined, rfl⟩
      · exact entered
    | some name =>
      simp only
      split
      · exact ⟨rfl, rfl⟩
      · exact ⟨declined, rfl⟩
      · exact entered
  | setOption key value => exact refits_setOption key value s
  | switchCompiler compiler => exact refits_switchCompiler compiler s
  | waitIdle =>
    obtain ⟨unchanged, -⟩ := waitIdle_rests s
    refine refits_keeps rfl rfl rfl ⟨congrArg Session.outfit unchanged, ?_⟩
    show s.waitIdle.2.loading? = none
    unfold waitIdle
    split <;> rfl
  | shutDown =>
    obtain ⟨unchanged, -⟩ := waitIdle_rests s.stop
    refine refits_keeps rfl rfl rfl
      ⟨(congrArg Session.outfit unchanged).trans (outfit_write _ _ _ _), ?_⟩
    show s.stop.waitIdle.2.loading? = none
    unfold waitIdle
    split <;> rfl
  | turn => exact refits_keeps rfl rfl rfl ⟨rfl, rfl⟩

theorem refits_resumeStage (stage : Stage) (run : Run) (after : After) (s : Session Action) :
    Refits (.staging stage run after) s (s.resumeStage Session.react stage run after) := by
  have outfit := outfit_resumeStage stage run after s
  have next : (s.resumeStage Session.react stage run after).2.loading? = none := by
    unfold resumeStage
    split
    · rfl
    · rfl
    · unfold nextRun
      split
      · rfl
      · simp only
        split
        · exact progress_openRun _ _ _
        · rfl
  cases asks : s.asksAt? (.staging stage run after) with
  | none =>
    rw [asks] at outfit
    exact .keeps rfl rfl rfl s.outfit.calls nofun outfit next
  | some run' =>
    rw [asks] at outfit
    have noting : s.noting run' s.outfit = { s.outfit with
        calls := (s.noting run' s.outfit).calls } := by
      unfold noting
      split <;> rfl
    exact .keeps rfl rfl rfl _ nofun (outfit.trans noting) next

/-- **What a coroutine makes of the outfit.** -/
theorem refits_resume {at_ : Waiting} (lasting : at_.lasting? = some at_) (s : Session Action) :
    Refits at_ s (s.resume Session.react at_) := by
  cases at_ with
  | fresh call => exact refits_begin call s
  | loading compiler left ending purpose => exact refits_continueLoad rfl rfl purpose
  | staging stage run after => exact refits_resumeStage stage run after s
  | idle => cases lasting

/-! ### Moves -/

/-- What a move that goes on with no coroutine does. -/
inductive Spared (s t : Session Action) : Prop where
  | acted (nudges : Nudges (fun _ => True) s t)
  | kept (core : t.core = s.core) (outfit : t.outfit = s.outfit)
  /-- A coroutine was called, or the timer came due. -/
  | awaits (call : Call) (armed : Option Nat)
      (core : t.core = { s.core with armed := armed }.await (some (.fresh call)))
      (outfit : t.outfit = s.outfit)

theorem Spared.outfit (h : Spared s t) : t.outfit = s.outfit := by
  cases h with
  | acted nudges => exact outfit_nudges nudges
  | kept _ outfit => exact outfit
  | awaits _ _ _ outfit => exact outfit

/-- The coroutine that has waited longest makes a step. -/
structure Resumed (at_ : Waiting) (u s t : Session Action) : Prop extends Resumes at_ u s t where
  outfit : t.outfit = (u.resume Session.react at_).1.outfit

theorem resumed_runJob {j : Job} {at_ : Waiting} {rest : List (Entry Job)}
    (h : s.loop.batch = .job j :: rest) (some : j.waiting? = some at_) :
    Resumed at_ (s.pop rest) s (runJob Session.react j (s.pop rest)) := by
  refine ⟨resumes_runJob h some, ?_⟩
  cases j with
  | forget => cases some
  | report => cases some
  | resume owner w =>
    obtain rfl : w = at_ := by
      cases w with
      | idle => cases some
      | _ => exact Option.some.inj some
    exact outfit_stepCoroutine owner w _

theorem Resumed.refits {at_ : Waiting} {u : Session Action} (h : Resumed at_ u s t) :
    Refits at_ s (u.resume Session.react at_) := by
  obtain ⟨⟨lasting, ⟨rest, rfl⟩, -, -, -⟩, -⟩ := h
  have refits := refits_resume lasting (s.pop rest)
  -- taking the job off the queue leaves all that matters to the coroutine
  cases refits with
  | keeps idle unset chosen calls outside outfit next =>
    exact .keeps idle unset chosen calls outside outfit next
  | sets idle key value options set chosen replaced outfit next =>
    exact .sets idle key value options set chosen replaced outfit next
  | shows idle compiler version chosen there outfit next =>
    exact .shows idle compiler version chosen there outfit next
  | waits compiler left ending loading outfit next =>
    exact .waits compiler left ending loading outfit next
  | fits compiler version loading outfit next => exact .fits compiler version loading outfit next
  | fails compiler f ready loading cautious outfit next =>
    exact .fails compiler f ready loading cautious outfit next

theorem spared_runJob {j : Job} {rest : List (Entry Job)} (h : s.loop.batch = .job j :: rest)
    (none : j.waiting? = none) : Spared s (runJob Session.react j (s.pop rest)) := by
  refine .kept (core_runJob_of_none h none) ?_
  cases j with
  | forget task => rfl
  | report wait failure => exact outfit_report wait failure _
  | resume owner at_ =>
    cases at_ with
    | idle failure =>
      obtain ⟨unchanged, -⟩ := resume_idle_rests Session.react failure (s.pop rest)
      have stepped := outfit_stepCoroutine owner (.idle failure) (s.pop rest)
      rw [unchanged] at stepped
      exact stepped
    | _ => cases none

/-- **A move goes on with the coroutine that has waited longest, or spares the outfit.** -/
theorem resumed_or_spared (m : Move) (s : Session Action) :
    (∃ at_ u, s.goesOn? m = some at_ ∧ Resumed at_ u s (s.move m)) ∨
      s.goesOn? m = none ∧ Spared s (s.move m) := by
  cases m with
  | act a => exact .inr ⟨rfl, .acted (nudges_act reacts_react (admits_all s) trivial)⟩
  | call c => exact .inr ⟨rfl, .awaits c s.armed (core_enqueue _ _) rfl⟩
  | openTick =>
    have waiting : (machine.openTick s).waiting = s.waiting :=
      congrArg (List.filterMap Job.waiting?) (Loop.jobs_openTick s.loop)
    exact .inr ⟨rfl,
      .kept (congrArg (fun ws => ({ s.core with waiting := ws } : Core)) waiting) rfl⟩
  | setTime now => exact .inr ⟨rfl, .kept rfl rfl⟩
  | relog log => exact .inr ⟨rfl, .kept rfl rfl⟩
  | step =>
    show (∃ at_ u, _ ∧ Resumed at_ u s (machine.step s)) ∨ _ ∧ Spared s (machine.step s)
    unfold Machine.step goesOn?
    cases batch : s.loop.batch with
    | nil =>
      rw [show (machine.loop s).batch = [] from batch]
      exact .inr ⟨rfl, .kept rfl rfl⟩
    | cons e rest =>
      cases e with
      | timer id =>
        rw [show (machine.loop s).batch = .timer id :: rest from batch]
        refine .inr ⟨rfl, ?_⟩
        have popped : (s.pop rest).core = s.core := core_pop_timer batch
        have outfit : ((s.pop rest).fireTimer id).outfit = s.outfit := by
          unfold fireTimer
          split <;> rfl
        rcases core_fireTimer (s.pop rest) id with eq | ⟨-, eq⟩
        · exact .kept (eq.trans popped) outfit
        · rw [popped] at eq
          exact .awaits _ none eq outfit
      | job j =>
        rw [show (machine.loop s).batch = .job j :: rest from batch]
        cases waiting : j.waiting? with
        | none => exact .inr ⟨waiting, spared_runJob batch waiting⟩
        | some at_ => exact .inl ⟨at_, s.pop rest, waiting, resumed_runJob batch waiting⟩

/-! ### Compile calls -/

/-- The run whose compiler is asked in a move. -/
def asks? (m : Move) (s : Session Action) : Option Run := (s.goesOn? m).bind s.asksAt?

/-- Only a live session asks, and only for the run at the front of its pipeline. -/
theorem staged_of_asks {m : Move} {run : Run} (h : s.asks? m = some run) :
    (.invoke, run) ∈ s.inPipeline ∧ s.state.alive = true ∧ s.offers run.request.compiler := by
  rcases resumed_or_spared m s with ⟨at_, u, goesOn, resumed⟩ | ⟨goesOn, -⟩
  · unfold asks? at h
    rw [goesOn, Option.bind_some] at h
    cases at_ with
    | staging stage run' after =>
      cases stage with
      | invoke =>
        unfold asksAt? at h
        simp only at h
        split at h
        next there =>
          obtain rfl := Option.some.inj h
          simp only [Bool.and_eq_true] at there
          refine ⟨?_, there.1.1, there.1.2, there.2⟩
          unfold inPipeline
          rw [resumed.front]
          exact List.mem_cons_self
        next => cases h
      | _ => cases h
    | _ => cases h
  · unfold asks? at h
    rw [goesOn] at h
    cases h

/-- **The compile calls that are noted are those that runs make.** -/
theorem calls_move (m : Move) (s : Session Action) :
    (s.move m).outfit.calls =
      match s.asks? m with
      | some run => (s.noting run s.outfit).calls
      | none => s.outfit.calls := by
  unfold asks?
  rcases resumed_or_spared m s with ⟨at_, u, goesOn, resumed⟩ | ⟨goesOn, spared⟩
  · rw [goesOn, Option.bind_some]
    cases outside : at_.stage? with
    | some x =>
      obtain ⟨⟨-, ⟨rest, rfl⟩, -, -, -⟩, outfit⟩ := resumed
      cases at_ with
      | staging stage run after =>
        have calls := congrArg Outfit.calls
          (outfit.trans (outfit_resumeStage stage run after (s.pop rest)))
        rw [calls]
        show (match s.asksAt? (.staging stage run after) with
          | some run => s.noting run s.outfit
          | none => s.outfit).calls = _
        cases s.asksAt? (.staging stage run after) <;> rfl
      | _ => cases outside
    | none =>
      have refits := resumed.refits
      have unasked : s.asksAt? at_ = none := by
        cases at_ with
        | staging => cases outside
        | _ => rfl
      rw [unasked, resumed.outfit]
      cases refits with
      | keeps _ _ _ calls same outfit _ =>
        exact (congrArg Outfit.calls outfit).trans (same outside)
      | sets _ _ _ _ _ _ _ outfit _ => exact (congrArg Outfit.calls outfit).trans rfl
      | shows _ _ _ _ _ outfit _ => exact (congrArg Outfit.calls outfit).trans rfl
      | waits _ _ _ _ outfit _ => exact (congrArg Outfit.calls outfit).trans rfl
      | fits _ _ _ outfit _ => exact (congrArg Outfit.calls outfit).trans rfl
      | fails _ _ _ _ _ outfit _ => exact (congrArg Outfit.calls outfit).trans rfl
  · rw [goesOn]
    exact congrArg Outfit.calls spared.outfit

end Session

end Playground
