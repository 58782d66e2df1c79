import Mathlib.Data.List.Induction
import Playground.Proofs.Availability

/-!
# How often a compiler is loaded

A compiler that is loaded already is chosen without another loading. Whether it is loaded is looked
up before the loading begins, and becomes true only when the loading has ended, so that two choices
of a compiler that overlap load it twice; a start loads the chosen compiler in any case.

* `Session.begins?`, `Session.loadings` — the loadings that begin, and those of a course of moves.
* `loadCalls_move` — they are the loadings that are noted.
* `Session.Attended`, `attended_move` — a supported compiler is loaded, or being loaded, from its
  first loading on.
* `loaded_once_unless_overlapping` — when a compiler is loaded once.
* `loaded_twice` — two choices that overlap.
-/

namespace Playground

open Playground.Clock Playground.Core

namespace Session

variable {P : Action → Prop} {s t : Session Action}

/-- The compiler whose loading begins when a coroutine goes on: it is at its first step, comes to
load the compiler, and the compiler is known. -/
def beginsAt? (at_ : Waiting) (s : Session Action) : Option String :=
  match at_ with
  | .fresh call =>
    ((s.loadingAt? (.fresh call)).map (·.1)).filter fun compiler => (s.compiler? compiler).isSome
  | _ => none

/-- The compiler whose loading begins in a move. -/
def begins? (m : Move) (s : Session Action) : Option String := (s.goesOn? m).bind s.beginsAt?

def loadings (s : Session Action) : List Move → List String
  | [] => []
  | m :: ms => (s.begins? m).toList ++ (s.move m).loadings ms

theorem loadings_concat (s : Session Action) (ms : List Move) (m : Move) :
    s.loadings (ms ++ [m]) = s.loadings ms ++ ((s.moves ms).begins? m).toList := by
  induction ms generalizing s with
  | nil => simp [loadings, moves]
  | cons n ms ih =>
    show (s.begins? n).toList ++ (s.move n).loadings (ms ++ [m]) = _
    rw [ih, ← List.append_assoc]
    rfl

/-! ### What is noted of loadings -/

def loadCalls (s : Session Action) : List String := s.journal.filterMap Effect.load?

theorem loadCalls_note (s : Session Action) {e : Effect} (h : e.load? = none) :
    (s.note e).loadCalls = s.loadCalls := List.filterMap_cons_none h

@[simp] theorem loadCalls_write (s : Session Action) (level : Log.Level) (logger message : String) :
    (s.write level logger message).loadCalls = s.loadCalls := by
  have logged (ds : List (String × Log.Record)) :
      (ds.map fun d => Effect.logged d.1 d.2).reverse.filterMap Effect.load? = [] := by
    refine List.filterMap_eq_nil_iff.2 fun e he => ?_
    obtain ⟨d, -, rfl⟩ := List.mem_map.1 (List.mem_reverse.1 he)
    rfl
  unfold write loadCalls
  simp only [List.filterMap_append, logged, List.nil_append]

theorem loadCalls_takeReaction (s : Session Action) (event listener : String) (data : Payload) :
    (s.takeReaction event listener data).1.loadCalls = s.loadCalls := by
  unfold takeReaction
  split <;> rfl

theorem loadCalls_rearm (s : Session Action) : s.rearm.1.loadCalls = s.loadCalls := by
  unfold rearm
  split <;> rfl

theorem loadCalls_edit (s : Session Action) (text : String) :
    (s.edit text).loadCalls = s.loadCalls := by
  unfold edit
  simp only
  split
  · rfl
  · split
    · exact loadCalls_rearm _
    · rfl

theorem loadCalls_turn (s : Session Action) (mode : CompileMode) :
    (s.turn mode).loadCalls = s.loadCalls := by
  unfold turn
  simp only
  split
  · exact loadCalls_rearm _
  · rfl

theorem loadCalls_nudge (h : Nudge P s t) : t.loadCalls = s.loadCalls := by
  cases h with
  | note e _ unloaded => exact loadCalls_note s unloaded
  | write => exact loadCalls_write s _ _ _
  | heed event listener data => exact loadCalls_takeReaction s event listener data
  | edit text => exact loadCalls_edit s text
  | turn _ mode => exact loadCalls_turn s mode
  | stop => exact loadCalls_write _ _ _ _
  | _ => rfl

theorem loadCalls_nudges (h : Nudges P s t) : t.loadCalls = s.loadCalls := by
  induction h with
  | refl => rfl
  | tail _ step ih => exact (loadCalls_nudge step).trans ih

theorem loadCalls_works (h : Works P s t) : t.loadCalls = s.loadCalls := by
  induction h with
  | refl => rfl
  | tail _ step ih =>
    refine Eq.trans ?_ ih
    cases step with
    | use use =>
      cases use with
      | nudge nudge => exact loadCalls_nudge nudge
      | called => rfl
    | _ => rfl

/-- No run loads a compiler. -/
theorem loadCalls_stepRun (s : Session Action) (stage : Stage) (run : Run) :
    (s.stepRun Session.react stage run).1.loadCalls = s.loadCalls := by
  have worked := worked_stepRun reacts_react (admits_all s) stage run
  generalize (s.stepRun Session.react stage run).1 = t at worked ⊢
  cases worked with
  | works works => exact loadCalls_works works
  | asks _ _ _ produced u asked works =>
    obtain ⟨v, nudges, rfl⟩ := asked
    have consulted : (s.consult run.request.compiler run.request.source
        run.request.options).loadCalls = s.loadCalls := by
      unfold consult
      cases s.compiler? run.request.compiler with
      | none => rfl
      | some c => cases c <;> rfl
    exact (loadCalls_works works).trans ((loadCalls_nudges nudges).trans consulted)

theorem loadCalls_booking (h : Booking s t) : t.loadCalls = s.loadCalls := by
  cases h with
  | write => exact loadCalls_write _ _ _ _
  | _ => rfl

theorem loadCalls_bookings (h : Bookings s t) : t.loadCalls = s.loadCalls :=
  h.keeps (I := fun u => u.loadCalls = s.loadCalls)
    (fun booking => (loadCalls_booking booking).trans)
    rfl

theorem loadCalls_enterCompile (draft : Option Draft) (after : After) (s : Session Action) :
    (s.enterCompile draft after).1.loadCalls = s.loadCalls :=
  loadCalls_bookings (bookings_enterCompile draft after s)

theorem loadCalls_resumeStage (stage : Stage) (run : Run) (after : After) (s : Session Action) :
    (s.resumeStage Session.react stage run after).1.loadCalls = s.loadCalls :=
  (loadCalls_bookings (bookings_resumeStage stage run after s)).trans
    (loadCalls_stepRun s stage run)

theorem loadCalls_afterLoad (purpose : LoadPurpose) (compiler : String) (available : Bool)
    (s : Session Action) : (s.afterLoad purpose compiler available).1.loadCalls = s.loadCalls := by
  unfold afterLoad
  cases purpose with
  | switchCompiler =>
    refine (loadCalls_enterCompile _ _ _).trans ?_
    split <;> rfl
  | start =>
    simp only
    split
    · exact loadCalls_enterCompile _ _ _
    · rfl
  | startUp =>
    simp only
    split
    · exact loadCalls_enterCompile _ _ _
    · exact loadCalls_write _ _ _ _

theorem loadCalls_continueLoad (compiler : String) (left : Nat) (ending : Option Fault)
    (purpose : LoadPurpose) (s : Session Action) :
    (s.continueLoad compiler left ending purpose).1.loadCalls = s.loadCalls := by
  cases left with
  | succ n => rfl
  | zero =>
    show (s.endLoad compiler ending purpose).1.loadCalls = _
    unfold endLoad
    cases ending with
    | none => exact (loadCalls_afterLoad _ _ _ _).trans (loadCalls_write _ _ _ _)
    | some f =>
      simp only
      split
      · exact (loadCalls_afterLoad _ _ _ _).trans (loadCalls_write _ _ _ _)
      · split
        · exact (loadCalls_afterLoad _ _ _ _).trans (loadCalls_write _ _ _ _)
        · rfl

/-- The loading of a compiler is noted if the compiler is known by its answers. -/
def noted (compiler : String) (s : Session Action) : List String :=
  match s.compiler? compiler with
  | some (.scripted _) => [compiler]
  | _ => []

theorem loadCalls_load (compiler : String) (purpose : LoadPurpose) (s : Session Action) :
    (s.load compiler purpose).1.loadCalls = s.noted compiler ++ s.loadCalls := by
  unfold load beginLoad noted
  cases s.compiler? compiler with
  | none => exact loadCalls_continueLoad compiler 0 _ purpose s
  | some c => cases c <;> exact loadCalls_continueLoad ..

/-- The first step of a call notes the loading that it comes to. -/
theorem loadCalls_begin (call : Call) (s : Session Action) :
    (begin call s).1.loadCalls =
      ((s.loadingAt? (.fresh call)).map (·.1)).toList.flatMap s.noted ++ s.loadCalls := by
  have single (compiler : String) :
      s.noted compiler ++ s.loadCalls = [compiler].flatMap s.noted ++ s.loadCalls := by
    rw [List.flatMap_singleton]
  cases call with
  | start => exact (loadCalls_load _ _ s.wake).trans (single _)
  | startUp => exact (loadCalls_load _ _ s.wake).trans (single _)
  | compile draft => exact loadCalls_enterCompile _ _ _
  | click mode =>
    show (begin (.click mode) s).1.loadCalls = s.loadCalls
    unfold begin
    cases mode with
    | none =>
      simp only
      split
      · exact loadCalls_write _ _ _ _
      · exact loadCalls_enterCompile _ _ _
    | some name =>
      simp only
      split
      · rfl
      · exact loadCalls_write _ _ _ _
      · exact loadCalls_enterCompile _ _ _
  | setOption key value =>
    show (begin (.setOption key value) s).1.loadCalls = s.loadCalls
    unfold begin
    simp only
    split
    · split
      · rfl
      · exact loadCalls_enterCompile _ _ _
    · rfl
  | switchCompiler compiler =>
    unfold begin loadingAt?
    simp only
    by_cases there : (s.loaded? compiler).isSome = true
    · have there' : ((s.cancelTimer.modifyState fun st =>
          { st with compiler := compiler }).loaded? compiler).isSome = true := there
      rw [if_pos there', if_pos there]
      exact loadCalls_afterLoad _ _ _ _
    · have there' : ¬ ((s.cancelTimer.modifyState fun st =>
          { st with compiler := compiler }).loaded? compiler).isSome = true := there
      rw [if_neg there', if_neg there]
      exact (loadCalls_load _ _ _).trans (single compiler)
  | waitIdle => exact congrArg loadCalls (waitIdle_rests s).1
  | shutDown => exact (congrArg loadCalls (waitIdle_rests s.stop).1).trans (loadCalls_write _ _ _ _)
  | turn => rfl

/-- A step of a coroutine notes the loading that begins. -/
theorem loadCalls_resume (at_ : Waiting) (s : Session Action) :
    (s.resume Session.react at_).1.loadCalls =
      (s.beginsAt? at_).toList.flatMap s.noted ++ s.loadCalls := by
  cases at_ with
  | fresh call =>
    refine (loadCalls_begin call s).trans ?_
    unfold beginsAt?
    simp only
    cases (s.loadingAt? (.fresh call)).map (·.1) with
    | none => rfl
    | some compiler =>
      cases known : s.compiler? compiler with
      | some c => rw [Option.filter_some_pos (by rw [known]; rfl)]
      | none =>
        rw [Option.filter_some_neg (by simp [known])]
        simp [noted, known]
  | loading compiler left ending purpose => exact loadCalls_continueLoad ..
  | staging stage run after => exact loadCalls_resumeStage ..
  | idle failure => exact congrArg loadCalls (resume_idle_rests Session.react failure s).1

/-- What becomes of a coroutine after its step is no loading. -/
theorem loadCalls_stepCoroutine (owner : Owner) (at_ : Waiting) (s : Session Action) :
    (s.stepCoroutine Session.react owner at_).loadCalls =
      (s.resume Session.react at_).1.loadCalls := by
  have closed (result : Except Fault Value) (u : Session Action) :
      (u.close owner result).loadCalls = u.loadCalls := by
    have reported (failure : Option Fault) (ws : List Nat) (u : Session Action) :
        (ws.foldl (fun s w => s.enqueue (.report w failure)) u).loadCalls = u.loadCalls := by
      induction ws generalizing u with
      | nil => rfl
      | cons w ws ih => exact ih _
    cases owner with
    | caller => rfl
    | spawned n => exact loadCalls_note u rfl
    | timer id => exact reported _ _ _
  have gathered (u : Session Action) : (u.gather owner).loadCalls = u.loadCalls := by
    have watched (wait : Nat) (ts : List TimerTask) (u : Session Action) :
        (ts.foldl (watch wait) u).loadCalls = u.loadCalls := by
      induction ts generalizing u with
      | nil => rfl
      | cons t ts ih =>
        refine (ih _).trans ?_
        unfold watch
        split <;> rfl
    exact watched _ _ _
  unfold stepCoroutine
  rcases s.resume Session.react at_ with ⟨t, _ | _ | _⟩
  · rfl
  · exact gathered t
  · exact closed _ t

theorem loadCalls_runJob {j : Job} {rest : List (Entry Job)} (s : Session Action) :
    (runJob Session.react j (s.pop rest)).loadCalls =
      (j.waiting?.bind s.beginsAt?).toList.flatMap s.noted ++ s.loadCalls := by
  cases j with
  | forget task => rfl
  | report wait failure =>
    show ((s.pop rest).report wait failure).loadCalls = s.loadCalls
    unfold report
    split
    · rfl
    · split
      · rfl
      · simp only
        split <;> rfl
  | resume owner at_ =>
    refine (loadCalls_stepCoroutine owner at_ _).trans ((loadCalls_resume at_ _).trans ?_)
    cases at_ <;> rfl

/-- **The loadings that begin are those that are noted**, of compilers that are known by their
answers. -/
theorem loadCalls_move (m : Move) (s : Session Action) :
    (s.move m).loadCalls = (s.begins? m).toList.flatMap s.noted ++ s.loadCalls := by
  cases m with
  | act a => exact loadCalls_nudges (nudges_act reacts_react (admits_all s) trivial)
  | step =>
    show (machine.step s).loadCalls = _
    unfold Machine.step begins? goesOn?
    cases batch : s.loop.batch with
    | nil =>
      rw [show (machine.loop s).batch = [] from batch]
      rfl
    | cons e rest =>
      cases e with
      | timer id =>
        rw [show (machine.loop s).batch = .timer id :: rest from batch]
        show ((s.pop rest).fireTimer id).loadCalls = s.loadCalls
        unfold fireTimer
        split <;> rfl
      | job j =>
        rw [show (machine.loop s).batch = .job j :: rest from batch]
        exact loadCalls_runJob s
  | _ => rfl

/-- A compiler that is known by its answers stays so. -/
theorem scripts_move {compiler : String} (m : Move) (h : s.core.Scripts compiler) :
    (s.move m).core.Scripts compiler := by
  rcases resumed_or_spared m s with ⟨at_, u, -, resumed⟩ | ⟨-, spared⟩
  · have before : u.core.Scripts compiler := by
      rw [resumed.popped]
      exact h
    have after := (hosts_resume at_ u).scripts before
    rw [resumed.eq]
    exact after
  · exact (hosts_of_spared spared).scripts h

/-- Each loading of a compiler that is known by its answers is noted. -/
theorem loadCalls_moves {compiler : String} (h : s.core.Scripts compiler) (ms : List Move) :
    (s.moves ms).loadCalls.count compiler =
      (s.loadings ms).count compiler + s.loadCalls.count compiler := by
  have counted {s : Session Action} (h : s.core.Scripts compiler) (begun : Option String) :
      (begun.toList.flatMap s.noted).count compiler = begun.toList.count compiler := by
    cases begun with
    | none => rfl
    | some name =>
      show ([name].flatMap s.noted).count compiler = [name].count compiler
      rw [List.flatMap_singleton]
      obtain ⟨script, found⟩ := h
      by_cases own : name = compiler
      · have found : s.compiler? name = some (.scripted script) := own ▸ found
        simp [noted, found]
      · unfold noted
        split <;> simp [own]
  induction ms generalizing s with
  | nil => simp [loadings, moves]
  | cons m ms ih =>
    show ((s.move m).moves ms).loadCalls.count compiler = _
    rw [ih (scripts_move m h), loadCalls_move, loadings, List.count_append, List.count_append,
      counted h]
    omega

/-! ### Loaded, or being loaded -/

/-- The compiler is loaded, or it is being loaded. -/
def Tended (compiler : String) (s : Session Action) : Prop :=
  s.Loading compiler ∨ (s.loaded? compiler).isSome = true

variable {compiler : String}

theorem tended_iff : s.Tended compiler ↔ s.Loading compiler ∨ s.outfit.loaded compiler ≠ none := by
  simp [Tended, outfit, Option.isSome_iff_ne_none]

/-- A loading of a known compiler goes on from an earlier step, or it begins. -/
theorem begins_or_loading {at_ : Waiting} {left : Nat} {ending : Option Fault}
    (known : (s.compiler? compiler).isSome = true)
    (loading : s.loadingAt? at_ = some (compiler, left, ending)) :
    s.beginsAt? at_ = some compiler ∨ ∃ purpose, at_ = .loading compiler left ending purpose := by
  cases at_ with
  | fresh call => exact .inl (by simp [beginsAt?, loading, known])
  | loading name left' ending' purpose =>
    cases loading
    exact .inr ⟨purpose, rfl⟩
  | _ => cases loading

theorem loading_of_begins {at_ : Waiting} (h : s.beginsAt? at_ = some compiler) :
    ∃ left ending, s.loadingAt? at_ = some (compiler, left, ending) := by
  cases at_ with
  | fresh call =>
    obtain ⟨found, -⟩ := Option.filter_eq_some_iff.1 h
    obtain ⟨⟨name, left, ending⟩, loading, rfl⟩ := Option.map_eq_some_iff.1 found
    exact ⟨left, ending, loading⟩
  | _ => cases h

/-- **A supported compiler is loaded, or being loaded, exactly from its first loading on.** -/
theorem tended_move (m : Move) (h : s.Minded compiler) :
    (s.move m).Tended compiler ↔ s.Tended compiler ∨ s.begins? m = some compiler := by
  obtain ⟨script, found, -⟩ := h.supports
  have known : (s.compiler? compiler).isSome = true := by
    rw [show s.compiler? compiler = some script from found]
    rfl
  rw [tended_iff, tended_iff]
  rcases resumed_or_spared m s with ⟨at_, u, goesOn, resumed⟩ | ⟨goesOn, spared⟩
  · rw [begins?, goesOn, Option.bind_some]
    have resumes := resumed.toResumes
    -- a coroutine that does not load the compiler leaves things as they are
    have elsewhere (other : ∀ left ending, s.loadingAt? at_ ≠ some (compiler, left, ending))
        (next : ∀ left ending,
          (u.resume Session.react at_).2.loading? ≠ some (compiler, left, ending))
        (loaded : (s.move m).outfit.loaded compiler = s.outfit.loaded compiler) :
        (s.move m).Loading compiler ∨ (s.move m).outfit.loaded compiler ≠ none ↔
          (s.Loading compiler ∨ s.outfit.loaded compiler ≠ none) ∨
            s.beginsAt? at_ = some compiler := by
      have unbegun : s.beginsAt? at_ ≠ some compiler := fun begins =>
        have ⟨left, ending, loading⟩ := loading_of_begins begins
        other left ending loading
      have loading : (s.move m).Loading compiler ↔ s.Loading compiler := by
        refine ⟨fun ⟨left, ending, purpose, hl⟩ => ?_, fun loading => loading.resumed resumes ?_⟩
        · rcases (loading_of_resumed resumes).1 hl with hl | waits
          · exact ⟨left, ending, purpose, resumes.front ▸ List.mem_cons_of_mem _ hl⟩
          · exact absurd (by rw [waits]; rfl) (next left ending)
        · rintro left ending purpose rfl
          exact other left ending rfl
      rw [loaded, loading, or_iff_left unbegun]
    have begun {left : Nat} {ending : Option Fault}
        (loading : s.loadingAt? at_ = some (compiler, left, ending)) :
        (s.Loading compiler ∨ s.outfit.loaded compiler ≠ none) ∨
          s.beginsAt? at_ = some compiler := by
      rcases begins_or_loading known loading with begins | ⟨purpose, rfl⟩
      · exact .inr begins
      · exact .inl (.inl ⟨left, ending, purpose, resumes.front ▸ List.mem_cons_self⟩)
    have outfit := resumed.outfit
    cases resumed.refits with
    | keeps idle _ _ _ _ kept next =>
      exact elsewhere (by simp [idle]) (by simp [next]) (by rw [outfit, kept])
    | sets idle _ _ _ _ _ _ kept next =>
      exact elsewhere (by simp [idle]) (by simp [next]) (by rw [outfit, kept])
    | shows idle _ _ _ _ kept next =>
      exact elsewhere (by simp [idle]) (by simp [next]) (by rw [outfit, kept])
    | waits name left ending loading kept next =>
      by_cases own : name = compiler
      · subst own
        exact iff_of_true (.inl (loading_of_next resumes next)) (begun loading)
      · exact elsewhere (by simp [loading, own]) (by simp [next, own]) (by rw [outfit, kept]; rfl)
    | fits name version loading kept next =>
      have loaded : (s.move m).outfit.loaded =
          Function.update s.outfit.loaded name (some version) := by rw [outfit, kept]; rfl
      by_cases own : name = compiler
      · subst own
        exact iff_of_true (.inr (by rw [loaded]; simp)) (begun loading)
      · refine elsewhere (by simp [loading, own]) (by simp [next]) ?_
        rw [loaded, Function.update_of_ne (Ne.symm own)]
    | fails name f ready loading _ kept next =>
      by_cases own : name = compiler
      · subst own
        cases h.ending resumes loading
      · exact elsewhere (by simp [loading, own]) (by simp [next]) (by rw [outfit, kept]; rfl)
  · rw [begins?, goesOn, Option.bind_none, spared.outfit]
    have hosts : Hosts "" s.core (s.move m).core := hosts_of_spared spared
    have loading : (s.move m).Loading compiler ↔ s.Loading compiler :=
      exists_congr fun _ => exists_congr fun _ => exists_congr fun _ => hosts.loading_iff
    rw [loading]
    simp

/-! ### How often -/

theorem count_loadings_concat (s : Session Action) (ms : List Move) (m : Move) :
    (s.loadings (ms ++ [m])).count compiler =
      (s.loadings ms).count compiler + if (s.moves ms).begins? m = some compiler then 1 else 0 := by
  rw [loadings_concat, List.count_append]
  cases (s.moves ms).begins? m <;> simp [List.count_cons]

/-- What holds of each move and those before it holds of each but the last one, and of that. -/
theorem forall_split_concat {p : List Move → Move → Prop} {ms : List Move} {m : Move} :
    (∀ ms₁ n ms₂, ms ++ [m] = ms₁ ++ n :: ms₂ → p ms₁ n) ↔
      (∀ ms₁ n ms₂, ms = ms₁ ++ n :: ms₂ → p ms₁ n) ∧ p ms m := by
  constructor
  · refine fun h => ⟨fun ms₁ n ms₂ split => h ms₁ n (ms₂ ++ [m]) ?_, h ms m [] rfl⟩
    rw [split, List.append_assoc, List.cons_append]
  · rintro ⟨before, last⟩ ms₁ n ms₂ split
    rcases List.eq_nil_or_concat ms₂ with rfl | ⟨ms₂, m', rfl⟩
    · obtain ⟨rfl, same⟩ := List.append_inj' split rfl
      cases same
      exact last
    · rw [List.concat_eq_append, ← List.cons_append, ← List.append_assoc] at split
      exact before ms₁ n ms₂ (List.append_inj' split rfl).1

/-- A supported compiler was loaded exactly if it is loaded now, or being loaded. -/
theorem loadings_pos_iff {o : Opening} (supports : o.session.core.Supports compiler)
    (ms : List Move) :
    0 < (o.session.loadings ms).count compiler ↔ (o.session.moves ms).Tended compiler := by
  induction ms using List.reverseRecOn with
  | nil =>
    refine iff_of_false (by simp [loadings]) ?_
    rintro (⟨left, ending, purpose, hl⟩ | loaded)
    · cases hl
    · cases loaded
  | append_singleton ms m ih =>
    rw [moves_concat, tended_move m (minded_moves supports ms), ← ih, count_loadings_concat]
    split <;> simp [*]

/-- A supported compiler is loaded at most once unless one of its loadings begins when there was one
before. -/
theorem loadings_le_one_iff {o : Opening} (supports : o.session.core.Supports compiler)
    (ms : List Move) :
    (o.session.loadings ms).count compiler ≤ 1 ↔
      ∀ ms₁ m ms₂, ms = ms₁ ++ m :: ms₂ → (o.session.moves ms₁).begins? m = some compiler →
        ¬ (o.session.moves ms₁).Tended compiler := by
  induction ms using List.reverseRecOn with
  | nil => simp [loadings]
  | append_singleton ms m ih =>
    rw [forall_split_concat, ← ih, ← loadings_pos_iff supports, count_loadings_concat]
    split
    next begins =>
      simp only [begins, forall_const, Nat.not_lt]
      omega
    next unbegun => simp [unbegun]

/-- A compiler is chosen without a loading exactly if it is loaded. -/
theorem begins_switch {m : Move} (known : (s.compiler? compiler).isSome = true)
    (goesOn : s.goesOn? m = some (.fresh (.switchCompiler compiler))) :
    s.begins? m = some compiler ↔ ¬ (s.loaded? compiler).isSome = true := by
  by_cases loaded : (s.loaded? compiler).isSome = true <;>
    simp [begins?, goesOn, beginsAt?, loadingAt?, loaded, known]

/-- A loading begins with a start, or when the compiler is chosen. -/
theorem call_of_begins {m : Move} (h : s.begins? m = some compiler) :
    s.goesOn? m = some (.fresh .start) ∨ s.goesOn? m = some (.fresh .startUp) ∨
      s.goesOn? m = some (.fresh (.switchCompiler compiler)) := by
  obtain ⟨at_, goesOn, begins⟩ := Option.bind_eq_some_iff.1 h
  rw [goesOn]
  obtain ⟨left, ending, loading⟩ := loading_of_begins begins
  cases at_ with
  | fresh call =>
    cases call with
    | start => exact .inl rfl
    | startUp => exact .inr (.inl rfl)
    | switchCompiler name =>
      unfold loadingAt? at loading
      simp only at loading
      split at loading
      · cases loading
      · obtain ⟨rfl, -⟩ := Prod.mk.inj (Option.some.inj loading)
        exact .inr (.inr rfl)
    | _ => cases loading
  | _ => cases begins

/-- **A supported compiler is loaded once, unless it is chosen while it is being loaded.** It was
loaded exactly if it is there, or is being loaded; every loading that is not the first one begins
while it is there or being loaded. If no start finds it so, this is a choice of the compiler that
goes on while it is being loaded and is not there yet. -/
theorem loaded_once_unless_overlapping (o : Opening) (ms : List Move) (compiler : String)
    (supports : o.session.core.Supports compiler) :
    let count := (o.session.loadings ms).count compiler
    (0 < count ↔ (o.session.moves ms).Tended compiler) ∧
      (count ≤ 1 ↔ ∀ ms₁ m ms₂, ms = ms₁ ++ m :: ms₂ →
        (o.session.moves ms₁).begins? m = some compiler →
          ¬ (o.session.moves ms₁).Tended compiler) ∧
      ((∀ ms₁ m ms₂, ms = ms₁ ++ m :: ms₂ →
          (o.session.moves ms₁).goesOn? m = some (.fresh .start) ∨
            (o.session.moves ms₁).goesOn? m = some (.fresh .startUp) →
          ¬ (o.session.moves ms₁).Tended compiler) →
        (count ≤ 1 ↔ ∀ ms₁ m ms₂, ms = ms₁ ++ m :: ms₂ →
          (o.session.moves ms₁).goesOn? m = some (.fresh (.switchCompiler compiler)) →
          (o.session.moves ms₁).Loading compiler →
            ((o.session.moves ms₁).loaded? compiler).isSome = true)) ∧
      (o.session.core.Scripts compiler →
        (o.session.moves ms).loadCalls.count compiler = count) := by
  intro count
  have known (ms : List Move) : ((o.session.moves ms).compiler? compiler).isSome = true := by
    obtain ⟨known, found, -⟩ := (minded_moves supports ms).supports
    exact Option.isSome_iff_exists.2 ⟨known, found⟩
  refine ⟨loadings_pos_iff supports ms, loadings_le_one_iff supports ms, fun starts => ?_,
    fun scripts => (loadCalls_moves scripts ms).trans (Nat.add_zero _)⟩
  rw [loadings_le_one_iff supports ms]
  constructor
  · intro fresh ms₁ m ms₂ split goesOn loading
    by_contra missing
    exact fresh ms₁ m ms₂ split ((begins_switch (known ms₁) goesOn).2 missing) (.inl loading)
  · intro switches ms₁ m ms₂ split begins
    rcases call_of_begins begins with start | startUp | switch
    · exact starts ms₁ m ms₂ split (.inl start)
    · exact starts ms₁ m ms₂ split (.inr startUp)
    · have missing := (begins_switch (known ms₁) switch).1 begins
      rintro (loading | loaded)
      · exact missing (switches ms₁ m ms₂ split switch loading)
      · exact missing loaded

/-- The session is started and has compiled; the slow compiler is chosen twice, the second time
while it is being loaded. -/
def overlappingMoves : List Move :=
  [.act (.spawn .start)] ++ smallTicks 8 ++ [.act (.spawn (.switchCompiler "slow")),
    .act (.spawn (.switchCompiler "slow"))] ++ smallTicks 12

def singleMoves : List Move :=
  [.act (.spawn .start)] ++ smallTicks 8 ++ [.act (.spawn (.switchCompiler "slow"))] ++
    smallTicks 12

theorem loaded_once_unless_overlapping_single :
    (quickOpening.session.moves singleMoves).Tended "slow" ∧
      (quickOpening.session.loadings singleMoves).count "slow" = 1 := by
  have once : (quickOpening.session.loadings singleMoves).count "slow" = 1 := by decide +kernel
  have tended :=
    (loaded_once_unless_overlapping quickOpening singleMoves "slow" supports_quickOpening).1
  exact ⟨tended.1 (by rw [once]; decide), once⟩

/-- **A compiler that loads is loaded twice** in a session that is started once, when it is chosen
again while it is being loaded. -/
theorem loaded_twice :
    quickOpening.session.core.Supports "slow" ∧
      let s := quickOpening.session.moves overlappingMoves
      s.loadCalls = ["slow", "slow", "fast"] ∧ (s.loaded? "slow").isSome = true := by
  refine ⟨supports_quickOpening, ?_⟩
  decide +kernel

end Session

end Playground
