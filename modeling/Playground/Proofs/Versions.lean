import Mathlib.Data.List.Induction
import Playground.Proofs.Refits
import Playground.Proofs.Requests

/-!
# Which version is shown

The version is written when a compiler is fitted: at the end of its loading, or when it is chosen
and was loaded before. A loading does not look whether its compiler is still the chosen one when it
ends, so that a slow loading shows its version over that of a compiler that was chosen meanwhile.

* `Session.fits?`, `Session.latestFit?` — which compiler a move fits, and which was fitted last.
* `Fitted`, `fitted_moves` — the invariant: the version is that of the compiler fitted last.
* `version_fitted` — when the version is that of the chosen compiler.
* `version_overtaken` — when it is not.
-/

namespace Playground

namespace Session

/-- The compiler that is fitted when a coroutine goes on: its loading ends well, or it is chosen and
was loaded before. -/
def fitsAt? (at_ : Waiting) (s : Session Action) : Option String :=
  match s.loadingAt? at_ with
  | some (compiler, 0, none) => some compiler
  | some _ => none
  | none => at_.chooses?

/-- The compiler that is fitted in a move, and the one that is chosen then. -/
def fits? (m : Move) (s : Session Action) : Option (String × String) :=
  ((s.goesOn? m).bind s.fitsAt?).map fun compiler => (compiler, (s.move m).state.compiler)

/-- The compiler that was fitted last, and the one that was chosen then. -/
def latestFit? : List Move → Session Action → Option (String × String)
  | [], _ => none
  | m :: ms, s => (latestFit? ms (s.move m)).or (s.fits? m)

theorem latestFit?_concat (ms : List Move) (m : Move) (s : Session Action) :
    s.latestFit? (ms ++ [m]) = ((s.moves ms).fits? m).or (s.latestFit? ms) := by
  induction ms generalizing s with
  | nil => simp [latestFit?, moves]
  | cons n ms ih =>
    show ((s.move n).latestFit? (ms ++ [m])).or (s.fits? n) = _
    rw [ih, Option.or_assoc]
    rfl

end Session

/-- The version is that of the compiler that was fitted last; if that was the chosen one then, it is
the version of whichever loaded compiler is chosen now. -/
structure Fitted (latest : Option (String × String)) (o : Outfit) : Prop where
  empty : latest = none → ∀ name, o.loaded name = none
  shown : ∀ compiler chosen, latest = some (compiler, chosen) →
    o.loaded compiler = some o.version
  chosen : ∀ compiler, latest = some (compiler, compiler) →
    ∀ version, o.loaded o.compiler = some version → o.version = version

namespace Fitted

variable {latest : Option (String × String)} {o p : Outfit}

/-- Nothing is fitted, and the chosen compiler stays or is not loaded. -/
theorem keep (h : Fitted latest o) (loaded : p.loaded = o.loaded) (version : p.version = o.version)
    (compiler : p.compiler = o.compiler ∨ o.loaded p.compiler = none) : Fitted latest p where
  empty none name := by
    rw [loaded]
    exact h.empty none name
  shown c chosen eq := by
    rw [loaded, version]
    exact h.shown c chosen eq
  chosen c eq v there := by
    rw [loaded] at there
    rw [version]
    rcases compiler with same | missing
    · rw [same] at there
      exact h.chosen c eq v there
    · cases missing.symm.trans there

/-- A compiler is fitted. -/
theorem of_fit {compiler : String} (there : p.loaded compiler = some p.version) :
    Fitted (some (compiler, p.compiler)) p where
  empty := nofun
  shown c chosen eq := by
    cases eq
    exact there
  chosen c eq v hv := by
    obtain ⟨rfl, same⟩ := Prod.mk.inj (Option.some.inj eq)
    rw [same, there] at hv
    exact Option.some.inj hv

end Fitted

namespace Session

variable {s t : Session Action}

/-- A compiler that is chosen and has to be loaded is not there yet. -/
theorem missing_of_loading {at_ : Waiting} {x : String × Nat × Option Fault}
    (loading : s.loadingAt? at_ = some x) :
    at_.chooses?.getD s.state.compiler = s.state.compiler ∨
      s.outfit.loaded (at_.chooses?.getD s.state.compiler) = none := by
  cases at_ with
  | fresh call =>
    cases call with
    | switchCompiler compiler =>
      unfold loadingAt? at loading
      simp only at loading
      split at loading
      · cases loading
      next missing =>
        have gone : s.loaded? compiler = none := by simpa using missing
        exact .inr (congrArg (Option.map LoadedCompiler.version) gone)
    | _ => exact .inl rfl
  | _ => exact .inl rfl

/-- **A move shows the version of the compiler that it fits, or leaves the version.** -/
theorem fitted_move {latest : Option (String × String)} (h : Fitted latest s.outfit) (m : Move) :
    Fitted ((s.fits? m).or latest) (s.move m).outfit := by
  rcases resumed_or_spared m s with ⟨at_, u, goesOn, resumed⟩ | ⟨goesOn, spared⟩
  · have refits := resumed.refits
    have fits : s.fits? m = (s.fitsAt? at_).map fun c =>
        (c, (u.resume Session.react at_).1.outfit.compiler) := by
      unfold fits?
      rw [goesOn, Option.bind_some]
      exact congrArg (fun o : Outfit => (s.fitsAt? at_).map fun c => (c, o.compiler)) resumed.outfit
    rw [fits, resumed.outfit]
    unfold fitsAt?
    cases refits with
    | keeps idle _ unchosen calls _ outfit _ =>
      rw [idle, unchosen, outfit]
      exact h.keep rfl rfl (.inl rfl)
    | sets idle _ _ options _ unchosen _ outfit _ =>
      rw [idle, unchosen, outfit]
      exact h.keep rfl rfl (.inl rfl)
    | shows idle compiler version chosen there outfit _ =>
      rw [idle, chosen, outfit]
      exact .of_fit there
    | waits compiler left ending loading outfit _ =>
      rw [loading, outfit]
      exact h.keep rfl rfl (missing_of_loading loading)
    | fits compiler version loading outfit _ =>
      rw [loading, outfit]
      exact .of_fit (Function.update_self ..)
    | fails compiler f ready loading _ outfit _ =>
      rw [loading, outfit]
      exact h.keep rfl rfl (missing_of_loading loading)
  · unfold fits?
    rw [goesOn, spared.outfit]
    exact h

theorem fitted_moves (o : Opening) (ms : List Move) :
    Fitted (o.session.latestFit? ms) (o.session.moves ms).outfit := by
  induction ms using List.reverseRecOn with
  | nil => exact ⟨fun _ _ => rfl, nofun, nofun⟩
  | append_singleton ms m ih =>
    rw [moves_concat, latestFit?_concat]
    exact fitted_move ih m

/-- **The version that is shown is that of the compiler that was fitted last.** It is the version of
the chosen compiler, once that is loaded, unless another compiler was chosen while the one that was
fitted last was being loaded. -/
theorem version_fitted (o : Opening) (ms : List Move) :
    let s := o.session.moves ms
    ∀ own, s.loaded? s.state.compiler = some own →
      ∃ compiler chosen fitted, o.session.latestFit? ms = some (compiler, chosen) ∧
        s.loaded? compiler = some fitted ∧ s.state.version = fitted.version ∧
        (chosen = compiler → s.state.version = own.version) := by
  intro s own loaded
  obtain ⟨empty, shown, right⟩ := fitted_moves o ms
  have there : s.outfit.loaded s.outfit.compiler = some own.version :=
    congrArg (Option.map LoadedCompiler.version) loaded
  cases latest : o.session.latestFit? ms with
  | none => cases (empty latest _).symm.trans there
  | some x =>
    obtain ⟨compiler, chosen⟩ := x
    have last : (s.loaded? compiler).map (·.version) = some s.state.version :=
      shown compiler chosen latest
    obtain ⟨fitted, found, same⟩ := Option.map_eq_some_iff.1 last
    refine ⟨compiler, chosen, fitted, rfl, found, same.symm, ?_⟩
    rintro rfl
    exact right chosen latest own.version there

/-- Two compilers, of which the one chosen at first takes a while to load. -/
def slowOpening : Opening :=
  { settings := { compiler := "slow" }, source := "x = 1", probe := .always false
    compilers := [("slow", .scripted { version := "1", loadYields := 2 }),
      ("fast", .scripted { version := "2" })] }

/-- The session is started, and the fast compiler is chosen while the slow one is being loaded. -/
def overtakenMoves : List Move :=
  [.act (.spawn .start)] ++ smallTicks 1 ++ [.act (.spawn (.switchCompiler "fast"))] ++
    smallTicks 12

theorem version_fitted_overtaken :
    let s := slowOpening.session.moves overtakenMoves
    ∃ compiler chosen fitted, slowOpening.session.latestFit? overtakenMoves =
        some (compiler, chosen) ∧ s.loaded? compiler = some fitted ∧
      s.state.version = fitted.version := by
  have there : (slowOpening.session.moves overtakenMoves).loaded?
      (slowOpening.session.moves overtakenMoves).state.compiler = some { version := "2" } := by
    decide +kernel
  obtain ⟨compiler, chosen, fitted, latest, found, shown, -⟩ :=
    version_fitted slowOpening overtakenMoves _ there
  exact ⟨compiler, chosen, fitted, latest, found, shown⟩

/-- **A slow loading shows its version over that of the compiler that was chosen meanwhile**, and
nothing is under way that could put it right. -/
theorem version_overtaken :
    let s := slowOpening.session.moves overtakenMoves
    s.loop.isSettled = true ∧ s.loop.timers = [] ∧ s.gatherings = [] ∧ s.timerTasks = [] ∧
      s.state.compiler = "fast" ∧
      (s.loaded? s.state.compiler).map (·.version) = some "2" ∧ s.state.version = "1" := by
  decide +kernel

end Session

end Playground
