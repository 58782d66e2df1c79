import Mathlib.Logic.Function.Basic
import Playground.Proofs.Entries

/-!
# The outfit of a session

What a session has to do with its compilers: the one that is chosen, the options, the version that
is shown, the versions of the compilers that are loaded and the compile calls that were made. Front
ends, compilers and listeners change none of it, and a run only adds the compile call that it makes.

* `Outfit`, `Session.outfit` — the outfit.
* `outfit_nudges`, `outfit_works` — what leaves the outfit as it is.
* `outfit_resumeStage` — what a run adds to it.
-/

namespace Playground

open Playground.Clock

/-- What a session has to do with its compilers. -/
structure Outfit where
  compiler : String
  options : Options
  ready : Bool
  version : String
  /-- The versions of the compilers that are loaded. -/
  loaded : String → Option String
  /-- The compile calls of compilers that are known by their answers, latest first. -/
  calls : List (String × String × Options)

namespace Outfit

def fit (compiler version : String) (o : Outfit) : Outfit :=
  { o with
    ready := true, version := version
    loaded := Function.update o.loaded compiler (some version) }

def choose (compiler : Option String) (o : Outfit) : Outfit :=
  { o with compiler := compiler.getD o.compiler }

/-- A compile call is made. -/
def call (call : String × String × Options) (o : Outfit) : Outfit :=
  { o with calls := call :: o.calls }

end Outfit

namespace Session

variable {P : Action → Prop} {react : React Action} {s t : Session Action}

def outfit (s : Session Action) : Outfit where
  compiler := s.state.compiler
  options := s.state.options
  ready := s.state.ready
  version := s.state.version
  loaded name := (s.loaded? name).map (·.version)
  calls := s.journal.filterMap Effect.compile?

/-! ### What is kept by name -/

theorem find?_assign {β : Type} (name : String) (value : β) (l : List (String × β)) (n : String) :
    ((assign name value l).find? fun e => e.1 = n).map (·.2) =
      if n = name then some value else (l.find? fun e => e.1 = n).map (·.2) := by
  induction l with
  | nil =>
    by_cases h : n = name
    · simp [assign, h]
    · simp [assign, h, Ne.symm h]
  | cons e l ih =>
    unfold assign
    by_cases here : e.1 = name
    · by_cases h : n = name
      · simp [here, h]
      · simp [here, h, Ne.symm h]
    · rw [if_neg here]
      by_cases found : e.1 = n
      · have other : n ≠ name := fun h => here (found.trans h)
        simp [found, other]
      · simpa [found] using ih

theorem loaded?_setLoaded (s : Session Action) (name : String) (c : LoadedCompiler) (n : String) :
    (s.setLoaded name c).loaded? n = if n = name then some c else s.loaded? n :=
  find?_assign name c s.loaded n

theorem compiler?_setCompiler (s : Session Action) (name : String) (c : Compiler Action)
    (n : String) :
    (s.setCompiler name c).compiler? n = if n = name then some c else s.compiler? n :=
  find?_assign name c s.compilers n

theorem isSome_loaded (s : Session Action) (name : String) :
    (s.outfit.loaded name).isSome = (s.loaded? name).isSome := Option.isSome_map ..

/-! ### From the side -/

/-- Writing to the log is no compile call. -/
@[simp] theorem outfit_write (s : Session Action) (level : Log.Level) (logger message : String) :
    (s.write level logger message).outfit = s.outfit := by
  have logged (ds : List (String × Log.Record)) :
      (ds.map fun d => Effect.logged d.1 d.2).reverse.filterMap Effect.compile? = [] := by
    refine List.filterMap_eq_nil_iff.2 fun e he => ?_
    obtain ⟨d, -, rfl⟩ := List.mem_map.1 (List.mem_reverse.1 he)
    rfl
  unfold write outfit
  simp only [List.filterMap_append, logged, List.nil_append]
  rfl

theorem outfit_note (s : Session Action) {e : Effect} (h : e.compile? = none) :
    (s.note e).outfit = s.outfit := by
  have calls : (e :: s.journal).filterMap Effect.compile? = s.journal.filterMap Effect.compile? :=
    List.filterMap_cons_none h
  exact congrArg (fun calls => ({ s.outfit with calls := calls } : Outfit)) calls

/-- A compiler that moves on keeps the version under which it was loaded. -/
theorem outfit_setLoaded (s : Session Action) {name : String} {own c : LoadedCompiler}
    (h : s.loaded? name = some own) (same : c.version = own.version) :
    (s.setLoaded name c).outfit = s.outfit := by
  have loaded : (fun n => ((s.setLoaded name c).loaded? n).map (·.version)) = s.outfit.loaded := by
    funext n
    rw [loaded?_setLoaded]
    by_cases here : n = name
    · subst here
      simp [outfit, h, same]
    · rw [if_neg here]
      rfl
  exact congrArg (fun loaded => ({ s.outfit with loaded := loaded } : Outfit)) loaded

theorem outfit_takeReaction (s : Session Action) (event listener : String) (data : Payload) :
    (s.takeReaction event listener data).1.outfit = s.outfit := by
  unfold takeReaction
  split <;> rfl

theorem outfit_rearm (s : Session Action) : s.rearm.1.outfit = s.outfit := by
  unfold rearm
  split <;> rfl

theorem outfit_edit (s : Session Action) (text : String) : (s.edit text).outfit = s.outfit := by
  unfold edit
  simp only
  split
  · rfl
  · split
    · exact outfit_rearm _
    · rfl

theorem outfit_turn (s : Session Action) (mode : CompileMode) :
    (s.turn mode).outfit = s.outfit := by
  unfold turn
  simp only
  split
  · exact outfit_rearm _
  · rfl

theorem outfit_nudge (h : Nudge P s t) : t.outfit = s.outfit := by
  cases h with
  | note e none => exact outfit_note s none
  | write => exact outfit_write s _ _ _
  | heed event listener data => exact outfit_takeReaction s event listener data
  | loaded name own c there same => exact outfit_setLoaded s there same
  | edit text => exact outfit_edit s text
  | turn _ mode => exact outfit_turn s mode
  | stop => exact outfit_write _ _ _ _
  | _ => rfl

theorem outfit_nudges (h : Nudges P s t) : t.outfit = s.outfit := by
  induction h with
  | refl => rfl
  | tail _ step ih => exact (outfit_nudge step).trans ih

theorem outfit_work (h : Work P s t) : t.outfit = s.outfit := by
  cases h with
  | use use =>
    cases use with
    | nudge nudge => exact outfit_nudge nudge
    | called => rfl
  | _ => rfl

theorem outfit_works (h : Works P s t) : t.outfit = s.outfit := by
  induction h with
  | refl => rfl
  | tail _ step ih => exact (outfit_work step).trans ih

/-! ### Within the pipeline -/

def noting (run : Run) (s : Session Action) (o : Outfit) : Outfit :=
  match s.compiler? run.request.compiler with
  | some (.scripted _) =>
    o.call (run.request.compiler, run.request.source, run.request.options)
  | _ => o

/-- The run whose compiler is asked when a coroutine goes on. -/
def asksAt? (at_ : Waiting) (s : Session Action) : Option Run :=
  match at_ with
  | .staging .invoke run _ =>
    if s.state.alive && (s.loaded? run.request.compiler).isSome &&
      (s.compiler? run.request.compiler).isSome then some run
    else none
  | _ => none

theorem outfit_asked {run : Run} {produced : Bool} (h : AskedBy P run produced s t) :
    t.outfit = s.noting run s.outfit := by
  obtain ⟨u, nudges, rfl⟩ := h
  refine (outfit_nudges nudges).trans ?_
  unfold consult noting
  cases s.compiler? run.request.compiler with
  | none => rfl
  | some c => cases c <;> rfl

theorem outfit_booking (h : Booking s t) : t.outfit = s.outfit := by
  cases h with
  | write => exact outfit_write _ _ _ _
  | _ => rfl

theorem outfit_bookings (h : Bookings s t) : t.outfit = s.outfit :=
  h.keeps (I := fun u => u.outfit = s.outfit) (fun booking => (outfit_booking booking).trans) rfl

theorem outfit_enterCompile (draft : Option Draft) (after : After) (s : Session Action) :
    (s.enterCompile draft after).1.outfit = s.outfit :=
  outfit_bookings (bookings_enterCompile draft after s)

/-- **A run adds the compile call that it makes to the outfit, and nothing else.** -/
theorem outfit_resumeStage (stage : Stage) (run : Run) (after : After) (s : Session Action) :
    (s.resumeStage Session.react stage run after).1.outfit =
      match s.asksAt? (.staging stage run after) with
      | some run => s.noting run s.outfit
      | none => s.outfit := by
  rw [outfit_bookings (bookings_resumeStage stage run after s)]
  have worked := worked_stepRun reacts_react (admits_all s) stage run
  generalize (s.stepRun Session.react stage run).1 = t at worked ⊢
  cases worked with
  | works works why =>
    have unasked : s.asksAt? (.staging stage run after) = none := by
      unfold asksAt?
      split
      next run' _ eq =>
        cases eq
        refine if_neg fun h => ?_
        simp only [Bool.and_eq_true] at h
        exact why rfl h.1.1 ⟨h.1.2, h.2⟩
      · rfl
    rw [unasked]
    exact outfit_works works
  | asks invoke alive there produced u asked works =>
    subst invoke
    have asks : s.asksAt? (.staging .invoke run after) = some run := by
      unfold asksAt?
      exact if_pos (by simp [alive, there.1, there.2])
    rw [asks]
    exact (outfit_works works).trans (outfit_asked asked)

/-! ### After a step -/

theorem outfit_close (owner : Owner) (result : Except Fault Value) (s : Session Action) :
    (s.close owner result).outfit = s.outfit := by
  have reported (failure : Option Fault) (ws : List Nat) (u : Session Action) :
      (ws.foldl (fun s w => s.enqueue (.report w failure)) u).outfit = u.outfit := by
    induction ws generalizing u with
    | nil => rfl
    | cons w ws ih => exact ih _
  cases owner with
  | caller => rfl
  | spawned n => exact outfit_note s rfl
  | timer id => exact reported _ _ _

theorem outfit_gather (owner : Owner) (s : Session Action) :
    (s.gather owner).outfit = s.outfit := by
  have watched (wait : Nat) (ts : List TimerTask) (u : Session Action) :
      (ts.foldl (watch wait) u).outfit = u.outfit := by
    induction ts generalizing u with
    | nil => rfl
    | cons t ts ih =>
      refine (ih _).trans ?_
      unfold watch
      split <;> rfl
  exact watched _ _ _

theorem outfit_report (wait : Nat) (failure : Option Fault) (s : Session Action) :
    (s.report wait failure).outfit = s.outfit := by
  unfold report
  split
  · rfl
  · split
    · rfl
    · simp only
      split <;> rfl

/-- What becomes of a coroutine after its step does not matter. -/
theorem outfit_stepCoroutine (owner : Owner) (at_ : Waiting) (s : Session Action) :
    (s.stepCoroutine Session.react owner at_).outfit =
      (s.resume Session.react at_).1.outfit := by
  unfold stepCoroutine
  rcases s.resume Session.react at_ with ⟨t, _ | _ | _⟩
  · rfl
  · exact outfit_gather owner t
  · exact outfit_close owner _ t

end Session

end Playground
