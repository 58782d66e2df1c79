import Mathlib.Data.List.Basic

/-!
# Sequences of calls

What keeps a state is called again and again, and each call meets the state that the one before
left.

* `Exchange` — a call and the state that it meets.
* `exchanges` — those of a sequence of calls.
* `exchanges_invariant` — what holds at first and is kept by every call holds at every call.
-/

namespace Playground

/-- A call and the state that it meets. -/
structure Exchange (σ κ : Type) where
  state : σ
  call : κ

variable {σ κ : Type} {serve : σ → κ → σ}

/-- The exchanges of a sequence of calls, from the first state on. -/
def exchanges (serve : σ → κ → σ) : σ → List κ → List (Exchange σ κ)
  | _, [] => []
  | s, c :: calls => ⟨s, c⟩ :: exchanges serve (serve s c) calls

/-- An invariant of the state and of what came before it, at an exchange after those of `past`. -/
theorem exchanges_invariant_from {P : List (Exchange σ κ) → σ → Prop}
    (step : ∀ past x, P past x.state → P (past ++ [x]) (serve x.state x.call))
    {past earlier later : List (Exchange σ κ)} {x : Exchange σ κ} {s : σ} {calls : List κ}
    (start : P past s) (split : exchanges serve s calls = earlier ++ x :: later) :
    P (past ++ earlier) x.state := by
  induction earlier generalizing past s calls with
  | nil =>
    cases calls with
    | nil => cases split
    | cons c calls =>
      obtain ⟨rfl, -⟩ := List.cons.inj split
      rwa [List.append_nil]
  | cons y earlier ih =>
    cases calls with
    | nil => cases split
    | cons c calls =>
      obtain ⟨rfl, rest⟩ := List.cons.inj split
      have next := ih (step past ⟨s, c⟩ start) rest
      rwa [List.append_assoc, List.singleton_append] at next

/-- **What holds at first and is kept by every call holds at every call**, of the state and of the
exchanges before it. -/
theorem exchanges_invariant {P : List (Exchange σ κ) → σ → Prop}
    (step : ∀ past x, P past x.state → P (past ++ [x]) (serve x.state x.call))
    {earlier later : List (Exchange σ κ)} {x : Exchange σ κ} {s : σ} {calls : List κ}
    (start : P [] s) (split : exchanges serve s calls = earlier ++ x :: later) :
    P earlier x.state :=
  exchanges_invariant_from step start split

end Playground
