import Playground.Proofs.Moves

/-!
# Ledgers of requests

The course of a session that was never stopped and whose runs all returned, as an account of its
requests. At most one request waits, and only while a run is active.

* `Ledger` — the courses, with the number of accepted requests, the request that waits and the
  active run.
* `begun`, `latestRun?`, `latestEnd?` — what a course tells of its runs.
* `Ledger.sequential`, `Ledger.rising`, `Ledger.fate`, `Ledger.closed` — what every ledger tells.
-/

namespace Playground

/-- Is it a stop, or a run that did not return? -/
def Milestone.disturbs : Milestone → Bool
  | .stopped => true
  | .broke .. => true
  | _ => false

/-- Does it leave the accounts of requests as they are? -/
def Milestone.isMinor : Milestone → Bool
  | .asked .. => true
  | .called .. => true
  | .raised .. => true
  | .published .. => true
  | .cutOff .. => true
  | .unreleased .. => true
  | .unloaded .. => true
  | .started => true
  | _ => false

/-- The courses, latest step first, of sessions that accepted a number of requests, of which one may
wait, while a run may be active. -/
inductive Ledger : List Milestone → Nat → Option Ticket → Option Nat → Prop where
  | new : Ledger [] 0 none none
  | minor {ms : List Milestone} {n : Nat} {waiting : Option Ticket} {active : Option Nat}
      (h : Ledger ms n waiting active) (m : Milestone) (hm : m.isMinor = true) :
      Ledger (m :: ms) n waiting active
  /-- A request finds no active run and is run at once. -/
  | opened {ms : List Milestone} {n : Nat} (h : Ledger ms n none none) (r : Request) (g : Nat) :
      Ledger (.began n g r :: .accepted n r :: ms) (n + 1) none (some g)
  | parked {ms : List Milestone} {n g : Nat} (h : Ledger ms n none (some g)) (r : Request) :
      Ledger (.accepted n r :: ms) (n + 1) (some ⟨n, r⟩) (some g)
  | replaced {ms : List Milestone} {n g : Nat} {t : Ticket} (h : Ledger ms n (some t) (some g))
      (r : Request) :
      Ledger (.superseded t.number n :: .accepted n r :: ms) (n + 1) (some ⟨n, r⟩) (some g)
  /-- A run is over, and the request that waited is run. -/
  | followed {ms : List Milestone} {n g : Nat} {t : Ticket} (h : Ledger ms n (some t) (some g))
      (outcome : Option Outcome) (g' : Nat) :
      Ledger (.began t.number g' t.request :: .ended g outcome :: ms) n none (some g')
  | closed {ms : List Milestone} {n g : Nat} (h : Ledger ms n none (some g))
      (outcome : Option Outcome) : Ledger (.ended g outcome :: ms) n none none

/-! ### What a course tells of its runs -/

def Milestone.begun? : Milestone → Option Nat
  | .began n _ _ => some n
  | _ => none

/-- The numbers of the requests that were run, latest first. -/
def begun (ms : List Milestone) : List Nat := ms.filterMap Milestone.begun?

def Milestone.accepted? : Milestone → Option Nat
  | .accepted n _ => some n
  | _ => none

def acceptedNumbers (ms : List Milestone) : List Nat := ms.filterMap Milestone.accepted?

def Milestone.run? : Milestone → Option (Ticket × Nat)
  | .began n g r => some (⟨n, r⟩, g)
  | _ => none

/-- The latest run, with its number. -/
def latestRun? (ms : List Milestone) : Option (Ticket × Nat) := ms.findSome? Milestone.run?

def Milestone.ending? : Milestone → Option (Nat × Option Outcome)
  | .ended g outcome => some (g, outcome)
  | _ => none

/-- The run that ended last, and its outcome. -/
def latestEnd? (ms : List Milestone) : Option (Nat × Option Outcome) :=
  ms.findSome? Milestone.ending?

/-- No run begins before all earlier runs have ended. -/
def Sequential : List Milestone → Prop
  | [] => True
  | .began _ _ _ :: ms =>
    (∀ n g r, .began n g r ∈ ms → ∃ outcome, .ended g outcome ∈ ms) ∧ Sequential ms
  | _ :: ms => Sequential ms

/-- A minor step tells nothing of the requests and of the ends of runs. -/
theorem Milestone.told_of_minor {m : Milestone} (hm : m.isMinor = true) :
    m.begun? = none ∧ m.accepted? = none ∧ m.run? = none ∧ m.ending? = none := by
  cases m with
  | accepted | superseded | began | ended | broke | stopped => cases hm
  | _ => exact ⟨rfl, rfl, rfl, rfl⟩

theorem begun_minor {m : Milestone} (hm : m.isMinor = true) (ms : List Milestone) :
    begun (m :: ms) = begun ms := List.filterMap_cons_none (Milestone.told_of_minor hm).1

theorem sequential_minor {m : Milestone} (hm : m.isMinor = true) {ms : List Milestone}
    (h : Sequential ms) : Sequential (m :: ms) := by
  cases m with
  | began => cases hm
  | _ => exact h

namespace Ledger

variable {ms : List Milestone} {n : Nat} {waiting : Option Ticket} {active : Option Nat}

/-- A request waits only while a run is active. -/
theorem active_of_waiting (h : Ledger ms n waiting active) (hw : waiting.isSome = true) :
    active.isSome = true := by
  induction h with
  | minor _ _ _ ih => exact ih hw
  | parked => rfl
  | replaced => rfl
  | _ => cases hw

/-- A run that has not ended is the active one. -/
theorem ended_or_active (h : Ledger ms n waiting active) {k g : Nat} {r : Request}
    (hb : .began k g r ∈ ms) : (∃ outcome, .ended g outcome ∈ ms) ∨ active = some g := by
  induction h with
  | new => cases hb
  | minor _ m hm ih =>
    rcases List.mem_cons.1 hb with rfl | hb
    · cases hm
    · exact (ih hb).imp_left fun ⟨o, ho⟩ => ⟨o, List.mem_cons_of_mem _ ho⟩
  | opened _ r' g' ih =>
    simp only [List.mem_cons, Milestone.began.injEq, reduceCtorEq, false_or] at hb
    rcases hb with ⟨-, rfl, -⟩ | hb
    · exact .inr rfl
    · exact .inl (by simpa using ih hb)
  | parked _ r' ih =>
    simp only [List.mem_cons, reduceCtorEq, false_or] at hb
    simpa using ih hb
  | replaced _ r' ih =>
    simp only [List.mem_cons, reduceCtorEq, false_or] at hb
    simpa using ih hb
  | followed _ outcome g' ih =>
    simp only [List.mem_cons, Milestone.began.injEq, reduceCtorEq, false_or] at hb
    rcases hb with ⟨-, rfl, -⟩ | hb
    · exact .inr rfl
    · rcases ih hb with ⟨o, ho⟩ | same
      · exact .inl ⟨o, by simp [ho]⟩
      · obtain rfl := Option.some.inj same
        exact .inl ⟨outcome, by simp⟩
  | closed _ outcome ih =>
    simp only [List.mem_cons, reduceCtorEq, false_or] at hb
    rcases ih hb with ⟨o, ho⟩ | same
    · exact .inl ⟨o, by simp [ho]⟩
    · obtain rfl := Option.some.inj same
      exact .inl ⟨outcome, by simp⟩

/-- **Runs never overlap.** -/
theorem sequential (h : Ledger ms n waiting active) : Sequential ms := by
  induction h with
  | new => trivial
  | minor _ m hm ih => exact sequential_minor hm ih
  | @opened ms n h r g ih =>
    refine ⟨fun k g' r' hb => ?_, ih⟩
    have hb : .began k g' r' ∈ ms := by simpa using hb
    simpa using h.ended_or_active hb
  | parked _ _ ih => exact ih
  | replaced _ _ ih => exact ih
  | @followed ms n g t h outcome g' ih =>
    refine ⟨fun k g'' r' hb => ?_, ih⟩
    have hb : .began k g'' r' ∈ ms := by simpa using hb
    rcases h.ended_or_active hb with ⟨o, ho⟩ | same
    · exact ⟨o, List.mem_cons_of_mem _ ho⟩
    · obtain rfl := Option.some.inj same
      exact ⟨outcome, List.mem_cons_self⟩
  | closed _ _ ih => exact ih

/-- Requests are numbered in the order in which they were accepted. -/
theorem numbered (h : Ledger ms n waiting active) :
    acceptedNumbers ms = (List.range n).reverse := by
  induction h with
  | new => rfl
  | minor _ m hm ih =>
    exact (List.filterMap_cons_none (Milestone.told_of_minor hm).2.1).trans ih
  | followed _ _ _ ih => exact ih
  | closed _ _ ih => exact ih
  | _ =>
    next ih =>
    rw [List.range_succ, List.reverse_append, ← ih]
    rfl

/-- **Requests are run in the order of their numbers.** The request that waits comes after all that
were run. -/
theorem rising (h : Ledger ms n waiting active) :
    (begun ms).Pairwise (· > ·) ∧ (∀ k ∈ begun ms, k < n) ∧
      ∀ t, waiting = some t → t.number < n ∧ ∀ k ∈ begun ms, k < t.number := by
  induction h with
  | new => simp [begun]
  | minor _ m hm ih => exact (begun_minor hm _).symm ▸ ih
  | opened _ r g ih =>
    obtain ⟨order, below, -⟩ := ih
    refine ⟨List.pairwise_cons.2 ⟨below, order⟩, fun k hk => ?_, nofun⟩
    rcases List.mem_cons.1 hk with rfl | hk
    · exact Nat.lt_succ_self _
    · exact Nat.lt_succ_of_lt (below k hk)
  | parked _ r ih =>
    obtain ⟨order, below, -⟩ := ih
    refine ⟨order, fun k hk => Nat.lt_succ_of_lt (below k hk), fun t ht => ?_⟩
    obtain rfl := Option.some.inj ht
    exact ⟨Nat.lt_succ_self _, below⟩
  | replaced _ r ih =>
    obtain ⟨order, below, -⟩ := ih
    refine ⟨order, fun k hk => Nat.lt_succ_of_lt (below k hk), fun t ht => ?_⟩
    obtain rfl := Option.some.inj ht
    exact ⟨Nat.lt_succ_self _, below⟩
  | followed _ outcome g ih =>
    obtain ⟨order, below, next⟩ := ih
    obtain ⟨bound, after⟩ := next _ rfl
    refine ⟨List.pairwise_cons.2 ⟨after, order⟩, fun k hk => ?_, nofun⟩
    rcases List.mem_cons.1 hk with rfl | hk
    · exact bound
    · exact below k hk
  | closed _ outcome ih =>
    obtain ⟨order, below, -⟩ := ih
    exact ⟨order, below, nofun⟩

/-- A request that gave way to another is neither run nor does it wait. -/
theorem superseded (h : Ledger ms n waiting active) {k later : Nat}
    (hs : .superseded k later ∈ ms) :
    k < later ∧ later < n ∧ k ∉ begun ms ∧ ∀ t, waiting = some t → t.number ≠ k := by
  induction h with
  | new => cases hs
  | minor _ m hm ih =>
    rcases List.mem_cons.1 hs with rfl | hs
    · cases hm
    · exact (begun_minor hm _).symm ▸ ih hs
  | opened _ r g ih =>
    obtain ⟨lt, bound, absent, -⟩ := ih (by simpa using hs)
    refine ⟨lt, Nat.lt_succ_of_lt bound, fun hk => ?_, nofun⟩
    rcases List.mem_cons.1 hk with rfl | hk
    · omega
    · exact absent hk
  | parked _ r ih =>
    obtain ⟨lt, bound, absent, -⟩ := ih (by simpa using hs)
    refine ⟨lt, Nat.lt_succ_of_lt bound, absent, fun t ht => ?_⟩
    obtain rfl := Option.some.inj ht
    exact Nat.ne_of_gt (Nat.lt_trans lt bound)
  | @replaced ms n g t h r ih =>
    obtain ⟨-, -, next⟩ := h.rising
    obtain ⟨bound, after⟩ := next t rfl
    have hs : (k = t.number ∧ later = n) ∨ .superseded k later ∈ ms := by simpa using hs
    rcases hs with ⟨rfl, rfl⟩ | hs
    · refine ⟨bound, Nat.lt_succ_self _, fun hk => Nat.lt_irrefl _ (after _ hk), fun u hu => ?_⟩
      obtain rfl := Option.some.inj hu
      exact Nat.ne_of_gt bound
    · obtain ⟨lt, bound', absent, -⟩ := ih hs
      refine ⟨lt, Nat.lt_succ_of_lt bound', absent, fun u hu => ?_⟩
      obtain rfl := Option.some.inj hu
      exact Nat.ne_of_gt (Nat.lt_trans lt bound')
  | followed _ outcome g ih =>
    obtain ⟨lt, bound, absent, next⟩ := ih (by simpa using hs)
    refine ⟨lt, bound, fun hk => ?_, nofun⟩
    rcases List.mem_cons.1 hk with rfl | hk
    · exact next _ rfl rfl
    · exact absent hk
  | closed _ outcome ih =>
    obtain ⟨lt, bound, absent, -⟩ := ih (by simpa using hs)
    exact ⟨lt, bound, absent, nofun⟩

/-- **Every accepted request is run, gave way to a later one or waits.** -/
theorem fate (h : Ledger ms n waiting active) {k : Nat} (hk : k < n) :
    k ∈ begun ms ∨ (∃ later, .superseded k later ∈ ms) ∨ ∃ t, waiting = some t ∧ t.number = k := by
  induction h with
  | new => cases hk
  | minor _ m hm ih =>
    rcases ih hk with hb | ⟨later, hs⟩ | hw
    · exact .inl ((begun_minor hm _).symm ▸ hb)
    · exact .inr (.inl ⟨later, List.mem_cons_of_mem _ hs⟩)
    · exact .inr (.inr hw)
  | opened _ r g ih =>
    rcases Nat.lt_succ_iff_lt_or_eq.1 hk with hk | rfl
    · rcases ih hk with hb | ⟨later, hs⟩ | ⟨t, ht, -⟩
      · exact .inl (List.mem_cons_of_mem _ hb)
      · exact .inr (.inl ⟨later, by simp [hs]⟩)
      · cases ht
    · exact .inl List.mem_cons_self
  | parked _ r ih =>
    rcases Nat.lt_succ_iff_lt_or_eq.1 hk with hk | rfl
    · rcases ih hk with hb | ⟨later, hs⟩ | ⟨t, ht, -⟩
      · exact .inl hb
      · exact .inr (.inl ⟨later, by simp [hs]⟩)
      · cases ht
    · exact .inr (.inr ⟨_, rfl, rfl⟩)
  | replaced _ r ih =>
    rcases Nat.lt_succ_iff_lt_or_eq.1 hk with hk | rfl
    · rcases ih hk with hb | ⟨later, hs⟩ | ⟨t, ht, rfl⟩
      · exact .inl hb
      · exact .inr (.inl ⟨later, by simp [hs]⟩)
      · obtain rfl := Option.some.inj ht
        exact .inr (.inl ⟨_, List.mem_cons_self⟩)
    · exact .inr (.inr ⟨_, rfl, rfl⟩)
  | followed _ outcome g ih =>
    rcases ih hk with hb | ⟨later, hs⟩ | ⟨t, ht, rfl⟩
    · exact .inl (List.mem_cons_of_mem _ hb)
    · exact .inr (.inl ⟨later, by simp [hs]⟩)
    · obtain rfl := Option.some.inj ht
      exact .inl List.mem_cons_self
  | closed _ outcome ih =>
    rcases ih hk with hb | ⟨later, hs⟩ | ⟨t, ht, -⟩
    · exact .inl hb
    · exact .inr (.inl ⟨later, by simp [hs]⟩)
    · cases ht

/-- The request that waits, and every request that is run, is one that was accepted under its
number. -/
theorem accepted (h : Ledger ms n waiting active) :
    (∀ t, waiting = some t → .accepted t.number t.request ∈ ms) ∧
      ∀ k g r, .began k g r ∈ ms → .accepted k r ∈ ms := by
  induction h with
  | new => simp
  | minor _ m hm ih =>
    obtain ⟨next, runs⟩ := ih
    refine ⟨fun t ht => List.mem_cons_of_mem _ (next t ht), fun k g r hb => ?_⟩
    rcases List.mem_cons.1 hb with rfl | hb
    · cases hm
    · exact List.mem_cons_of_mem _ (runs k g r hb)
  | opened _ r g ih =>
    obtain ⟨-, runs⟩ := ih
    refine ⟨nofun, fun k g' r' hb => ?_⟩
    simp only [List.mem_cons, Milestone.began.injEq, reduceCtorEq, false_or] at hb
    rcases hb with ⟨rfl, -, rfl⟩ | hb
    · simp
    · simp [runs k g' r' hb]
  | parked _ r ih =>
    obtain ⟨-, runs⟩ := ih
    refine ⟨fun t ht => ?_, fun k g' r' hb => ?_⟩
    · obtain rfl := Option.some.inj ht
      exact List.mem_cons_self
    · exact List.mem_cons_of_mem _ (runs k g' r' (by simpa using hb))
  | replaced _ r ih =>
    obtain ⟨-, runs⟩ := ih
    refine ⟨fun t ht => ?_, fun k g' r' hb => ?_⟩
    · obtain rfl := Option.some.inj ht
      simp
    · simp [runs k g' r' (by simpa using hb)]
  | followed _ outcome g ih =>
    obtain ⟨next, runs⟩ := ih
    refine ⟨nofun, fun k g' r' hb => ?_⟩
    simp only [List.mem_cons, Milestone.began.injEq, reduceCtorEq, false_or] at hb
    rcases hb with ⟨rfl, -, rfl⟩ | hb
    · simp [next _ rfl]
    · simp [runs k g' r' hb]
  | closed _ outcome ih =>
    obtain ⟨-, runs⟩ := ih
    refine ⟨nofun, fun k g' r' hb => ?_⟩
    simp [runs k g' r' (by simpa using hb)]

/-- The active run is the latest, and only the request that waits was accepted after its own. -/
theorem latest_active (h : Ledger ms n waiting active) {g : Nat} (ha : active = some g) :
    ∃ t, latestRun? ms = some (t, g) ∧
      (waiting = none → t.number + 1 = n) ∧ ∀ u, waiting = some u → u.number + 1 = n := by
  induction h generalizing g with
  | new => cases ha
  | minor _ m hm ih =>
    rw [latestRun?, List.findSome?_cons, (Milestone.told_of_minor hm).2.2.1]
    exact ih ha
  | opened _ r g' ih =>
    obtain rfl := Option.some.inj ha
    exact ⟨_, rfl, fun _ => rfl, nofun⟩
  | parked _ r ih =>
    obtain ⟨t, run, -, -⟩ := ih ha
    refine ⟨t, run, nofun, fun u hu => ?_⟩
    obtain rfl := Option.some.inj hu
    rfl
  | replaced _ r ih =>
    obtain ⟨t, run, -, -⟩ := ih ha
    refine ⟨t, run, nofun, fun u hu => ?_⟩
    obtain rfl := Option.some.inj hu
    rfl
  | followed _ outcome g' ih =>
    obtain rfl := Option.some.inj ha
    obtain ⟨-, -, -, last⟩ := ih rfl
    exact ⟨_, rfl, fun _ => last _ rfl, nofun⟩
  | closed => cases ha

/-- **When no run is active, the latest run was that of the last accepted request.** -/
theorem latest_closed (h : Ledger ms n waiting active) (ha : active = none) (hn : 0 < n) :
    ∃ t g outcome, latestRun? ms = some (t, g) ∧ t.number + 1 = n ∧
      latestEnd? ms = some (g, outcome) := by
  induction h with
  | new => cases hn
  | minor _ m hm ih =>
    obtain ⟨-, -, run, ending⟩ := Milestone.told_of_minor hm
    rw [latestRun?, latestEnd?, List.findSome?_cons, List.findSome?_cons, run, ending]
    exact ih ha hn
  | closed h outcome =>
    obtain ⟨t, run, last, -⟩ := h.latest_active rfl
    exact ⟨t, _, outcome, run, last rfl, rfl⟩
  | _ => cases ha

end Ledger

end Playground
