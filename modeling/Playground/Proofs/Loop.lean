import Playground.Session.Running

/-!
# Jobs of the loop

The jobs that wait in a loop, whichever tick they wait for. Opening a tick and handling timers leave
them as they are; only running takes one out, from the front.

* `Loop.jobs` — the jobs that wait, in the order in which they run.
-/

namespace Playground.Clock

variable {κ ω : Type}

/-- The job that an entry is, unless it is a timer. -/
def Entry.job? : Entry κ → Option κ
  | .timer _ => none
  | .job j => some j

@[simp] theorem filterMap_job?_timer (id : Nat) (es : List (Entry κ)) :
    (.timer id :: es).filterMap Entry.job? = es.filterMap Entry.job? := rfl

@[simp] theorem filterMap_job?_job (j : κ) (es : List (Entry κ)) :
    (.job j :: es).filterMap Entry.job? = j :: es.filterMap Entry.job? := rfl

namespace Loop

/-- The jobs that wait, in the order in which they run. -/
def jobs (l : Loop κ) : List κ := (l.batch ++ l.queue).filterMap Entry.job?

@[simp] theorem jobs_enqueue (l : Loop κ) (j : κ) : (l.enqueue j).jobs = l.jobs ++ [j] := by
  simp [jobs, enqueue]

@[simp] theorem jobs_arm (l : Loop κ) (delay : Int) : (l.arm delay).jobs = l.jobs := rfl

theorem filterMap_job?_filter (id : Nat) (es : List (Entry κ)) :
    (es.filter (isOther id)).filterMap Entry.job? = es.filterMap Entry.job? := by
  induction es with
  | nil => rfl
  | cons e es ih =>
    cases e with
    | timer i =>
      by_cases h : i = id
      · simp [isOther, h, ih]
      · simp [isOther, h, ih]
    | job j => simp [isOther, List.filter_cons, ih]

@[simp] theorem jobs_cancel (l : Loop κ) (id : Nat) : (l.cancel id).jobs = l.jobs := by
  simp only [jobs, cancel, List.filterMap_append, filterMap_job?_filter]

@[simp] theorem jobs_openTick (l : Loop κ) : l.openTick.jobs = l.jobs := by
  have timers : ((l.timers.filter l.isDue).map fun t => Entry.timer t.id).filterMap
      (Entry.job? (κ := κ)) = [] := by
    simp [List.filterMap_map, Function.comp_def, Entry.job?]
  simp [jobs, openTick, timers]

/-- The job at the front of the batch is the first of all. -/
theorem jobs_of_job {l : Loop κ} {j : κ} {rest : List (Entry κ)} (h : l.batch = .job j :: rest) :
    l.jobs = j :: { l with batch := rest }.jobs := by
  simp [jobs, h]

/-- A timer at the front of the batch is no job. -/
theorem jobs_of_timer {l : Loop κ} {id : Nat} {rest : List (Entry κ)}
    (h : l.batch = .timer id :: rest) : { l with batch := rest }.jobs = l.jobs := by
  simp [jobs, h]

end Loop

end Playground.Clock

namespace Playground.Debounce

open Playground.Clock

variable {κ : Type}

@[simp] theorem jobs_cancel (armed : Option Nat) (l : Loop κ) : (cancel armed l).jobs = l.jobs := by
  cases armed <;> simp [cancel]

/-- Setting the timer, accepted or not, leaves the jobs as they are. -/
@[simp] theorem jobs_schedule (armed : Option Nat) (l : Loop κ) (delay : Int) :
    (schedule armed l delay).1.jobs = l.jobs := by
  unfold schedule
  split <;> simp

end Playground.Debounce
