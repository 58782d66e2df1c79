import Mathlib.Data.List.DropRight
import Playground.Notifications
import Playground.Proofs.Exchanges

/-!
# The queue of messages tells its own past

Messages are pushed and dismissed, the queue is cleared, and the mode changes that decides whether
messages are suppressed. Keys are given out anew after every clearing, so that what the queue holds
is read off the calls since the latest one.

* `MessageBox`, `Handling` — the queue beside the mode, and a call with what it meets.
* `sinceClear`, `accepted`, `remaining` — the calls since the latest clearing, the number of pushes
  among them, and what is left of these.
* `remaining_append` — later calls dismiss from what earlier ones have left, and count on.
* `Represents.serve` — what one call preserves.
* `Represents.absent_of_dismissed` — what was dismissed stays away.
* `queue_represents` — the queue at every call.
-/

namespace Playground

/-! ### Calls -/

/-- The queue of messages beside the mode of the session. -/
structure MessageBox where
  mode : CompileMode
  queue : Notifications

inductive BoxCall where
  | push (message : String)
  | dismiss (key : Int)
  | clear
  | setMode (mode : CompileMode)

def MessageBox.serve (b : MessageBox) : BoxCall → MessageBox
  | .push message => { b with queue := (b.queue.push b.mode message).1 }
  | .dismiss key => { b with queue := (b.queue.dismiss key).1 }
  | .clear => { b with queue := b.queue.clear }
  | .setMode mode => { b with mode }

/-- A call with the queue and the mode that it meets. -/
abbrev Handling := Exchange MessageBox BoxCall

namespace Handling

variable (x : Handling)

def queue : Notifications := x.state.queue

/-- The message that the call pushes while messages are not suppressed. -/
def accepted? : Option String :=
  match x.call with
  | .push message => if x.state.mode = .auto then none else some message
  | _ => none

def dismisses (key : Nat) : Bool :=
  match x.call with
  | .dismiss k => (key : Int) = k
  | _ => false

def clears : Bool :=
  match x.call with
  | .clear => true
  | _ => false

end Handling

/-! ### What calls leave -/

def sinceClear (past : List Handling) : List Handling := past.rtakeWhile fun x => !x.clears

def accepted (calls : List Handling) : Nat := calls.countP fun x => x.accepted?.isSome

/-- The messages that calls push and do not dismiss afterwards, with their keys; the key of the
first push comes after `n`. -/
def remaining : Nat → List Handling → List (Nat × String)
  | _, [] => []
  | n, x :: later =>
    match x.accepted? with
    | none => remaining n later
    | some message =>
      if later.any fun y => y.dismisses (n + 1) then remaining (n + 1) later
      else (n + 1, message) :: remaining (n + 1) later

theorem accepted_append (calls others : List Handling) :
    accepted (calls ++ others) = accepted calls + accepted others :=
  List.countP_append

theorem accepted_cons (x : Handling) (calls : List Handling) :
    accepted (x :: calls) = accepted calls + if x.accepted?.isSome then 1 else 0 :=
  List.countP_cons

/-- **Later calls dismiss from what earlier ones have left, and count on from there.** -/
theorem remaining_append (n : Nat) (calls others : List Handling) :
    remaining n (calls ++ others) =
      ((remaining n calls).filter fun e => !others.any fun y => y.dismisses e.1) ++
        remaining (n + accepted calls) others := by
  induction calls generalizing n with
  | nil => rfl
  | cons x calls ih =>
    cases pushed : x.accepted? with
    | none =>
      have same : accepted (x :: calls) = accepted calls := by simp [accepted_cons, pushed]
      simp only [List.cons_append, remaining, pushed, ih, same]
    | some message =>
      have next : n + accepted (x :: calls) = n + 1 + accepted calls := by
        simp only [accepted_cons, pushed, Option.isSome_some, if_true]
        omega
      simp only [List.cons_append, remaining, pushed, ih, next, List.any_append, Bool.or_eq_true]
      by_cases now : calls.any fun y => y.dismisses (n + 1)
      · simp only [now, true_or, if_true]
      · by_cases then_ : others.any fun y => y.dismisses (n + 1)
        · simp [now, then_]
        · simp [now, then_]

/-- Keys are counted from `n` on. -/
theorem key_of_remaining {n : Nat} {calls : List Handling} {e : Nat × String}
    (left : e ∈ remaining n calls) : n < e.1 ∧ e.1 ≤ n + accepted calls := by
  induction calls generalizing n with
  | nil => cases left
  | cons x calls ih =>
    cases pushed : x.accepted? with
    | none =>
      simp only [remaining, pushed] at left
      simpa [accepted_cons, pushed] using ih left
    | some message =>
      have later (mem : e ∈ remaining (n + 1) calls) :
          n < e.1 ∧ e.1 ≤ n + accepted (x :: calls) := by
        have bounds := ih mem
        simp only [accepted_cons, pushed, Option.isSome_some, if_true]
        omega
      simp only [remaining, pushed] at left
      split at left
      · exact later left
      · rcases List.mem_cons.1 left with rfl | mem
        · simp only [accepted_cons, pushed, Option.isSome_some, if_true]
          omega
        · exact later mem

/-- Keys rise. -/
theorem rising_remaining (n : Nat) (calls : List Handling) :
    ((remaining n calls).map (·.1)).Pairwise (· < ·) := by
  induction calls generalizing n with
  | nil => exact List.Pairwise.nil
  | cons x calls ih =>
    cases pushed : x.accepted? with
    | none =>
      simp only [remaining, pushed]
      exact ih n
    | some message =>
      simp only [remaining, pushed]
      split
      · exact ih (n + 1)
      · refine List.pairwise_cons.2 ⟨?_, ih (n + 1)⟩
        intro key behind
        obtain ⟨e, left, rfl⟩ := List.mem_map.1 behind
        exact (key_of_remaining left).1

theorem sinceClear_append {past between : List Handling}
    (kept : ∀ z ∈ between, z.clears = false) :
    sinceClear (past ++ between) = sinceClear past ++ between := by
  have all : ∀ z ∈ between.reverse, (!z.clears) = true := by
    intro z among
    simp [kept z (List.mem_reverse.1 among)]
  simp only [sinceClear, List.rtakeWhile, List.reverse_append, List.takeWhile_append_of_pos all,
    List.reverse_reverse]

theorem sinceClear_clear (past : List Handling) {x : Handling} (cleared : x.clears = true) :
    sinceClear (past ++ [x]) = [] := by
  simp [sinceClear, cleared]

/-! ### The queue -/

/-- The queue holds what the calls of `past` have left, and counts their pushes. -/
structure Represents (past : List Handling) (q : Notifications) : Prop where
  count : q.count = accepted (sinceClear past)
  items : (q.items.map fun n => (n.key, n.message)) = remaining 0 (sinceClear past)

namespace Represents

variable {past : List Handling} {x : Handling} {q : Notifications}

theorem rising (h : Represents past q) : (q.items.map (·.key)).Pairwise (· < ·) := by
  have keys : q.items.map (·.key) = (remaining 0 (sinceClear past)).map (·.1) := by
    rw [← h.items, List.map_map]
    rfl
  rw [keys]
  exact rising_remaining 0 _

theorem within (h : Represents past q) {n : Notification} (held : n ∈ q.items) :
    1 ≤ n.key ∧ n.key ≤ q.count := by
  have left : (n.key, n.message) ∈ remaining 0 (sinceClear past) := by
    rw [← h.items]
    exact List.mem_map_of_mem held
  have bounds := key_of_remaining left
  rw [h.count]
  omega

/-- A call that does not clear the queue dismisses from what is left and adds what it pushes. -/
theorem concat (h : Represents past q) (kept : x.clears = false) {r : Notifications}
    (count : r.count = q.count + accepted [x])
    (items : (r.items.map fun n => (n.key, n.message)) =
      ((q.items.map fun n => (n.key, n.message)).filter fun e => !x.dismisses e.1) ++
        remaining q.count [x]) : Represents (past ++ [x]) r where
  count := by
    rw [count, h.count, sinceClear_append (List.forall_mem_singleton.2 kept), accepted_append]
  items := by
    rw [items, h.items, h.count, sinceClear_append (List.forall_mem_singleton.2 kept),
      remaining_append]
    simp

/-- **What one call preserves.** -/
theorem serve (h : Represents past x.queue) :
    Represents (past ++ [x]) (x.state.serve x.call).queue := by
  obtain ⟨⟨mode, queue⟩, call⟩ := x
  cases call with
  | push message =>
    refine concat h rfl ?_ ?_
    · by_cases suppressed : mode = .auto <;>
        simp [MessageBox.serve, Notifications.push, accepted, Handling.accepted?, suppressed,
          Handling.queue]
    · by_cases suppressed : mode = .auto <;>
        simp [MessageBox.serve, Notifications.push, Notifications.next, remaining,
          Handling.accepted?, Handling.dismisses, suppressed, Handling.queue]
  | dismiss key =>
    refine concat h rfl rfl ?_
    simp [MessageBox.serve, Notifications.dismiss, remaining, Handling.accepted?,
      Handling.dismisses, Handling.queue, List.filter_map, Function.comp_def]
  | clear =>
    have none_left := sinceClear_clear past (x := ⟨⟨mode, queue⟩, .clear⟩) rfl
    constructor
    · rw [none_left]
      rfl
    · rw [none_left]
      rfl
  | setMode mode =>
    refine concat h rfl rfl ?_
    simp [MessageBox.serve, remaining, Handling.accepted?, Handling.dismisses, Handling.queue]

end Represents

/-! ### Dismissals -/

namespace Notifications

variable {q : Notifications} {key : Int}

/-- To dismiss a key that no message has changes nothing. -/
theorem dismiss_absent (absent : ∀ n ∈ q.items, (n.key : Int) ≠ key) :
    q.dismiss key = (q, false) := by
  have kept : (q.items.filter fun n => (n.key : Int) ≠ key) = q.items := by
    refine List.filter_eq_self.2 ?_
    intro n held
    simpa using absent n held
  unfold dismiss
  rw [kept]
  simp

/-- Where keys rise, to dismiss the key of a message takes out this message alone. -/
theorem dismiss_present (rising : (q.items.map (·.key)).Pairwise (· < ·))
    {before after : List Notification} {n : Notification} (split : q.items = before ++ n :: after)
    (same : (n.key : Int) = key) :
    q.dismiss key = ({ q with items := before ++ after }, true) := by
  rw [split, List.pairwise_map, List.pairwise_append, List.pairwise_cons] at rising
  obtain ⟨-, ⟨higher, -⟩, lower⟩ := rising
  have first : (before.filter fun m => (m.key : Int) ≠ key) = before := by
    refine List.filter_eq_self.2 ?_
    intro m held
    have less : m.key < n.key := lower m held n List.mem_cons_self
    simp only [decide_eq_true_eq]
    omega
  have rest : (after.filter fun m => (m.key : Int) ≠ key) = after := by
    refine List.filter_eq_self.2 ?_
    intro m held
    have more : n.key < m.key := higher m held
    simp only [decide_eq_true_eq]
    omega
  have kept : (q.items.filter fun m => (m.key : Int) ≠ key) = before ++ after := by
    rw [split, List.filter_append, List.filter_cons_of_neg (by simp [same]), first, rest]
  unfold dismiss
  rw [kept]
  simp [split]

end Notifications

/-! ### Sequences of calls -/

/-- The queue that a call meets after the calls of `past`. -/
structure Handling.Faithful (past : List Handling) (x : Handling) : Prop where
  /-- Keys rise. -/
  rising : (x.queue.items.map (·.key)).Pairwise (· < ·)
  /-- Keys lie between one and the count. -/
  within : ∀ n ∈ x.queue.items, 1 ≤ n.key ∧ n.key ≤ x.queue.count
  /-- The pushes since the latest clearing are counted, except where messages were suppressed. -/
  count : x.queue.count = accepted (sinceClear past)
  /-- The queue holds the messages of these pushes that were not dismissed afterwards. -/
  items : (x.queue.items.map fun n => (n.key, n.message)) = remaining 0 (sinceClear past)
  /-- Where messages are suppressed, a push changes nothing. -/
  suppressed : x.state.mode = .auto → ∀ message,
    x.queue.push x.state.mode message = (x.queue, none)
  /-- A dismissal succeeds if a message has the key. -/
  found : ∀ key, (x.queue.dismiss key).2 = true ↔ ∃ n ∈ x.queue.items, (n.key : Int) = key
  /-- It takes out this message and nothing else. -/
  removes : ∀ key, (x.queue.dismiss key).2 = true → ∃ before n after,
    x.queue.items = before ++ n :: after ∧ (n.key : Int) = key ∧
      (x.queue.dismiss key).1 = { x.queue with items := before ++ after }
  /-- A dismissal that fails changes nothing. -/
  misses : ∀ key, (x.queue.dismiss key).2 = false → (x.queue.dismiss key).1 = x.queue
  /-- Until the queue is cleared, a key that was given out and dismissed cannot be dismissed again,
  whether that dismissal succeeded or not; neither can a key that is not given out yet. -/
  repeats : ∀ (key : Int) before y between, past = before ++ y :: between → y.call = .dismiss key →
    (∀ z ∈ between, z.clears = false) →
    (y.queue.dismiss key).2 = true ∨ key ≤ y.queue.count ∨ x.queue.count < key →
      x.queue.dismiss key = (x.queue, false)

/-- A message that was dismissed since the latest clearing is not among those that remain. -/
theorem not_remaining_of_dismissed {before between : List Handling} {y : Handling}
    {e : Nat × String} (dismissed : y.dismisses e.1 = true)
    (kept : ∀ z ∈ y :: between, z.clears = false) (given : e.1 ≤ accepted (sinceClear before)) :
    e ∉ remaining 0 (sinceClear (before ++ y :: between)) := by
  intro left
  rw [sinceClear_append kept, remaining_append, List.mem_append] at left
  rcases left with earlier | later
  · have undismissed := (List.mem_filter.1 earlier).2
    simp [dismissed] at undismissed
  · have bounds := key_of_remaining later
    omega

namespace Represents

variable {past : List Handling} {q : Notifications}

/-- To dismiss a message of the queue takes out this message alone. -/
theorem dismiss_held (h : Represents past q) {key : Int} {n : Notification} (held : n ∈ q.items)
    (same : (n.key : Int) = key) : ∃ before after, q.items = before ++ n :: after ∧
      q.dismiss key = ({ q with items := before ++ after }, true) := by
  obtain ⟨before, after, parts⟩ := List.append_of_mem held
  exact ⟨before, after, parts, Notifications.dismiss_present h.rising parts same⟩

theorem dismiss_iff (h : Represents past q) (key : Int) :
    (q.dismiss key).2 = true ↔ ∃ n ∈ q.items, (n.key : Int) = key := by
  constructor
  · intro succeeded
    by_contra none_has
    rw [Notifications.dismiss_absent fun n held same => none_has ⟨n, held, same⟩] at succeeded
    cases succeeded
  · rintro ⟨n, held, same⟩
    obtain ⟨before, after, -, dismissed⟩ := h.dismiss_held held same
    rw [dismissed]

/-- What was dismissed since the latest clearing, and had its key given out by then, is gone. -/
theorem absent_of_dismissed {before between : List Handling} {y : Handling}
    (earlier : Represents before y.queue) (now : Represents (before ++ y :: between) q)
    {key : Int} (dismissal : y.call = .dismiss key) (kept : ∀ z ∈ between, z.clears = false)
    (given : key ≤ y.queue.count) : ∀ n ∈ q.items, (n.key : Int) ≠ key := by
  rintro n held rfl
  have dismissed : y.dismisses n.key = true := by simp [Handling.dismisses, dismissal]
  have keptAll : ∀ z ∈ y :: between, z.clears = false :=
    List.forall_mem_cons.2 ⟨by simp [Handling.clears, dismissal], kept⟩
  have early : n.key ≤ accepted (sinceClear before) := by
    rw [← earlier.count]
    exact Int.ofNat_le.1 given
  refine not_remaining_of_dismissed (e := (n.key, n.message)) dismissed keptAll early ?_
  rw [← now.items]
  exact List.mem_map_of_mem held

end Represents

/-- **The queue of messages tells its own past**, at every call of a sequence. -/
theorem queue_represents (mode : CompileMode) (dismissAfterMs : Int) (calls : List BoxCall)
    (earlier : List Handling) (x : Handling) (later : List Handling)
    (split : exchanges MessageBox.serve ⟨mode, { dismissAfterMs }⟩ calls = earlier ++ x :: later) :
    x.Faithful earlier := by
  have at_ {past : List Handling} {y : Handling} {rest : List Handling}
      (here : exchanges MessageBox.serve ⟨mode, { dismissAfterMs }⟩ calls = past ++ y :: rest) :
      Represents past y.queue :=
    exchanges_invariant (P := fun past b => Represents past b.queue)
      (fun _ _ stands => stands.serve) ⟨rfl, rfl⟩ here
  have stands := at_ split
  constructor
  case rising => exact stands.rising
  case within => exact fun n => stands.within
  case count => exact stands.count
  case items => exact stands.items
  case suppressed =>
    intro auto message
    rw [auto]
    rfl
  case found => exact stands.dismiss_iff
  case removes =>
    intro key succeeded
    obtain ⟨n, held, same⟩ := (stands.dismiss_iff key).1 succeeded
    obtain ⟨before, after, parts, dismissed⟩ := stands.dismiss_held held same
    exact ⟨before, n, after, parts, same, by rw [dismissed]⟩
  case misses =>
    intro key failed
    rw [Notifications.dismiss_absent]
    intro n held same
    rw [(stands.dismiss_iff key).2 ⟨n, held, same⟩] at failed
    cases failed
  case repeats =>
    intro key before y between parts dismissal kept given
    have yStands : Represents before y.queue := by
      rw [parts, List.append_assoc, List.cons_append] at split
      exact at_ split
    rw [parts] at stands
    have gone (out : key ≤ y.queue.count) : x.queue.dismiss key = (x.queue, false) :=
      Notifications.dismiss_absent (yStands.absent_of_dismissed stands dismissal kept out)
    rcases given with succeeded | out | ahead
    · obtain ⟨n, held, rfl⟩ := (yStands.dismiss_iff key).1 succeeded
      exact gone (Int.ofNat_le.2 (yStands.within held).2)
    · exact gone out
    · refine Notifications.dismiss_absent ?_
      rintro n held rfl
      have bounds := stands.within held
      omega

/-- A message is dismissed twice, and between the two dismissals others are pushed, one of them
while messages are suppressed. -/
theorem queue_represents_redismissed :
    let calls : List BoxCall := [.push "a", .push "b", .dismiss 1, .setMode .auto, .push "c",
      .setMode .manual, .push "d", .dismiss 1]
    ∃ earlier x, exchanges MessageBox.serve ⟨.manual, {}⟩ calls = earlier ++ [x] ∧
      x.Faithful earlier ∧ remaining 0 (sinceClear earlier) = [(2, "b"), (3, "d")] ∧
      x.queue.dismiss 1 = (x.queue, false) := by
  intro calls
  let all := exchanges MessageBox.serve ⟨.manual, {}⟩ calls
  have faithful := queue_represents .manual 5000 calls (all.take 7) _ [] rfl
  refine ⟨all.take 7, _, rfl, faithful, rfl, ?_⟩
  exact faithful.repeats 1 (all.take 2) _ ((all.take 7).drop 3) rfl rfl (by decide)
    (Or.inl (by decide))

end Playground
