import Mathlib.Data.List.Nodup
import Playground.Proofs.Display
import Playground.Proofs.Ledger

/-!
# Requests are run one after the other

Requests come in while a run is under way, and wait, and give way to later ones. The account of all
this is a ledger as long as the session is not stopped and every run returns.

* `Core.Recorded` — the invariant: the course is a ledger.
* `recorded_moves` — it holds after all moves.
* `runs_in_turn` — what becomes of requests.
-/

namespace Playground

open Playground.Core

/-- No stop, and no run that did not return. -/
def Undisturbed (ms : List Milestone) : Prop := ∀ m ∈ ms, m.disturbs = false

theorem Undisturbed.before {old new : List Milestone} (h : Undisturbed new) (later : old <:+ new) :
    Undisturbed old := fun m hm => h m (later.mem hm)

theorem Undisturbed.unbroken {ms : List Milestone} (h : Undisturbed ms) (g : Nat)
    (o : Option Outcome)
    (f : Fault) : .broke g o f ∉ ms := fun broke => by cases h _ broke

namespace Core

def active (c : Core) : Option Nat := if c.state.compiling then some c.state.generation else none

def books (c : Core) : List Milestone × Nat × Option Ticket × Bool × Nat × Bool :=
  (c.history, c.accepted, c.pending, c.state.compiling, c.state.generation, c.state.alive)

/-- The course is a ledger, and only a session that is alive compiles. -/
structure Recorded (c : Core) : Prop where
  ledger : Ledger c.history c.accepted c.pending c.active
  alive : c.state.compiling = true → c.state.alive = true

variable {c d : Core}

theorem Recorded.of_books (h : c.Recorded) (books : d.books = c.books) : d.Recorded := by
  simp only [Core.books, Prod.mk.injEq] at books
  obtain ⟨history, accepted, pending, compiling, generation, alive⟩ := books
  refine ⟨?_, ?_⟩
  · rw [history, accepted, pending, active, compiling, generation]
    exact h.ledger
  · rw [compiling, alive]
    exact h.alive

/-- No request waits while no run is active. -/
theorem Recorded.pending_none (h : c.Recorded) (idle : c.state.compiling = false) :
    c.pending = none := by
  have active : c.active = none := if_neg (by simp [idle])
  have ledger := h.ledger
  rw [active] at ledger
  cases pending : c.pending with
  | none => rfl
  | some t => simpa using ledger.active_of_waiting (by simp [pending])

theorem Recorded.minor (h : c.Recorded) {m : Milestone} (hm : m.isMinor = true) :
    ({ c with history := m :: c.history } : Core).Recorded :=
  ⟨h.ledger.minor m hm, h.alive⟩

end Core

namespace Session

variable {P : Action → Prop} {s t : Session Action} {r : Session Action × Progress}

/-! ### From the side, and within a stage -/

/-- From the side, the account only sees that a compile was scheduled and that the session is
stopped, or what it leaves out of account. -/
theorem books_of_nudge (h : Nudge P s t) :
    t.core.books = s.core.books ∨
      (∃ m : Milestone, m.isMinor = true ∧ t = s.mark m) ∨ t = s.stop := by
  cases h with
  | heed listener =>
    rw [core_takeReaction]
    exact .inl rfl
  | edit text =>
    refine .inl ?_
    unfold edit
    simp only
    split
    · rfl
    · split
      · rw [core_rearm]
        rfl
      · rfl
  | turn _ mode =>
    refine .inl ?_
    have turned : (s.cancelTimer.modifyState fun st => { st with compileMode := mode }).core.books =
        s.core.books := rfl
    unfold turn
    simp only
    split
    · rw [core_rearm]
      exact turned
    · exact turned
  | scheduled data => exact .inr (.inl ⟨_, rfl, rfl⟩)
  | unheard f => exact .inr (.inl ⟨_, rfl, rfl⟩)
  | stop => exact .inr (.inr rfl)
  | _ => exact .inl rfl

/-- A small step that adds to the course and leaves the account in order, unless it disturbs the
session. -/
structure Records (s t : Session Action) : Prop where
  later : s.history <:+ t.history
  keeps : Undisturbed t.history → s.core.Recorded → t.core.Recorded

theorem Records.refl (s : Session Action) : Records s s := ⟨List.suffix_refl _, fun _ => id⟩

theorem Records.trans {u : Session Action} (h : Records s t) (k : Records t u) : Records s u :=
  ⟨h.later.trans k.later, fun calm recorded =>
    k.keeps calm (h.keeps (calm.before k.later) recorded)⟩

theorem records_of_books (h : t.core.books = s.core.books) : Records s t := by
  have history : t.history = s.history := congrArg Prod.fst h
  exact ⟨history ▸ List.suffix_refl _, fun _ recorded => recorded.of_books h⟩

theorem records_of_minor {m : Milestone} (hm : m.isMinor = true) : Records s (s.mark m) :=
  ⟨List.suffix_cons _ _, fun _ recorded => recorded.minor hm⟩

theorem records_stop (s : Session Action) : Records s s.stop := by
  refine ⟨List.suffix_cons _ _, fun calm => ?_⟩
  have disturbs := calm .stopped List.mem_cons_self
  cases disturbs

theorem records_nudge (h : Nudge P s t) : Records s t := by
  rcases books_of_nudge h with books | ⟨m, minor, rfl⟩ | rfl
  · exact records_of_books books
  · exact records_of_minor minor
  · exact records_stop s

theorem records_lead (h : Lead P s t) : Records s t := by
  cases h with
  | stop => exact records_stop s
  | wake =>
    exact ⟨List.suffix_cons _ _,
      fun _ recorded => ⟨recorded.ledger.minor .started rfl, fun _ => rfl⟩⟩
  | unload => exact records_of_minor rfl
  | _ => exact records_of_books rfl

theorem records_use (h : Use P s t) : Records s t := by
  cases h with
  | nudge h => exact records_nudge h
  | called => exact records_of_minor rfl

theorem records_work (h : Work P s t) : Records s t := by
  cases h with
  | use h => exact records_use h
  | publish => exact records_of_minor rfl
  | cut => exact records_of_minor rfl
  | unrelease => exact records_of_minor rfl
  | raise => exact records_of_minor rfl
  | _ => exact records_of_books rfl

theorem records_nudges (h : Nudges P s t) : Records s t := by
  induction h with
  | refl => exact .refl s
  | tail _ step ih => exact ih.trans (records_nudge step)

theorem records_leads (h : Leads P s t) : Records s t := by
  induction h with
  | refl => exact .refl s
  | tail _ step ih => exact ih.trans (records_lead step)

/-! ### Into the pipeline and out of it -/

theorem recorded_of_opened {ticket : Ticket} (h : Opened ticket s r)
    (busy : s.state.compiling = true)
    (opens : Ledger (.began ticket.number (s.state.generation + 1) ticket.request :: s.history)
      s.accepted s.pending (some (s.state.generation + 1)))
    (alive : s.state.alive = true) (calm : Undisturbed r.1.history) : r.1.core.Recorded := by
  obtain ⟨core, -⟩ := h.begun calm.unbroken
  rw [core]
  refine ⟨?_, fun _ => alive⟩
  have active : (s.core.begin ticket).active = some (s.state.generation + 1) := if_pos busy
  rw [active]
  exact opens

/-- Opening a run only adds to the course. -/
theorem later_of_opened {ticket : Ticket} (h : Opened ticket s r) : s.history <:+ r.1.history := by
  cases h with
  | begins _ _ _ core _ =>
    rw [show r.1.history = _ from congrArg Core.history core]
    exact List.suffix_cons _ _
  | breaks _ _ core _ =>
    rw [show r.1.history = _ from congrArg Core.history core]
    exact (List.suffix_cons _ _).trans (List.suffix_cons _ _)

theorem records_of_entered {draft : Option Draft} (h : Entered draft s r) : Records s r.1 := by
  cases h with
  | ignored _ core _ => exact records_of_books (congrArg books core)
  | parked alive _ busy core _ =>
    refine ⟨?_, fun _ recorded => ?_⟩
    · rw [show r.1.history = _ from congrArg Core.history core]
      exact (List.suffix_cons _ _).trans (List.suffix_append _ _)
    have ledger := recorded.ledger
    rw [show s.core.active = some s.state.generation from if_pos busy] at ledger
    rw [core]
    refine ⟨?_, fun _ => alive⟩
    have active : ((s.core.accept (s.requestOf draft)).park
        ⟨s.accepted, s.requestOf draft⟩).active = some s.state.generation := if_pos busy
    rw [active]
    cases pending : s.pending with
    | none =>
      rw [show s.core.pending = none from pending] at ledger
      simpa [Core.park, Core.accept, Session.core, pending] using ledger.parked (s.requestOf draft)
    | some earlier =>
      rw [show s.core.pending = some earlier from pending] at ledger
      simpa [Core.park, Core.accept, Session.core, pending]
        using ledger.replaced (s.requestOf draft)
  | opened alive _ idle u core opens =>
    have history : u.history = .accepted s.accepted (s.requestOf draft) :: s.history :=
      congrArg Core.history core
    refine ⟨?_, fun calm recorded => ?_⟩
    · exact (history ▸ List.suffix_cons _ _).trans (later_of_opened opens)
    have pending : u.pending = none :=
      (congrArg Core.pending core).trans (recorded.pending_none idle)
    have accepted : u.accepted = s.accepted + 1 := congrArg Core.accepted core
    have busy : u.state.compiling = true := congrArg (fun c : Core => c.state.compiling) core
    have alive' : u.state.alive = true :=
      (congrArg (fun c : Core => c.state.alive) core).trans alive
    have ledger := recorded.ledger
    rw [show s.core.pending = none from recorded.pending_none idle,
      show s.core.active = none from if_neg (by simp [Session.core, idle])] at ledger
    refine recorded_of_opened opens busy ?_ alive' calm
    rw [history, pending, accepted]
    exact ledger.opened _ _

/-- After a run has ended, the parked request is run or the account is closed. -/
theorem records_of_followed {g : Nat} {outcome : Option Outcome}
    (h : Followed (s.mark (.ended g outcome)) r) (busy : s.state.compiling = true)
    (hg : g = s.state.generation) : Records s r.1 := by
  cases h with
  | rests why core _ =>
    have history : r.1.history = .ended g outcome :: s.history := congrArg Core.history core
    refine ⟨history ▸ List.suffix_cons _ _, fun _ recorded => ?_⟩
    have pending : s.pending = none := by
      rcases why with none | dead
      · exact none
      · exact absurd ((recorded.alive busy).symm.trans dead) (by decide)
    have ledger := recorded.ledger
    rw [show s.core.pending = none from pending,
      show s.core.active = some g from hg ▸ if_pos busy] at ledger
    rw [core]
    exact ⟨ledger.closed outcome, nofun⟩
  | opened ticket parked alive u core opens =>
    have history : u.history = .ended g outcome :: s.history := congrArg Core.history core
    refine ⟨?_, fun calm recorded => ?_⟩
    · exact (history ▸ List.suffix_cons _ _).trans (later_of_opened opens)
    have pending : u.pending = none := congrArg Core.pending core
    have accepted : u.accepted = s.accepted := congrArg Core.accepted core
    have busy' : u.state.compiling = true :=
      (congrArg (fun c : Core => c.state.compiling) core).trans busy
    have alive' : u.state.alive = true :=
      (congrArg (fun c : Core => c.state.alive) core).trans alive
    have ledger := recorded.ledger
    rw [show s.core.pending = some ticket from parked,
      show s.core.active = some g from hg ▸ if_pos busy] at ledger
    refine recorded_of_opened opens busy' ?_ alive' calm
    rw [history, pending, accepted]
    exact ledger.followed outcome _

theorem records_of_led {call : Option Call} (h : Led P call s r) : Records s r.1 := by
  cases h with
  | rests lead _ _ => exact records_leads lead
  | loads lead _ _ _ _ _ => exact records_leads lead
  | enters u draft after lead _ eq =>
    have entered : Records u r.1 := by
      rw [eq]
      exact records_of_entered (entered_enterCompile draft after u)
    exact (records_leads lead).trans entered

theorem records_resumeStage {stage : Stage} {run : Run} (after : After)
    (number : run.generation = s.state.generation) (busy : s.state.compiling = true) :
    Records s (s.resumeStage Session.react stage run after).1 := by
  have worked : Records s (s.stepRun Session.react stage run).1 :=
    (worked_stepRun reacts_react (admits_all s) stage run).keeps (I := Records s) (.refl s)
      (fun _ _ _ _ h => h.trans (records_of_books rfl))
      (fun _ _ _ h => h.trans (records_of_minor rfl)) fun _ _ work h => h.trans (records_work work)
  have stepped := stepped_stepRun reacts_react s stage run
  unfold resumeStage
  rcases hx : s.stepRun Session.react stage run with ⟨t, ⟨next, run'⟩ | ⟨run', fault⟩⟩ <;>
    rw [hx] at worked stepped
  · exact worked
  · cases stepped with
    | ended _ _ f ms last closing ending alters alike _ _ =>
      obtain ⟨-, compiling, generation⟩ := ending.frame alters
      cases closing.fault.or last with
      | some e =>
        refine ⟨worked.later.trans (List.suffix_cons _ _), fun calm => ?_⟩
        exact absurd List.mem_cons_self (calm.unbroken run'.generation run'.outcome e)
      | none =>
        have number' : run'.generation = t.state.generation :=
          alike.generation.trans (number.trans generation.symm)
        have followed := followed_nextRun after (t.mark (.ended run'.generation run'.outcome))
        have ended : Records t _ :=
          records_of_followed followed (compiling.trans busy) number'
        exact worked.trans ended

/-- One move leaves the account in order. -/
theorem records_of_turn (sound : s.core.Sound) (turn : Turn P s t) : Records s t := by
  cases turn with
  | acted a _ eq =>
    rw [eq]
    have nudges : Nudges (fun _ => True) s (act Session.react a s).1 :=
      nudges_act reacts_react (admits_all s) trivial
    exact records_nudges nudges
  | kept eq => exact records_of_books (congrArg books eq)
  | called c _ eq => exact records_of_books (by rw [eq]; rfl)
  | fired id _ eq => exact records_of_books (by rw [eq]; rfl)
  | resumed u at_ lasting front popped eq =>
    have taken : Records s u := records_of_books (by rw [popped]; rfl)
    have settled : Records (u.resume Session.react at_).1 t := records_of_books (by rw [eq]; rfl)
    refine (taken.trans ?_).trans settled
    rcases led_or_staging (fun _ => True) lasting with ⟨-, led⟩ | ⟨stage, run, after, rfl⟩
    · exact records_of_led led
    · obtain ⟨-, stands, busy⟩ := sound.pop front rfl
      have same : u.state = s.state := congrArg Core.state popped
      exact records_resumeStage after (stands.number.trans (congrArg State.generation same.symm))
        ((congrArg State.compiling same).trans busy)

end Session

/-! ### The outcome of the last run -/

/-- Only the steps of runs count for the latest end. -/
theorem latestEnd?_filter (ms : List Milestone) :
    latestEnd? (ms.filter Milestone.ofRun) = latestEnd? ms := by
  induction ms with
  | nil => rfl
  | cons m ms ih =>
    cases m with
    | ended => rfl
    | published | cutOff =>
      rw [List.filter_cons]
      split <;> exact ih
    | _ => exact ih

namespace Core

/-- A session that does not compile shows the outcome of the run that ended last. -/
def Concluded (c : Core) : Prop :=
  c.state.compiling = false → ∀ g outcome, latestEnd? c.history = some (g, outcome) →
    outcome = c.state.outcome ∧ outcome.isSome = true

variable {c d : Core}

theorem Concluded.aside (h : c.Concluded) (aside : Aside c d) : d.Concluded := by
  intro idle g outcome last
  have compiling : d.state.compiling = c.state.compiling := congrArg Face.compiling aside.face
  have shown : d.state.outcome = c.state.outcome := congrArg Face.outcome aside.face
  have course := congrArg (fun f : Face => latestEnd? f.course) aside.face
  simp only [Core.face, latestEnd?_filter, id] at course
  rw [shown]
  exact h (compiling.symm.trans idle) g outcome (course.symm.trans last)

theorem concluded_of_busy (busy : c.state.compiling = true) : c.Concluded :=
  fun idle => absurd (busy.symm.trans idle) (by decide)

end Core

namespace Session

variable {P : Action → Prop} {s t : Session Action} {r : Session Action × Progress}

/-- A run that is opened is not over. -/
theorem concluded_of_opened {ticket : Ticket} (h : Opened ticket s r)
    (busy : s.state.compiling = true) (calm : Undisturbed r.1.history) : r.1.core.Concluded := by
  obtain ⟨core, -⟩ := h.begun calm.unbroken
  rw [core]
  exact concluded_of_busy busy

theorem concluded_of_led {call : Option Call} (h : Led P call s r) (concluded : s.core.Concluded)
    (calm : Undisturbed r.1.history) : r.1.core.Concluded := by
  cases h with
  | rests lead _ _ => exact concluded.aside (aside_leads lead)
  | loads lead _ _ _ _ _ => exact concluded.aside (aside_leads lead)
  | enters u draft after lead _ eq =>
    have entered : Entered draft u r := eq ▸ entered_enterCompile draft after u
    cases entered with
    | ignored _ core _ =>
      rw [core]
      exact concluded.aside (aside_leads lead)
    | parked _ _ busy core _ =>
      rw [core]
      exact concluded_of_busy busy
    | opened _ _ _ v core opens =>
      exact concluded_of_opened opens (congrArg (fun c : Core => c.state.compiling) core) calm

theorem stops_of_calm {c : Core} (calm : Undisturbed c.history) : c.stops = 0 := by
  refine List.countP_eq_zero.2 fun m hm stop => ?_
  have undisturbed := calm m hm
  cases m with
  | stopped => cases undisturbed
  | _ => cases stop

theorem concluded_of_followed {g : Nat} {outcome : Option Outcome}
    (h : Followed (s.mark (.ended g outcome)) r) (busy : s.state.compiling = true)
    (shown : Undisturbed s.history → outcome = s.state.outcome ∧ outcome.isSome = true)
    (calm : Undisturbed r.1.history) : r.1.core.Concluded := by
  cases h with
  | rests _ core _ =>
    have history : r.1.history = .ended g outcome :: s.history := congrArg Core.history core
    rw [core]
    intro _ g' outcome' last
    obtain ⟨rfl, rfl⟩ := Prod.mk.inj (Option.some.inj last)
    exact shown (calm.before (history ▸ List.suffix_cons _ _))
  | opened ticket _ _ u core opens =>
    exact concluded_of_opened opens
      ((congrArg (fun c : Core => c.state.compiling) core).trans busy) calm

theorem concluded_resumeStage {stage : Stage} {run : Run} (after : After)
    (busy : s.state.compiling = true) (alive : s.state.alive = true)
    (calm : Undisturbed (s.resumeStage Session.react stage run after).1.history) :
    (s.resumeStage Session.react stage run after).1.core.Concluded := by
  have stepped := stepped_stepRun reacts_react s stage run
  revert calm
  unfold resumeStage
  rcases hx : s.stepRun Session.react stage run with ⟨t, ⟨next, run'⟩ | ⟨run', fault⟩⟩ <;>
    rw [hx] at stepped
  · intro calm
    refine concluded_of_busy ?_
    cases stepped with
    | announced _ _ _ alters => exact (congrArg Face.compiling alters.face).trans busy
    | onward _ _ _ _ _ aside => exact (congrArg Face.compiling aside.face).trans busy
  · cases stepped with
    | ended _ _ f ms last closing ending alters alike _ _ =>
      obtain ⟨-, compiling, -⟩ := ending.frame alters
      cases faults : closing.fault.or last with
      | some e =>
        intro calm
        exact absurd List.mem_cons_self (calm.unbroken run'.generation run'.outcome e)
      | none =>
        obtain rfl : last = none := (Option.or_eq_none_iff.1 faults).2
        have followed := followed_nextRun after (t.mark (.ended run'.generation run'.outcome))
        refine concluded_of_followed followed (compiling.trans busy) fun calm => ?_
        -- no stop was noted after the run, so none was before
        have before := alters.stops_le
        have none : t.core.stops = 0 := stops_of_calm calm
        have stops : t.core.stops = s.core.stops := by omega
        obtain ⟨shown, isSome⟩ := ending.outcome_shown alters alive stops
        exact ⟨shown.symm, isSome⟩

/-- One move leaves the outcome of the last run shown. -/
theorem concluded_of_turn (sound : s.core.Sound) (recorded : s.core.Recorded)
    (concluded : s.core.Concluded) (turn : Turn P s t) (calm : Undisturbed t.history) :
    t.core.Concluded := by
  cases turn with
  | acted a _ eq =>
    rw [eq]
    exact concluded.aside (aside_nudges (nudges_act reacts_react (admits_all s) trivial))
  | kept eq => exact eq ▸ concluded
  | called c _ eq =>
    rw [eq]
    exact concluded
  | fired id _ eq =>
    rw [eq]
    exact concluded
  | resumed u at_ lasting front popped eq =>
    have before : u.core.Concluded := by
      rw [popped]
      exact concluded
    have calm' : Undisturbed (u.resume Session.react at_).1.history := by
      have history : t.history = (u.resume Session.react at_).1.history :=
        congrArg Core.history eq
      exact history ▸ calm
    have after : (u.resume Session.react at_).1.core.Concluded := by
      rcases led_or_staging (fun _ => True) lasting with ⟨-, led⟩ | ⟨stage, run, next, rfl⟩
      · exact concluded_of_led led before calm'
      · obtain ⟨-, -, busy⟩ := sound.pop front rfl
        have same : u.state = s.state := congrArg Core.state popped
        have alive : s.state.alive = true := recorded.alive busy
        exact concluded_resumeStage next ((congrArg State.compiling same).trans busy)
          ((congrArg State.alive same).trans alive) calm'
    rw [eq]
    exact after

/-! ### All moves -/

/-- **The account is in order after all moves, and the outcome of the last run is shown**, unless
the session was stopped or a run did not return. -/
theorem recorded_moves (o : Opening) (ms : List Move)
    (calm : Undisturbed (o.session.moves ms).history) :
    (o.session.moves ms).core.Recorded ∧ (o.session.moves ms).core.Concluded := by
  refine (moves_induction (fun s => s.core.Sound ∧
    (Undisturbed s.history → s.core.Recorded ∧ s.core.Concluded)) ⟨sound_session o, ?_⟩ ?_).2 calm
  · intro _
    exact ⟨⟨.new, nofun⟩, fun _ g outcome last => by cases last⟩
  · rintro m - s ⟨sound, ih⟩
    have turn := turn_any s m
    refine ⟨sound_of_turn sound turn, fun calm => ?_⟩
    have records := records_of_turn sound turn
    obtain ⟨recorded, concluded⟩ := ih (calm.before records.later)
    exact ⟨records.keeps calm recorded, concluded_of_turn sound recorded concluded turn calm⟩

/-- What becomes of a request: it is run once, gave way to a later one, or waits. -/
inductive Fate (s : Session Action) (n : Nat) : Prop where
  | run (once : (begun s.history).count n = 1)
      (kept : ∀ later, .superseded n later ∉ s.history)
      (gone : ∀ t, s.pending = some t → t.number ≠ n)
  | superseded (later : Nat) (lt : n < later) (accepted : later < s.accepted)
      (noted : .superseded n later ∈ s.history) (never : (begun s.history).count n = 0)
      (gone : ∀ t, s.pending = some t → t.number ≠ n)
  | waits (t : Ticket) (pending : s.pending = some t) (number : t.number = n)
      (never : (begun s.history).count n = 0) (kept : ∀ later, .superseded n later ∉ s.history)

theorem fate_of_recorded {s : Session Action} (recorded : s.core.Recorded) {n : Nat}
    (hn : n < s.accepted) : Fate s n := by
  have ledger : Ledger s.history s.accepted s.pending s.core.active := recorded.ledger
  obtain ⟨order, -, next⟩ := ledger.rising
  have nodup : (begun s.history).Nodup := order.imp Nat.ne_of_gt
  rcases ledger.fate hn with ran | ⟨later, gave⟩ | ⟨t, pending, rfl⟩
  · refine .run (List.count_eq_one_of_mem nodup ran) (fun later gave => ?_) fun t pending same => ?_
    · exact (ledger.superseded gave).2.2.1 ran
    · exact Nat.lt_irrefl n (same ▸ (next t pending).2 n ran)
  · obtain ⟨lt, bound, never, gone⟩ := ledger.superseded gave
    exact .superseded later lt bound gave (List.count_eq_zero.2 never) gone
  · refine .waits t pending rfl (List.count_eq_zero.2 fun ran => ?_) fun later gave => ?_
    · exact Nat.lt_irrefl _ ((next t pending).2 _ ran)
    · exact (ledger.superseded gave).2.2.2 t pending rfl

/-- **Requests are run one after the other.** In a session that was never stopped and whose runs all
returned: runs do not overlap; every accepted request is run exactly once, gave way to a later one
or waits; requests are run in the order in which they were accepted; one waits only while the
session compiles; and when it compiles no more, the last run was that of the last accepted request,
and its outcome is shown. -/
theorem runs_in_turn (o : Opening) (ms : List Move)
    (calm : Undisturbed (o.session.moves ms).history) :
    let s := o.session.moves ms
    (Sequential s.history ∧ s.inPipeline.length = if s.state.compiling then 1 else 0) ∧
      (∀ n < s.accepted, Fate s n) ∧
      (acceptedNumbers s.history = (List.range s.accepted).reverse ∧
        (begun s.history).Pairwise (· > ·) ∧
        ∀ n g r, .began n g r ∈ s.history → .accepted n r ∈ s.history) ∧
      (s.pending.isSome = true → s.state.compiling = true) ∧
      (s.state.compiling = false → 0 < s.accepted →
        ∃ t g, latestRun? s.history = some (t, g) ∧ t.number + 1 = s.accepted ∧
          latestEnd? s.history = some (g, s.state.outcome) ∧ s.state.outcome.isSome = true) := by
  intro s
  obtain ⟨recorded, concluded⟩ := recorded_moves o ms calm
  have sound : s.core.Sound := sound_moves o ms
  have ledger : Ledger s.history s.accepted s.pending s.core.active := recorded.ledger
  refine ⟨⟨ledger.sequential, ?_⟩, fun n hn => fate_of_recorded recorded hn,
    ⟨ledger.numbered, ledger.rising.1, ledger.accepted.2⟩, fun waits => ?_, fun idle some => ?_⟩
  · cases compiling : s.state.compiling with
    | true =>
      obtain ⟨stage, run, stages, -⟩ := sound.busy compiling
      exact congrArg List.length stages
    | false => exact congrArg List.length (sound.idle compiling)
  · cases compiling : s.state.compiling with
    | true => rfl
    | false =>
      have none : s.pending = none := recorded.pending_none compiling
      rw [none] at waits
      cases waits
  · have active : s.core.active = none := if_neg (by simp [Session.core, idle])
    obtain ⟨t, g, outcome, run, number, last⟩ := ledger.latest_closed active some
    obtain ⟨rfl, isSome⟩ := concluded idle g outcome last
    exact ⟨t, g, run, number, last, isSome⟩

/-- Two requests come in during the first run; the former gives way to the latter. -/
def crowdedMoves : List Move :=
  [.call .start] ++ smallTicks 1 ++ [.call (.compile none), .call (.compile none)] ++ smallTicks 10

theorem runs_in_turn_crowded :
    let s := plainOpening.session.moves crowdedMoves
    Undisturbed s.history ∧ (∀ n < 3, Fate s n) ∧ begun s.history = [2, 0] ∧
      ∃ t g, latestRun? s.history = some (t, g) ∧ t.number + 1 = 3 ∧
        latestEnd? s.history = some (g, s.state.outcome) ∧ s.state.outcome.isSome = true := by
  have calm : Undisturbed (plainOpening.session.moves crowdedMoves).history := by
    unfold Undisturbed
    decide +kernel
  have accepted : (plainOpening.session.moves crowdedMoves).accepted = 3 := by decide +kernel
  have idle : (plainOpening.session.moves crowdedMoves).state.compiling = false := by
    decide +kernel
  obtain ⟨-, fates, -, -, last⟩ := runs_in_turn plainOpening crowdedMoves calm
  rw [accepted] at fates last
  exact ⟨calm, fates, by decide +kernel, last idle (by decide)⟩

end Session

end Playground
