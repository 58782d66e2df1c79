import Playground.Http.Response
import Playground.Proofs.Commitments

/-!
# Rejected requests

A request that asks for nothing sensible, or for what cannot be done, is rejected. Its coroutine
waits for its turn all the same, and everybody else goes on meanwhile; but when it has its turn,
everything stays as it is.

* `Http.rejections` — the statuses of rejected requests.
* `Http.Check.call` — the call that a server makes for a request, whatever checks it.
* `Session.Served` — the sessions that a server can have.
* `Meanwhile` — what goes on while a request waits, and when it makes nothing of its turn.
* `Intact`, `Committed`, `intact_or_committed` — a served call has changed nothing, or it is not
  refused.
* `after_of_refused`, `inTurn_of_kept` — requests that are answered at the end of a call, and those
  that take no time.
* `after_of_settled`, `inTurn_of_settled` — the same where nothing else is to be done.
* `rejected_without_effect` — a rejected request has no effect.
-/

namespace Playground

open Playground.Clock

/-- What a server calls for a request; one that takes no time only waits for its turn. -/
def Http.Check.call (check : Http.Check) (r : Http.Request) : Call :=
  match check r with
  | .ok a => a.call?.getD .turn
  | .error _ => .turn

/-- Does a move call a coroutine and wait for its end? -/
def Move.isCall : Move → Bool
  | .call _ => true
  | _ => false

namespace Session

variable {s s₀ u : Session Action} {call : Call} {done : Option (Except Fault Value)}

/-! ### While a request waits -/

/-- What goes on while a request is answered that makes nothing of its turn. -/
inductive Meanwhile (s : Session Action) : Session Action → Prop where
  /-- A tick opens. -/
  | opens (h : s.loop.batch.isEmpty = true) : Meanwhile s (machine.openTick s)
  /-- The next callback is somebody else's. -/
  | other (h : ∀ at_ rest, ¬ s.CallerNext at_ rest) : Meanwhile s (machine.step s)
  /-- The coroutine of the request has its turn, leaves everything as it is and is over. -/
  | rests (at_ : Waiting) (rest : List (Entry Job)) (h : s.CallerNext at_ rest)
      (result : Except Fault Value) : Meanwhile s { s.pop rest with completed := some result }
  /-- The end of the coroutine is taken note of. -/
  | noted : Meanwhile s { s with completed := none }

/-- What a tick and a callback keep, the wait for the end of a call keeps. -/
theorem runToEnd_keeps {I : Session Action → Prop}
    (opens : ∀ u, u.loop.batch.isEmpty = true → I u → I (machine.openTick u))
    (steps : ∀ u, I u → I (machine.step u)) (fuel : Nat) (h : I u) : I (runToEnd fuel u) := by
  induction fuel generalizing u with
  | zero => exact h
  | succ fuel ih =>
    unfold runToEnd
    split
    · exact h
    · split
      next empty =>
        split
        · exact h
        · exact ih (opens u empty h)
      next => exact ih (steps u h)

/-- What a callback keeps, the rest of a tick keeps. -/
theorem drain_keeps {I : Session Action → Prop} (steps : ∀ u, I u → I (machine.step u)) (h : I u) :
    I (machine.drain u) := by
  have several (n : Nat) (v : Session Action) (h : I v) : I (machine.steps n v) := by
    induction n generalizing v with
    | zero => exact h
    | succ n ih => exact ih _ (steps v h)
  exact several _ u h

theorem Receives.nobody (h : s.Receives [] done) (at_ : Waiting) (rest : List (Entry Job)) :
    ¬ s.CallerNext at_ rest := fun next => by cases (h.callerNext next).1

/-- Where the coroutine of the request is over, the rest of the tick is everybody else's. -/
theorem drain_of_over (h : s.Receives [] done) :
    (machine.drain s).Receives [] done ∧ Relation.ReflTransGen Meanwhile s (machine.drain s) :=
  drain_keeps (I := fun v => v.Receives [] done ∧ Relation.ReflTransGen Meanwhile s v)
    (fun _ ⟨gone, since⟩ =>
      ⟨receives_step_of_other gone gone.nobody, since.tail (.other gone.nobody)⟩) ⟨h, .refl⟩

/-- Since `s₀` the request has changed nothing: its coroutine has not had its turn, or it made
nothing of it. -/
structure Intact (call : Call) (s₀ s : Session Action) : Prop where
  since : Relation.ReflTransGen Meanwhile s₀ s
  stands : s.Receives [.fresh call] none ∨ ∃ done, s.Receives [] done

/-- The call is under way, or it is over and not refused. -/
def Committed (call : Call) (s : Session Action) : Prop :=
  (∃ at_, s.Receives [at_] none ∧ at_.Commits call) ∨
    ∃ result, s.Receives [] (some result) ∧ call.refuses result = false

theorem intact_openTick (empty : s.loop.batch.isEmpty = true) (h : Intact call s₀ s) :
    Intact call s₀ (machine.openTick s) :=
  ⟨h.since.tail (.opens empty), h.stands.imp receives_openTick fun ⟨done, gone⟩ =>
    ⟨done, receives_openTick gone⟩⟩

theorem stepCoroutine_of_ends {result : Except Fault Value}
    (ends : u.begin call = (u, .ends result)) :
    u.stepCoroutine Session.react .caller (.fresh call) = { u with completed := some result } := by
  unfold stepCoroutine resume
  dsimp only
  rw [ends]
  rfl

/-- **While a request waits nothing is changed by it**, until its first step does not end the call
or does something. -/
theorem intact_step (h : Intact call s₀ s) :
    Intact call s₀ (machine.step s) ∨ ∃ u : Session Action, u.Receives [] none ∧
      machine.step s = u.stepCoroutine Session.react .caller (.fresh call) ∧
        ∀ result, u.begin call ≠ (u, .ends result) := by
  rcases callerNext_or_other s with ⟨at_, rest, next⟩ | other
  · rcases h.stands with waits | ⟨done, gone⟩
    · obtain ⟨rfl, popped⟩ := waits.only next
      have stepped := step_of_callerNext next
      by_cases ends : ∃ result, (s.pop rest).begin call = (s.pop rest, .ends result)
      · obtain ⟨result, ends⟩ := ends
        have rests := h.since.tail (.rests _ rest next result)
        rw [stepped, stepCoroutine_of_ends ends]
        exact .inl ⟨rests, .inr ⟨_, popped.tell _⟩⟩
      · exact .inr ⟨s.pop rest, popped, stepped, fun result eq => ends ⟨result, eq⟩⟩
    · exact absurd next (gone.nobody at_ rest)
  · exact .inl ⟨h.since.tail (.other other), h.stands.imp (receives_step_of_other · other)
      fun ⟨done, gone⟩ => ⟨done, receives_step_of_other gone other⟩⟩

theorem committed_openTick (h : Committed call s) : Committed call (machine.openTick s) :=
  h.imp (fun ⟨at_, waits, commits⟩ => ⟨at_, receives_openTick waits, commits⟩)
    fun ⟨result, gone, accepted⟩ => ⟨result, receives_openTick gone, accepted⟩

theorem committed_stepCoroutine {at_ : Waiting} (h : u.Receives [] none)
    (commits : (u.resume Session.react at_).2.Commits call) :
    Committed call (u.stepCoroutine Session.react .caller at_) := by
  have resumed := h.of_visit (visit_resume at_ u)
  unfold stepCoroutine
  rcases hx : u.resume Session.react at_ with ⟨t, next | _ | result⟩ <;> rw [hx] at resumed commits
  · exact .inl ⟨next, resumed.enqueue next, commits⟩
  · cases commits
  · exact .inr ⟨result, resumed.tell _, commits⟩

theorem committed_step (h : Committed call s) : Committed call (machine.step s) := by
  rcases callerNext_or_other s with ⟨at_, rest, next⟩ | other
  · rcases h with ⟨at', waits, commits⟩ | ⟨result, gone, -⟩
    · obtain ⟨rfl, popped⟩ := waits.only next
      rw [step_of_callerNext next]
      exact committed_stepCoroutine popped (commits_resume popped.probe commits)
    · exact absurd next (gone.nobody at_ rest)
  · exact h.imp
      (fun ⟨at_, waits, commits⟩ => ⟨at_, receives_step_of_other waits other, commits⟩)
      fun ⟨result, gone, accepted⟩ => ⟨result, receives_step_of_other gone other, accepted⟩

/-- **A served call changes nothing, or it is not refused.** -/
theorem intact_or_committed (served : call.isServed = true) (fuel : Nat)
    (h : Intact call s₀ s ∨ Committed call s) :
    Intact call s₀ (runToEnd fuel s) ∨ Committed call (runToEnd fuel s) := by
  refine runToEnd_keeps (I := fun u => Intact call s₀ u ∨ Committed call u)
    (fun _ empty h => h.imp (intact_openTick empty) committed_openTick) (fun u h => ?_) fuel h
  rcases h with intact | committed
  · rcases intact_step intact with intact | ⟨v, gone, stepped, busy⟩
    · exact .inl intact
    · rcases begin_served gone.probe served with ⟨result, ends⟩ | commits
      · exact absurd ends (busy result)
      · exact .inr (stepped ▸ committed_stepCoroutine gone commits)
  · exact .inr (committed_step committed)

/-- A request that only waits for its turn in the queue changes nothing. -/
theorem intact_turn (h : Intact .turn s₀ s) : Intact .turn s₀ (machine.step s) := by
  rcases intact_step h with intact | ⟨v, -, -, busy⟩
  · exact intact
  · exact absurd rfl (busy (.ok .null))

/-! ### Served sessions -/

/-- A session as a server has it. It waits for the end of one call at a time; whatever else is under
way are coroutines that were left to themselves, and those of the timer. -/
inductive Served : Session Action → Prop where
  | opened (o : Opening) (h : o.probe = .imports) : Served o.session
  | moved {s : Session Action} (h : Served s) (m : Move) (own : m.isCall = false) :
      Served (s.move m)
  | started {s : Session Action} (h : Served s)
      (ended : (s.await .startUp).atEnd.completed.isSome = true) :
      Served (s.await .startUp).after
  | answered {s : Session Action} (h : Served s) (check : Http.Check) (r : Http.Request)
      (ended : (s.await (check.call r)).atEnd.completed.isSome = true) :
      Served (Http.serve check r s).1

theorem forget_completed (h : s.completed = none) : { s with completed := none } = s := by
  rw [← h]

def arrive (call : Call) (s : Session Action) : Session Action :=
  s.enqueue (.resume .caller (.fresh call))

theorem intact_arrive (h : s.Receives [] none) (call : Call) :
    Intact call (s.arrive call) (s.arrive call) := ⟨.refl, .inl (h.enqueue _)⟩

theorem await_eq (h : s.Receives [] none) (call : Call) :
    (s.await call).atEnd = runToEnd patience (s.arrive call) := by
  unfold await
  dsimp only
  rw [forget_completed h.completed]
  rfl

theorem await_served (h : s.Receives [] none) (served : call.isServed = true) :
    Intact call (s.arrive call) (s.await call).atEnd ∨ Committed call (s.await call).atEnd := by
  rw [await_eq h]
  exact intact_or_committed served patience (.inl (intact_arrive h call))

/-- A call that has ended has left nothing behind in the name of the caller. -/
theorem over_of_completed (h : Intact call s₀ s ∨ Committed call s)
    (ended : s.completed.isSome = true) : ∃ done, s.Receives [] done := by
  rcases h with ⟨-, waits | gone⟩ | ⟨at_, waits, -⟩ | ⟨result, gone, -⟩
  · rw [waits.completed] at ended
    cases ended
  · exact gone
  · rw [waits.completed] at ended
    cases ended
  · exact ⟨_, gone⟩

end Session

namespace Http

open Session

variable {s u : Session Action}

/-- The statuses with which requests are rejected. -/
def rejections : List Nat := [400, 404, 405, 409, 422]

theorem isServed_call (check : Check) (r : Request) : (check.call r).isServed = true := by
  unfold Check.call
  split
  next a _ =>
    cases a with
    | compile mode =>
      rcases mode with _ | mode
      · rfl
      · cases mode <;> decide
    | _ => rfl
  next => rfl

theorem not_rejected_success (v : Value) : (success v).status ∉ rejections := by
  show 200 ∉ rejections
  decide

/-- A request that fails is rejected for the playground's own faults. -/
theorem own_of_rejected {f : Fault} (h : (failure f).status ∈ rejections) : f.isOwn = true := by
  unfold failure at h
  split at h
  · rfl
  · split at h
    next own => exact own
    next => exact absurd h (show 500 ∉ rejections by decide)

/-- The response to a call that has ended, well or not. -/
def responseTo (a : Ask) (result : Except Fault Value) (s : Session Action) : Response :=
  match result with
  | .ok v => respondToCall a v s
  | .error f => failure f

theorem respond_of_call {a : Ask} {call : Call} (asked : a.call? = some call)
    (s : Session Action) :
    respond a s =
      ((s.await call).after, responseTo a (s.await call).result (s.await call).atEnd) := by
  unfold respond responseTo
  rw [asked]
  dsimp only
  generalize (s.await call).result = result
  cases result <;> rfl

/-- A call whose request is rejected was refused. -/
theorem refused_of_rejected {a : Ask} {call : Call} (asked : a.call? = some call)
    {result : Except Fault Value} (h : (responseTo a result s).status ∈ rejections) :
    call.refuses result = true := by
  cases result with
  | error f => exact own_of_rejected h
  | ok v =>
    unfold responseTo respondToCall at h
    dsimp only at h
    split at h
    · cases asked
      rfl
    · exact absurd h (not_rejected_success _)
    · exact absurd h (not_rejected_success _)

/-- What scheduling raises is none of the playground's own faults. -/
theorem unowned_schedule {f : Fault} (raised : (u.schedule react).2 = some f) :
    f.isOwn = false := by
  unfold Session.schedule at raised
  dsimp only at raised
  split at raised
  next armed =>
    obtain rfl := Option.some.inj raised
    rw [fault_rearm (congrArg Prod.snd armed)]
    rfl
  next => exact Fault.unowned_of_foreign (foreign_of_tell raised)

theorem unowned_input {text : String} {f : Fault} (raised : (u.input react text).2 = .error f) :
    f.isOwn = false := by
  unfold Session.input at raised
  dsimp only at raised
  split at raised
  · cases raised
  · split at raised
    · split at raised
      · cases raised
      next hx =>
        cases raised
        exact unowned_schedule (congrArg Prod.snd hx)
    · cases raised

theorem unowned_setMode {mode : CompileMode} {f : Fault}
    (raised : (u.setMode react mode.name).2 = some f) : f.isOwn = false := by
  unfold Session.setMode at raised
  have good : CompileMode.ofName mode.name = .ok mode := by cases mode <;> rfl
  simp only [good] at raised
  split at raised
  · exact unowned_schedule raised
  · cases raised

/-- **A request that takes no time and is rejected leaves the session as it is.** -/
theorem respondNow_of_rejected {a : Ask} (h : (respondNow a u).2.status ∈ rejections) :
    (respondNow a u).1 = u := by
  cases a with
  | setSource text =>
    exfalso
    unfold respondNow perform act at h
    dsimp only at h
    rcases hx : u.input react text with ⟨t, f | b⟩ <;> rw [hx] at h
    · cases (own_of_rejected h).symm.trans (unowned_input (congrArg Prod.snd hx))
    · exact not_rejected_success _ h
  | setMode mode =>
    exfalso
    unfold respondNow perform act at h
    dsimp only at h
    rcases hx : u.setMode react mode.name with ⟨t, _ | f⟩ <;> rw [hx] at h
    · exact not_rejected_success _ h
    · cases (own_of_rejected h).symm.trans (unowned_setMode (congrArg Prod.snd hx))
  | dismiss key => exact absurd h (not_rejected_success _)
  | output type =>
    rcases type with _ | type
    · rfl
    · cases type <;> exact absurd h (not_rejected_success _)
  | artifact =>
    unfold respondNow
    dsimp only
    split <;> rfl
  | _ => rfl

theorem visit_respondNow (a : Ask) (u : Session Action) : (respondNow a u).1.visit = u.visit := by
  cases a with
  | setSource text =>
    have acted := visit_act (.input text) u
    unfold respondNow perform
    dsimp only
    split <;> next hx => rw [hx] at acted; exact acted
  | setMode mode =>
    have acted := visit_act (.setMode mode.name) u
    unfold respondNow perform
    dsimp only
    split <;> next hx => rw [hx] at acted; exact acted
  | output type =>
    rcases type with _ | type
    · rfl
    · cases type <;> rfl
  | artifact =>
    unfold respondNow
    dsimp only
    split <;> rfl
  | _ => rfl

/-- A request is answered at the end of a call, or at once when it has its turn. -/
theorem serve_cases (check : Check) (r : Request) (s : Session Action) :
    (∃ a, a.call? = some (check.call r) ∧ serve check r s = respond a s) ∨
      check.call r = .turn ∧ ∃ act : Session Action → Session Action × Response,
        serve check r s = s.inTurn act ∧ ∀ u, (act u).1.visit = u.visit ∧
          ((act u).2.status ∈ rejections → (act u).1 = u) := by
  unfold serve Check.call
  cases check r with
  | error why => exact .inr ⟨rfl, _, rfl, fun u => ⟨rfl, fun _ => rfl⟩⟩
  | ok a =>
    cases asked : a.call? with
    | some call => exact .inl ⟨a, by dsimp only; rw [asked]; rfl, rfl⟩
    | none =>
      refine .inr ⟨by dsimp only; rw [asked]; rfl, respondNow a, ?_, fun u =>
        ⟨visit_respondNow a u, respondNow_of_rejected⟩⟩
      dsimp only
      unfold respond
      rw [asked]

end Http

namespace Session

open Http

variable {s s₀ : Session Action} {call : Call} {done : Option (Except Fault Value)}

theorem Receives.reset (h : s.Receives [] done) :
    Receives [] none { s with completed := none } := h.tell none

/-- **Whenever a request comes in, nobody waits for the end of an earlier call.** -/
theorem Served.receives (h : s.Served) : s.Receives [] none := by
  induction h with
  | opened o judged => exact ⟨rfl, rfl, nofun, judged⟩
  | moved _ m own ih =>
    cases m with
    | act a => exact ih.of_visit (visit_act a _)
    | call c => cases own
    | step => exact receives_step_of_other ih ih.nobody
    | openTick => exact receives_openTick ih
    | setTime now => exact ih.of_visit rfl
    | relog log => exact ih.of_visit rfl
  | started _ ended ih =>
    obtain ⟨done, gone⟩ := over_of_completed (await_served ih rfl) ended
    exact (drain_of_over gone).1.reset
  | @answered s _ check r ended ih =>
    obtain ⟨done, gone⟩ := over_of_completed (await_served ih (isServed_call check r)) ended
    rcases serve_cases check r s with ⟨a, asked, eq⟩ | ⟨turn, act, eq, kept⟩
    · rw [eq, respond_of_call asked]
      exact (drain_of_over gone).1.reset
    · rw [turn] at gone
      rw [eq]
      exact (drain_of_over (gone.reset.of_visit (kept _).1)).1

/-- A call that has committed itself is not refused, be it over or not. -/
theorem Committed.accepted (h : Committed call s) :
    call.refuses (s.completed.getD (.ok .null)) = false := by
  rcases h with ⟨at_, waits, -⟩ | ⟨result, gone, accepted⟩
  · rw [waits.completed]
    rfl
  · rw [gone.completed]
    exact accepted

/-- **A call that is refused has changed nothing.** -/
theorem after_of_refused (free : s.Receives [] none) (served : call.isServed = true)
    (refused : call.refuses (s.await call).result = true) :
    Relation.ReflTransGen Meanwhile (s.arrive call) (s.await call).after := by
  rcases await_served free served with ⟨since, waits | ⟨done, gone⟩⟩ | committed
  · have unended : (s.await call).result = .ok .null := by
      show (s.await call).atEnd.completed.getD (.ok .null) = _
      rw [waits.completed]
      rfl
    rw [unended] at refused
    cases refused
  · exact (since.trans (drain_of_over gone).2).tail .noted
  · cases committed.accepted.symm.trans refused

/-- **Nor has a request that only waited for its turn and made nothing of it.** -/
theorem inTurn_of_kept {β : Type} (free : s.Receives [] none)
    {act : Session Action → Session Action × β}
    (kept : (act { (s.await .turn).atEnd with completed := none }).1 =
      { (s.await .turn).atEnd with completed := none }) :
    Relation.ReflTransGen Meanwhile (s.arrive .turn) (s.inTurn act).1 := by
  have waited : Intact .turn (s.arrive .turn) (s.await .turn).atEnd := by
    rw [await_eq free]
    exact runToEnd_keeps (I := Intact .turn (s.arrive .turn)) (fun _ => intact_openTick)
      (fun _ => intact_turn) patience (intact_arrive free .turn)
  have reset : Intact .turn (s.arrive .turn) { (s.await .turn).atEnd with completed := none } :=
    ⟨waited.since.tail .noted, waited.stands.imp (·.tell none) fun ⟨_, gone⟩ =>
      ⟨_, gone.tell none⟩⟩
  show Relation.ReflTransGen Meanwhile _ (machine.drain (act _).1)
  rw [kept]
  exact (drain_keeps (I := Intact .turn (s.arrive .turn)) (fun _ => intact_turn) reset).since

/-! ### Sessions at rest -/

theorem drain_of_settled (h : s.loop.isSettled = true) : machine.drain s = s := by
  have batch : s.loop.batch = [] := by simp_all [Loop.isSettled]
  unfold Machine.drain
  rw [show (machine.loop s).batch = [] from batch]
  rfl

/-- In a session that has nothing to do, the caller has his turn in the next tick. -/
theorem opens_of_settled (h : s.loop.isSettled = true) (at_ : Waiting) :
    (machine.openTick (s.enqueue (.resume .caller at_))).CallerNext at_ [] ∧
      (machine.openTick (s.enqueue (.resume .caller at_))).pop [] = s := by
  obtain ⟨⟨batch, queue⟩, later⟩ :
      (s.loop.batch = [] ∧ s.loop.queue = []) ∧ ∀ t ∈ s.loop.timers, s.loop.now < t.due := by
    simpa [Loop.isSettled, Loop.isDue] using h
  have opened : (s.enqueue (.resume .caller at_)).loop.openTick =
      { s.loop with batch := [.job (.resume .caller at_)] } := by
    have none : s.loop.timers.filter (fun t => decide (t.due ≤ s.loop.now)) = [] := by
      simpa using later
    have all : s.loop.timers.filter (fun t => !decide (t.due ≤ s.loop.now)) = s.loop.timers := by
      simpa using later
    show Loop.mk s.loop.now
      (s.loop.batch ++ (s.loop.queue ++ [.job (.resume .caller at_)]) ++
        (s.loop.timers.filter fun t => decide (t.due ≤ s.loop.now)).map fun t => .timer t.id)
      [] (s.loop.timers.filter fun t => !decide (t.due ≤ s.loop.now)) s.loop.nextTimer = _
    simp only [none, all, batch, queue, List.nil_append, List.map_nil, List.append_nil]
  have emptied : ({ s.loop with batch := [] } : Loop Job) = s.loop := by rw [← batch]
  refine ⟨congrArg Loop.batch opened, ?_⟩
  show { s with loop := { (s.enqueue (.resume .caller at_)).loop.openTick with batch := [] } } = s
  rw [opened, emptied]

theorem runToEnd_of_settled (h : s.loop.isSettled = true) (free : s.completed = none)
    (at_ : Waiting) (fuel : Nat) :
    runToEnd (fuel + 2) (s.enqueue (.resume .caller at_)) =
      runToEnd fuel (s.stepCoroutine Session.react .caller at_) := by
  obtain ⟨next, rest⟩ := opens_of_settled h at_
  have stepped := step_of_callerNext next
  rw [rest] at stepped
  have batch : s.loop.batch = [] := by simp_all [Loop.isSettled]
  have waits : (s.enqueue (.resume .caller at_)).completed = none := free
  have closed : (s.enqueue (.resume .caller at_)).loop.batch = [] := batch
  have queued : (s.enqueue (.resume .caller at_)).loop.isSettled = false := by
    simp [enqueue, Loop.enqueue, Loop.isSettled]
  have opened : (machine.openTick (s.enqueue (.resume .caller at_))).completed = none := free
  have busy : (machine.openTick (s.enqueue (.resume .caller at_))).loop.batch.isEmpty = false := by
    rw [show (machine.openTick (s.enqueue (.resume .caller at_))).loop.batch = _ from next]
    rfl
  rw [runToEnd, runToEnd]
  simp only [waits, closed, queued, opened, busy, stepped, Option.isSome_none, List.isEmpty_nil,
    Bool.false_eq_true, if_false, if_true]

/-- In a session at rest, a call whose first step is its last is over at once. -/
theorem await_of_ends (h : s.loop.isSettled = true) (free : s.Receives [] none)
    {result : Except Fault Value} (ends : s.begin call = (s, .ends result)) :
    (s.await call).atEnd = { s with completed := some result } := by
  rw [await_eq free, arrive, show patience = 99998 + 2 from rfl,
    runToEnd_of_settled h free.completed, stepCoroutine_of_ends ends]
  rfl

/-- A call that is refused leaves a session at rest as it is. -/
theorem after_of_settled (h : s.loop.isSettled = true) (free : s.Receives [] none)
    (served : call.isServed = true) (refused : call.refuses (s.await call).result = true) :
    (s.await call).after = s := by
  rcases begin_served free.probe served with ⟨result, ends⟩ | commits
  · show { machine.drain (s.await call).atEnd with completed := none } = s
    have gone : ({ s with completed := some result } : Session Action).loop.isSettled = true := h
    rw [await_of_ends h free ends, drain_of_settled gone]
    exact forget_completed free.completed
  · have committed : Committed call (s.await call).atEnd := by
      rw [await_eq free, arrive, show patience = 99998 + 2 from rfl,
        runToEnd_of_settled h free.completed]
      exact runToEnd_keeps (I := Committed call) (fun _ _ => committed_openTick)
        (fun _ => committed_step) _ (committed_stepCoroutine free commits)
    cases committed.accepted.symm.trans refused

theorem inTurn_of_settled {β : Type} (h : s.loop.isSettled = true) (free : s.Receives [] none)
    {act : Session Action → Session Action × β}
    (kept : (act { (s.await .turn).atEnd with completed := none }).1 =
      { (s.await .turn).atEnd with completed := none }) : (s.inTurn act).1 = s := by
  have turned : { (s.await .turn).atEnd with completed := none } = s := by
    have ends : s.begin .turn = (s, .ends (.ok .null)) := rfl
    rw [await_of_ends h free ends]
    exact forget_completed free.completed
  show machine.drain (act _).1 = s
  rw [kept, turned, drain_of_settled h]

/-- **A rejected request has no effect.** Whatever becomes of a served session while a request is
answered that is rejected, it is done by others: the request only waits for its turn, and when it
has its turn, everything stays as it is. A session that has nothing else to do is the same
afterwards. Nothing depends on what checks the requests. -/
theorem rejected_without_effect (served : s.Served) (check : Check) (r : Http.Request)
    (rejected : (serve check r s).2.status ∈ rejections) :
    Relation.ReflTransGen Meanwhile (s.arrive (check.call r)) (serve check r s).1 ∧
      (s.loop.isSettled = true → (serve check r s).1 = s) := by
  have free := served.receives
  rcases serve_cases check r s with ⟨a, asked, eq⟩ | ⟨turn, act, eq, quiet⟩
  · rw [eq, respond_of_call asked] at rejected ⊢
    have refused := refused_of_rejected asked rejected
    exact ⟨after_of_refused free (isServed_call check r) refused, fun settled =>
      after_of_settled settled free (isServed_call check r) refused⟩
  · rw [eq] at rejected ⊢
    rw [turn]
    have kept := (quiet { (s.await .turn).atEnd with completed := none }).2 rejected
    exact ⟨inTurn_of_kept free kept, fun settled => inTurn_of_settled settled free kept⟩

def servedOpening : Opening := { plainOpening with probe := .imports }

/-- The session is started and has compiled, and the text is edited. -/
def editedSession : Session Action :=
  (servedOpening.session.await .startUp).after.move (.act (.input "y"))

/-- A request to set an option that there is none of. -/
def strayRequest : Http.Request :=
  { method := "PUT", path := "/api/settings/sound", body := some "\x7b\"value\": true\x7d" }

theorem rejected_without_effect_stray :
    editedSession.Served ∧ editedSession.armed = some 0 ∧
      (serve Request.ask strayRequest editedSession).2.status = 400 ∧
        (serve Request.ask strayRequest editedSession).1 = editedSession := by
  have served : editedSession.Served :=
    .moved (.started (.opened servedOpening rfl) (by decide +kernel)) _ rfl
  have status : (serve Request.ask strayRequest editedSession).2.status = 400 := by decide +kernel
  have rejected : (serve Request.ask strayRequest editedSession).2.status ∈ rejections := by
    rw [status]
    decide
  exact ⟨served, by decide +kernel, status,
    (rejected_without_effect served Request.ask strayRequest rejected).2 (by decide +kernel)⟩

end Session

end Playground
