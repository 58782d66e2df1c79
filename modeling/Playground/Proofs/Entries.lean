import Playground.Proofs.Face

/-!
# The ways into the pipeline

How requests get into the pipeline, and what becomes of the core when they do.

* `Opened`, `opened_openRun` — a run is opened, or its request cannot be finalized.
* `Entered`, `entered_enterCompile` — a request is ignored, parked or run.
* `Followed`, `followed_nextRun` — after a run, the parked request is run or the session rests.
* `Core.unbooked` — all of this only changes the account of the requests.
* `Booking`, `bookings_enterCompile`, `bookings_nextRun` — the small changes that it is made of.
* `keeps_resumeStage`, `keeps_resume` — what is kept by small changes is kept by all steps of
  coroutines.
-/

namespace Playground

namespace Core

def begin (ticket : Ticket) (c : Core) : Core :=
  { c with
    state := { c.state with generation := c.state.generation + 1 }
    history := .began ticket.number (c.state.generation + 1) ticket.request :: c.history }

/-- The core after a run that failed to report. -/
def breakOff (generation : Nat) (outcome : Option Outcome) (f : Fault) (c : Core) : Core :=
  { c with
    state := { c.state with compiling := false }
    history := .broke generation outcome f :: c.history }

/-- The core of a session that compiles no more. -/
def rest (c : Core) : Core := { c with state := { c.state with compiling := false } }

def accept (request : Request) (c : Core) : Core :=
  { c with accepted := c.accepted + 1, history := .accepted c.accepted request :: c.history }

def park (ticket : Ticket) (c : Core) : Core :=
  { c with
    pending := some ticket
    history := (c.pending.toList.map fun t => .superseded t.number ticket.number) ++ c.history }

/-- The core without the account of the requests and the runs. -/
def unbooked (c : Core) : Core :=
  { c with
    state := { c.state with generation := 0, compiling := false }
    pending := none, accepted := 0, history := [] }

end Core

/-- How the run of a request is opened. -/
inductive Opened (ticket : Ticket) (s : Session Action) (r : Session Action × Session.Progress) :
    Prop where
  | begins (final : Request) (after : After) (h : ticket.request.finalize s.probe = .ok final)
      (core : r.1.core = s.core.begin ticket)
      (next : r.2 = .waits (.staging .announce
        { request := final, generation := s.state.generation + 1 } after))
  | breaks (f : Fault) (h : ticket.request.finalize s.probe = .error f)
      (core : r.1.core = (s.core.begin ticket).breakOff (s.state.generation + 1) none f)
      (next : r.2.waiting? = none)

/-- A run that does not break off at once waits for its first stage. -/
theorem Opened.begun {ticket : Ticket} {s : Session Action}
    {r : Session Action × Session.Progress} (h : Opened ticket s r)
    (returns : ∀ g outcome f, .broke g outcome f ∉ r.1.history) :
    r.1.core = s.core.begin ticket ∧
      ∃ run after, r.2 = .waits (.staging .announce run after) := by
  cases h with
  | begins final after _ core next => exact ⟨core, _, after, next⟩
  | breaks f _ core next =>
    have broke : Milestone.broke (s.state.generation + 1) none f ∈ r.1.history := by
      rw [show r.1.history = _ from congrArg Core.history core]
      exact List.mem_cons_self
    exact absurd broke (returns _ _ _)

/-- What becomes of a request. -/
inductive Entered (draft : Option Draft) (s : Session Action)
    (r : Session Action × Session.Progress) : Prop where
  | ignored (h : s.state.alive = false ∨ s.state.ready = false) (core : r.1.core = s.core)
      (next : r.2.waiting? = none)
  | parked (alive : s.state.alive = true) (ready : s.state.ready = true)
      (busy : s.state.compiling = true)
      (core : r.1.core =
        (s.core.accept (s.requestOf draft)).park ⟨s.accepted, s.requestOf draft⟩)
      (next : r.2.waiting? = none)
  | opened (alive : s.state.alive = true) (ready : s.state.ready = true)
      (idle : s.state.compiling = false) (u : Session Action)
      (core : u.core = { s.core.accept (s.requestOf draft) with
        state := { s.state with compiling := true } })
      (opens : Opened ⟨s.accepted, s.requestOf draft⟩ u r)

/-- What follows a run. -/
inductive Followed (s : Session Action) (r : Session Action × Session.Progress) : Prop where
  | rests (h : s.pending = none ∨ s.state.alive = false)
      (core : r.1.core = { s.core.rest with pending := none }) (next : r.2.waiting? = none)
  | opened (ticket : Ticket) (parked : s.pending = some ticket) (alive : s.state.alive = true)
      (u : Session Action) (core : u.core = { s.core with pending := none })
      (opens : Opened ticket u r)

/-- One small change of the account of the requests and the runs. -/
inductive Booking : Session Action → Session Action → Prop where
  | mark (s : Session Action) (m : Milestone) : Booking s (s.mark m)
  | write (s : Session Action) (level : Log.Level) (logger message : String) :
      Booking s (s.write level logger message)
  | count (s : Session Action) (compiling : Bool) (generation : Nat) :
      Booking s (s.modifyState fun st => { st with
        compiling := compiling, generation := generation })
  | accept (s : Session Action) (n : Nat) : Booking s { s with accepted := n }
  /-- Only a session that is alive lets a request wait. -/
  | park (s : Session Action) (alive : s.state.alive = true) (ticket : Ticket) :
      Booking s { s with pending := some ticket }
  | unpark (s : Session Action) : Booking s { s with pending := none }

abbrev Bookings := Relation.ReflTransGen Booking

theorem Bookings.keeps {I : Session Action → Prop} {s t : Session Action} (h : Bookings s t)
    (small : ∀ {u v}, Booking u v → I u → I v) (first : I s) : I t := by
  induction h with
  | refl => exact first
  | tail _ step ih => exact small step ih

namespace Session

theorem opened_openRun (ticket : Ticket) (after : After) (s : Session Action) :
    Opened ticket s (s.openRun ticket after) := by
  unfold openRun beginRun
  simp only
  cases h : ticket.request.finalize s.probe with
  | error f =>
    have h' : ticket.request.finalize ((s.mark (.began ticket.number (s.state.generation + 1)
        ticket.request)).modifyState fun st =>
          { st with generation := st.generation + 1 }).probe = .error f := h
    rw [h']
    exact .breaks f h rfl rfl
  | ok final =>
    have h' : ticket.request.finalize ((s.mark (.began ticket.number (s.state.generation + 1)
        ticket.request)).modifyState fun st =>
          { st with generation := st.generation + 1 }).probe = .ok final := h
    rw [h']
    simp only
    split <;> exact .begins final after h rfl rfl

theorem core_park (ticket : Ticket) (s : Session Action) :
    (s.park ticket).core = s.core.park ticket := by
  unfold park Core.park
  cases h : s.pending <;> simp [core, h, mark, write, waiting]

theorem entered_enterCompile (draft : Option Draft) (after : After) (s : Session Action) :
    Entered draft s (s.enterCompile draft after) := by
  unfold enterCompile
  by_cases due : (s.state.alive && s.state.ready) = true
  · rw [if_pos due]
    obtain ⟨alive, ready⟩ := Bool.and_eq_true_iff.1 due
    cases compiling : s.state.compiling with
    | true =>
      have busy : (s.accept (s.requestOf draft)).1.state.compiling = true := compiling
      simp only [busy, if_true]
      exact .parked alive ready compiling (core_park _ _) rfl
    | false =>
      have idle : (s.accept (s.requestOf draft)).1.state.compiling = false := compiling
      simp only [idle, Bool.false_eq_true, if_false]
      exact .opened alive ready compiling _ rfl (opened_openRun _ after _)
  · rw [if_neg due]
    refine .ignored ?_ rfl rfl
    cases alive : s.state.alive with
    | false => exact .inl rfl
    | true => exact .inr (by simpa [alive] using due)

theorem followed_nextRun (after : After) (s : Session Action) : Followed s (s.nextRun after) := by
  unfold nextRun
  cases h : s.pending with
  | none =>
    have same : s.core = { s.core with pending := none } :=
      congrArg (fun p => ({ s.core with pending := p } : Core)) h
    exact .rests (.inl h) (congrArg Core.rest same) rfl
  | some ticket =>
    simp only
    by_cases alive : s.state.alive = true
    · rw [if_pos alive]
      exact .opened ticket h alive _ rfl (opened_openRun ticket after _)
    · rw [if_neg alive]
      exact .rests (.inr (by simpa using alive)) rfl rfl

/-! ### What the account leaves alone -/

/-- The account says nothing of compilers and listeners. -/
theorem Admits.unbooked {P : Action → Prop} {s t : Session Action} (hs : s.Admits P)
    (same : t.core.unbooked = s.core.unbooked) : t.Admits P :=
  hs.of_eq (congrArg Core.listeners same) (congrArg Core.compilers same)

theorem unbooked_of_bookings {s t : Session Action} (h : Bookings s t) :
    t.core.unbooked = s.core.unbooked := by
  induction h with
  | refl => rfl
  | tail _ step ih => exact Eq.trans (by cases step <;> rfl) ih

/-- The account takes no step of the course back. -/
theorem later_bookings {s t : Session Action} (h : Bookings s t) : s.history <:+ t.history := by
  induction h with
  | refl => exact List.suffix_refl _
  | tail _ step ih =>
    refine ih.trans ?_
    cases step with
    | mark => exact List.suffix_cons _ _
    | _ => exact List.suffix_refl _

theorem Admits.booking {P : Action → Prop} {s t : Session Action} (hs : s.Admits P)
    (h : Booking s t) : t.Admits P := by
  cases h <;> exact hs.of_eq rfl rfl

/-! ### Step by step -/

theorem bookings_leaveFailed (generation : Nat) (outcome : Option Outcome) (f : Fault)
    (s : Session Action) : Bookings s (s.leaveFailed generation outcome f).1 :=
  (Relation.ReflTransGen.single (.mark s _)).tail (.count _ false s.state.generation)

theorem bookings_openRun (ticket : Ticket) (after : After) (s : Session Action) :
    Bookings s (s.openRun ticket after).1 := by
  have begun : Bookings s ((s.mark (.began ticket.number (s.state.generation + 1)
      ticket.request)).modifyState fun st => { st with generation := st.generation + 1 }) :=
    (Relation.ReflTransGen.single (.mark s _)).tail
      (.count _ s.state.compiling (s.state.generation + 1))
  unfold openRun beginRun
  simp only
  cases ticket.request.finalize _ with
  | error f => exact begun.trans (bookings_leaveFailed _ none f _)
  | ok final =>
    simp only
    split
    · exact begun.tail (.write _ _ _ _)
    · exact begun

theorem bookings_park {s : Session Action} (alive : s.state.alive = true) (ticket : Ticket) :
    Bookings s (s.park ticket) := by
  unfold park
  cases s.pending with
  | none => exact .single (.park s alive ticket)
  | some earlier =>
    let u := (s.mark (.superseded earlier.number ticket.number)).write .debug sessionLogger
      "pending compile request superseded"
    have superseded : Bookings s u :=
      (Relation.ReflTransGen.single (.mark s _)).tail (.write _ _ _ _)
    exact superseded.tail (.park u alive ticket)

/-- **A request that comes in only changes the account.** -/
theorem bookings_enterCompile (draft : Option Draft) (after : After) (s : Session Action) :
    Bookings s (s.enterCompile draft after).1 := by
  have accepted : Bookings s (s.accept (s.requestOf draft)).1 :=
    (Relation.ReflTransGen.single (.accept s (s.accepted + 1))).tail (.mark _ _)
  unfold enterCompile
  split
  next due =>
    have alive := (Bool.and_eq_true_iff.1 due).1
    simp only
    split
    · exact accepted.trans (bookings_park (s := (s.accept (s.requestOf draft)).1) alive _)
    · have counted := accepted.tail (.count _ true s.state.generation)
      exact counted.trans (bookings_openRun _ after _)
  next => exact .single (.write s _ _ _)

/-- **What follows a run only changes the account.** -/
theorem bookings_nextRun (after : After) (s : Session Action) : Bookings s (s.nextRun after).1 := by
  have rests (u : Session Action) :
      Booking u (u.modifyState fun st => { st with compiling := false }) :=
    .count u false u.state.generation
  unfold nextRun
  split
  · exact .single (rests s)
  · have taken : Bookings s { s with pending := none } := .single (.unpark s)
    simp only
    split
    · exact taken.trans (bookings_openRun _ after _)
    · exact taken.tail (rests _)

/-- **After the step of a run only the account changes.** -/
theorem bookings_resumeStage (stage : Stage) (run : Run) (after : After) (s : Session Action) :
    Bookings (s.stepRun Session.react stage run).1
      (s.resumeStage Session.react stage run after).1 := by
  unfold resumeStage
  rcases s.stepRun Session.react stage run with ⟨t, ⟨next, run'⟩ | ⟨run', _ | f⟩⟩
  · exact .refl
  · have ended : Bookings t (t.mark (.ended run'.generation run'.outcome)) := .single (.mark t _)
    exact ended.trans (bookings_nextRun after _)
  · exact bookings_leaveFailed run'.generation run'.outcome f t

/-- **What small changes keep, and changes of the account too, is kept by each step in the
pipeline.** -/
theorem keeps_resumeStage {P : Action → Prop} {I : Session Action → Prop} {s : Session Action}
    (hs : s.Admits P) (h : I s) (booking : ∀ {u v}, Booking u v → I u → I v)
    (noted : ∀ {u} name text options, I u → I (u.note (.compiled name text options)))
    (work : ∀ {u v}, Work P u v → I u → I v) (stage : Stage) (run : Run) (after : After) :
    I (s.resumeStage Session.react stage run after).1 := by
  have stepped : I (s.stepRun Session.react stage run).1 :=
    (worked_stepRun reacts_react hs stage run).keeps h (fun _ => noted)
      (fun u _ _ => booking (.mark u _)) fun _ _ => work
  exact (bookings_resumeStage stage run after s).keeps booking stepped

/-- **What the steps that lead to a compile keep too is kept by each step of a coroutine.** -/
theorem keeps_resume {P : Action → Prop} {I : Session Action → Prop} {s : Session Action}
    (hs : s.Admits P) (h : I s) (lead : ∀ {u v}, Lead P u v → I u → I v)
    (booking : ∀ {u v}, Booking u v → I u → I v)
    (noted : ∀ {u} name text options, I u → I (u.note (.compiled name text options)))
    (work : ∀ {u v}, Work P u v → I u → I v) (at_ : Waiting) :
    I (s.resume Session.react at_).1 := by
  have led {t : Session Action} (leads : Leads P s t) : I t := by
    induction leads with
    | refl => exact h
    | tail _ step ih => exact lead step ih
  have going (lasting : at_.lasting? = some at_) : I (s.resume Session.react at_).1 := by
    rcases led_or_staging P lasting with ⟨-, leads⟩ | ⟨stage, run, after, rfl⟩
    · cases leads with
      | rests leads => exact led leads
      | loads leads => exact led leads
      | enters u draft after leads _ eq =>
        rw [eq]
        exact (bookings_enterCompile draft after u).keeps booking (led leads)
    · exact keeps_resumeStage hs h booking noted work stage run after
  cases at_ with
  | idle failure =>
    rw [(resume_idle_rests Session.react failure s).1]
    exact h
  | _ => exact going rfl

/-- Accepting a request and parking it is done from the side. -/
theorem aside_accept_park (c : Core) (request : Request) (ticket : Ticket) :
    Core.Aside c ((c.accept request).park ticket) := by
  have course (p : Milestone → Bool) (hp : ∀ n r, p (.accepted n r) = false)
      (hq : ∀ n m, p (.superseded n m) = false) :
      ((c.accept request).park ticket).history.filter p = c.history.filter p := by
    cases h : c.pending <;> simp [Core.accept, Core.park, h, hp, hq]
  refine .of_face ?_ rfl ?_ rfl
  · exact congrArg (fun course => ({ c.face with course := course } : Face))
      (course Milestone.ofRun (fun _ _ => rfl) fun _ _ => rfl)
  · have stops := congrArg List.length
      (course Milestone.isStop (fun _ _ => rfl) fun _ _ => rfl)
    rwa [← List.countP_eq_length_filter, ← List.countP_eq_length_filter] at stops

end Session

end Playground
