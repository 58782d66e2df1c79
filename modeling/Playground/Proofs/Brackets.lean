import Playground.Proofs.Paces

/-!
# Events and the busy mark bracket every compile

A run publishes its start when it is announced and its end when it is closed, and what it pushes in
between counts from one. Only one run is in the pipeline at a time, so the events of all runs follow
one another in blocks, and the busy mark is set as often as it was taken back, and once more while a
run is under way.

* `eventsOf` — the events that a session published.
* `Bracketed`, `Cycles` — the events of one run, and those of all runs up to a number.
* `Core.Tells` — the invariant: the events of all runs that are over, and the start of the one that
  is not.
* `Core.Marked` — the invariant of the busy mark.
* `compiles_bracketed` — what both say of a session.
* `mark_left_unreleased` — the busy mark stays where a module cannot be released.
-/

namespace Playground

open Playground.Core

/-! ### Events -/

def Milestone.event? : Milestone → Option (String × Payload)
  | .published event data =>
    if event = compileStarted ∨ event = notificationPushed ∨ event = compileFinished then
      some (event, data)
    else none
  | _ => none

/-- The events of compiles that were published, earliest first. -/
def eventsOf (ms : List Milestone) : List (String × Payload) :=
  (ms.filterMap Milestone.event?).reverse

/-- The event that a notification was pushed. -/
def Notification.event (n : Notification) : String × Payload := (notificationPushed, n.toRecord)

/-- The events of one run: its start, the notifications with their keys counting from one, and its
end. -/
inductive Bracketed (g : Nat) : List (String × Payload) → Prop where
  | block (first last : Run) (ns : List Notification) (errorCount : Int)
      (opens : first.generation = g) (closes : last.generation = g) (numbered : Numbered 0 ns) :
      Bracketed g ((compileStarted, Session.startedData first) ::
        (ns.map Notification.event ++
          [(compileFinished, Session.finishedData last errorCount)]))

/-- The events of all runs up to a number, one run after the other. -/
inductive Cycles : Nat → List (String × Payload) → Prop where
  | none : Cycles 0 []
  | next {n : Nat} {es bs : List (String × Payload)} (h : Cycles n es)
      (block : Bracketed (n + 1) bs) : Cycles (n + 1) (es ++ bs)

/-- Events are deeds. -/
theorem Milestone.event?_of_deed (m : Milestone) (h : m.isDeed = false) : m.event? = none := by
  cases m with
  | published event data =>
    obtain rfl : event = compileScheduled := by simpa [Milestone.isDeed] using h
    rfl
  | _ => rfl

theorem Core.Does.events {ds : List Milestone} {ns : List Notification} {c d : Core}
    (h : Does ds ns c d) :
    eventsOf d.history = eventsOf c.history ++ ds.filterMap Milestone.event? := by
  unfold eventsOf
  rw [← filterMap_of_filter Milestone.event?_of_deed d.history,
    ← filterMap_of_filter Milestone.event?_of_deed c.history]
  show ((deedsOf d.history).filterMap _).reverse = ((deedsOf c.history).filterMap _).reverse ++ _
  rw [h.deeds]
  simp

/-- Calls are no events. -/
theorem Calls.silent {run : Run} {stage : Stage} {ds : List Milestone} {m : Option Module}
    {result : Except Fault (Option Stage)} (h : Calls run stage ds m result) :
    ds.filterMap Milestone.event? = [] := by
  cases h with
  | emitted _ _ _ emission => cases emission <;> rfl
  | _ => rfl

/-- No call leads back to the announcement. -/
theorem Calls.next_later {run : Run} {stage next : Stage} {ds : List Milestone} {m : Option Module}
    (h : Calls run stage ds m (.ok (some next))) : next ≠ .announce := by
  cases h with
  | rejected => nofun
  | produced =>
    unfold Session.afterInvoke Session.afterValidate
    split <;> (try split) <;> nofun
  | validated =>
    unfold Session.afterValidate
    split <;> nofun
  | optimized => nofun
  | emitted _ _ _ _ _ _ last => exact absurd rfl (last next)

/-- A stage that no other follows publishes the start of the run, if it was to do so. -/
theorem Halts.events {run : Run} {stage : Stage} {ds : List Milestone} {m : Option Module}
    (h : Halts stage run ds m) : ds.filterMap Milestone.event? =
      if stage = .announce then [(compileStarted, Session.startedData run)] else [] := by
  cases h with
  | reported rejects => rw [rejects]; rfl
  | unheard first => rw [first]; rfl
  | called _ _ _ calls _ => rw [calls.silent, if_neg calls.later]

theorem Releases.silent {g : Nat} {m : Option Module} {rs : List Milestone}
    (h : Releases g m rs) : rs.filterMap Milestone.event? = [] := by
  cases h <;> rfl

theorem events_pushed (ns : List Notification) :
    (ns.map Notification.deed).filterMap Milestone.event? = ns.map Notification.event := by
  have pushed : Milestone.event? ∘ Notification.deed = some ∘ Notification.event :=
    funext fun _ => rfl
  rw [List.filterMap_map, pushed, List.filterMap_eq_map]

/-- A run that was announced tells its end, unless the session was stopped. -/
theorem events_closing {run : Run} (announced : run.announced = true) (errorCount : Int) :
    (closing run true errorCount).filterMap Milestone.event? =
      [(compileFinished, Session.finishedData run errorCount)] := by
  unfold closing
  rw [announced]
  rfl

/-! ### The events of all runs -/

namespace Core

/-- What the events tell while runs wait before their stages. -/
inductive Tells (c : Core) : List (Stage × Run) → Prop where
  | resting (cycles : Cycles c.state.generation (eventsOf c.history)) : Tells c []
  | opened (run : Run) {n : Nat} (number : c.state.generation = n + 1)
      (cycles : Cycles n (eventsOf c.history)) : Tells c [(.announce, run)]
  /-- The run was announced, and nothing was pushed since. -/
  | started (stage : Stage) (run first : Run) {n : Nat} {es : List (String × Payload)}
      (later : stage ≠ .announce) (number : c.state.generation = n + 1)
      (opens : first.generation = n + 1) (cycles : Cycles n es)
      (events : eventsOf c.history = es ++ [(compileStarted, Session.startedData first)])
      (none : c.state.notifications.count = 0) : Tells c [(stage, run)]

variable {c d : Core} {active : List (Stage × Run)} {run : Run}

/-- Whatever publishes nothing leaves the events as they are. -/
theorem Tells.beside (h : c.Tells active) (beside : Beside c d)
    (generation : d.state.generation = c.state.generation) : d.Tells active := by
  have events : eventsOf d.history = eventsOf c.history := by simpa using beside.events
  cases h with
  | resting cycles =>
    refine .resting ?_
    rw [events, generation]
    exact cycles
  | opened run number cycles =>
    exact .opened run (generation.trans number) (events ▸ cycles)
  | started stage run first later number opens cycles told none =>
    exact .started stage run first later (generation.trans number) opens cycles
      (events.trans told) (beside.count.trans none)

/-- A run that is opened gets the next number. -/
theorem Tells.begins (h : c.Tells []) (quiet : c.face.stages = []) (begins : Begins c d)
    (returns : ∀ g outcome f, .broke g outcome f ∉ d.history) : d.Tells d.face.stages := by
  have events : eventsOf d.history = eventsOf c.history := by simpa using begins.beside.events
  cases h with
  | resting cycles =>
    cases begins with
    | begins ticket final after _ eq =>
      have stages : d.face.stages =
          [(.announce, { request := final, generation := c.state.generation + 1 })] := by
        rw [eq]
        exact stages_await quiet .announce _ after
      rw [stages]
      exact .opened _ (by rw [eq]; rfl) (events ▸ cycles)
    | breaks ticket f _ eq =>
      exact absurd (eq ▸ List.mem_cons_self) (returns (c.state.generation + 1) none f)

theorem Ends.returned {fault : Option Fault} (ends : Ends run fault c d)
    (returns : ∀ g outcome f, .broke g outcome f ∉ d.history) : fault = none := by
  cases ends with
  | breaks f => exact absurd List.mem_cons_self (returns run.generation run.outcome f)
  | rests => rfl
  | follows => rfl

/-- After the end of a run the session rests, or the next run is opened. -/
theorem Tells.ends {fault : Option Fault} (h : c.Tells []) (quiet : c.face.stages = [])
    (ends : Ends run fault c d) (returns : ∀ g outcome f, .broke g outcome f ∉ d.history) :
    d.Tells d.face.stages := by
  have concluded : (c.conclude run).Tells [] := h.beside (beside_conclude run c) rfl
  cases ends with
  | breaks f => exact absurd List.mem_cons_self (returns run.generation run.outcome f)
  | rests =>
    have stages : ({ (c.conclude run).rest with pending := none } : Core).face.stages = [] := quiet
    rw [stages]
    exact concluded.beside (.of_state rfl rfl rfl) rfl
  | follows _ _ _ begins =>
    have taken : ({ c.conclude run with pending := none } : Core).Tells [] :=
      concluded.beside (.of_state rfl rfl rfl) rfl
    exact taken.begins quiet begins returns

end Core

namespace Session

variable {s t u v : Session Action} {stage next : Stage} {run run' : Run} {fault : Option Fault}

/-- A step that leads a run on announces it, or tells nothing. -/
theorem tells_of_next (h : u.core.Tells [(stage, run)])
    (number : run.generation = u.state.generation) (alive : u.state.alive = true)
    (step : u.stepRun Session.react stage run = (v, .next next run')) :
    v.core.Tells [(next, run')] := by
  obtain ⟨-, -, generation⟩ := frame_stepRun u stage run
  have walked := walked_stepRun reacts_react alive stage run
  rw [step] at generation walked
  cases walked with
  | announced _ _ first does kept =>
    cases h with
    | started _ _ _ later => exact absurd first later
    | opened _ opens cycles =>
      refine .started .invoke run' run nofun (generation.trans opens) (number.trans opens) cycles
        ?_ does.count
      exact does.events
  | onward _ _ _ ds calls does =>
    have events := does.events
    rw [calls.silent, List.append_nil] at events
    cases h with
    | opened => exact absurd rfl calls.later
    | started _ _ first _ opens number cycles told none =>
      exact .started next run' first calls.next_later (generation.trans opens) number cycles
        (events.trans told) (does.count.trans none)

/-- A step that ends a run completes its block of events, unless the session is stopped or the run
does not return. -/
theorem tells_of_over (h : u.core.Tells [(stage, run)]) (stands : u.core.Stands stage run)
    (alive : u.state.alive = true) (calm : Undisturbed v.history)
    (step : u.stepRun Session.react stage run = (v, .over run' none)) : v.core.Tells [] := by
  obtain ⟨-, -, generation⟩ := frame_stepRun u stage run
  have stepped := stepped_stepRun reacts_react u stage run
  have walked := walked_stepRun reacts_react alive stage run
  rw [step] at generation stepped walked
  obtain ⟨lives, announced, number⟩ : v.state.alive = true ∧ run'.announced = true ∧
      run'.generation = u.state.generation := by
    generalize none = fault at stepped
    cases stepped with
    | ended _ _ _ _ _ _ ending alters alike announced _ =>
      have before := alters.stops_le
      have none : v.core.stops = 0 := stops_of_calm calm
      refine ⟨alters.alive alive (by omega), announced.trans ?_,
        alike.generation.trans stands.number⟩
      by_cases first : stage = .announce
      · simp [first, alive]
      · simp [stands.announced.2 first]
  cases walked with
  | closed _ _ _ ds rs m ns done count halts releases numbered does telling =>
    obtain rfl : done = true := telling lives rfl
    have events := does.events
    simp only [List.filterMap_append, halts.events, releases.silent, events_pushed,
      events_closing announced, List.nil_append, Core.history_entering] at events
    refine .resting ?_
    rw [show v.core.state.generation = u.state.generation from generation]
    cases h with
    | opened _ opens cycles =>
      rw [events, show u.state.generation = _ from opens]
      exact cycles.next (.block run run' ns count (stands.number.trans opens)
        (number.trans opens) numbered)
    | @started _ _ first n es later opened opens cycles told none =>
      rw [Core.entering_of_later later, show u.core.state.notifications.count = 0 from none]
        at numbered
      rw [events, told, if_neg later, show u.state.generation = _ from opened, List.append_assoc]
      exact cycles.next (.block first run' ns count opens (number.trans opened) numbered)

/-- A run is under way in a session that is alive, unless the session was disturbed. -/
theorem Fronts.alive (fronts : Fronts s u stage run) (recorded : s.core.Recorded) :
    u.state.alive = true := by
  have busy : s.state.compiling = true :=
    (congrArg State.compiling fronts.same).symm.trans fronts.busy
  exact (congrArg State.alive fronts.same).trans (recorded.alive busy)

/-- One move leaves the events in blocks, unless it disturbs the session. -/
theorem tells_of_paced (paced : Paced s t) (sound : s.core.Sound) (recorded : s.core.Recorded)
    (calm : Undisturbed t.history) (h : s.core.Tells s.core.face.stages) :
    t.core.Tells t.core.face.stages := by
  cases paced with
  | beside aside beside =>
    rw [show t.core.face.stages = s.core.face.stages from congrArg Face.stages aside.face]
    exact h.beside beside (congrArg Face.generation aside.face)
  | enters c _ idle busy beside begins =>
    have quiet := sound.idle idle
    rw [quiet] at h
    have entered : c.Tells [] := h.beside beside
      ((congrArg Face.generation busy.face).trans rfl)
    exact entered.begins (((congrArg Face.stages busy.face).trans rfl).trans quiet) begins
      calm.unbroken
  | strides u v stage next run run' after front popped step eq =>
    have fronts := fronts_of_front sound front popped
    rw [fronts.stages] at h
    have taken : u.core.Tells [(stage, run)] :=
      h.beside fronts.beside (congrArg State.generation fronts.same)
    have led := tells_of_next taken fronts.stands.number (fronts.alive recorded) step
    rw [eq, stages_of_next sound front popped step]
    exact led.beside ((Does.refl v.core).await _) rfl
  | halts u v stage run run' fault after front popped step ends =>
    have fronts := fronts_of_front sound front popped
    rw [fronts.stages] at h
    have taken : u.core.Tells [(stage, run)] :=
      h.beside fronts.beside (congrArg State.generation fronts.same)
    obtain rfl := ends.returned calm.unbroken
    have ended := tells_of_over taken fronts.stands (fronts.alive recorded)
      (calm.before ends.beside.later) step
    exact ended.ends (stages_of_over sound front popped step) ends calm.unbroken

/-- The events are in blocks after all moves, unless the session was stopped or a run did not
return. -/
theorem tells_moves (o : Opening) (ms : List Move)
    (calm : Undisturbed (o.session.moves ms).history) :
    (o.session.moves ms).core.Tells (o.session.moves ms).core.face.stages := by
  refine (turn_induction (fun s => Undisturbed s.history →
    s.core.Recorded ∧ s.core.Tells s.core.face.stages) (sound_session o) rfl
      (fun _ => ?_) ?_ calm).2
  · exact ⟨⟨.new, nofun⟩, .resting .none⟩
  · intro s t sound _ turn ih calm
    have records := records_of_turn sound turn
    obtain ⟨recorded, tells⟩ := ih (calm.before records.later)
    exact ⟨records.keeps calm recorded,
      tells_of_paced (paced_of_turn turn) sound recorded calm tells⟩

end Session

/-! ### The busy mark -/

namespace Core

/-- The busy mark is set while a run is under way that was announced, and it was taken back as often
as it was set for all runs before. -/
structure Marked (active : List (Stage × Run)) (c : Core) : Prop where
  balance : c.indicator.started = c.indicator.ended + if c.indicator.compiling then 1 else 0
  busy : c.indicator.compiling = true ↔ ∃ x ∈ active, x.1 ≠ .announce

variable {c d : Core} {active : List (Stage × Run)} {run : Run}

/-- Where nothing runs, the mark is off. -/
theorem Marked.idle (off : c.indicator.compiling = false)
    (level : c.indicator.started = c.indicator.ended) : c.Marked [] := by
  refine ⟨?_, iff_of_false ?_ ?_⟩
  · rw [off]
    exact level
  · rw [off]
    exact Bool.false_ne_true
  · rintro ⟨x, hx, -⟩
    exact absurd hx List.not_mem_nil

/-- A run that has not been announced has not set the mark. -/
theorem Marked.early (h : c.Marked [(.announce, run)]) :
    c.indicator.compiling = false ∧ c.indicator.started = c.indicator.ended := by
  have off : c.indicator.compiling = false := by
    refine Bool.eq_false_iff.2 fun on => ?_
    obtain ⟨x, hx, later⟩ := h.busy.1 on
    exact later (congrArg Prod.fst (List.mem_singleton.1 hx))
  have balance := h.balance
  rw [off] at balance
  exact ⟨off, balance⟩

/-- The mark is not touched. -/
theorem Marked.of_indicator {active' : List (Stage × Run)} (h : c.Marked active)
    (indicator : d.indicator = c.indicator)
    (same : (∃ x ∈ active', x.1 ≠ .announce) ↔ ∃ x ∈ active, x.1 ≠ .announce) :
    d.Marked active' := by
  refine ⟨?_, ?_⟩
  · rw [indicator]
    exact h.balance
  · rw [indicator, same]
    exact h.busy

theorem none_announced {active : List (Stage × Run)} (early : ∀ x ∈ active, x.1 = .announce) :
    (∃ x ∈ active, x.1 ≠ .announce) ↔ ∃ x ∈ ([] : List (Stage × Run)), x.1 ≠ .announce :=
  iff_of_false (fun ⟨x, hx, later⟩ => later (early x hx))
    (fun ⟨_, hx, _⟩ => absurd hx List.not_mem_nil)

/-- A run that is opened has not been announced. -/
theorem Marked.begins (h : c.Marked []) (quiet : c.face.stages = []) (begins : Begins c d) :
    d.Marked d.face.stages := by
  have indicator : d.indicator = c.indicator := by
    cases begins with
    | begins _ _ _ _ eq => exact eq ▸ rfl
    | breaks _ _ _ eq => exact eq ▸ rfl
  refine h.of_indicator indicator (none_announced fun x hx => ?_)
  rcases begins.stages quiet with stages | ⟨run, stages⟩ <;> rw [stages] at hx
  · cases hx
  · exact congrArg Prod.fst (List.mem_singleton.1 hx)

theorem Marked.ends {fault : Option Fault} (h : c.Marked []) (quiet : c.face.stages = [])
    (ends : Ends run fault c d) : d.Marked d.face.stages := by
  cases ends with
  | breaks f =>
    have stages : (c.breakOff run.generation run.outcome f).face.stages = [] := quiet
    rw [stages]
    exact h.of_indicator rfl Iff.rfl
  | rests =>
    have stages : ({ (c.conclude run).rest with pending := none } : Core).face.stages = [] := quiet
    rw [stages]
    exact h.of_indicator rfl Iff.rfl
  | follows _ _ _ begins =>
    have taken : ({ c.conclude run with pending := none } : Core).Marked [] :=
      h.of_indicator rfl Iff.rfl
    exact taken.begins quiet begins

end Core

namespace Session

variable {s t u v : Session Action} {stage next : Stage} {run run' : Run} {fault : Option Fault}

/-- A step that leads a run on sets the mark when it announces the run. -/
theorem marked_of_next (h : u.core.Marked [(stage, run)])
    (step : u.stepRun Session.react stage run = (v, .next next run')) :
    v.core.Marked [(next, run')] := by
  have stepped := stepped_stepRun reacts_react u stage run
  rw [step] at stepped
  cases stepped with
  | announced _ _ first alters =>
    subst first
    have marked : v.indicator = u.indicator.start := congrArg Face.indicator alters.face
    refine ⟨?_, iff_of_true ?_ ⟨_, List.mem_singleton.2 rfl, nofun⟩⟩
    · rw [show v.core.indicator = u.indicator.start from marked]
      exact congrArg (· + 1) h.early.2
    · exact congrArg Indicator.compiling marked
  | onward _ _ _ later advances aside =>
    refine h.of_indicator (congrArg Face.indicator aside.face) (iff_of_true ?_ ?_)
    · exact ⟨_, List.mem_singleton.2 rfl, later_of_advances advances⟩
    · exact ⟨_, List.mem_singleton.2 rfl, later⟩

/-- The end of a run that releases its module takes the mark back iff the run was announced. -/
theorem indicator_close {closing : Closing} (c : Face) (run : Run)
    (releases : ∀ why, closing ≠ .unreleased why) :
    (c.close run closing).indicator =
      if run.announced then c.indicator.finish else c.indicator := by
  cases closing with
  | unreleased why => exact absurd rfl (releases why)
  | silent =>
    simp only [Face.close]
    split <;> rfl
  | told fault =>
    simp only [Face.close]
    split <;> cases fault <;> rfl

/-- A step that ends a run takes the mark back, if the run was announced and its module released. -/
theorem marked_of_over (h : u.core.Marked [(stage, run)]) (stands : u.core.Stands stage run)
    (released : fault = none ∨ Released v.history)
    (step : u.stepRun Session.react stage run = (v, .over run' fault)) : v.core.Marked [] := by
  have stepped := stepped_stepRun reacts_react u stage run
  rw [step] at stepped
  cases stepped with
  | ended _ _ F _ _ closing ending alters alike announced _ =>
    have releases (why : Fault) : closing ≠ .unreleased why := by
      rintro rfl
      have noted : .unreleased run'.generation why ∈ v.core.face.course := by
        rw [alters.face]
        exact List.mem_cons_self
      rcases released with returned | released
      · cases returned
      · exact Bool.noConfusion (released _ (List.mem_filter.1 noted).1)
    have closed : v.core.indicator = if run'.announced then (F u.core.face).indicator.finish
        else (F u.core.face).indicator :=
      (congrArg Face.indicator alters.face).trans (indicator_close _ run' releases)
    by_cases later : stage = .announce
    · subst later
      obtain ⟨off, level⟩ := h.early
      have early : run.announced = false :=
        Bool.eq_false_iff.2 fun done => stands.announced.1 done rfl
      cases alive : u.state.alive with
      | false =>
        rw [announced, early, alive] at closed
        generalize run'.outcome = outcome at ending
        cases ending with
        | abandoned => exact .idle (closed ▸ off) (closed ▸ level)
        | failed living => exact Bool.noConfusion (living.symm.trans alive)
        | _ => contradiction
      | true =>
        -- the announcement, which sets the mark, broke off
        rw [announced, alive, early, if_pos (by simp)] at closed
        obtain ⟨why, g, -, reporting, rfl⟩ := ending.of_announce alive
        have marked := (reporting.frame (Face.raise .announce why (Face.note
          (.cutOff compileStarted why) (Face.announce run u.core.face)))).2.2.2
        have finished := closed.trans (congrArg Indicator.finish marked)
        exact .idle (finished ▸ rfl) (finished ▸ congrArg (· + 1) level)
    · rw [announced, stands.announced.2 later, Bool.true_or, if_pos rfl,
        ending.indicator later] at closed
      have on : u.core.indicator.compiling = true := h.busy.2 ⟨_, List.mem_singleton.2 rfl, later⟩
      have balance := h.balance
      rw [on] at balance
      exact .idle (closed ▸ rfl) (closed ▸ balance)

/-- One move leaves the mark in order. -/
theorem marked_of_paced (paced : Paced s t) (sound : s.core.Sound)
    (released : Undisturbed t.history ∨ Released t.history) (h : s.core.Marked s.core.face.stages) :
    t.core.Marked t.core.face.stages := by
  cases paced with
  | beside aside _ =>
    rw [show t.core.face.stages = s.core.face.stages from congrArg Face.stages aside.face]
    exact h.of_indicator (congrArg Face.indicator aside.face) Iff.rfl
  | enters c _ idle busy _ begins =>
    have quiet := sound.idle idle
    rw [quiet] at h
    have entered : c.Marked [] :=
      h.of_indicator ((congrArg Face.indicator busy.face).trans rfl) Iff.rfl
    exact entered.begins (((congrArg Face.stages busy.face).trans rfl).trans quiet) begins
  | strides u v stage next run run' after front popped step eq =>
    have fronts := fronts_of_front sound front popped
    rw [fronts.stages] at h
    have taken : u.core.Marked [(stage, run)] := h.of_indicator (by rw [popped]) Iff.rfl
    have led := marked_of_next taken step
    rw [eq, stages_of_next sound front popped step]
    exact led.of_indicator rfl Iff.rfl
  | halts u v stage run run' fault after front popped step ends =>
    have fronts := fronts_of_front sound front popped
    rw [fronts.stages] at h
    have taken : u.core.Marked [(stage, run)] := h.of_indicator (by rw [popped]) Iff.rfl
    have released' : fault = none ∨ Released v.history :=
      released.imp (fun calm => ends.returned calm.unbroken) (·.before ends.beside.later)
    exact (marked_of_over taken fronts.stands released' step).ends
      (stages_of_over sound front popped step) ends

/-- The mark is in order after all moves, as long as the session was not disturbed or every module
that was left behind was released. -/
theorem marked_moves (o : Opening) (ms : List Move)
    (released : Undisturbed (o.session.moves ms).history ∨
      Released (o.session.moves ms).history) :
    (o.session.moves ms).core.Marked (o.session.moves ms).core.face.stages := by
  refine turn_induction (fun s => Undisturbed s.history ∨ Released s.history →
    s.core.Marked s.core.face.stages) (sound_session o) rfl
    (fun _ => ⟨rfl, iff_of_false Bool.false_ne_true ?_⟩) (fun s t sound _ turn ih released => ?_)
    released
  · rintro ⟨x, hx, -⟩
    cases hx
  · have later := (records_of_turn sound turn).later
    have marked := ih (released.imp (·.before later) (·.before later))
    exact marked_of_paced (paced_of_turn turn) sound released marked

/-- **Events and the busy mark bracket every compile.** In a session that was never stopped and
whose runs all returned, the events of the runs follow one another in blocks, and the last block may
only have begun, with the mark set. In every session whose runs released their modules the mark was
set as often as it was taken back, and once more while it is set; and while it is set the session
compiles, shows no outcome and is busy. -/
theorem compiles_bracketed (o : Opening) (ms : List Move) :
    let s := o.session.moves ms
    (Undisturbed s.history → ∃ n es, Cycles n es ∧
      if s.indicator.compiling then
        ∃ run, run.generation = n + 1 ∧
          eventsOf s.history = es ++ [(compileStarted, startedData run)]
      else eventsOf s.history = es) ∧
    (Released s.history →
      s.indicator.started = s.indicator.ended + (if s.indicator.compiling then 1 else 0) ∧
        (s.indicator.compiling = true →
          s.state.compiling = true ∧ s.state.outcome = none ∧ s.busyState = .busy)) := by
  intro s
  have sound : s.core.Sound := sound_moves o ms
  refine ⟨fun calm => ?_, fun released => ?_⟩
  · have marked : s.core.Marked s.core.face.stages := marked_moves o ms (.inl calm)
    have tells : s.core.Tells s.core.face.stages := tells_moves o ms calm
    have busy := marked.busy
    generalize s.core.face.stages = active at tells busy
    cases tells with
    | resting cycles =>
      refine ⟨_, _, cycles, ?_⟩
      rw [if_neg fun on => by simpa using busy.1 on]
      rfl
    | opened run number cycles =>
      refine ⟨_, _, cycles, ?_⟩
      rw [if_neg fun on => by simpa using busy.1 on]
      rfl
    | started stage run first later _ opens cycles events _ =>
      refine ⟨_, _, cycles, ?_⟩
      have on : s.indicator.compiling = true := busy.2 ⟨_, List.mem_singleton.2 rfl, later⟩
      rw [if_pos on]
      exact ⟨first, opens, events⟩
  · have marked : s.core.Marked s.core.face.stages := marked_moves o ms (.inr released)
    refine ⟨marked.balance, fun on => ?_⟩
    obtain ⟨x, hx, later⟩ := marked.busy.1 on
    have compiling : s.state.compiling = true := by
      cases idle : s.state.compiling with
      | true => rfl
      | false =>
        rw [sound.idle idle] at hx
        cases hx
    obtain ⟨stage, run, stages, stands⟩ := sound.busy compiling
    rw [stages] at hx
    obtain rfl := List.mem_singleton.1 hx
    have none : s.state.outcome = none := stands.blank later
    refine ⟨compiling, none, ?_⟩
    simp [busyState, deriveBusyState, State.isSuccess, State.isFailure, none]

/-- The compiler refuses the first text with two diagnostics, and messages are not suppressed. -/
def refusingOpening : Opening :=
  { plainOpening with
    settings := { compileMode := .manual }
    compilers := [("CPython", .scripted { compiles :=
      ⟨{ verdict := .rejects (.ok ["ERROR (1,1) a", "ERROR (2,1) b"]) }, []⟩ })] }

/-- A second request comes in during the first run, and its run has begun. -/
def refusedMoves : List Move :=
  [.call .start] ++ smallTicks 1 ++ [.call (.compile none)] ++ smallTicks 4

theorem compiles_bracketed_refused :
    let s := refusingOpening.session.moves refusedMoves
    Undisturbed s.history ∧ Released s.history ∧ s.indicator.started = s.indicator.ended + 1 ∧
      s.busyState = .busy ∧ ∃ n es run, Cycles n es ∧ es.length = 4 ∧ run.generation = n + 1 ∧
        eventsOf s.history = es ++ [(compileStarted, startedData run)] := by
  intro s
  have calm : Undisturbed s.history := by
    unfold Undisturbed
    decide +kernel
  have on : s.indicator.compiling = true := by decide +kernel
  have five : (eventsOf s.history).length = 5 := by decide +kernel
  have released : Released s.history := by decide +kernel
  obtain ⟨told, marked⟩ := compiles_bracketed refusingOpening refusedMoves
  obtain ⟨balance, busy⟩ := marked released
  obtain ⟨n, es, cycles, begun⟩ := told calm
  rw [if_pos on] at begun
  rw [if_pos on] at balance
  obtain ⟨run, number, events⟩ := begun
  have length := congrArg List.length events
  rw [five, List.length_append] at length
  refine ⟨calm, released, balance, (busy on).2.2, n, es, run, cycles, ?_, number, events⟩
  exact (Nat.succ.inj length).symm

/-- A module that fails when it is validated and when it is disposed; the latter fault has no
wording. -/
def stubbornModule : ModuleScript :=
  { validate := some (.foreign "ValueError" "x"), dispose := some muteFault }

/-- The compiler hands out such a module. -/
def unreleasedOpening : Opening :=
  { plainOpening with
    compilers := [("CPython",
      .scripted { compiles := ⟨{ verdict := .produces stubbornModule }, []⟩ })] }

/-- The session is started and its first run is over. -/
def unreleasedMoves : List Move := [.call .start] ++ smallTicks 10

/-- **The mark stays set after a run whose module could not be released**: the session compiles no
more, and shows the outcome of the run. -/
theorem mark_left_unreleased :
    let s := unreleasedOpening.session.moves unreleasedMoves
    s.indicator.compiling = true ∧ s.state.compiling = false ∧ s.state.outcome.isSome = true := by
  decide +kernel

end Session

end Playground
