import Playground.Proofs.Requests

/-!
# No trigger is lost

A compile can be ignored, cancelled or superseded, and a session can be stopped and started again.
Whatever was not compiled because of that is made up for later: a session at rest has compiled what
it shows.

* `Action.Plain`, `Call.Plain` — the triggers with valid modes and the session's own requests.
* `Core.Attended` — the invariant: the latest request covers the settings and the text, or a timer,
  a coroutine or a loading is on its way.
* `attended_moves` — the invariant holds after all moves.
* `no_trigger_lost` — what it says of a session at rest.
* `trigger_lost_mute` — a compiler that was chosen and not asked, as it failed to load without
  words.
-/

namespace Playground

open Playground.Core Playground.Text

/-- A call for no request of its own; a click for no mode, or for one that compiles. -/
def Call.Plain : Call → Prop
  | .compile draft => draft = none
  | .click mode => ∀ name, mode = some name →
      CompileMode.ofName name = .ok .auto ∨ CompileMode.ofName name = .ok .manual
  | _ => True

/-- An action whose mode, if it sets one, is valid, and whose call is plain. -/
def Action.Plain : Action → Prop
  | .setMode name => ∃ mode, CompileMode.ofName name = .ok mode
  | .spawn call => call.Plain
  | _ => True

/-- Every run returned, and no loading failed with a fault that has no wording. -/
structure Unfailing (ms : List Milestone) : Prop where
  returns : ∀ g outcome f, .broke g outcome f ∉ ms
  loads : ∀ compiler f, .unloaded compiler f ∉ ms

/-- Did a run or a loading raise a fault? -/
def Milestone.fails : Milestone → Bool
  | .broke .. => true
  | .unloaded .. => true
  | _ => false

theorem unfailing_of_all {ms : List Milestone} (h : ∀ m ∈ ms, m.fails = false) : Unfailing ms where
  returns _ _ _ broke := Bool.noConfusion (h _ broke)
  loads _ _ unloaded := Bool.noConfusion (h _ unloaded)

theorem Unfailing.before {old new : List Milestone} (h : Unfailing new) (later : old <:+ new) :
    Unfailing old :=
  ⟨fun g outcome f broke => h.returns g outcome f (later.mem broke),
    fun compiler f unloaded => h.loads compiler f (later.mem unloaded)⟩

namespace Core

/-- The latest request: the one that waits, or else the one that was run last. -/
def latest? (c : Core) : Option Request :=
  match c.pending with
  | some t => some t.request
  | none => (latestRun? c.history).map (·.1.request)

/-- What waits is of the session's own, and the text that counts is that of the state. -/
structure Steady (c : Core) : Prop where
  calls : ∀ call, .fresh call ∈ c.waiting → call.Plain
  waits : c.pending.isSome = true → c.state.compiling = true
  text : c.state.lastTextInput = trimmed c.state.source
  delay : Debounce.isAccepted c.settings.autoCompileDelayMs = true

def Loads (c : Core) : Prop :=
  ∃ compiler left ending purpose, Waiting.loading compiler left ending purpose ∈ c.waiting

/-- The request is for the compiler and the options of the session, and for its text too, unless the
timer or a coroutine is about to compile that. -/
def Covers (r : Request) (c : Core) : Prop :=
  r.compiler = c.state.compiler ∧ r.options = c.state.options ∧
    (c.state.compileMode = .auto → trimmed r.source = c.state.lastTextInput ∨
      c.armed.isSome = true ∨ .fresh (.compile none) ∈ c.waiting)

/-- A session that could compile has compiled what it shows, or is about to. -/
structure Attended (c : Core) : Prop extends Steady c where
  due : c.state.alive = true → c.state.ready = true →
    c.Loads ∨ ∃ r, c.latest? = some r ∧ Covers r c

variable {c d : Core}

/-- Where nobody could compile, nothing is due. -/
theorem Steady.attended (h : c.Steady) (idle : c.state.alive = false ∨ c.state.ready = false) :
    c.Attended := by
  refine ⟨h, fun alive ready => ?_⟩
  rcases idle with dead | unready
  · exact absurd (alive.symm.trans dead) (by decide)
  · exact absurd (ready.symm.trans unready) (by decide)

/-- Another coroutine comes to wait. -/
theorem Attended.await (h : c.Attended) {at_ : Waiting}
    (plain : ∀ call, at_ = .fresh call → call.Plain) : (c.await (some at_)).Attended := by
  refine ⟨⟨fun call hc => ?_, h.waits, h.text, h.delay⟩, fun alive ready => ?_⟩
  · rcases List.mem_append.1 hc with hc | hc
    · exact h.calls call hc
    · exact plain call (List.mem_singleton.1 hc).symm
  · rcases h.due alive ready with ⟨compiler, left, ending, purpose, hl⟩ | ⟨r, latest, covers⟩
    · exact .inl ⟨compiler, left, ending, purpose, List.mem_append_left _ hl⟩
    · obtain ⟨compiler, options, source⟩ := covers
      refine .inr ⟨r, latest, compiler, options, fun auto => ?_⟩
      exact (source auto).imp id (.imp id (List.mem_append_left _))

end Core

namespace Session

variable {s t : Session Action} {r : Session Action × Progress}

/-! ### From the side -/

/-- A delay that is accepted sets the timer. -/
theorem armed_rearm (s : Session Action)
    (delay : Debounce.isAccepted s.settings.autoCompileDelayMs = true) :
    s.rearm.1.armed.isSome = true := by
  unfold rearm Debounce.schedule
  simp [delay]

theorem attended_edit (h : s.core.Attended) (text : String) : (s.edit text).core.Attended := by
  unfold edit
  simp only
  split
  next same =>
    exact ⟨⟨h.calls, h.waits, same.symm, h.delay⟩, h.due⟩
  next other =>
    split
    next active =>
      have armed := armed_rearm ((s.modifyState fun st => { st with source := text }).modifyState
        fun st => { st with lastTextInput := trimmed text }) h.delay
      rw [core_rearm]
      refine ⟨⟨h.calls, h.waits, rfl, h.delay⟩, fun alive ready => ?_⟩
      rcases h.due alive ready with loads | ⟨r, latest, compiler, options, -⟩
      · exact .inl loads
      · exact .inr ⟨r, latest, compiler, options, fun _ => .inr (.inl armed)⟩
    next idle =>
      refine ⟨⟨h.calls, h.waits, rfl, h.delay⟩, fun alive ready => ?_⟩
      rcases h.due alive ready with loads | ⟨r, latest, compiler, options, -⟩
      · exact .inl loads
      · refine .inr ⟨r, latest, compiler, options, fun auto => absurd ?_ idle⟩
        simpa using ⟨alive, auto⟩

theorem attended_turn (h : s.core.Attended) (mode : CompileMode) : (s.turn mode).core.Attended := by
  have turned : (s.cancelTimer.modifyState fun st => { st with compileMode := mode }).core =
      { s.core with armed := none, state := { s.state with compileMode := mode } } :=
    congrArg (fun c : Core => { c with state := { s.state with compileMode := mode } })
      (core_cancelTimer s)
  unfold turn
  simp only
  split
  next active =>
    have armed := armed_rearm (s.cancelTimer.modifyState fun st => { st with compileMode := mode })
      h.delay
    rw [core_rearm, turned]
    refine ⟨⟨h.calls, h.waits, h.text, h.delay⟩, fun alive ready => ?_⟩
    rcases h.due alive ready with loads | ⟨r, latest, compiler, options, -⟩
    · exact .inl loads
    · exact .inr ⟨r, latest, compiler, options, fun _ => .inr (.inl armed)⟩
  next idle =>
    rw [turned]
    refine ⟨⟨h.calls, h.waits, h.text, h.delay⟩, fun alive ready => ?_⟩
    rcases h.due alive ready with loads | ⟨r, latest, compiler, options, -⟩
    · exact .inl loads
    · refine .inr ⟨r, latest, compiler, options, fun auto => absurd ?_ idle⟩
      have auto : mode = .auto := auto
      simpa using ⟨auto, alive⟩

/-- What is done from the side leaves nothing unattended. -/
theorem attended_nudge (h : s.core.Attended) (nudge : Nudge Action.Plain s t) :
    t.core.Attended := by
  cases nudge with
  | heed listener =>
    rw [core_takeReaction]
    exact ⟨⟨h.calls, h.waits, h.text, h.delay⟩, h.due⟩
  | edit text => exact attended_edit h text
  | turn _ mode => exact attended_turn h mode
  | disarm name f plain hm =>
    obtain ⟨mode, valid⟩ := plain
    cases hm.symm.trans valid
  | stop =>
    rw [core_stop]
    exact Steady.attended ⟨h.calls, nofun, h.text, h.delay⟩ (.inl rfl)
  | spawn call plain =>
    have same : Action.settleCall s.state.options call = call := by
      cases call with
      | compile draft =>
        obtain rfl : draft = none := plain
        rfl
      | _ => rfl
    have spawned := core_enqueue { s with spawned := s.spawned + 1 }
      (.resume (.spawned (s.spawned + 1)) (.fresh (Action.settleCall s.state.options call)))
    unfold spawn
    rw [spawned, same]
    exact h.await fun c hc => Waiting.fresh.inj hc ▸ plain
  | _ => exact ⟨⟨h.calls, h.waits, h.text, h.delay⟩, h.due⟩

theorem attended_nudges (h : s.core.Attended) (nudges : Nudges Action.Plain s t) :
    t.core.Attended := by
  induction nudges with
  | refl => exact h
  | tail _ step ih => exact attended_nudge ih step

theorem attended_use (h : s.core.Attended) (use : Use Action.Plain s t) : t.core.Attended := by
  cases use with
  | nudge nudge => exact attended_nudge h nudge
  | _ => exact ⟨⟨h.calls, h.waits, h.text, h.delay⟩, h.due⟩

theorem attended_work (h : s.core.Attended) (work : Work Action.Plain s t) : t.core.Attended := by
  cases work with
  | use use => exact attended_use h use
  | _ => exact ⟨⟨h.calls, h.waits, h.text, h.delay⟩, h.due⟩

/-- On the way to a compile, what waits and the text stay in order. -/
theorem steady_leads (h : s.core.Steady) (leads : Leads Action.Plain s t) : t.core.Steady := by
  induction leads with
  | refl => exact h
  | tail _ step ih =>
    cases step with
    | stop =>
      rw [core_stop]
      exact ⟨ih.calls, nofun, ih.text, ih.delay⟩
    | disarm =>
      rw [core_cancelTimer]
      exact ⟨ih.calls, ih.waits, ih.text, ih.delay⟩
    | _ => exact ⟨ih.calls, ih.waits, ih.text, ih.delay⟩

/-! ### Into the pipeline and out of it -/

/-- A run that is opened is for the latest request. -/
theorem attended_of_opened {ticket : Ticket} (h : Opened ticket s r) (steady : s.core.Steady)
    (due : s.state.alive = true → s.state.ready = true →
      s.core.Loads ∨ Covers ticket.request s.core)
    (pending : s.pending = none) (unfailing : Unfailing r.1.history) :
    (r.1.core.await r.2.waiting?).Attended := by
  obtain ⟨core, run, after, next⟩ := h.begun unfailing.returns
  have begun : (s.core.begin ticket).Attended := by
    refine ⟨⟨steady.calls, steady.waits, steady.text, steady.delay⟩, fun alive ready => ?_⟩
    rcases due alive ready with loads | covers
    · exact .inl loads
    · refine .inr ⟨ticket.request, ?_, covers⟩
      rw [latest?, show (s.core.begin ticket).pending = none from pending]
      rfl
  rw [core, next]
  show ((s.core.begin ticket).await (some (.staging .announce run after))).Attended
  exact begun.await nofun

/-- A compile of the present text leaves nothing unattended, whatever came before. -/
theorem attended_of_entered (h : Entered none s r) (steady : s.core.Steady)
    (unfailing : Unfailing r.1.history) : (r.1.core.await r.2.waiting?).Attended := by
  have covers : Covers s.buildRequest s.core := ⟨rfl, rfl, fun _ => .inl steady.text.symm⟩
  cases h with
  | ignored idle core next =>
    rw [core, next, await_none]
    exact steady.attended idle
  | parked _ _ busy core next =>
    rw [core, next, await_none]
    exact ⟨⟨steady.calls, fun _ => busy, steady.text, steady.delay⟩,
      fun _ _ => .inr ⟨s.buildRequest, rfl, covers⟩⟩
  | opened _ _ idle u core opens =>
    have pending : u.pending = none := by
      refine (congrArg Core.pending core).trans ?_
      cases waits : s.pending with
      | none => exact waits
      | some t =>
        have busy : s.state.compiling = true := steady.waits (by simp [Session.core, waits])
        exact absurd (busy.symm.trans idle) (by decide)
    refine attended_of_opened opens ?_ (fun _ _ => .inr ?_) pending unfailing
    · rw [core]
      exact ⟨steady.calls, fun _ => rfl, steady.text, steady.delay⟩
    · rw [core]
      exact covers

/-- A call, or a loading, leaves nothing unattended; if it ends without a compile, that it was taken
from the queue did not matter, for `lost` says that nothing else did. -/
theorem attended_of_led {call : Option Call} (h : Led Action.Plain call s r)
    (plain : ∀ c, call = some c → c.Plain) (steady : s.core.Steady)
    (lost : (∀ draft, call ≠ some (.compile draft)) → call.isSome = true → s.core.Attended)
    (unfailing : Unfailing r.1.history) : (r.1.core.await r.2.waiting?).Attended := by
  cases h with
  | rests lead next why =>
    have steady' := steady_leads steady lead
    rw [next, await_none]
    cases why with
    | stopped dead => exact steady'.attended (.inl dead)
    | unready unready => exact steady'.attended (.inr unready)
    | unloaded compiler f failed => exact absurd failed (unfailing.loads compiler f)
    | kept c called other same =>
      subst called
      rw [same]
      exact lost (fun draft hc => other draft (Option.some.inj hc)) rfl
    | declined mode clicked declines same =>
      subst clicked
      have attended := lost (fun _ => nofun) rfl
      rw [same, core_cancelTimer]
      refine ⟨⟨steady.calls, steady.waits, steady.text, steady.delay⟩, fun alive ready => ?_⟩
      rcases attended.due alive ready with loads | ⟨r, latest, compiler, options, -⟩
      · exact .inl loads
      · refine .inr ⟨r, latest, compiler, options, fun auto => ?_⟩
        cases mode with
        | none => cases auto.symm.trans declines
        | some name =>
          rcases plain _ rfl name rfl with valid | valid
          · exact absurd valid declines.1
          · exact absurd valid declines.2
  | loads lead compiler left ending purpose next =>
    have steady' := steady_leads steady lead
    rw [next]
    refine ⟨⟨fun c hc => ?_, steady'.waits, steady'.text, steady'.delay⟩, fun _ _ => .inl ?_⟩
    · rcases List.mem_append.1 hc with hc | hc
      · exact steady'.calls c hc
      · cases List.mem_singleton.1 hc
    · exact ⟨compiler, left, ending, purpose, List.mem_append_right _ List.mem_cons_self⟩
  | enters u draft after lead asked eq =>
    have own : draft = none := by
      rcases asked with own | called
      · exact own
      · exact plain _ called
    subst own
    have entered : Entered none u r := eq ▸ entered_enterCompile none after u
    exact attended_of_entered entered (steady_leads steady lead) unfailing

/-- After a run, the request that waited is run. -/
theorem attended_of_followed {g : Nat} {outcome : Option Outcome}
    (h : Followed (s.mark (.ended g outcome)) r) (attended : s.core.Attended)
    (unfailing : Unfailing r.1.history) : (r.1.core.await r.2.waiting?).Attended := by
  cases h with
  | rests why core next =>
    rw [core, next, await_none]
    rcases why with nobody | dead
    · have same : ({ (s.mark (.ended g outcome)).core.rest with pending := none } : Core).latest? =
          s.core.latest? := by
        rw [latest?, latest?, show s.core.pending = none from nobody]
        rfl
      refine ⟨⟨attended.calls, nofun, attended.text, attended.delay⟩, fun alive ready => ?_⟩
      rw [same]
      exact attended.due alive ready
    · exact Steady.attended ⟨attended.calls, nofun, attended.text, attended.delay⟩ (.inl dead)
  | opened ticket parked alive u core opens =>
    have latest : s.core.latest? = some ticket.request := by
      rw [latest?, show s.core.pending = some ticket from parked]
    have pending : u.pending = none := congrArg Core.pending core
    refine attended_of_opened opens ?_ (fun alive ready => ?_) pending unfailing
    · rw [core]
      exact ⟨attended.calls, nofun, attended.text, attended.delay⟩
    · have state : u.state = s.state := congrArg Core.state core
      rw [core]
      rcases attended.due ((congrArg State.alive state).symm.trans alive)
        ((congrArg State.ready state).symm.trans ready) with loads | ⟨r, asked, covers⟩
      · exact .inl loads
      · obtain rfl := Option.some.inj (latest.symm.trans asked)
        exact .inr covers

theorem attended_resumeStage {stage : Stage} {run : Run} (after : After)
    (scripts : s.Admits Action.Plain) (attended : s.core.Attended)
    (unfailing : Unfailing (s.resumeStage Session.react stage run after).1.history) :
    ((s.resumeStage Session.react stage run after).1.core.await
      (s.resumeStage Session.react stage run after).2.waiting?).Attended := by
  have works : (s.stepRun Session.react stage run).1.core.Attended :=
    (worked_stepRun reacts_react scripts stage run).keeps (I := fun u => u.core.Attended) attended
      (fun _ _ _ _ h => h) (fun _ _ _ h => ⟨⟨h.calls, h.waits, h.text, h.delay⟩, h.due⟩)
      fun _ _ work h => attended_work h work
  revert unfailing
  unfold resumeStage
  rcases hx : s.stepRun Session.react stage run with ⟨t, ⟨next, run'⟩ | ⟨run', fault⟩⟩ <;>
    rw [hx] at works
  · intro _
    show (t.core.await (some (.staging next run' after))).Attended
    exact works.await nofun
  · cases fault with
    | some e =>
      intro unfailing
      exact absurd List.mem_cons_self (unfailing.returns run'.generation run'.outcome e)
    | none => exact attended_of_followed (followed_nextRun after _) works

/-! ### The scripts stay plain -/

/-- The scripts of compilers and listeners stay as confined as they were. -/
theorem admits_of_turn {P : Action → Prop} (hs : s.Admits P) (turn : Turn P s t) : t.Admits P := by
  cases turn with
  | acted a plain eq =>
    rw [eq]
    exact hs.nudges (nudges_act reacts_react hs plain)
  | kept eq => exact hs.of_eq (congrArg Core.listeners eq) (congrArg Core.compilers eq)
  | called c _ eq => exact hs.of_eq (congrArg Core.listeners eq) (congrArg Core.compilers eq)
  | fired _ _ eq => exact hs.of_eq (congrArg Core.listeners eq) (congrArg Core.compilers eq)
  | resumed u at_ lasting front popped eq =>
    have taken : u.Admits P :=
      hs.of_eq (congrArg Core.listeners popped) (congrArg Core.compilers popped)
    have stepped : (u.resume Session.react at_).1.Admits P :=
      keeps_resume taken taken (fun lead h => h.lead lead) (fun booking h => h.booking booking)
        (fun _ _ _ h => h.of_eq rfl rfl) (fun work h => h.work work) at_
    exact stepped.of_eq (congrArg Core.listeners eq) (congrArg Core.compilers eq)

/-! ### All moves -/

/-- The coroutine that is taken from the queue does not matter, unless it loads or compiles. -/
theorem attended_pop {at_ : Waiting} {rest : List Waiting} (attended : s.core.Attended)
    (front : s.waiting = at_ :: rest) (loads : ∀ c n f p, at_ ≠ .loading c n f p)
    (compiles : at_ ≠ .fresh (.compile none)) :
    ({ s.core with waiting := rest } : Core).Attended := by
  have waits {w : Waiting} (hw : w ∈ s.core.waiting) (other : at_ ≠ w) : w ∈ rest := by
    rw [show s.core.waiting = at_ :: rest from front] at hw
    exact (List.mem_cons.1 hw).resolve_left fun same => other same.symm
  refine ⟨⟨fun call hc => attended.calls call ?_, attended.waits, attended.text, attended.delay⟩,
    fun alive ready => ?_⟩
  · rw [show s.core.waiting = at_ :: rest from front]
    exact List.mem_cons_of_mem _ hc
  · rcases attended.due alive ready with ⟨c, n, f, p, hl⟩ | ⟨r, latest, compiler, options, source⟩
    · exact .inl ⟨c, n, f, p, waits hl (loads c n f p)⟩
    · refine .inr ⟨r, latest, compiler, options, fun auto => ?_⟩
      exact (source auto).imp id (.imp id fun hc => waits hc compiles)

/-- **One move leaves nothing unattended**, unless it breaks a run or a loading. -/
theorem attended_of_turn (scripts : s.Admits Action.Plain) (attended : s.core.Attended)
    (turn : Turn Action.Plain s t) (unfailing : Unfailing t.history) :
    t.core.Attended := by
  cases turn with
  | acted a plain eq =>
    rw [eq]
    exact attended_nudges attended (nudges_act reacts_react scripts plain)
  | kept eq => exact eq ▸ attended
  | called c plain eq =>
    rw [eq]
    exact attended.await fun c' hc => Waiting.fresh.inj hc ▸ plain
  | fired id armed eq =>
    have called : (s.core.await (some (.fresh (.compile none)))).Attended :=
      attended.await fun c hc => Waiting.fresh.inj hc ▸ rfl
    rw [eq]
    refine ⟨⟨called.calls, called.waits, called.text, called.delay⟩, fun alive ready => ?_⟩
    rcases called.due alive ready with loads | ⟨r, latest, compiler, options, -⟩
    · exact .inl loads
    · refine .inr ⟨r, latest, compiler, options, fun _ => .inr (.inr ?_)⟩
      exact List.mem_append_right _ List.mem_cons_self
  | resumed u at_ lasting front popped eq =>
    have unfailing' : Unfailing (u.resume Session.react at_).1.history := by
      have history : t.history = (u.resume Session.react at_).1.history :=
        congrArg Core.history eq
      exact history ▸ unfailing
    have taken : u.Admits Action.Plain :=
      scripts.of_eq (congrArg Core.listeners popped) (congrArg Core.compilers popped)
    have steady : u.core.Steady := by
      rw [popped]
      refine ⟨fun call hc => attended.calls call ?_, attended.waits, attended.text, attended.delay⟩
      rw [show s.core.waiting = at_ :: u.waiting from front]
      exact List.mem_cons_of_mem _ hc
    rw [eq]
    rcases led_or_staging Action.Plain lasting with ⟨-, led⟩ | ⟨stage, run, after, rfl⟩
    · refine attended_of_led led (fun c called => ?_) steady (fun other called => ?_) unfailing'
      · refine attended.calls c ?_
        rw [show s.core.waiting = at_ :: u.waiting from front, Waiting.fresh_of_call called]
        exact List.mem_cons_self
      · rw [popped]
        refine attended_pop attended front (fun _ _ _ _ same => ?_) fun same => other none ?_
        · rw [same] at called
          cases called
        · rw [same]
          rfl
    · have attended' : u.core.Attended := by
        rw [popped]
        exact attended_pop attended front (fun _ _ _ _ => nofun) nofun
      exact attended_resumeStage after taken attended' unfailing'

/-- Nothing is unattended before the first move. -/
theorem attended_session {o : Opening}
    (delay : Debounce.isAccepted o.settings.autoCompileDelayMs = true) :
    o.session.core.Attended :=
  Steady.attended ⟨nofun, nofun, rfl, delay⟩ (.inl rfl)

/-- **Nothing is unattended after all moves**, unless a run did not return or a loading failed with
a fault that has no wording. -/
theorem attended_moves {o : Opening} (scripts : o.session.Admits Action.Plain)
    (delay : Debounce.isAccepted o.settings.autoCompileDelayMs = true) {ms : List Move}
    (plain : ∀ m ∈ ms, m.Admits Action.Plain)
    (unfailing : Unfailing (o.session.moves ms).history) :
    (o.session.moves ms).core.Attended := by
  refine (moves_induction (fun s => s.core.Sound ∧ s.Admits Action.Plain ∧
    (Unfailing s.history → s.core.Attended))
    ⟨sound_session o, scripts, fun _ => attended_session delay⟩ ?_).2.2 unfailing
  rintro m hm s ⟨sound, scripts, ih⟩
  have turn : Turn Action.Plain s (s.move m) := turn_move (plain m hm) s
  refine ⟨sound_of_turn sound turn, admits_of_turn scripts turn, fun unfailing => ?_⟩
  have before : Unfailing s.history := unfailing.before (records_of_turn sound turn).later
  exact attended_of_turn scripts (ih before) turn unfailing

/-- Nothing is under way: no timer, no coroutine and no run. -/
structure Quiescent (s : Session Action) : Prop where
  armed : s.armed = none
  coroutines : ∀ owner at_, .resume owner at_ ∉ s.loop.jobs
  idle : s.state.compiling = false

/-- **No trigger is lost**, as long as every fault of a loading has a wording. -/
theorem no_trigger_lost (o : Opening) (ms : List Move) (scripts : o.session.Admits Action.Plain)
    (delay : Debounce.isAccepted o.settings.autoCompileDelayMs = true)
    (plain : ∀ m ∈ ms, m.Admits Action.Plain)
    (returns : ∀ g outcome f, .broke g outcome f ∉ (o.session.moves ms).history)
    (loads : ∀ compiler f, .unloaded compiler f ∉ (o.session.moves ms).history)
    (quiescent : Quiescent (o.session.moves ms)) :
    let s := o.session.moves ms
    s.state.alive = true → s.state.ready = true →
      ∃ t g, latestRun? s.history = some (t, g) ∧ t.request.compiler = s.state.compiler ∧
        t.request.options = s.state.options ∧
        (s.state.compileMode = .auto → trimmed t.request.source = trimmed s.state.source) := by
  intro s alive ready
  have attended : s.core.Attended := attended_moves scripts delay plain ⟨returns, loads⟩
  have nowhere (w : Waiting) : w ∉ s.core.waiting := by
    intro hw
    obtain ⟨owner, job⟩ := job_of_waiting hw
    exact quiescent.coroutines owner w job
  have nobody : s.core.pending = none := by
    cases pending : s.core.pending with
    | none => rfl
    | some t =>
      have busy : s.state.compiling = true := attended.waits (by rw [pending]; rfl)
      exact absurd (busy.symm.trans quiescent.idle) (by decide)
  rcases attended.due alive ready with ⟨c, n, f, p, loads⟩ | ⟨r, latest, compiler, options, source⟩
  · exact absurd loads (nowhere _)
  · rw [latest?, nobody] at latest
    obtain ⟨⟨t, g⟩, run, rfl⟩ := Option.map_eq_some_iff.1 latest
    refine ⟨t, g, run, compiler, options, fun auto => ?_⟩
    rcases source auto with same | armed | compiles
    · exact same.trans attended.text
    · rw [show s.core.armed = none from quiescent.armed] at armed
      cases armed
    · exact absurd compiles (nowhere _)

/-- After the first run the text is edited, and the timer comes due. -/
def editedMoves : List Move :=
  [.call .start] ++ smallTicks 7 ++ [.act (.input " y "), .setTime 800] ++ smallTicks 8

theorem plain_smallTicks (n : Nat) : ∀ m ∈ smallTicks n, m.Admits Action.Plain := by
  intro m hm
  simp only [smallTicks, List.mem_flatten, List.mem_replicate] at hm
  obtain ⟨tick, ⟨-, rfl⟩, hm⟩ := hm
  simp only [List.mem_cons, List.not_mem_nil, or_false, or_self] at hm
  rcases hm with rfl | rfl <;> trivial

theorem no_trigger_lost_edited :
    let s := plainOpening.session.moves editedMoves
    Quiescent s ∧ s.state.alive = true ∧ s.state.ready = true ∧
      ∃ t g, latestRun? s.history = some (t, g) ∧ t.request.compiler = "CPython" ∧
        trimmed t.request.source = "y" := by
  have scripts : plainOpening.session.Admits Action.Plain := by
    refine ⟨nofun, fun name script h => ?_⟩
    obtain ⟨rfl, same⟩ := Prod.mk.inj (List.mem_singleton.1 h)
    obtain rfl := Compiler.scripted.inj same
    refine ⟨fun answer h => ?_, nofun⟩
    obtain rfl := List.mem_singleton.1 h
    nofun
  have plain : ∀ m ∈ editedMoves, m.Admits Action.Plain := by
    simp only [editedMoves, List.forall_mem_append]
    refine ⟨⟨⟨?_, plain_smallTicks 7⟩, ?_⟩, plain_smallTicks 8⟩
    · simp [Move.Admits, Action.Plain, Call.Plain]
    · simp [Move.Admits, Action.Plain]
  have unfailing : Unfailing (plainOpening.session.moves editedMoves).history :=
    unfailing_of_all (by decide +kernel)
  have quiescent : Quiescent (plainOpening.session.moves editedMoves) := by
    have jobs : (plainOpening.session.moves editedMoves).loop.jobs.isEmpty = true := by
      decide +kernel
    refine ⟨by decide +kernel, fun owner at_ job => ?_, by decide +kernel⟩
    rw [List.isEmpty_iff.1 jobs] at job
    cases job
  have alive : (plainOpening.session.moves editedMoves).state.alive = true := by decide +kernel
  have ready : (plainOpening.session.moves editedMoves).state.ready = true := by decide +kernel
  obtain ⟨t, g, run, compiler, -, source⟩ := no_trigger_lost plainOpening editedMoves scripts
    (by decide +kernel) plain unfailing.returns unfailing.loads quiescent alive ready
  have auto : (plainOpening.session.moves editedMoves).state.compileMode = .auto := by
    decide +kernel
  refine ⟨quiescent, alive, ready, t, g, run, compiler.trans ?_, (source auto).trans ?_⟩
  · decide +kernel
  · decide +kernel

/-- A session whose second compiler fails to load with a fault that has no wording. -/
def muteOpening : Opening :=
  { settings := {}, source := "x = 1", probe := .always false
    compilers := [("CPython", .scripted {}),
      ("mute", .scripted { loads := ⟨some muteFault, []⟩ })] }

/-- The second compiler is chosen after the first run. -/
def muteMoves : List Move :=
  [.call .start] ++ smallTicks 7 ++ [.call (.switchCompiler "mute")] ++ smallTicks 3

/-- **A trigger is lost where a compiler fails to load with a fault that has no wording**: the call
that chose it ends with that fault and compiles nothing, and the session stays ready. -/
theorem trigger_lost_mute :
    let s := muteOpening.session.moves muteMoves
    muteOpening.session.Admits Action.Plain ∧ (∀ m ∈ muteMoves, m.Admits Action.Plain) ∧
      (∀ g outcome f, .broke g outcome f ∉ s.history) ∧ Quiescent s ∧ s.state.alive = true ∧
        s.state.ready = true ∧
      (latestRun? s.history).map (fun run => run.1.request.compiler) = some "CPython" ∧
      s.state.compiler = "mute" := by
  have scripts : muteOpening.session.Admits Action.Plain := by
    refine ⟨nofun, fun name script h => ?_⟩
    rcases List.mem_cons.1 h with same | h
    · obtain rfl := Compiler.scripted.inj (Prod.mk.inj same).2
      refine ⟨fun answer h => ?_, nofun⟩
      obtain rfl := List.mem_singleton.1 h
      nofun
    · obtain rfl := Compiler.scripted.inj (Prod.mk.inj (List.mem_singleton.1 h)).2
      refine ⟨fun answer h => ?_, nofun⟩
      obtain rfl := List.mem_singleton.1 h
      nofun
  have plain : ∀ m ∈ muteMoves, m.Admits Action.Plain := by
    simp only [muteMoves, List.forall_mem_append]
    refine ⟨⟨⟨?_, plain_smallTicks 7⟩, ?_⟩, plain_smallTicks 3⟩ <;>
      simp [Move.Admits, Action.Plain, Call.Plain]
  have returned : ∀ m ∈ (muteOpening.session.moves muteMoves).history, m.disturbs = false := by
    decide +kernel
  have jobs : (muteOpening.session.moves muteMoves).loop.jobs.isEmpty = true := by decide +kernel
  refine ⟨scripts, plain, fun g outcome f broke => Bool.noConfusion (returned _ broke),
    ⟨by decide +kernel, fun owner at_ job => ?_, by decide +kernel⟩, ?_⟩
  · rw [List.isEmpty_iff.1 jobs] at job
    cases job
  · decide +kernel

end Session

end Playground
