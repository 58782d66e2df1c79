import Mathlib.Data.List.Induction
import Playground.Proofs.Paces
import Playground.Proofs.Refits

/-!
# Where requests come from

A request is a snapshot. It is taken when the way into the pipeline is open, it may wait behind a
run while the text and the options change, and it is finalized only when its own run begins.
Whatever happens in between, the compiler is asked with the snapshot, and the standard library that
the finalization may add stays within the run.

* `Session.Accepts`, `Snapped` — a move takes a snapshot; one of some moves did.
* `Core.Traces` — the invariant: what is parked and what is run goes back to a snapshot.
* `traces_move`, `traces_moves` — one move extends the snapshots, and the invariant holds after all.
* `Session.settingsOf` — the settings that were applied, in their order.
* `asked_with_snapshot` — what the options are and what compilers are asked.
-/

namespace Playground

open Playground.Core

/-- The request as it is handed to the compiler, with the standard library where its source needs
it. -/
structure Request.Upgraded (probe : Probe) (r final : Request) : Prop where
  source : final.source = r.source
  compiler : final.compiler = r.compiler
  validate : final.options.validate = r.options.validate
  optimize : final.options.optimize = r.options.optimize
  wideAddressMode : final.options.wideAddressMode = r.options.wideAddressMode
  stdlib : final.options.stdlib = true ↔ r.options.stdlib = true ∨ probe.ask r.source = .ok true

/-- **The finalization changes nothing but the standard library, and that only upwards.** -/
theorem Request.upgraded_finalize {probe : Probe} {r final : Request}
    (unjudged : r.finalized = false) (h : r.finalize probe = .ok final) :
    r.Upgraded probe final := by
  unfold finalize at h
  rw [if_neg (by simp [unjudged])] at h
  by_cases wanted : r.options.stdlib = true
  · rw [if_pos wanted] at h
    obtain rfl := Except.ok.inj h
    exact ⟨rfl, rfl, rfl, rfl, rfl, by simp [wanted]⟩
  · rw [if_neg wanted] at h
    cases asked : probe.ask r.source with
    | error f =>
      rw [asked] at h
      cases h
    | ok needed =>
      rw [asked] at h
      obtain rfl := Except.ok.inj h
      have judged : needed = true ↔ probe.ask r.source = .ok true := by
        rw [asked]
        exact ⟨fun h => h ▸ rfl, fun h => Except.ok.inj h⟩
      exact ⟨rfl, rfl, rfl, rfl, rfl, by simpa [wanted] using judged⟩

namespace Core

/-- What is parked goes back to one of the known tickets, and so does what is run: the run was begun
for the ticket, with its request finalized. -/
structure Traces (probe : Probe) (K : Ticket → Prop) (c : Core) : Prop where
  same : c.probe = probe
  parked : ∀ t, c.pending = some t → K t
  staged : ∀ x ∈ c.face.stages, ∃ t, K t ∧
    .began t.number x.2.generation t.request ∈ c.history ∧
      t.request.finalize probe = .ok x.2.request

variable {probe : Probe} {K L : Ticket → Prop} {c d : Core}

theorem Traces.mono (h : c.Traces probe K) (le : ∀ t, K t → L t) : c.Traces probe L where
  same := h.same
  parked t pending := le t (h.parked t pending)
  staged x hx := by
    obtain ⟨t, known, begun, final⟩ := h.staged x hx
    exact ⟨t, le t known, begun, final⟩

/-- The request that waits may be given up, the course goes on, and no run is opened. -/
structure Trails (c d : Core) : Prop where
  later : c.history <:+ d.history
  pending : d.pending = c.pending ∨ d.pending = none
  stages : d.face.stages = c.face.stages
  probe : d.probe = c.probe

theorem Traces.trails (h : c.Traces probe K) (trails : Trails c d) : d.Traces probe K where
  same := trails.probe.trans h.same
  parked t pending := by
    rcases trails.pending with same | gone
    · exact h.parked t (same.symm.trans pending)
    · cases gone.symm.trans pending
  staged x hx := by
    rw [trails.stages] at hx
    obtain ⟨t, known, begun, final⟩ := h.staged x hx
    exact ⟨t, known, trails.later.mem begun, final⟩

theorem Trails.trans {e : Core} (h : Trails c d) (k : Trails d e) : Trails c e where
  later := h.later.trans k.later
  pending := by
    rcases k.pending with same | gone
    · rw [same]
      exact h.pending
    · exact .inr gone
  stages := k.stages.trans h.stages
  probe := k.probe.trans h.probe

theorem Trails.of_eq (h : d = c) : Trails c d := by
  subst h
  exact ⟨List.suffix_refl _, .inl rfl, rfl, rfl⟩

theorem Trails.of_aside (aside : Aside c d) (beside : Beside c d)
    (pending : d.pending = c.pending ∨ d.pending = none) : Trails c d where
  later := beside.later
  pending := pending
  stages := congrArg Face.stages aside.face
  probe := congrArg Face.probe aside.face

/-- A run that is opened for a known ticket goes back to it. -/
theorem Traces.begin (h : c.Traces probe K) {t : Ticket} (known : K t) {final : Request}
    (finalized : t.request.finalize probe = .ok final) (after : After) :
    ((c.begin t).await (some (.staging .announce
      { request := final, generation := c.state.generation + 1 } after))).Traces probe K where
  same := h.same
  parked := h.parked
  staged x hx := by
    have stages : ((c.begin t).await (some (.staging .announce
        { request := final, generation := c.state.generation + 1 } after))).face.stages =
        c.face.stages ++
          [(.announce, { request := final, generation := c.state.generation + 1 })] := by
      show (c.waiting ++ [_]).filterMap Waiting.stage? = _
      rw [List.filterMap_append]
      rfl
    rw [stages] at hx
    rcases List.mem_append.1 hx with hx | hx
    · obtain ⟨t', known', begun, final'⟩ := h.staged x hx
      exact ⟨t', known', List.mem_cons_of_mem _ begun, final'⟩
    · obtain rfl := List.mem_singleton.1 hx
      exact ⟨t, known, List.mem_cons_self, finalized⟩

end Core

namespace Session

variable {P : Action → Prop} {s t u : Session Action} {r : Session Action × Progress}
  {probe : Probe} {K : Ticket → Prop}

/-! ### From the side, and within a stage -/

theorem trails_nudge (h : Nudge P s t) : Trails s.core t.core := by
  refine .of_aside (aside_nudge h) (beside_nudge h) ?_
  rcases books_of_nudge h with books | ⟨m, -, rfl⟩ | rfl
  · exact .inl (congrArg (fun b => b.2.2.1) books)
  · exact .inl rfl
  · exact .inr rfl

theorem trails_nudges (h : Nudges P s t) : Trails s.core t.core := by
  induction h with
  | refl => exact .of_eq rfl
  | tail _ step ih => exact ih.trans (trails_nudge step)

theorem trails_leads (h : Leads P s t) : Trails s.core t.core := by
  refine .of_aside (aside_leads h) (beside_leads h) ?_
  induction h with
  | refl => exact .inl rfl
  | tail _ step ih =>
    cases step with
    | stop => exact .inr rfl
    | _ => exact ih

/-- On the way to a compile no request is numbered. -/
theorem accepted_leads (h : Leads P s t) : t.accepted = s.accepted := by
  induction h with
  | refl => rfl
  | tail _ step ih =>
    refine Eq.trans ?_ ih
    cases step with
    | _ => rfl

theorem trails_work (h : Work P s t) : Trails s.core t.core := by
  cases h with
  | use use =>
    cases use with
    | nudge nudge => exact trails_nudge nudge
    | called => exact ⟨List.suffix_cons _ _, .inl rfl, rfl, rfl⟩
  | «show» => exact ⟨List.suffix_refl _, .inl rfl, rfl, rfl⟩
  | indicate => exact ⟨List.suffix_refl _, .inl rfl, rfl, rfl⟩
  | _ => exact ⟨List.suffix_cons _ _, .inl rfl, rfl, rfl⟩

theorem later_works (h : Works P s t) : s.history <:+ t.history := by
  induction h with
  | refl => exact List.suffix_refl _
  | tail _ step ih => exact ih.trans (trails_work step).later

theorem trails_stepRun (s : Session Action) (stage : Stage) (run : Run) :
    Trails s.core (s.stepRun Session.react stage run).1.core :=
  (worked_stepRun reacts_react (admits_all s) stage run).keeps
    (I := fun u => Trails s.core u.core) (.of_eq rfl)
    (fun _ _ _ _ h => h.trans (.of_eq rfl))
    (fun _ _ _ h => h.trans ⟨List.suffix_cons _ _, .inl rfl, rfl, rfl⟩)
    fun _ _ work h => h.trans (trails_work work)

/-! ### Into the pipeline and out of it -/

theorem traces_of_opened {ticket : Ticket} (h : Opened ticket s r) (traces : s.core.Traces probe K)
    (known : K ticket) : (r.1.core.await r.2.waiting?).Traces probe K := by
  cases h with
  | begins final after finalized core next =>
    rw [core, next]
    exact traces.begin known (traces.same ▸ finalized) after
  | breaks f _ core next =>
    rw [core, next, await_none]
    have later : s.history <:+
        ((s.core.begin ticket).breakOff (s.state.generation + 1) none f).history :=
      (List.suffix_cons _ _).trans (List.suffix_cons _ _)
    exact traces.trails ⟨later, .inl rfl, rfl, rfl⟩

/-- The way into the pipeline adds the ticket of the request, if the session takes it. -/
theorem traces_of_entered {draft : Option Draft} (h : Entered draft s r)
    (traces : s.core.Traces probe K) :
    (r.1.core.await r.2.waiting?).Traces probe K ∨
      (r.1.core.await r.2.waiting?).Traces probe
          (fun t => K t ∨ t = ⟨s.accepted, s.requestOf draft⟩) ∧
        .accepted s.accepted (s.requestOf draft) ∈ r.1.history ∧ r.1.state.alive = true ∧
        r.1.state.ready = true ∧ r.1.buildRequest = s.buildRequest := by
  have wider : s.core.Traces probe (fun t => K t ∨ t = ⟨s.accepted, s.requestOf draft⟩) :=
    traces.mono fun _ => .inl
  cases h with
  | ignored _ core next =>
    rw [core, next, await_none]
    exact .inl traces
  | parked alive ready _ core next =>
    have same : r.1.state = s.state := congrArg Core.state core
    refine .inr ⟨?_, ?_, same ▸ alive, same ▸ ready, congrArg (fun st : State =>
      (⟨st.source, st.compiler, st.options, false⟩ : Request)) same⟩
    · rw [core, next, await_none]
      have later : s.history <:+ ((s.core.accept (s.requestOf draft)).park
          ⟨s.accepted, s.requestOf draft⟩).history := (beside_park _ _ s.core).later
      refine ⟨traces.same, fun t pending => ?_, (wider.trails (d := { s.core with
        history := ((s.core.accept (s.requestOf draft)).park
          ⟨s.accepted, s.requestOf draft⟩).history }) ⟨later, .inl rfl, rfl, rfl⟩).staged⟩
      obtain rfl := Option.some.inj pending
      exact .inr rfl
    · rw [show r.1.history = _ from congrArg Core.history core]
      exact (List.suffix_append _ _).mem List.mem_cons_self
  | opened alive ready _ u core opens =>
    have noted : .accepted s.accepted (s.requestOf draft) ∈ u.history := by
      rw [show u.history = _ from congrArg Core.history core]
      exact List.mem_cons_self
    have taken : u.core.Traces probe (fun t => K t ∨ t = ⟨s.accepted, s.requestOf draft⟩) := by
      rw [core]
      exact wider.trails ⟨List.suffix_cons _ _, .inl rfl, rfl, rfl⟩
    have state : u.state = { s.state with compiling := true } := congrArg Core.state core
    have begun : r.1.state.alive = u.state.alive ∧ r.1.state.ready = u.state.ready ∧
        r.1.buildRequest = u.buildRequest := by
      cases opens with
      | begins _ _ _ core' _ =>
        have state' : r.1.state = _ := congrArg Core.state core'
        unfold buildRequest
        rw [state']
        exact ⟨rfl, rfl, rfl⟩
      | breaks _ _ core' _ =>
        have state' : r.1.state = _ := congrArg Core.state core'
        unfold buildRequest
        rw [state']
        exact ⟨rfl, rfl, rfl⟩
    refine .inr ⟨traces_of_opened opens taken (.inr rfl), (later_of_opened opens).mem noted, ?_, ?_,
      ?_⟩
    · rw [begun.1, state]
      exact alive
    · rw [begun.2.1, state]
      exact ready
    · rw [begun.2.2]
      unfold buildRequest
      rw [state]

theorem traces_of_followed (h : Followed s r) (traces : s.core.Traces probe K) :
    (r.1.core.await r.2.waiting?).Traces probe K := by
  cases h with
  | rests _ core next =>
    rw [core, next, await_none]
    exact traces.trails ⟨List.suffix_refl _, .inr rfl, rfl, rfl⟩
  | opened ticket parked alive u core opens =>
    have taken : u.core.Traces probe K := by
      rw [core]
      exact traces.trails ⟨List.suffix_refl _, .inr rfl, rfl, rfl⟩
    exact traces_of_opened opens taken (traces.parked ticket parked)

/-- A step of a run that goes back to a ticket leads on a run that does, or opens another one for
the ticket that was parked. -/
theorem traces_resumeStage {stage : Stage} {run : Run} (after : After)
    (traces : s.core.Traces probe K)
    (own : ∃ t, K t ∧ .began t.number run.generation t.request ∈ s.history ∧
      t.request.finalize probe = .ok run.request) :
    ((s.resumeStage Session.react stage run after).1.core.await
      (s.resumeStage Session.react stage run after).2.waiting?).Traces probe K := by
  have trails := trails_stepRun s stage run
  have stepped := stepped_stepRun reacts_react s stage run
  unfold resumeStage
  rcases hx : s.stepRun Session.react stage run with ⟨v, ⟨next, run'⟩ | ⟨run', fault⟩⟩ <;>
    rw [hx] at trails stepped
  · have alike : run'.generation = run.generation ∧ run'.request = run.request := by
      cases stepped with
      | announced _ _ _ _ _ _ alike => exact ⟨alike.generation, alike.request⟩
      | onward _ _ _ _ _ _ alike => exact ⟨alike.generation, alike.request⟩
    obtain ⟨t, known, begun, final⟩ := own
    have rest := traces.trails trails
    refine ⟨rest.same, rest.parked, fun x hx => ?_⟩
    have stages : (v.core.await (some (.staging next run' after))).face.stages =
        v.core.face.stages ++ [(next, run')] := by
      show (v.waiting ++ [_]).filterMap Waiting.stage? = _
      rw [List.filterMap_append]
      rfl
    replace hx : x ∈ (v.core.await (some (.staging next run' after))).face.stages := hx
    rw [stages] at hx
    rcases List.mem_append.1 hx with hx | hx
    · exact rest.staged x hx
    · obtain rfl := List.mem_singleton.1 hx
      refine ⟨t, known, ?_, ?_⟩
      · rw [alike.1]
        exact trails.later.mem begun
      · rw [alike.2]
        exact final
  · have rest := traces.trails trails
    cases fault with
    | some f =>
      show ((v.core.breakOff run'.generation run'.outcome f).await none).Traces probe K
      rw [await_none]
      exact rest.trails ⟨List.suffix_cons _ _, .inl rfl, rfl, rfl⟩
    | none =>
      have ended : (v.mark (.ended run'.generation run'.outcome)).core.Traces probe K :=
        rest.trails ⟨List.suffix_cons _ _, .inl rfl, rfl, rfl⟩
      exact traces_of_followed (followed_nextRun after _) ended

/-! ### Moves -/

/-- The request that a coroutine brings along when a move goes on with it. -/
def brings? (m : Move) (s : Session Action) : Option Draft :=
  match s.goesOn? m with
  | some (.fresh (.compile draft)) => draft
  | _ => none

/-- A move takes a request: the session is alive and ready, and unless the request was brought
along, it is the snapshot of the text, the compiler and the options at that moment. -/
structure Accepts (s : Session Action) (m : Move) (t : Ticket) : Prop where
  number : t.number = s.accepted
  noted : .accepted t.number t.request ∈ (s.move m).history
  alive : (s.move m).state.alive = true
  ready : (s.move m).state.ready = true
  snapshot : s.brings? m = none → t.request = (s.move m).buildRequest

/-- **What a move parks or runs goes back to a snapshot that was known, or that the move takes.** -/
theorem traces_move (traces : s.core.Traces probe K) (m : Move) :
    (s.move m).core.Traces probe fun t => K t ∨ s.Accepts m t := by
  have wider {c : Core} (h : c.Traces probe K) : c.Traces probe fun t => K t ∨ s.Accepts m t :=
    h.mono fun _ => .inl
  rcases resumed_or_spared m s with ⟨at_, u, goesOn, resumed⟩ | ⟨-, spared⟩
  · obtain ⟨⟨lasting, -, front, popped, core⟩, -⟩ := resumed
    have accepted : u.accepted = s.accepted := congrArg Core.accepted popped
    -- the stage of the coroutine that goes on is the first, if it waits in one
    have split : s.core.face.stages = at_.stage?.toList ++ u.core.face.stages := by
      show s.waiting.filterMap Waiting.stage? = _
      rw [front, List.filterMap_cons]
      cases at_.stage? <;> rfl
    have taken : u.core.Traces probe K := by
      refine ⟨popped ▸ traces.same, fun t pending => traces.parked t ?_, fun x hx => ?_⟩
      · rw [popped] at pending
        exact pending
      · obtain ⟨t, known, begun, final⟩ :=
          traces.staged x (split ▸ List.mem_append_right _ hx)
        exact ⟨t, known, popped ▸ begun, final⟩
    rcases led_or_staging (fun _ => True) (s := u) lasting with
      ⟨outside, led⟩ | ⟨stage, run, after, rfl⟩
    · cases led with
      | rests lead next _ =>
        rw [core, next, await_none]
        exact wider (taken.trails (trails_leads lead))
      | loads lead compiler left ending purpose next =>
        rw [core, next]
        exact wider ((taken.trails (trails_leads lead)).trails
          (.of_aside (aside_await _ rfl) ((Does.refl _).await _) (.inl rfl)))
      | enters v draft after lead asked eq =>
        have entered := entered_enterCompile draft after v
        rw [← eq] at entered
        rcases traces_of_entered entered (taken.trails (trails_leads lead)) with
          same | ⟨more, noted, alive, ready, built⟩
        · rw [core]
          exact wider same
        · rw [core]
          refine more.mono fun t => Or.imp id ?_
          rintro rfl
          have state : (s.move m).state = (u.resume Session.react at_).1.state :=
            congrArg Core.state core
          have history : (s.move m).history = (u.resume Session.react at_).1.history :=
            congrArg Core.history core
          refine ⟨(accepted_leads lead).trans accepted, history ▸ noted, state ▸ alive,
            state ▸ ready, fun unbrought => ?_⟩
          have none : draft = none := by
            rcases asked with none | called
            · exact none
            · obtain rfl := Waiting.fresh_of_call called
              simpa [brings?, goesOn] using unbrought
          rw [none]
          refine built.symm.trans ?_
          unfold buildRequest
          rw [state]
    · rw [core]
      refine wider (traces_resumeStage after taken ?_)
      obtain ⟨t, known, begun, final⟩ :=
        traces.staged (stage, run) (by simp [split, Waiting.stage?])
      have history : u.history = s.history := congrArg Core.history popped
      exact ⟨t, known, history ▸ begun, final⟩
  · cases spared with
    | acted nudges => exact wider (traces.trails (trails_nudges nudges))
    | kept core _ => exact wider (traces.trails (.of_eq core))
    | awaits call armed core _ =>
      refine wider (traces.trails ?_)
      rw [core]
      have disarmed : Aside s.core { s.core with armed := armed } := .of_face rfl rfl rfl rfl
      have disarmed' : Beside s.core { s.core with armed := armed } := .of_state rfl rfl rfl
      exact .of_aside (disarmed.after (aside_await _ rfl)) (disarmed'.await _) (.inl rfl)

end Session

def Snapped (o : Opening) (ms : List Move) (t : Ticket) : Prop :=
  ∃ ms₁ m ms₂, ms = ms₁ ++ m :: ms₂ ∧ (o.session.moves ms₁).Accepts m t

theorem Snapped.append {o : Opening} {ms : List Move} {t : Ticket} (h : Snapped o ms t)
    (later : List Move) : Snapped o (ms ++ later) t := by
  obtain ⟨ms₁, m, ms₂, rfl, accepts⟩ := h
  exact ⟨ms₁, m, ms₂ ++ later, by simp, accepts⟩

namespace Session

variable {s : Session Action}

/-- **Whatever is parked or run goes back to a snapshot.** -/
theorem traces_moves (o : Opening) (ms : List Move) :
    (o.session.moves ms).core.Traces o.probe (Snapped o ms) := by
  induction ms using List.reverseRecOn with
  | nil => exact ⟨rfl, nofun, fun x hx => absurd hx List.not_mem_nil⟩
  | append_singleton ms m ih =>
    rw [moves_concat]
    refine (traces_move ih m).mono fun t => ?_
    rintro (known | accepts)
    · exact known.append [m]
    · exact ⟨ms, m, [], rfl, accepts⟩

/-! ### Options -/

def setting? (m : Move) (s : Session Action) : Option (String × Value) :=
  (s.goesOn? m).bind s.settingAt?

/-- The settings that moves apply, in their order. -/
def settingsOf : List Move → Session Action → List (String × Value)
  | [], _ => []
  | m :: ms, s => (s.setting? m).toList ++ settingsOf ms (s.move m)

end Session

/-- The options with a setting applied, if it can be. -/
def Options.apply (o : Options) (setting : String × Value) : Options :=
  match o.replace setting.1 setting.2 with
  | .ok options => options
  | .error _ => o

namespace Session

variable {s : Session Action}

theorem options_move (m : Move) (s : Session Action) :
    (s.move m).state.options = (s.setting? m).toList.foldl Options.apply s.state.options := by
  unfold setting?
  rcases resumed_or_spared m s with ⟨at_, u, goesOn, resumed⟩ | ⟨goesOn, spared⟩
  · have refits := resumed.refits
    rw [goesOn, Option.bind_some]
    rw [show (s.move m).state.options = (u.resume Session.react at_).1.state.options from
      congrArg Outfit.options resumed.outfit]
    cases refits with
    | keeps _ unset _ calls _ outfit _ =>
      rw [unset]
      exact congrArg Outfit.options outfit
    | sets _ key value options set _ replaced outfit _ =>
      rw [set]
      have applied : Options.apply s.state.options (key, value) = options := by
        unfold Options.apply
        rw [replaced]
      exact (congrArg Outfit.options outfit).trans applied.symm
    | shows _ compiler version chosen _ outfit _ =>
      rw [unset_of_chooses chosen]
      exact congrArg Outfit.options outfit
    | waits _ _ _ loading outfit _ =>
      rw [unset_of_loading loading]
      exact congrArg Outfit.options outfit
    | fits _ _ loading outfit _ =>
      rw [unset_of_loading loading]
      exact congrArg Outfit.options outfit
    | fails _ _ _ loading _ outfit _ =>
      rw [unset_of_loading loading]
      exact congrArg Outfit.options outfit
  · rw [goesOn]
    exact congrArg Outfit.options spared.outfit

/-- **The options are the first ones, with the settings that were applied since.** -/
theorem options_moves (ms : List Move) (s : Session Action) :
    (s.moves ms).state.options = (settingsOf ms s).foldl Options.apply s.state.options := by
  induction ms generalizing s with
  | nil => rfl
  | cons m ms ih =>
    show ((s.move m).moves ms).state.options = _
    rw [ih, options_move m s, settingsOf, List.foldl_append]

/-! ### What compilers are asked -/

/-- A compile call that is noted was made in one of the moves. -/
theorem asks_of_call (o : Opening) (ms : List Move) {call : String × String × Options}
    (h : call ∈ (o.session.moves ms).outfit.calls) :
    ∃ ms₁ m ms₂ run, ms = ms₁ ++ m :: ms₂ ∧ (o.session.moves ms₁).asks? m = some run ∧
      call = (run.request.compiler, run.request.source, run.request.options) := by
  induction ms using List.reverseRecOn with
  | nil => cases h
  | append_singleton ms m ih =>
    have earlier (h : call ∈ (o.session.moves ms).outfit.calls) :
        ∃ ms₁ m' ms₂ run, ms ++ [m] = ms₁ ++ m' :: ms₂ ∧
          (o.session.moves ms₁).asks? m' = some run ∧
          call = (run.request.compiler, run.request.source, run.request.options) := by
      obtain ⟨ms₁, m', ms₂, run, rfl, asks, eq⟩ := ih h
      exact ⟨ms₁, m', ms₂ ++ [m], run, by simp, asks, eq⟩
    rw [moves_concat, calls_move] at h
    cases asks : (o.session.moves ms).asks? m with
    | none =>
      rw [asks] at h
      exact earlier h
    | some run =>
      rw [asks] at h
      unfold noting at h
      simp only at h
      split at h
      · rcases List.mem_cons.1 h with rfl | h
        · exact ⟨ms, m, [], run, rfl, asks, rfl⟩
        · exact earlier h
      · exact earlier h

/-- **Compilers are asked with the snapshots of the requests.** Whatever options are set, whatever
is edited and whichever compiler is chosen, the options are the first ones with the settings applied
that succeeded. And whenever a compiler is asked, one of the moves took the request: if it was not
brought along, it is the snapshot of the session at that moment, and the compiler gets it with
nothing changed but the standard library, which is added where the text needs it. -/
theorem asked_with_snapshot (o : Opening) (ms : List Move) :
    let s := o.session.moves ms
    s.state.options = (settingsOf ms o.session).foldl Options.apply o.settings.options ∧
      (∀ m run, s.asks? m = some run → ∃ t ms₁ m' ms₂, ms = ms₁ ++ m' :: ms₂ ∧
        (o.session.moves ms₁).Accepts m' t ∧
        .began t.number run.generation t.request ∈ s.history ∧
        ((o.session.moves ms₁).brings? m' = none →
          t.request = (o.session.moves (ms₁ ++ [m'])).buildRequest ∧
          t.request.Upgraded o.probe run.request)) ∧
      ∀ call ∈ s.journal.filterMap Effect.compile?, ∃ ms₁ m ms₂ run, ms = ms₁ ++ m :: ms₂ ∧
        (o.session.moves ms₁).asks? m = some run ∧
        call = (run.request.compiler, run.request.source, run.request.options) := by
  intro s
  refine ⟨options_moves ms o.session, fun m run asks => ?_, fun call h => asks_of_call o ms h⟩
  have traces : s.core.Traces o.probe (Snapped o ms) := traces_moves o ms
  obtain ⟨staged, -, -⟩ := staged_of_asks asks
  obtain ⟨t, ⟨ms₁, m', ms₂, split, accepts⟩, begun, finalized⟩ := traces.staged _ staged
  refine ⟨t, ms₁, m', ms₂, split, accepts, begun, fun unbrought => ?_⟩
  have snapshot := accepts.snapshot unbrought
  have unjudged : t.request.finalized = false := by
    rw [snapshot]
    rfl
  refine ⟨moves_concat o.session ms₁ m' ▸ snapshot, ?_⟩
  exact Request.upgraded_finalize unjudged finalized

end Session

end Playground
