import Playground.Proofs.Availability

/-!
# When a session is usable

A loading that ends well makes a session ready, and a start whose loading fails takes that back,
unless the failure cannot even be noted; nothing else does either. The backend of a compiler that
was loaded once stays, so that a switch to it finds it there and answers yes, even if the last start
has failed and the session is not ready.

* `Session.verdict?`, `Session.latestVerdict?` — what a move makes of the readiness, and the latest
  word on it.
* `ready_moves` — a session is as ready as the latest verdict says.
* `Waiting.reply?`, `Progress.reply?`, `reply_resume` — what a call is going to answer, and when it
  says yes.
* `Vouched`, `vouched_moves` — the invariant: no call says yes before a loading has ended well.
* `Session.available?`, `switches_of_available` — switches that find their compiler.
* `available_usable` — what becomes of them and of their compiles.
* `available_unusable` — one in a session that is not ready.
-/

namespace Playground

open Playground.Core Playground.Clock

/-! ### The readiness -/

def LoadPurpose.isStart : LoadPurpose → Bool
  | .start => true
  | .startUp => true
  | .switchCompiler => false

/-- Can the failure of a loading be noted in the log? -/
def Fault.isNoted (f : Fault) : Bool := f.isUnknownCompiler || f.isWorded

def Waiting.purpose? : Waiting → Option LoadPurpose
  | .fresh .start => some .start
  | .fresh .startUp => some .startUp
  | .fresh (.switchCompiler _) => some .switchCompiler
  | .loading _ _ _ purpose => some purpose
  | _ => none

namespace Session

variable {s t : Session Action}

/-- What a coroutine that goes on makes of the readiness: a loading that ends well makes the session
ready, and a start whose loading fails takes that back. -/
def verdictAt? (at_ : Waiting) (s : Session Action) : Option Bool :=
  match s.loadingAt? at_ with
  | some (_, 0, none) => some true
  | some (_, 0, some f) =>
    if f.isNoted && at_.purpose?.any LoadPurpose.isStart then some false else none
  | _ => none

def verdict? (m : Move) (s : Session Action) : Option Bool := (s.goesOn? m).bind s.verdictAt?

def latestVerdict? : List Move → Session Action → Option Bool
  | [], _ => none
  | m :: ms, s => (latestVerdict? ms (s.move m)).or (s.verdict? m)

theorem latestVerdict?_concat (ms : List Move) (m : Move) (s : Session Action) :
    s.latestVerdict? (ms ++ [m]) = ((s.moves ms).verdict? m).or (s.latestVerdict? ms) := by
  induction ms generalizing s with
  | nil => simp [latestVerdict?, moves]
  | cons n ms ih =>
    show ((s.move n).latestVerdict? (ms ++ [m])).or (s.verdict? n) = _
    rw [ih, Option.or_assoc]
    rfl

theorem ready_afterLoad (purpose : LoadPurpose) (compiler : String) (s : Session Action) :
    (s.afterLoad purpose compiler false).1.state.ready = (!purpose.isStart && s.state.ready) := by
  cases purpose with
  | switchCompiler => exact congrArg Outfit.ready (outfit_enterCompile none (.answer false) s)
  | start => rfl
  | startUp => rfl

theorem ready_endLoad (compiler : String) (f : Fault) (purpose : LoadPurpose)
    (s : Session Action) :
    (s.endLoad compiler (some f) purpose).1.state.ready =
      (!(f.isNoted && purpose.isStart) && s.state.ready) := by
  unfold endLoad Fault.isNoted Fault.isWorded Fault.headline
  simp only
  cases f.isUnknownCompiler with
  | true => exact ready_afterLoad purpose compiler _
  | false =>
    cases f.wording with
    | ok text => exact ready_afterLoad purpose compiler _
    | error why => rfl

theorem ready_load {compiler : String} {f : Fault} (prospect : s.prospect compiler = (0, some f))
    (purpose : LoadPurpose) :
    (s.load compiler purpose).1.state.ready =
      (!(f.isNoted && purpose.isStart) && s.state.ready) := by
  unfold Session.prospect at prospect
  unfold load beginLoad
  cases found : s.compiler? compiler with
  | none =>
    rw [found] at prospect
    obtain rfl := Option.some.inj (Prod.mk.inj prospect).2
    exact ready_endLoad compiler _ purpose s
  | some c =>
    rw [found] at prospect
    cases c with
    | bytecode i => cases prospect
    | scripted script =>
      obtain ⟨left, ending⟩ := Prod.mk.inj prospect
      dsimp only
      rw [left, show script.loads.take.1 = some f from ending]
      exact ready_endLoad compiler f purpose _

/-- A loading that fails leaves the readiness to the starts. -/
theorem ready_of_failure {at_ : Waiting} {compiler : String} {f : Fault}
    (loading : s.loadingAt? at_ = some (compiler, 0, some f)) :
    (s.resume Session.react at_).1.state.ready =
      (!(f.isNoted && at_.purpose?.any LoadPurpose.isStart) && s.state.ready) := by
  cases at_ with
  | loading compiler' left ending purpose =>
    obtain ⟨rfl, rfl, rfl⟩ : compiler' = compiler ∧ left = 0 ∧ ending = some f := by
      simpa [loadingAt?] using loading
    exact ready_endLoad compiler' f purpose s
  | fresh call =>
    cases call with
    | start =>
      obtain ⟨rfl, prospect⟩ := Prod.mk.inj (Option.some.inj loading)
      exact ready_load (s := s.wake) prospect .start
    | startUp =>
      obtain ⟨rfl, prospect⟩ := Prod.mk.inj (Option.some.inj loading)
      exact ready_load (s := s.wake) prospect .startUp
    | switchCompiler compiler' =>
      unfold loadingAt? at loading
      dsimp only at loading
      split at loading
      · cases loading
      next missing =>
        obtain ⟨rfl, prospect⟩ := Prod.mk.inj (Option.some.inj loading)
        unfold resume begin
        dsimp only
        rw [if_neg (show ¬ ((s.cancelTimer.modifyState fun st =>
          { st with compiler := compiler' }).loaded? compiler').isSome = true from missing)]
        exact ready_load (s := s.cancelTimer.modifyState fun st =>
          { st with compiler := compiler' }) prospect .switchCompiler
    | _ => cases loading
  | _ => cases loading

theorem ready_resumed {at_ : Waiting} {u : Session Action} (resumed : Resumed at_ u s t) :
    t.state.ready = (s.verdictAt? at_).getD s.state.ready := by
  have refits := resumed.refits
  have after : t.state.ready = (u.resume Session.react at_).1.state.ready :=
    congrArg Outfit.ready resumed.outfit
  rw [after]
  unfold verdictAt?
  cases refits with
  | keeps idle _ _ _ _ outfit _ =>
    rw [idle]
    exact congrArg Outfit.ready outfit
  | sets idle _ _ _ _ _ _ outfit _ =>
    rw [idle]
    exact congrArg Outfit.ready outfit
  | shows idle _ _ _ _ outfit _ =>
    rw [idle]
    exact congrArg Outfit.ready outfit
  | waits _ _ _ loading outfit _ =>
    rw [loading]
    exact congrArg Outfit.ready outfit
  | fits _ _ loading outfit _ =>
    rw [loading]
    exact congrArg Outfit.ready outfit
  | fails compiler f _ loading _ _ _ =>
    obtain ⟨⟨-, ⟨rest, rfl⟩, -, -, -⟩, -⟩ := resumed
    rw [loading, ready_of_failure (s := s.pop rest) loading]
    simp only
    cases f.isNoted && at_.purpose?.any LoadPurpose.isStart <;> rfl

/-- **Only verdicts change the readiness.** -/
theorem ready_move (m : Move) (s : Session Action) :
    (s.move m).state.ready = (s.verdict? m).getD s.state.ready := by
  unfold verdict?
  rcases resumed_or_spared m s with ⟨at_, u, goesOn, resumed⟩ | ⟨goesOn, spared⟩
  · rw [goesOn]
    exact ready_resumed resumed
  · rw [goesOn]
    exact congrArg Outfit.ready spared.outfit

/-- **A session is as ready as the latest verdict says.** -/
theorem ready_moves (ms : List Move) (s : Session Action) :
    (s.moves ms).state.ready = (s.latestVerdict? ms).getD s.state.ready := by
  induction ms generalizing s with
  | nil => rfl
  | cons m ms ih =>
    show ((s.move m).moves ms).state.ready =
      (((s.move m).latestVerdict? ms).or (s.verdict? m)).getD s.state.ready
    rw [ih, ready_move]
    cases (s.move m).latestVerdict? ms <;> rfl

/-! ### What calls answer -/

end Session

def After.reply? : After → Option Bool
  | .answer b => some b
  | .nothing => none

/-- The answer that a coroutine gives after the run that it waits in. -/
def Waiting.reply? : Waiting → Option Bool
  | .staging _ _ after => after.reply?
  | _ => none

/-- What a coroutine answers after its step, or is known to answer later. -/
def Session.Progress.reply? : Session.Progress → Option Bool
  | .waits at_ => at_.reply?
  | .ends (.ok (.bool b)) => some b
  | _ => none

namespace Session

variable {s t : Session Action} {after : After} {b : Bool}

theorem reply_value (after : After) :
    (Progress.ends (.ok (After.value after))).reply? = after.reply? := by
  cases after <;> rfl

theorem reply_openRun {ticket : Ticket} (h : (s.openRun ticket after).2.reply? = some b) :
    after.reply? = some b := by
  unfold openRun at h
  dsimp only at h
  split at h
  · cases h
  · exact h

theorem reply_nextRun (h : (s.nextRun after).2.reply? = some b) : after.reply? = some b := by
  unfold nextRun at h
  split at h
  · exact (reply_value after).symm.trans h
  · dsimp only at h
    split at h
    · exact reply_openRun h
    · exact (reply_value after).symm.trans h

theorem reply_enterCompile {draft : Option Draft}
    (h : (s.enterCompile draft after).2.reply? = some b) : after.reply? = some b := by
  unfold enterCompile at h
  split at h
  · dsimp only at h
    split at h
    · exact (reply_value after).symm.trans h
    · exact reply_openRun h
  · exact (reply_value after).symm.trans h

theorem reply_resumeStage {stage : Stage} {run : Run}
    (h : (s.resumeStage Session.react stage run after).2.reply? = some b) :
    after.reply? = some b := by
  unfold resumeStage at h
  split at h
  · exact h
  · cases h
  · exact reply_nextRun h

/-- Only a compiler that is there is answered for. -/
theorem reply_afterLoad {purpose : LoadPurpose} {compiler : String} {available : Bool}
    (h : (s.afterLoad purpose compiler available).2.reply? = some true) : available = true := by
  cases available with
  | true => rfl
  | false =>
    cases purpose with
    | switchCompiler =>
      have entered : (s.enterCompile none (.answer false)).2.reply? = some true := h
      cases reply_enterCompile entered
    | start => cases h
    | startUp => cases h

theorem reply_endLoad {compiler : String} {ending : Option Fault} {purpose : LoadPurpose}
    (h : (s.endLoad compiler ending purpose).2.reply? = some true) : ending = none := by
  cases ending with
  | none => rfl
  | some f =>
    unfold endLoad at h
    simp only at h
    split at h
    · cases reply_afterLoad h
    · split at h
      · cases reply_afterLoad h
      · cases h

theorem reply_continueLoad {compiler : String} {left : Nat} {ending : Option Fault}
    {purpose : LoadPurpose}
    (h : (s.continueLoad compiler left ending purpose).2.reply? = some true) :
    left = 0 ∧ ending = none := by
  cases left with
  | zero => exact ⟨rfl, reply_endLoad (s := s) h⟩
  | succ n => cases h

theorem reply_load {compiler : String} {purpose : LoadPurpose}
    (h : (s.load compiler purpose).2.reply? = some true) : s.prospect compiler = (0, none) := by
  unfold load beginLoad at h
  unfold Session.prospect
  cases found : s.compiler? compiler with
  | none =>
    rw [found] at h
    cases reply_endLoad h
  | some c =>
    rw [found] at h
    cases c with
    | bytecode i => rfl
    | scripted script =>
      obtain ⟨left, ending⟩ := reply_continueLoad h
      exact Prod.ext left ending

/-- A coroutine says yes when it was about to, when a loading has ended well, when the compiler that
it chooses is loaded or when the session is ready. -/
theorem reply_resume {at_ : Waiting} (lasting : at_.lasting? = some at_)
    (h : (s.resume Session.react at_).2.reply? = some true) :
    at_.reply? = some true ∨ (∃ compiler, s.loadingAt? at_ = some (compiler, 0, none)) ∨
      (∃ compiler, (s.loaded? compiler).isSome = true) ∨ s.state.ready = true := by
  cases at_ with
  | loading compiler left ending purpose =>
    obtain ⟨rfl, rfl⟩ := reply_continueLoad h
    exact .inr (.inl ⟨compiler, rfl⟩)
  | staging stage run after => exact .inl (reply_resumeStage h)
  | idle => cases lasting
  | fresh call =>
    cases call with
    | start =>
      have prospect := reply_load (s := s.wake) h
      exact .inr (.inl ⟨s.state.compiler, congrArg (fun p => some (s.state.compiler, p)) prospect⟩)
    | startUp =>
      have prospect := reply_load (s := s.wake) h
      exact .inr (.inl ⟨s.state.compiler, congrArg (fun p => some (s.state.compiler, p)) prospect⟩)
    | compile draft => cases reply_enterCompile h
    | click mode =>
      unfold resume begin at h
      dsimp only at h
      split at h
      · split at h
        · cases h
        · cases reply_enterCompile h
      · split at h
        · cases h
        · cases h
        · cases reply_enterCompile h
    | setOption key value =>
      unfold resume begin at h
      dsimp only at h
      split at h
      next ready => exact .inr (.inr (.inr ready))
      next => cases h
    | switchCompiler compiler =>
      unfold resume begin at h
      dsimp only at h
      split at h
      next there => exact .inr (.inr (.inl ⟨compiler, there⟩))
      next missing =>
        have prospect := reply_load h
        refine .inr (.inl ⟨compiler, (if_neg missing).trans ?_⟩)
        exact congrArg (fun p => some (compiler, p)) prospect
    | waitIdle =>
      unfold resume begin waitIdle at h
      dsimp only at h
      split at h <;> cases h
    | shutDown =>
      unfold resume begin waitIdle at h
      dsimp only at h
      split at h <;> cases h
    | turn => cases h

/-! ### Before the first verdict -/

/-- A session is as ready as the latest verdict says, and before the first verdict no compiler is
loaded and no coroutine is about to say yes. -/
structure Vouched (latest : Option Bool) (s : Session Action) : Prop where
  ready : s.state.ready = latest.getD false
  loaded : ∀ compiler, s.outfit.loaded compiler ≠ none → latest ≠ none
  waiting : ∀ at_ ∈ s.waiting, at_.reply? = some true → latest ≠ none

theorem Vouched.of_ready {latest : Option Bool} (h : s.Vouched latest)
    (ready : s.state.ready = true) : latest ≠ none := by
  rintro rfl
  cases h.ready.symm.trans ready

theorem or_ne_none_of_right {β : Type} {a b : Option β} (h : b ≠ none) : a.or b ≠ none := by
  cases a <;> simp [h]

/-- A loading that ends well is a verdict. -/
theorem verdictAt?_of_loaded {at_ : Waiting} {compiler : String}
    (loading : s.loadingAt? at_ = some (compiler, 0, none)) : s.verdictAt? at_ = some true := by
  unfold verdictAt?
  rw [loading]
  rfl

/-- A coroutine that says yes has a verdict to go by, be it its own. -/
theorem Vouched.reply {at_ : Waiting} {u : Session Action} {latest : Option Bool}
    (h : s.Vouched latest) (resumed : Resumed at_ u s t)
    (yes : (u.resume Session.react at_).2.reply? = some true) :
    (s.verdictAt? at_).or latest ≠ none := by
  obtain ⟨⟨lasting, ⟨rest, rfl⟩, front, -, -⟩, -⟩ := resumed
  rcases reply_resume lasting yes with before | ⟨compiler, loading⟩ | ⟨compiler, there⟩ | ready
  · exact or_ne_none_of_right (h.waiting at_ (front ▸ List.mem_cons_self) before)
  · have loaded : s.loadingAt? at_ = some (compiler, 0, none) := loading
    rw [verdictAt?_of_loaded loaded]
    nofun
  · refine or_ne_none_of_right (h.loaded compiler ?_)
    rw [← Option.isSome_iff_ne_none, isSome_loaded]
    exact there
  · exact or_ne_none_of_right (h.of_ready ready)

/-- A compiler that is loaded was loaded before, or a loading has ended well. -/
theorem loaded_of_resumed {at_ : Waiting} {u : Session Action} (resumed : Resumed at_ u s t)
    {compiler : String} (there : t.outfit.loaded compiler ≠ none) :
    s.outfit.loaded compiler ≠ none ∨ ∃ other, s.loadingAt? at_ = some (other, 0, none) := by
  rw [resumed.outfit] at there
  rcases resumed.refits.loaded with same | ⟨other, -, loading, -⟩
  · rw [same] at there
    exact .inl there
  · exact .inr ⟨other, loading⟩

/-- Who waits after a step waited before, was called in it, or made it. -/
theorem waiting_of_resumed {at_ w : Waiting} {u : Session Action} (resumed : Resumed at_ u s t)
    (waits : w ∈ t.waiting) :
    w ∈ u.waiting ∨ (∃ call, w = .fresh call) ∨ (u.resume Session.react at_).2 = .waits w := by
  have hosts : Hosts "" u.core (u.resume Session.react at_).1.core :=
    hosts_resume at_ u
  obtain ⟨calls, called⟩ := hosts.waiting
  have split : t.waiting = (u.waiting ++ calls.map .fresh) ++
      (u.resume Session.react at_).2.waiting?.toList :=
    (congrArg Core.waiting resumed.eq).trans (congrArg (· ++ _) called)
  rw [split, List.mem_append, List.mem_append, Option.mem_toList] at waits
  rcases waits with (old | fresh) | next
  · exact .inl old
  · obtain ⟨call, -, rfl⟩ := List.mem_map.1 fresh
    exact .inr (.inl ⟨call, rfl⟩)
  · refine .inr (.inr ?_)
    cases progress : (u.resume Session.react at_).2 with
    | waits v =>
      rw [progress] at next
      cases v with
      | idle => cases next
      | _ => exact congrArg Progress.waits (Option.some.inj next)
    | gathers =>
      rw [progress] at next
      cases next
    | ends =>
      rw [progress] at next
      cases next

theorem vouched_resumed {at_ : Waiting} {u : Session Action} {latest : Option Bool}
    (h : s.Vouched latest) (resumed : Resumed at_ u s t) :
    t.Vouched ((s.verdictAt? at_).or latest) where
  ready := by
    rw [ready_resumed resumed, h.ready]
    cases s.verdictAt? at_ <;> rfl
  loaded := by
    intro compiler there
    rcases loaded_of_resumed resumed there with before | ⟨other, loading⟩
    · exact or_ne_none_of_right (h.loaded compiler before)
    · rw [verdictAt?_of_loaded loading]
      nofun
  waiting := by
    intro w waits yes
    rcases waiting_of_resumed resumed waits with old | ⟨call, rfl⟩ | next
    · exact or_ne_none_of_right (h.waiting w (resumed.front ▸ List.mem_cons_of_mem _ old) yes)
    · cases yes
    · exact h.reply resumed (next ▸ yes)

theorem vouched_move {latest : Option Bool} (m : Move) (h : s.Vouched latest) :
    (s.move m).Vouched ((s.verdict? m).or latest) := by
  unfold verdict?
  rcases resumed_or_spared m s with ⟨at_, u, goesOn, resumed⟩ | ⟨goesOn, spared⟩
  · rw [goesOn]
    exact vouched_resumed h resumed
  · rw [goesOn]
    refine ⟨(congrArg Outfit.ready spared.outfit).trans h.ready, fun compiler there => ?_,
      fun w waits yes => ?_⟩
    · exact h.loaded compiler (spared.outfit ▸ there)
    · have hosts : Hosts "" s.core (s.move m).core := hosts_of_spared spared
      obtain ⟨calls, called⟩ := hosts.waiting
      rw [show (s.move m).waiting = _ from called, List.mem_append] at waits
      rcases waits with old | fresh
      · exact h.waiting w old yes
      · obtain ⟨call, -, rfl⟩ := List.mem_map.1 fresh
        cases yes

/-- **Before the first verdict no call says yes.** -/
theorem vouched_moves (o : Opening) (ms : List Move) :
    (o.session.moves ms).Vouched (o.session.latestVerdict? ms) := by
  induction ms using List.reverseRecOn with
  | nil =>
    exact ⟨rfl, fun _ there => absurd rfl there, fun _ waits => absurd waits List.not_mem_nil⟩
  | append_singleton ms m ih =>
    rw [moves_concat, latestVerdict?_concat]
    exact vouched_move m ih

/-! ### Switches that find their compiler -/

end Session

def Waiting.switchesTo? : Waiting → Option String
  | .fresh (.switchCompiler compiler) => some compiler
  | .loading compiler _ _ .switchCompiler => some compiler
  | _ => none

namespace Session

variable {s t : Session Action} {r : Session Action × Progress}

/-- The compiler that a coroutine switches to when it goes on and finds it there: it was loaded
before, or its loading ends well. -/
def availableAt? (at_ : Waiting) (s : Session Action) : Option String :=
  match s.loadingAt? at_ with
  | none => at_.switchesTo?
  | some (_, 0, none) => at_.switchesTo?
  | _ => none

def available? (m : Move) (s : Session Action) : Option String := (s.goesOn? m).bind s.availableAt?

/-- The answer that a call gives in a move, at its end. -/
def answers? (m : Move) (s : Session Action) : Option Bool :=
  match m, s.loop.batch with
  | .step, .job (.resume _ at_) :: rest =>
    match ((s.pop rest).resume Session.react at_).2 with
    | .ends (.ok (.bool b)) => some b
    | _ => none
  | _, _ => none

/-- The way that a switch with a compiler that is there takes: a compile of the present text is
asked for, and the answer is yes. -/
structure Switches (compiler : String) (s : Session Action) (r : Session Action × Progress)
    (u : Session Action) : Prop where
  enters : r = u.enterCompile none (.answer true)
  accepted : u.accepted = s.accepted
  loaded : (u.loaded? compiler).isSome = true

theorem switches_endLoad (compiler : String) (s : Session Action) :
    ∃ u, Switches compiler s (s.endLoad compiler none .switchCompiler) u := by
  refine ⟨_, rfl, rfl, ?_⟩
  show ((s.setLoaded compiler (s.freshlyLoaded compiler)).loaded? compiler).isSome = true
  rw [loaded?_setLoaded, if_pos rfl]
  rfl

theorem switches_load {compiler : String} (prospect : s.prospect compiler = (0, none)) :
    ∃ u, Switches compiler s (s.load compiler .switchCompiler) u := by
  have ended (v : Session Action) {left : Nat} {ending : Option Fault}
      (now : (left, ending) = (0, none)) :
      ∃ u, Switches compiler v (v.continueLoad compiler left ending .switchCompiler) u := by
    obtain ⟨rfl, rfl⟩ := Prod.mk.inj now
    exact switches_endLoad compiler v
  unfold Session.prospect at prospect
  unfold load beginLoad
  cases found : s.compiler? compiler with
  | none =>
    rw [found] at prospect
    cases prospect
  | some c =>
    rw [found] at prospect
    cases c with
    | bytecode i => exact ended s rfl
    | scripted script =>
      obtain ⟨u, enters, accepted, loaded⟩ := ended ((s.note (.loaded compiler)).setCompiler
        compiler (.scripted { script with loads := script.loads.take.2 })) prospect
      exact ⟨u, enters, accepted, loaded⟩

/-- A switch finds its compiler if that was loaded before, or if its loading ends well. -/
theorem loading_of_available {at_ : Waiting} {compiler : String}
    (h : s.availableAt? at_ = some compiler) :
    at_.switchesTo? = some compiler ∧
      ∀ x, s.loadingAt? at_ = some x → x.2 = (0, none) := by
  unfold availableAt? at h
  split at h
  next idle => exact ⟨h, fun x loading => by cases idle.symm.trans loading⟩
  next loading => exact ⟨h, fun x same => by cases loading.symm.trans same; rfl⟩
  next => cases h

theorem switches_of_available {at_ : Waiting} {compiler : String}
    (h : s.availableAt? at_ = some compiler) :
    ∃ u, Switches compiler s (s.resume Session.react at_) u := by
  obtain ⟨switches, loading⟩ := loading_of_available h
  cases at_ with
  | fresh call =>
    cases call with
    | switchCompiler other =>
      obtain rfl : other = compiler := Option.some.inj switches
      unfold resume begin
      dsimp only
      by_cases there : (s.loaded? other).isSome = true
      · have there' : ((s.cancelTimer.modifyState fun st =>
          { st with compiler := other }).loaded? other).isSome = true := there
        rw [if_pos there']
        exact ⟨_, rfl, rfl, there⟩
      · have there' : ¬ ((s.cancelTimer.modifyState fun st =>
          { st with compiler := other }).loaded? other).isSome = true := there
        rw [if_neg there']
        have prospect : s.prospect other = (0, none) := loading _ (if_neg there)
        obtain ⟨u, enters, accepted, loaded⟩ := switches_load
          (s := s.cancelTimer.modifyState fun st => { st with compiler := other }) prospect
        exact ⟨u, enters, accepted, loaded⟩
    | _ => cases switches
  | loading other left ending purpose =>
    obtain ⟨rfl, rfl⟩ := Prod.mk.inj (loading _ rfl)
    cases purpose with
    | switchCompiler =>
      obtain rfl : other = compiler := Option.some.inj switches
      exact switches_endLoad other s
    | start => cases switches
    | startUp => cases switches
  | _ => cases switches

/-- A request that is let in is noted, and parked or run. -/
theorem taken_of_entered (h : Entered none s r) (alive : s.state.alive = true)
    (ready : s.state.ready = true) :
    .accepted s.accepted s.buildRequest ∈ r.1.history ∧ r.1.buildRequest = s.buildRequest ∧
      (r.1.pending = some ⟨s.accepted, s.buildRequest⟩ ∨
        ∃ g, .began s.accepted g s.buildRequest ∈ r.1.history) := by
  cases h with
  | ignored turned _ _ => simp [alive, ready] at turned
  | parked _ _ _ core _ =>
    refine ⟨?_, ?_, .inl (congrArg Core.pending core)⟩
    · rw [show r.1.history = _ from congrArg Core.history core]
      exact (List.suffix_append _ _).mem List.mem_cons_self
    · unfold buildRequest
      rw [show r.1.state = s.state from congrArg Core.state core]
  | opened _ _ _ u core opens =>
    have noted : .accepted s.accepted s.buildRequest ∈ u.history := by
      rw [show u.history = _ from congrArg Core.history core]
      exact List.mem_cons_self
    have state : u.state = { s.state with compiling := true } := congrArg Core.state core
    cases opens with
    | begins _ _ _ core' _ =>
      have history : r.1.history =
          .began s.accepted (u.state.generation + 1) s.buildRequest :: u.history :=
        congrArg Core.history core'
      have state' : r.1.state = { u.state with generation := u.state.generation + 1 } :=
        congrArg Core.state core'
      refine ⟨?_, ?_, .inr ⟨u.state.generation + 1, ?_⟩⟩
      · rw [history]
        exact List.mem_cons_of_mem _ noted
      · unfold buildRequest
        rw [state', state]
      · rw [history]
        exact List.mem_cons_self
    | breaks f _ core' _ =>
      have history : r.1.history = .broke (u.state.generation + 1) none f ::
          .began s.accepted (u.state.generation + 1) s.buildRequest :: u.history :=
        congrArg Core.history core'
      have state' : r.1.state = { u.state with
          generation := u.state.generation + 1, compiling := false } := congrArg Core.state core'
      refine ⟨?_, ?_, .inr ⟨u.state.generation + 1, ?_⟩⟩
      · rw [history]
        exact List.mem_cons_of_mem _ (List.mem_cons_of_mem _ noted)
      · unfold buildRequest
        rw [state', state]
      · rw [history]
        exact List.mem_cons_of_mem _ List.mem_cons_self

/-- A call that answers comes from a coroutine that the move goes on with. -/
theorem resumed_of_answers {m : Move} {b : Bool} (h : s.answers? m = some b) :
    ∃ at_ u, s.goesOn? m = some at_ ∧ Resumed at_ u s (s.move m) ∧
      (u.resume Session.react at_).2.reply? = some b := by
  unfold answers? at h
  split at h
  next owner at_ rest batch =>
    have answered : ((s.pop rest).resume Session.react at_).2.reply? = some b := by
      split at h
      next ends =>
        rw [ends]
        exact h
      next => cases h
    have lasting : at_.lasting? = some at_ := by
      cases at_ with
      | idle failure =>
        cases failure with
        | some f => cases answered
        | none =>
          unfold resume waitIdle at answered
          dsimp only at answered
          split at answered <;> cases answered
      | _ => rfl
    have waits : (Job.resume owner at_).waiting? = some at_ := lasting
    have stepped : s.move .step = runJob Session.react (.resume owner at_) (s.pop rest) := by
      show machine.step s = _
      unfold Machine.step
      rw [show (machine.loop s).batch = _ from batch]
      rfl
    refine ⟨at_, s.pop rest, ?_, ?_, answered⟩
    · unfold goesOn?
      rw [batch]
      exact waits
    · rw [stepped]
      exact resumed_runJob batch waits
  next => cases h

/-- A session that is not ready rejects settings, and any other does not. -/
theorem rejected_setOption (key : String) (value : Value) (s : Session Action) :
    (s.begin (.setOption key value)).2 = .ends (.ok (.bool false)) ↔ s.state.ready = false := by
  unfold begin
  cases ready : s.state.ready with
  | false => simp
  | true =>
    simp only [if_true, Bool.true_eq_false, iff_false]
    intro rejected
    split at rejected
    · cases rejected
    · have answered := reply_enterCompile (b := false) (congrArg Progress.reply? rejected)
      cases answered

/-- The compile of a switch that finds its compiler is taken up if the session is ready. -/
theorem taken_of_available {m : Move} {compiler : String}
    (h : s.available? m = some compiler) :
    ((s.move m).loaded? compiler).isSome = true ∧
      ((s.move m).state.alive = true → ((s.move m).state.ready = true ↔
        ∃ ticket, s.Accepts m ticket ∧ ((s.move m).pending = some ticket ∨
          ∃ g, .began ticket.number g ticket.request ∈ (s.move m).history))) := by
  unfold available? at h
  rcases resumed_or_spared m s with ⟨at_, u, goesOn, resumed⟩ | ⟨goesOn, -⟩
  · rw [goesOn, Option.bind_some] at h
    obtain ⟨⟨-, ⟨rest, rfl⟩, -, -, core⟩, outfit⟩ := resumed
    obtain ⟨v, enters, accepted, loaded⟩ := switches_of_available (s := s.pop rest) h
    have entered := entered_enterCompile none (.answer true) v
    have unbooked := unbooked_of_bookings (bookings_enterCompile none (.answer true) v)
    rw [← enters] at entered unbooked
    have state : (s.move m).state = ((s.pop rest).resume Session.react at_).1.state :=
      congrArg Core.state core
    have alive : (s.move m).state.alive = v.state.alive :=
      (congrArg State.alive state).trans (congrArg (·.state.alive) unbooked)
    have ready : (s.move m).state.ready = v.state.ready :=
      (congrArg State.ready state).trans (congrArg (·.state.ready) unbooked)
    refine ⟨?_, fun lives => ⟨fun usable => ?_, fun ⟨_, accepts, _⟩ => accepts.ready⟩⟩
    · rw [← isSome_loaded, outfit, enters, outfit_enterCompile, isSome_loaded]
      exact loaded
    · obtain ⟨noted, built, taken⟩ :=
        taken_of_entered entered (alive.symm.trans lives) (ready.symm.trans usable)
      have history : (s.move m).history = ((s.pop rest).resume Session.react at_).1.history :=
        congrArg Core.history core
      have pending : (s.move m).pending = ((s.pop rest).resume Session.react at_).1.pending :=
        congrArg Core.pending core
      refine ⟨⟨v.accepted, v.buildRequest⟩, ⟨accepted, history ▸ noted, lives, usable,
        fun _ => built.symm.trans ?_⟩, ?_⟩
      · unfold buildRequest
        rw [state]
      · rw [history, pending]
        exact taken
  · rw [goesOn] at h
    cases h

/-- **When a switch finds its compiler, and when any call answers yes, the session is ready, unless
a start has failed since the last loading that ended well.** A session is ready exactly if a loading
that ended well is the latest verdict. Then the compile of the switch is parked or run, and only
then are settings taken. -/
theorem available_usable (o : Opening) (ms : List Move) (m : Move) :
    let s := o.session.moves ms
    let t := s.move m
    let latest := o.session.latestVerdict? (ms ++ [m])
    (t.state.ready = true ↔ latest = some true) ∧
      (s.answers? m = some true → t.state.ready = true ∨ latest = some false) ∧
      (∀ compiler, s.available? m = some compiler →
        (t.loaded? compiler).isSome = true ∧ (t.state.ready = true ∨ latest = some false) ∧
          (t.state.alive = true → (t.state.ready = true ↔
            ∃ ticket, s.Accepts m ticket ∧ (t.pending = some ticket ∨
              ∃ g, .began ticket.number g ticket.request ∈ t.history)))) ∧
      ∀ key value, (t.begin (.setOption key value)).2 = .ends (.ok (.bool false)) ↔
        t.state.ready = false := by
  intro s t latest
  have vouched : t.Vouched latest := by
    have after := vouched_moves o (ms ++ [m])
    rwa [moves_concat] at after
  have settled (judged : latest ≠ none) : t.state.ready = true ∨ latest = some false := by
    rw [vouched.ready]
    cases h : latest with
    | none => exact absurd h judged
    | some b => cases b <;> simp
  refine ⟨?_, fun yes => settled ?_, fun compiler h => ?_, fun key value => rejected_setOption ..⟩
  · rw [vouched.ready]
    cases latest <;> simp
  · obtain ⟨at_, u, goesOn, resumed, answered⟩ := resumed_of_answers yes
    have judged := (vouched_moves o ms).reply resumed answered
    show o.session.latestVerdict? (ms ++ [m]) ≠ none
    rw [latestVerdict?_concat]
    unfold verdict?
    rw [goesOn]
    exact judged
  · obtain ⟨there, taken⟩ := taken_of_available h
    refine ⟨there, settled (vouched.loaded compiler ?_), taken⟩
    rw [← Option.isSome_iff_ne_none, isSome_loaded]
    exact there

/-- A session with a compiler that loads once and never again. -/
def failingOpening : Opening :=
  { plainOpening with compilers := [("CPython", .scripted
      { loads := ⟨none, [some (.foreign "RuntimeError" "no interpreter")]⟩ })] }

/-- The session is started, and after some further moves its compiler is chosen again. -/
def rechosenMoves (again : List Move) : List Move :=
  [.act (.spawn .start)] ++ smallTicks 8 ++ again ++
    [.act (.spawn (.switchCompiler "CPython")), .openTick]

/-- A second start. -/
def restart : List Move := .act (.spawn .start) :: smallTicks 1

theorem available_usable_rechosen :
    let s := failingOpening.session.moves (rechosenMoves [])
    s.available? .step = some "CPython" ∧ ∃ ticket, s.Accepts .step ticket ∧
      ((s.move .step).pending = some ticket ∨
        ∃ g, .began ticket.number g ticket.request ∈ (s.move .step).history) := by
  have available : (failingOpening.session.moves (rechosenMoves [])).available? .step =
      some "CPython" := by decide +kernel
  obtain ⟨-, -, switches, -⟩ := available_usable failingOpening (rechosenMoves []) .step
  obtain ⟨-, -, taken⟩ := switches "CPython" available
  exact ⟨available, (taken (by decide +kernel)).1 (by decide +kernel)⟩

/-- **A switch says that its compiler is there, and the session ignores its compile**, when a second
start has failed before. -/
theorem available_unusable :
    let s := failingOpening.session.moves (rechosenMoves restart)
    let t := s.move .step
    s.available? .step = some "CPython" ∧ s.answers? .step = some true ∧
      t.state.alive = true ∧ t.state.ready = false ∧ t.accepted = s.accepted ∧
        (t.begin (.setOption "stdlib" (.bool true))).2 = .ends (.ok (.bool false)) := by
  have unready : ((failingOpening.session.moves (rechosenMoves restart)).move
      .step).state.ready = false := by decide +kernel
  exact ⟨by decide +kernel, by decide +kernel, by decide +kernel, unready, by decide +kernel,
    (rejected_setOption ..).2 unready⟩

end Session

end Playground
