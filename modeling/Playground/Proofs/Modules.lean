import Playground.Proofs.Paces

/-!
# Modules are disposed exactly once

The module that the compiler hands out belongs to its run: to the notes of the run, and in the last
stage to the stage itself. Any of its calls may fail, the disposal included, and the run may be
given up before any stage. Still no module is called after its disposal, and none is left behind.

* `trailOf` — the calls of one run.
* `Options.planned` — the calls that a module is in for.
* `Carried` — how far they were made.
* `Core.Accounted` — the invariant: every module is held by the one active run, or was disposed.
* `modules_disposed_once` — what becomes of the module of every run.
-/

namespace Playground

open Playground.Core

/-! ### The calls of a run -/

def Milestone.isOf (g : Nat) : Milestone → Bool
  | .asked g' _ => g' = g
  | .called g' _ _ => g' = g
  | _ => false

/-- The calls of the run of this generation, earliest first. -/
def trailOf (g : Nat) (ms : List Milestone) : List Milestone :=
  (ms.filter (Milestone.isOf g)).reverse

def runsOf (ms : List Milestone) : List (Nat × Request) :=
  ms.filterMap fun
    | .began _ g r => some (g, r)
    | _ => none

theorem mem_runsOf {g : Nat} {r : Request} {ms : List Milestone} :
    (g, r) ∈ runsOf ms ↔ ∃ n, .began n g r ∈ ms := by
  unfold runsOf
  rw [List.mem_filterMap]
  constructor
  · rintro ⟨m, hm, eq⟩
    cases m with
    | began n g' r' =>
      obtain ⟨rfl, rfl⟩ := Prod.mk.inj (Option.some.inj eq)
      exact ⟨n, hm⟩
    | _ => cases eq
  · rintro ⟨n, hm⟩
    exact ⟨_, hm, rfl⟩

/-- The calls of a run are deeds. -/
theorem trailOf_deedsOf (g : Nat) (ms : List Milestone) :
    trailOf g (deedsOf ms) = trailOf g ms := by
  unfold trailOf deedsOf
  rw [List.filter_filter]
  refine congrArg List.reverse (List.filter_congr fun m _ => ?_)
  cases m <;> simp [Milestone.isOf, Milestone.isDeed]

theorem Core.Does.trail {ds : List Milestone} {ns : List Notification} {c d : Core}
    (h : Does ds ns c d) (g : Nat) :
    trailOf g d.history = trailOf g c.history ++ ds.filter (Milestone.isOf g) := by
  rw [← trailOf_deedsOf g d.history, h.deeds, ← trailOf_deedsOf g c.history]
  simp [trailOf, List.filter_append, List.filter_reverse]

/-- Only the steps of runs tell of runs. -/
theorem runsOf_of_course {c d : Core} (h : d.face.course = c.face.course) :
    runsOf d.history = runsOf c.history := by
  have only (ms : List Milestone) : runsOf (ms.filter Milestone.ofRun) = runsOf ms :=
    filterMap_of_filter (fun m ofRun => by cases m <;> first | rfl | cases ofRun) ms
  have course := congrArg runsOf h
  simpa only [Core.face, only] using course

theorem runsOf_work {P : Action → Prop} {s t : Session Action} (h : Work P s t) :
    runsOf t.history = runsOf s.history := by
  cases h with
  | use h => exact runsOf_of_course (congrArg Face.course (Session.aside_uses (.single h)).face)
  | _ => rfl

/-- A step of a run begins none. -/
theorem runsOf_stepRun (s : Session Action) (stage : Stage) (run : Run) :
    runsOf (s.stepRun Session.react stage run).1.history = runsOf s.history :=
  (Session.worked_stepRun Session.reacts_react (Session.admits_all s) stage run).keeps
    (I := fun u => runsOf u.history = runsOf s.history) rfl (fun _ _ _ _ h => h)
    (fun _ _ _ h => h) fun _ _ work h => (runsOf_work work).trans h

/-! ### What a module is in for -/

/-- The calls of a module, in their order, before it is disposed. -/
def Options.planned (o : Options) : List ModuleCall :=
  (if o.validate then [.validate] else []) ++ (if o.optimize then [.optimize] else []) ++
    [.emitText, .emitBinary]

def Options.ahead (o : Options) : Stage → List ModuleCall
  | .validate => .validate :: ((if o.optimize then [.optimize] else []) ++ [.emitText, .emitBinary])
  | .optimize => [.optimize, .emitText, .emitBinary]
  | .emit => [.emitText, .emitBinary]
  | _ => []

/-- Which calls are made does not depend on the standard library. -/
theorem planned_finalize {r final : Request} {probe : Probe} (h : r.finalize probe = .ok final) :
    final.options.planned = r.options.planned := by
  unfold Request.finalize at h
  split at h
  · cases h; rfl
  · split at h
    · cases h; rfl
    · split at h <;> cases h
      rfl

theorem ahead_afterInvoke (run : Run) :
    run.request.options.ahead (Session.afterInvoke run) = run.request.options.planned := by
  unfold Session.afterInvoke Session.afterValidate Options.planned
  cases run.request.options.validate <;> cases optimize : run.request.options.optimize <;>
    simp [Options.ahead, optimize]

theorem ahead_validate (run : Run) :
    run.request.options.ahead .validate =
      .validate :: run.request.options.ahead (Session.afterValidate run) := by
  unfold Session.afterValidate
  cases optimize : run.request.options.optimize <;> simp [Options.ahead, optimize]

/-- How far the calls of a module were made: all of them, up to the first that failed, or up to
where the run was given up. A run does not give way between the text and the binary. -/
inductive Carried (g : Nat) (abandoned : Prop) : List ModuleCall → List Milestone → Prop where
  | all : Carried g abandoned [] []
  | next (c : ModuleCall) {rest : List ModuleCall} {ds : List Milestone}
      (h : Carried g abandoned rest ds) :
      Carried g abandoned (c :: rest) (.called g c none :: ds)
  | failed (c : ModuleCall) (rest : List ModuleCall) (f : Fault) :
      Carried g abandoned (c :: rest) [.called g c (some f)]
  | abandoned (h : abandoned) (c : ModuleCall) (rest : List ModuleCall) (yields : c ≠ .emitBinary) :
      Carried g abandoned (c :: rest) []

def flawless (g : Nat) (cs : List ModuleCall) : List Milestone := cs.map fun c => .called g c none

theorem Carried.after {g : Nat} {abandoned : Prop} {rest : List ModuleCall} {ds : List Milestone}
    (h : Carried g abandoned rest ds) (cs : List ModuleCall) :
    Carried g abandoned (cs ++ rest) (flawless g cs ++ ds) := by
  induction cs with
  | nil => exact h
  | cons c cs ih => exact ih.next c

/-- What the calls of a run tell of its module when the run is over. -/
inductive Disposed (g : Nat) (abandoned : Prop) (o : Options) : List Milestone → Prop where
  | unasked : Disposed g abandoned o []
  | refused : Disposed g abandoned o [.asked g false]
  | disposed (ds : List Milestone) (carried : Carried g abandoned o.planned ds)
      (fault : Option Fault) :
      Disposed g abandoned o (.asked g true :: (ds ++ [.called g .dispose fault]))

/-- Is it the disposal of the module of the run of this generation? -/
def Milestone.disposes (g : Nat) : Milestone → Bool
  | .called g' .dispose _ => g' = g
  | _ => false

/-- The calls before the disposal are no disposals. -/
theorem Carried.countP_disposes {g : Nat} {p : Prop} {cs : List ModuleCall} {ds : List Milestone}
    (h : Carried g p cs ds) (plan : .dispose ∉ cs) : ds.countP (Milestone.disposes g) = 0 := by
  have other {c : ModuleCall} (h : c ≠ .dispose) (fault : Option Fault) :
      (Milestone.called g c fault).disposes g = false := by
    cases c <;> first | rfl | exact absurd rfl h
  induction h with
  | all => rfl
  | next c _ ih =>
    have first : c ≠ .dispose := fun same => plan (same ▸ List.mem_cons_self)
    rw [List.countP_cons_of_neg (by simp [other first])]
    exact ih fun hc => plan (List.mem_cons_of_mem _ hc)
  | failed c rest f =>
    have first : c ≠ .dispose := fun same => plan (same ▸ List.mem_cons_self)
    exact List.countP_cons_of_neg (by simp [other first])
  | abandoned => rfl

/-- A module that was handed out is disposed once. -/
theorem Disposed.once {g : Nat} {p : Prop} {o : Options} {ms : List Milestone}
    (h : Disposed g p o (trailOf g ms)) (asked : .asked g true ∈ ms) :
    ms.countP (Milestone.disposes g) = 1 := by
  have counted : (trailOf g ms).countP (Milestone.disposes g) =
      ms.countP (Milestone.disposes g) := by
    rw [trailOf, List.countP_reverse, List.countP_filter]
    refine List.countP_congr fun m _ => ?_
    cases m with
    | called g' call _ => cases call <;> simp [Milestone.disposes, Milestone.isOf]
    | _ => simp [Milestone.disposes]
  have produced : .asked g true ∈ trailOf g ms := by
    unfold trailOf
    rw [List.mem_reverse, List.mem_filter]
    exact ⟨asked, by simp [Milestone.isOf]⟩
  rw [← counted]
  generalize trailOf g ms = trail at h produced
  cases h with
  | unasked => cases produced
  | refused => simp at produced
  | disposed ds carried fault =>
    have none := carried.countP_disposes (by unfold Options.planned; split <;> split <;> simp)
    rw [List.countP_cons_of_neg (by simp [Milestone.disposes]), List.countP_append, none]
    simp [Milestone.disposes]

/-- What they tell while the run waits before a stage and holds its module. -/
inductive Holds (g : Nat) (o : Options) : Stage → Option Module → List Milestone → Prop where
  | fresh (stage : Stage) (early : stage = .announce ∨ stage = .invoke) : Holds g o stage none []
  | refused : Holds g o .reject none [.asked g false]
  | holding (stage : Stage) (m : Module) (cs : List ModuleCall) (later : o.ahead stage ≠ [])
      (plan : o.planned = cs ++ o.ahead stage) :
      Holds g o stage (some m) (.asked g true :: flawless g cs)

theorem Disposed.mono {g : Nat} {p q : Prop} {o o' : Options} {ds : List Milestone}
    (h : Disposed g p o ds) (weaker : p → q) (plan : o'.planned = o.planned) :
    Disposed g q o' ds := by
  have carried {cs : List ModuleCall} {es : List Milestone} (h : Carried g p cs es) :
      Carried g q cs es := by
    induction h with
    | all => exact .all
    | next c _ ih => exact ih.next c
    | failed c rest f => exact .failed c rest f
    | abandoned h c rest yields => exact .abandoned (weaker h) c rest yields
  cases h with
  | unasked => exact .unasked
  | refused => exact .refused
  | disposed ds h fault => exact .disposed ds (plan ▸ carried h) fault

/-! ### Steps of the active run -/

section

theorem filter_own {g : Nat} {ds : List Milestone} (own : ∀ e ∈ ds, e.isOf g = true) :
    ds.filter (Milestone.isOf g) = ds := List.filter_eq_self.2 own

/-- No call belongs to two runs. -/
theorem filter_others {g : Nat} {ds : List Milestone} (own : ∀ e ∈ ds, e.isOf g = true) (g' : Nat)
    (other : g' ≠ g) : ds.filter (Milestone.isOf g') = [] := by
  refine List.filter_eq_nil_iff.2 fun e he same => other ?_
  have isOf := own e he
  cases e with
  | asked | called => exact (of_decide_eq_true same).symm.trans (of_decide_eq_true isOf)
  | _ => cases isOf

variable {run : Run} {stage : Stage} {ds rs trail : List Milestone} {m : Option Module}

/-- The calls of a stage are those of its run. -/
theorem Calls.own {result : Except Fault (Option Stage)} (h : Calls run stage ds m result) :
    ∀ e ∈ ds, e.isOf run.generation = true := by
  cases h with
  | emitted _ _ _ emission _ _ _ => cases emission <;> simp [Milestone.isOf]
  | _ => simp [Milestone.isOf]

/-- What leads up to the end of a run calls no other. -/
theorem Halts.filter_others (h : Halts stage run ds m) (g' : Nat) (other : g' ≠ run.generation) :
    ds.filter (Milestone.isOf g') = [] := by
  cases h with
  | called _ _ _ calls _ => exact Playground.filter_others calls.own g' other
  | _ => rfl

theorem Releases.own (h : Releases run.generation m rs) :
    ∀ e ∈ rs, e.isOf run.generation = true := by
  cases h <;> simp [Milestone.isOf]

/-- A stage that leads to another makes the next calls of the plan, without a fault. -/
theorem Holds.onward {next : Stage}
    (h : Holds run.generation run.request.options stage run.module trail)
    (calls : Calls run stage ds m (.ok (some next))) :
    Holds run.generation run.request.options next m (trail ++ ds) := by
  generalize held : run.module = own at h
  cases calls with
  | emitted _ _ _ _ _ _ last => exact absurd rfl (last _)
  | rejected =>
    cases h with
    | fresh => exact held ▸ .refused
    | holding _ _ _ later => exact absurd rfl later
  | produced m =>
    cases h with
    | fresh =>
      have plan := ahead_afterInvoke run
      refine .holding _ m [] ?_ plan.symm
      rw [plan]
      simp [Options.planned]
    | holding _ _ _ later => exact absurd rfl later
  | validated =>
    cases h with
    | fresh _ early => rcases early with h | h <;> cases h
    | holding _ m cs _ plan =>
      rw [ahead_validate] at plan
      have later : run.request.options.ahead (Session.afterValidate run) ≠ [] := by
        unfold Session.afterValidate
        cases run.request.options.optimize <;> simp [Options.ahead]
      have after := Holds.holding (g := run.generation) _ m (cs ++ [.validate]) later
        (by simp [plan])
      simpa [flawless, held] using after
  | optimized m =>
    cases h with
    | fresh _ early => rcases early with h | h <;> cases h
    | holding _ _ cs _ plan =>
      have after := Holds.holding (g := run.generation) (o := run.request.options) .emit m
        (cs ++ [.optimize]) (by simp [Options.ahead]) (by simp [plan, Options.ahead])
      simpa [flawless] using after

/-- The calls of the last stage are those that were ahead, up to the first that failed. -/
theorem Calls.carried {result : Except Fault (Option Stage)} (abandoned : Prop)
    (calls : Calls run stage ds m result) (last : ∀ next, result ≠ .ok (some next))
    (later : run.request.options.ahead stage ≠ []) (held : run.module.isSome = true)
    (releases : Releases run.generation m rs) :
    ∃ es fault, Carried run.generation abandoned (run.request.options.ahead stage) es ∧
      ds ++ rs = es ++ [.called run.generation .dispose fault] := by
  cases calls with
  | unasked => exact absurd rfl later
  | failed => exact absurd rfl later
  | rejected => exact absurd rfl (last _)
  | produced => exact absurd rfl (last _)
  | validated => exact absurd rfl (last _)
  | optimized => exact absurd rfl (last _)
  | missing _ _ _ none =>
    rw [none] at held
    cases held
  | invalid f e =>
    obtain ⟨m, eq⟩ := Option.isSome_iff_exists.1 held
    rw [eq] at releases
    cases releases with
    | disposed m fault => exact ⟨_, fault, .failed .validate _ f, rfl⟩
  | unoptimized m f e =>
    cases releases with
    | disposed m fault => exact ⟨_, fault, .failed .optimize _ f, rfl⟩
  | emitted _ _ es emission fault _ _ =>
    cases releases
    refine ⟨es, fault, ?_, List.append_nil _⟩
    cases emission with
    | text f => exact .failed .emitText _ f
    | both fault =>
      cases fault with
      | none => exact .next .emitText (.next .emitBinary .all)
      | some f => exact .next .emitText (.failed .emitBinary _ f)

/-- When no stage follows, the module that was handed out is disposed. -/
theorem Holds.halts (abandoned : Prop)
    (h : Holds run.generation run.request.options stage run.module trail)
    (halts : Halts stage run ds m) (releases : Releases run.generation m rs) :
    Disposed run.generation abandoned run.request.options
      (trail ++ (ds.filter (Milestone.isOf run.generation) ++ rs)) := by
  generalize held : run.module = own at h
  cases h with
  | fresh _ early =>
    cases halts with
    | reported rejects => rcases early with h | h <;> cases h.symm.trans rejects
    | unheard =>
      rw [held] at releases
      cases releases
      exact .unasked
    | called _ _ _ calls last =>
      rw [filter_own calls.own]
      rcases early with rfl | rfl
      · exact absurd rfl calls.later
      · cases calls with
        | unasked =>
          rw [held] at releases
          cases releases
          exact .unasked
        | failed =>
          rw [held] at releases
          cases releases
          exact .refused
        | missing =>
          cases releases
          exact .unasked
        | rejected => exact absurd rfl (last _)
        | produced => exact absurd rfl (last _)
  | refused =>
    have none : m = none ∧ ds.filter (Milestone.isOf run.generation) = [] := by
      cases halts with
      | called _ _ _ calls _ =>
        cases calls with
        | missing => exact ⟨rfl, rfl⟩
      | _ => exact ⟨held, rfl⟩
    obtain ⟨rfl, empty⟩ := none
    cases releases
    rw [empty]
    exact .refused
  | holding _ own cs later plan =>
    cases halts with
    | reported rejects =>
      subst rejects
      exact absurd rfl later
    | unheard first =>
      subst first
      exact absurd rfl later
    | called _ _ _ calls last =>
      rw [filter_own calls.own]
      obtain ⟨es, fault, carried, eq⟩ :=
        calls.carried abandoned last later (by simp [held]) releases
      have made := carried.after cs
      rw [← plan] at made
      have disposed := Disposed.disposed _ made fault
      rwa [List.append_assoc, ← eq] at disposed

/-- A run that is given up disposes its module before the next call. -/
theorem Holds.givenUp {abandoned : Prop} (gone : abandoned)
    (h : Holds run.generation run.request.options stage run.module trail)
    (releases : Releases run.generation run.module rs) :
    Disposed run.generation abandoned run.request.options (trail ++ rs) := by
  generalize run.module = own at h releases
  cases h with
  | fresh =>
    cases releases
    exact .unasked
  | refused =>
    cases releases
    exact .refused
  | holding _ own cs later plan =>
    cases releases with
    | disposed _ fault =>
      have rest : Carried run.generation abandoned (run.request.options.ahead stage) [] := by
        cases stage with
        | validate => exact .abandoned gone .validate _ nofun
        | optimize => exact .abandoned gone .optimize _ nofun
        | emit => exact .abandoned gone .emitText _ nofun
        | _ => exact absurd rfl later
      have made := rest.after cs
      rw [← plan, List.append_nil] at made
      exact .disposed _ made fault

end

/-! ### All runs -/

/-- The run of this generation was over without an outcome in a session that was stopped. -/
def Abandoned (g : Nat) (ms : List Milestone) : Prop :=
  ∃ later m earlier, ms = later ++ m :: earlier ∧ m.IsEnd g none ∧ lives earlier = false

theorem Abandoned.later {g : Nat} {old new : List Milestone} (h : Abandoned g old)
    (later : old <:+ new) : Abandoned g new := by
  obtain ⟨more, rfl⟩ := later
  obtain ⟨between, m, earlier, rfl, isEnd, dead⟩ := h
  exact ⟨more ++ between, m, earlier, (List.append_assoc ..).symm, isEnd, dead⟩

namespace Core

/-- The modules of all runs are accounted for; `active` are the runs that are in the pipeline. -/
structure Accounted (active : List (Stage × Run)) (c : Core) : Prop where
  bounded : ∀ p ∈ runsOf c.history, p.1 ≤ c.state.generation
  owned : ∀ g, (∀ r, (g, r) ∉ runsOf c.history) → trailOf g c.history = []
  past : ∀ p ∈ runsOf c.history, (∀ x ∈ active, x.2.generation ≠ p.1) →
    Disposed p.1 (Abandoned p.1 c.history) p.2.options (trailOf p.1 c.history)
  present : ∀ x ∈ active,
    Holds x.2.generation x.2.request.options x.1 x.2.module (trailOf x.2.generation c.history) ∧
      (∃ r, (x.2.generation, r) ∈ runsOf c.history) ∧
      ∀ r, (x.2.generation, r) ∈ runsOf c.history →
        r.options.planned = x.2.request.options.planned

/-- The run of one generation makes some calls. -/
structure Advances (g : Nat) (ds : List Milestone) (c d : Core) : Prop where
  later : c.history <:+ d.history
  runs : runsOf d.history = runsOf c.history
  generation : d.state.generation = c.state.generation
  own : trailOf g d.history = trailOf g c.history ++ ds
  others : ∀ g', g' ≠ g → trailOf g' d.history = trailOf g' c.history

variable {c d : Core} {active : List (Stage × Run)} {stage next : Stage} {run run' : Run}
  {ds : List Milestone}

/-- What is done shows which calls are made. -/
theorem Does.advances {g : Nat} {es : List Milestone} {ns : List Notification}
    (does : Does es ns c d) (runs : runsOf d.history = runsOf c.history)
    (generation : d.state.generation = c.state.generation) (own : es.filter (Milestone.isOf g) = ds)
    (others : ∀ g', g' ≠ g → es.filter (Milestone.isOf g') = []) : Advances g ds c d where
  later := does.later
  runs := runs
  generation := generation
  own := own ▸ does.trail g
  others g' other := by rw [does.trail, others g' other, List.append_nil]

/-- The notifications that a run takes back are no calls. -/
theorem Advances.of_entering {g : Nat} (h : Advances g ds (c.entering stage) d) :
    Advances g ds c d := by
  unfold entering at h
  split at h
  · exact ⟨h.later, h.runs, h.generation, h.own, h.others⟩
  · exact h

theorem Accounted.owned_advances (h : c.Accounted [(stage, run)])
    (advances : Advances run.generation ds c d) :
    ∀ g, (∀ r, (g, r) ∉ runsOf d.history) → trailOf g d.history = [] := by
  intro g never
  obtain ⟨-, ⟨r, began⟩, -⟩ := h.present (stage, run) (List.mem_singleton.2 rfl)
  rw [advances.runs] at never
  have other : g ≠ run.generation := fun same => never r (same ▸ began)
  exact (advances.others g other).trans (h.owned g never)

/-- Whatever makes no calls and begins no run leaves all modules accounted for. -/
theorem Accounted.beside (h : c.Accounted active) (beside : Beside c d)
    (runs : runsOf d.history = runsOf c.history)
    (generation : d.state.generation = c.state.generation) : d.Accounted active := by
  have trail (g : Nat) : trailOf g d.history = trailOf g c.history := by simpa using beside.trail g
  refine ⟨?_, fun g never => ?_, fun p hp other => ?_, fun x hx => ?_⟩
  · rw [runs, generation]
    exact h.bounded
  · rw [trail]
    exact h.owned g (runs ▸ never)
  · rw [trail]
    exact (h.past p (runs ▸ hp) other).mono (fun gone => gone.later beside.later) rfl
  · rw [trail, runs]
    exact h.present x hx

/-- A run that is opened holds no module. -/
theorem Accounted.begin (h : c.Accounted []) {ticket : Ticket} {final : Request}
    (plan : ticket.request.options.planned = final.options.planned) :
    (c.begin ticket).Accounted
      [(.announce, { request := final, generation := c.state.generation + 1 })] := by
  have beside := beside_begin ticket c
  have trail (g : Nat) : trailOf g (c.begin ticket).history = trailOf g c.history := by
    simpa using beside.trail g
  have runs : runsOf (c.begin ticket).history =
      (c.state.generation + 1, ticket.request) :: runsOf c.history := rfl
  have new (r : Request) : (c.state.generation + 1, r) ∉ runsOf c.history :=
    fun hr => Nat.not_succ_le_self _ (h.bounded _ hr)
  refine ⟨fun p hp => ?_, fun g never => ?_, fun p hp other => ?_, fun x hx => ?_⟩
  · rw [runs] at hp
    rcases List.mem_cons.1 hp with rfl | hp
    · exact Nat.le_refl _
    · exact Nat.le_succ_of_le (h.bounded p hp)
  · rw [trail]
    exact h.owned g fun r hr => never r (runs ▸ List.mem_cons_of_mem _ hr)
  · rw [runs] at hp
    rw [trail]
    rcases List.mem_cons.1 hp with same | hp
    · exact absurd (congrArg Prod.fst same).symm (other _ (List.mem_singleton.2 rfl))
    · refine (h.past p hp fun x hx => absurd hx List.not_mem_nil).mono
        (fun gone => gone.later beside.later) rfl
  · obtain rfl := List.mem_singleton.1 hx
    rw [trail, h.owned _ new, runs]
    refine ⟨.fresh .announce (.inl rfl), ⟨_, List.mem_cons_self⟩, fun r hr => ?_⟩
    rcases List.mem_cons.1 hr with same | hr
    · obtain ⟨-, rfl⟩ := Prod.mk.inj same
      exact plan
    · exact absurd hr (new r)

/-- A step leads the run on to its next stage. -/
theorem Accounted.onward (h : c.Accounted [(stage, run)])
    (advances : Advances run.generation ds c d)
    (number : run'.generation = run.generation) (request : run'.request = run.request)
    (holds : Holds run.generation run.request.options next run'.module
      (trailOf run.generation c.history ++ ds)) : d.Accounted [(next, run')] := by
  refine ⟨?_, h.owned_advances advances, fun p hp other => ?_, fun x hx => ?_⟩
  · rw [advances.runs, advances.generation]
    exact h.bounded
  · have other : p.1 ≠ run.generation :=
      fun same => other (next, run') (List.mem_singleton.2 rfl) (number.trans same.symm)
    rw [advances.others _ other]
    refine (h.past p (advances.runs ▸ hp) fun x hx => ?_).mono
      (fun gone => gone.later advances.later) rfl
    obtain rfl := List.mem_singleton.1 hx
    exact other.symm
  · obtain rfl := List.mem_singleton.1 hx
    simp only [number, request]
    rw [advances.own, advances.runs]
    exact ⟨holds, (h.present (stage, run) (List.mem_singleton.2 rfl)).2⟩

/-- A step ends the run. -/
theorem Accounted.over (h : c.Accounted [(stage, run)]) (advances : Advances run.generation ds c d)
    (disposed : Disposed run.generation (Abandoned run.generation d.history) run.request.options
      (trailOf run.generation c.history ++ ds)) : d.Accounted [] := by
  refine ⟨?_, h.owned_advances advances, fun p hp _ => ?_, fun x hx => absurd hx List.not_mem_nil⟩
  · rw [advances.runs, advances.generation]
    exact h.bounded
  · have hp : p ∈ runsOf c.history := advances.runs ▸ hp
    by_cases same : p.1 = run.generation
    · obtain ⟨g, r⟩ := p
      obtain rfl : g = run.generation := same
      rw [advances.own]
      exact disposed.mono id ((h.present (stage, run) (List.mem_singleton.2 rfl)).2.2 r hp)
    · rw [advances.others _ same]
      refine (h.past p hp fun x hx => ?_).mono (fun gone => gone.later advances.later) rfl
      obtain rfl := List.mem_singleton.1 hx
      exact fun eq => same eq.symm

/-- Where runs wait, only their runs count. -/
theorem Accounted.await (h : c.Accounted active) (at_ : Option Waiting) :
    (c.await at_).Accounted active := h.beside ((Does.refl c).await at_) rfl rfl

/-- A run that is opened waits for its first stage, or breaks off without a call. -/
theorem Accounted.begins (h : c.Accounted []) (quiet : c.face.stages = []) (begins : Begins c d) :
    d.Accounted d.face.stages := by
  cases begins with
  | begins ticket final after finalized eq =>
    have stages : d.face.stages =
        [(.announce, { request := final, generation := c.state.generation + 1 })] := by
      rw [eq]
      exact stages_await quiet _ _ _
    rw [stages, eq]
    exact (h.begin (planned_finalize finalized).symm).await _
  | breaks ticket f _ eq =>
    have begun : (c.begin ticket).Accounted
        [(.announce, { request := ticket.request, generation := c.state.generation + 1 })] :=
      h.begin rfl
    have broke : Advances (c.state.generation + 1) [] (c.begin ticket)
        ((c.begin ticket).breakOff (c.state.generation + 1) none f) :=
      (beside_breakOff _ _ f _).advances rfl rfl rfl fun _ _ => rfl
    have stages : d.face.stages = [] := eq ▸ quiet
    rw [stages, eq]
    refine begun.over broke ?_
    obtain ⟨holds, -⟩ := begun.present _ (List.mem_singleton.2 rfl)
    generalize trailOf _ (c.begin ticket).history = trail at holds ⊢
    cases holds
    exact .unasked

/-- After the end of a run another may be opened. -/
theorem Accounted.concluded (h : (c.conclude run).Accounted []) (quiet : c.face.stages = [])
    (ends : Ends run none c d) : d.Accounted d.face.stages := by
  cases ends with
  | rests why =>
    have stages : ({ (c.conclude run).rest with pending := none } : Core).face.stages = [] := quiet
    rw [stages]
    exact h.beside (.of_state rfl rfl rfl) rfl rfl
  | follows _ _ alive begins =>
    have taken : ({ c.conclude run with pending := none } : Core).Accounted [] :=
      h.beside (.of_state rfl rfl rfl) rfl rfl
    exact taken.begins quiet begins

/-- So it is where the module was disposed before the end was noted. -/
theorem Accounted.ends {fault : Option Fault} (h : c.Accounted []) (quiet : c.face.stages = [])
    (ends : Ends run fault c d) : d.Accounted d.face.stages := by
  cases fault with
  | none => exact (h.beside (beside_conclude run c) rfl rfl).concluded quiet ends
  | some f =>
    cases ends with
    | breaks =>
      have stages : (c.breakOff run.generation run.outcome f).face.stages = [] := quiet
      rw [stages]
      exact h.beside (beside_breakOff run.generation run.outcome f c) rfl rfl

end Core

namespace Session

variable {s t u v : Session Action} {stage next : Stage} {run run' : Run} {fault : Option Fault}

/-- A run that is led on keeps its module accounted for. -/
theorem accounted_of_next (h : u.core.Accounted [(stage, run)])
    (step : u.stepRun Session.react stage run = (v, .next next run')) :
    v.core.Accounted [(next, run')] := by
  have alive : u.state.alive = true := by
    cases dead : u.state.alive with
    | true => rfl
    | false =>
      obtain ⟨t, closing, eq, -⟩ := givenUp_stepRun reacts_react dead stage run
      cases step.symm.trans eq
  have runs := runsOf_stepRun u stage run
  obtain ⟨-, -, generation⟩ := frame_stepRun u stage run
  have stepped := stepped_stepRun reacts_react u stage run
  have walked := walked_stepRun reacts_react alive stage run
  obtain ⟨holds, -⟩ := h.present _ (List.mem_singleton.2 rfl)
  rw [step] at runs generation stepped walked
  have alike : run'.generation = run.generation ∧ run'.request = run.request := by
    cases stepped with
    | announced _ _ _ _ _ _ alike => exact ⟨alike.generation, alike.request⟩
    | onward _ _ _ _ _ _ alike => exact ⟨alike.generation, alike.request⟩
  cases walked with
  | announced _ _ first does kept =>
    subst first
    have advances : Advances run.generation [] u.core.clear v.core :=
      does.advances runs generation rfl fun _ _ => rfl
    have advances : Advances run.generation [] u.core v.core :=
      ⟨advances.later, advances.runs, advances.generation, advances.own, advances.others⟩
    refine h.onward advances alike.1 alike.2 ?_
    rw [kept, List.append_nil]
    simp only at holds
    generalize trailOf run.generation u.core.history = trail at holds ⊢
    generalize run.module = own at holds ⊢
    cases holds with
    | fresh => exact .fresh .invoke (.inr rfl)
    | holding _ _ _ later => exact absurd rfl later
  | onward _ _ _ ds calls does =>
    have advances : Advances run.generation ds u.core v.core :=
      does.advances runs generation (filter_own calls.own) (filter_others calls.own)
    exact h.onward advances alike.1 alike.2 (holds.onward calls)

/-- What ends a run, while the session is alive, disposes its module. -/
theorem accounted_of_over (h : u.core.Accounted [(stage, run)]) (alive : u.state.alive = true)
    (step : u.stepRun Session.react stage run = (v, .over run' fault)) : v.core.Accounted [] := by
  have runs := runsOf_stepRun u stage run
  obtain ⟨-, -, generation⟩ := frame_stepRun u stage run
  have walked := walked_stepRun reacts_react alive stage run
  obtain ⟨holds, -⟩ := h.present _ (List.mem_singleton.2 rfl)
  rw [step] at runs generation walked
  cases walked with
  | closed _ _ _ ds rs m ns told count halts releases _ does _ =>
    -- neither the notifications nor the end of a run are calls
    have pushed (g : Nat) : (ns.map Notification.deed).filter (Milestone.isOf g) = [] :=
      List.filter_eq_nil_iff.2 fun e he => by
        obtain ⟨n, -, rfl⟩ := List.mem_map.1 he
        exact Bool.false_ne_true
    have closed (g : Nat) : (closing run' told count).filter (Milestone.isOf g) = [] := by
      unfold closing
      split <;> rfl
    have calls (g : Nat) : (ds ++ (ns.map Notification.deed ++
        (rs ++ closing run' told count))).filter
        (Milestone.isOf g) = ds.filter (Milestone.isOf g) ++ rs.filter (Milestone.isOf g) := by
      simp [List.filter_append, pushed, closed]
    have runs : runsOf v.history = runsOf (u.core.entering stage).history := by
      rw [Core.history_entering]
      exact runs
    have generation : v.state.generation = (u.core.entering stage).state.generation := by
      unfold Core.entering
      split <;> exact generation
    have advances : Advances run.generation (ds.filter (Milestone.isOf run.generation) ++ rs)
        (u.core.entering stage) v.core := by
      refine does.advances runs generation ?_ fun g other => ?_
      · rw [calls, filter_own releases.own]
      · rw [calls, halts.filter_others g other, filter_others releases.own g other, List.append_nil]
    exact h.over advances.of_entering (holds.halts _ halts releases)

/-- A run that is given up disposes its module, and its end is noted without an outcome. -/
theorem accounted_of_givenUp {d : Core} (h : u.core.Accounted [(stage, run)])
    (fresh : run.outcome = none) (living : u.core.Living) (dead : u.state.alive = false)
    (step : u.stepRun Session.react stage run = (v, .over run' fault))
    (quiet : v.core.face.stages = []) (ends : Ends run' fault v.core d) :
    d.Accounted d.face.stages := by
  have runs := runsOf_stepRun u stage run
  obtain ⟨-, -, generation⟩ := frame_stepRun u stage run
  obtain ⟨t, closing, eq, ⟨rs, releases, does⟩, -, -, gone⟩ :=
    givenUp_stepRun reacts_react dead stage run
  obtain ⟨rfl, ending⟩ := Prod.mk.inj (step.symm.trans eq)
  obtain ⟨rfl, rfl⟩ := Session.RunStep.over.inj ending
  rw [step] at runs generation
  obtain ⟨holds, -⟩ := h.present _ (List.mem_singleton.2 rfl)
  have ended {e : Core} {m : Milestone} (isEnd : m.IsEnd run.generation none)
      (noted : Beside v.core e) (history : e.history = m :: v.history)
      (same : e.state.generation = v.state.generation) : e.Accounted [] := by
    have began : runsOf e.history = runsOf u.history := by
      rw [history, ← runs]
      cases isEnd <;> rfl
    have advances : Advances run.generation rs u.core e :=
      (does.after noted).advances began (same.trans generation) (filter_own releases.own)
        (filter_others releases.own)
    have abandoned : Abandoned run.generation e.history :=
      ⟨[], m, v.history, history, isEnd, (does.living living).symm.trans gone⟩
    exact h.over advances (holds.givenUp abandoned releases)
  cases unheard : closing.fault with
  | none =>
    rw [unheard] at ends
    have concluded := ended (e := v.core.conclude { run with module := none }) .ended
      (beside_conclude _ _) (by simp [conclude, fresh, core]) rfl
    exact concluded.concluded quiet ends
  | some f =>
    rw [unheard] at ends
    cases ends with
    | breaks =>
      have stages : (v.core.breakOff run.generation run.outcome f).face.stages = [] := quiet
      rw [stages]
      exact ended (.broke f) (beside_breakOff _ _ f _) (by simp [breakOff, fresh, core]) rfl

/-- One move leaves all modules accounted for. -/
theorem accounted_of_paced (paced : Paced s t) (sound : s.core.Sound) (living : s.core.Living)
    (h : s.core.Accounted s.core.face.stages) : t.core.Accounted t.core.face.stages := by
  cases paced with
  | beside aside beside =>
    have stages : t.core.face.stages = s.core.face.stages := congrArg Face.stages aside.face
    rw [stages]
    exact h.beside beside (runsOf_of_course (congrArg Face.course aside.face))
      (congrArg Face.generation aside.face)
  | enters c _ idle busy beside begins =>
    have quiet := sound.idle idle
    rw [quiet] at h
    have entered : c.Accounted [] := h.beside beside
      (runsOf_of_course ((congrArg Face.course busy.face).trans rfl))
      ((congrArg Face.generation busy.face).trans rfl)
    exact entered.begins (((congrArg Face.stages busy.face).trans rfl).trans quiet) begins
  | strides u v stage next run run' after front popped step eq =>
    have fronts := fronts_of_front sound front popped
    rw [fronts.stages] at h
    have taken : u.core.Accounted [(stage, run)] :=
      h.beside fronts.beside (by rw [popped]) (congrArg State.generation fronts.same)
    rw [eq, stages_of_next sound front popped step]
    exact (accounted_of_next taken step).await _
  | halts u v stage run run' fault after front popped step ends =>
    have fronts := fronts_of_front sound front popped
    rw [fronts.stages] at h
    have taken : u.core.Accounted [(stage, run)] :=
      h.beside fronts.beside (by rw [popped]) (congrArg State.generation fronts.same)
    have living' : u.core.Living := fronts.beside.living living
    have quiet := stages_of_over sound front popped step
    cases alive : u.state.alive with
    | true => exact (accounted_of_over taken alive step).ends quiet ends
    | false => exact accounted_of_givenUp taken fronts.stands.fresh living' alive step quiet ends

theorem accounted_session (o : Opening) : o.session.core.Accounted [] where
  bounded _ hp := absurd hp List.not_mem_nil
  owned _ _ := rfl
  past _ hp := absurd hp List.not_mem_nil
  present _ hx := absurd hx List.not_mem_nil

/-- The modules of all runs are accounted for after all moves. -/
theorem accounted_moves (o : Opening) (ms : List Move) :
    (o.session.moves ms).core.Accounted (o.session.moves ms).inPipeline :=
  turn_induction (fun s => s.core.Accounted s.core.face.stages) (sound_session o) rfl
    (accounted_session o) fun _ _ sound living turn accounted =>
      accounted_of_paced (paced_of_turn turn) sound living accounted

/-- **Modules are disposed exactly once, and not called after that.** A run that waits in the
pipeline has made the calls up to its stage, without a fault, and holds the module that was handed
out, if one was. A run that is over has made all calls of the plan, or those up to the first that
failed or up to where it was given up, and disposed the module after that. Nothing else calls a
module. -/
theorem modules_disposed_once (o : Opening) (ms : List Move) :
    let s := o.session.moves ms
    (∀ x ∈ s.inPipeline,
      Holds x.2.generation x.2.request.options x.1 x.2.module (trailOf x.2.generation s.history)) ∧
    (∀ n g r, .began n g r ∈ s.history → (∀ x ∈ s.inPipeline, x.2.generation ≠ g) →
      Disposed g (Abandoned g s.history) r.options (trailOf g s.history) ∧
        (.asked g true ∈ s.history → s.history.countP (Milestone.disposes g) = 1)) ∧
    ∀ g, (∀ n r, .began n g r ∉ s.history) → trailOf g s.history = [] := by
  intro s
  have accounted : s.core.Accounted s.inPipeline := accounted_moves o ms
  refine ⟨fun x hx => (accounted.present x hx).1, fun n g r began gone => ?_, fun g never => ?_⟩
  · have disposed := accounted.past (g, r) (mem_runsOf.2 ⟨n, began⟩) gone
    exact ⟨disposed, disposed.once⟩
  · refine accounted.owned g fun r hr => ?_
    obtain ⟨n, began⟩ := mem_runsOf.1 hr
    exact never n r began

/-- A session is stopped while its first run waits for the optimization. -/
def stoppedMoves : List Move :=
  [.call .start] ++ smallTicks 4 ++ [.act .stop] ++ smallTicks 1

def handedOut (s : Session Action) : Bool :=
  s.history.any fun
    | .asked 1 true => true
    | _ => false

theorem modules_disposed_once_stopped :
    let s := plainOpening.session.moves stoppedMoves
    s.inPipeline = [] ∧ Disposed 1 (Abandoned 1 s.history) {} (trailOf 1 s.history) ∧
      s.history.countP (Milestone.disposes 1) = 1 := by
  intro s
  have empty : (plainOpening.session.moves stoppedMoves).inPipeline = [] :=
    List.isEmpty_iff.1 (by decide +kernel)
  have begun : (1, ⟨"x = 1", "CPython", {}, false⟩) ∈ runsOf s.history := by decide +kernel
  have produced : handedOut s = true := by decide +kernel
  obtain ⟨n, began⟩ := mem_runsOf.1 begun
  obtain ⟨-, treated, -⟩ := modules_disposed_once plainOpening stoppedMoves
  obtain ⟨disposed, once⟩ := treated n 1 _ began (by simp [empty])
  refine ⟨empty, disposed, once ?_⟩
  obtain ⟨m, hm, asked⟩ := List.any_eq_true.1 produced
  split at asked
  · exact hm
  · cases asked

end Session

end Playground
