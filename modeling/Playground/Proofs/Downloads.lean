import Mathlib.Data.List.Induction
import Playground.Proofs.Availability
import Playground.Proofs.Modules
import Playground.Proofs.Origins

/-!
# What a download is made of

The binary of a download comes from the last run that ended in success, its name from the compiler
that is chosen when it is asked for. Between the two there may be a choice: a compiler is chosen
before it is loaded, and the output of the last run stays until the next one is announced.

* `boundsOf` — where runs begin and end.
* `Core.Attests`, `attests_moves` — the invariant: a run that is over began once, for a request that
  one of the moves took.
* `Session.choicesOf`, `compiler_moves` — the compilers that were chosen, and the chosen one.
* `download_labelled` — where the binary and the name of a download come from.
* `download_mislabelled` — a download under the name of a compiler that did not make it.
-/

namespace Playground

open Playground.Core

/-! ### Where runs begin and end -/

def Milestone.isBound : Milestone → Bool
  | .began .. => true
  | .ended .. => true
  | .broke .. => true
  | _ => false

/-- Where runs begin and end, latest first. -/
def boundsOf (ms : List Milestone) : List Milestone := ms.filter Milestone.isBound

/-- Only the steps of runs tell where they begin and end. -/
theorem boundsOf_of_course {c d : Core} (h : d.face.course = c.face.course) :
    boundsOf d.history = boundsOf c.history := by
  have only (ms : List Milestone) : boundsOf (ms.filter Milestone.ofRun) = boundsOf ms := by
    unfold boundsOf
    rw [List.filter_filter]
    refine List.filter_congr fun m _ => ?_
    cases m <;> simp [Milestone.isBound, Milestone.ofRun]
  have course := congrArg boundsOf h
  simpa only [Core.face, only] using course

theorem boundsOf_work {P : Action → Prop} {s t : Session Action} (h : Work P s t) :
    boundsOf t.history = boundsOf s.history := by
  cases h with
  | use h => exact boundsOf_of_course (congrArg Face.course (Session.aside_uses (.single h)).face)
  | _ => rfl

/-- Within a step no run begins or ends. -/
theorem boundsOf_stepRun (s : Session Action) (stage : Stage) (run : Run) :
    boundsOf (s.stepRun Session.react stage run).1.history = boundsOf s.history :=
  (Session.worked_stepRun Session.reacts_react (Session.admits_all s) stage run).keeps
    (I := fun u => boundsOf u.history = boundsOf s.history) rfl (fun _ _ _ _ h => h)
    (fun _ _ _ h => h) fun _ _ work h => (boundsOf_work work).trans h

theorem mem_of_bounds {c d : Core} (h : boundsOf d.history = boundsOf c.history) {m : Milestone}
    (bound : m.isBound = true) : m ∈ d.history ↔ m ∈ c.history := by
  have filtered (ms : List Milestone) : m ∈ boundsOf ms ↔ m ∈ ms := by
    simp [boundsOf, bound]
  rw [← filtered, h, filtered]

namespace Core

/-- Runs are numbered as they begin, and what has ended in success began for a known request. -/
structure Attests (K : Ticket → Prop) (c : Core) : Prop where
  numbered : ∀ n g r, .began n g r ∈ c.history → g ≤ c.state.generation
  once : ∀ g n r n' r', .began n g r ∈ c.history → .began n' g r' ∈ c.history → n = n' ∧ r = r'
  known : ∀ m ∈ c.history, ∀ g a, m.success? = some (g, a) →
    ∃ t, K t ∧ .began t.number g t.request ∈ c.history

/-- The end of a run is a success of that run. -/
theorem Milestone.generation_of_success {g n : Nat} {outcome : Option Outcome} {f : Fault}
    {a : Artifact} {m : Milestone} (ended : m = .ended g outcome ∨ m = .broke g outcome f)
    (success : m.success? = some (n, a)) : n = g := by
  rcases ended with rfl | rfl <;> rcases outcome with _ | (_ | _ | _) <;> cases success <;> rfl

theorem Milestone.isBound_of_success {m : Milestone} {x : Nat × Artifact}
    (h : m.success? = some x) : m.isBound = true := by
  cases m with
  | ended | broke => rfl
  | _ => cases h

variable {K L : Ticket → Prop} {c d : Core} {run : Run} {fault : Option Fault}

theorem Attests.mono (h : c.Attests K) (le : ∀ t, K t → L t) : c.Attests L where
  numbered := h.numbered
  once := h.once
  known m hm g a success := by
    obtain ⟨t, known, began⟩ := h.known m hm g a success
    exact ⟨t, le t known, began⟩

/-- Nothing begins or ends. -/
theorem Attests.keep (h : c.Attests K) (bounds : boundsOf d.history = boundsOf c.history)
    (generation : d.state.generation = c.state.generation) : d.Attests K where
  numbered n g r began := generation ▸ h.numbered n g r ((mem_of_bounds bounds rfl).1 began)
  once g n r n' r' began began' :=
    h.once g n r n' r' ((mem_of_bounds bounds rfl).1 began) ((mem_of_bounds bounds rfl).1 began')
  known m hm g a success := by
    have bound := Milestone.isBound_of_success success
    obtain ⟨t, known, began⟩ := h.known m ((mem_of_bounds bounds bound).1 hm) g a success
    exact ⟨t, known, (mem_of_bounds bounds rfl).2 began⟩

/-- A run begins under the next number. -/
theorem Attests.begin (h : c.Attests K) (ticket : Ticket) : (c.begin ticket).Attests K where
  numbered n g r began := by
    rcases List.mem_cons.1 began with eq | began
    · obtain ⟨-, rfl, -⟩ := Milestone.began.inj eq
      exact Nat.le_refl _
    · exact Nat.le_succ_of_le (h.numbered n g r began)
  once g n r n' r' began began' := by
    have new {n g : Nat} {r : Request} (began : .began n g r ∈ c.history) :
        g ≠ c.state.generation + 1 := fun eq =>
      Nat.not_succ_le_self _ (eq ▸ h.numbered n g r began)
    rcases List.mem_cons.1 began with eq | began <;> rcases List.mem_cons.1 began' with eq' | began'
    · obtain ⟨rfl, -, rfl⟩ := Milestone.began.inj eq
      obtain ⟨rfl, -, rfl⟩ := Milestone.began.inj eq'
      exact ⟨rfl, rfl⟩
    · exact absurd (Milestone.began.inj eq).2.1 (new began')
    · exact absurd (Milestone.began.inj eq').2.1 (new began)
    · exact h.once g n r n' r' began began'
  known m hm g a success := by
    rcases List.mem_cons.1 hm with rfl | hm
    · cases success
    · obtain ⟨t, known, began⟩ := h.known m hm g a success
      exact ⟨t, known, List.mem_cons_of_mem _ began⟩

/-- A run is over; if in success, it began for a known request. -/
theorem Attests.over (h : c.Attests K) {m : Milestone} (history : d.history = m :: c.history)
    (generation : d.state.generation = c.state.generation) (later : ∀ n g r, m ≠ .began n g r)
    (own : ∀ g a, m.success? = some (g, a) →
      ∃ t, K t ∧ .began t.number g t.request ∈ c.history) : d.Attests K := by
  have old {n g : Nat} {r : Request} (began : .began n g r ∈ d.history) :
      .began n g r ∈ c.history := by
    rw [history] at began
    exact (List.mem_cons.1 began).resolve_left (later n g r).symm
  have new {n g : Nat} {r : Request} (began : .began n g r ∈ c.history) :
      .began n g r ∈ d.history := history ▸ List.mem_cons_of_mem _ began
  refine ⟨fun n g r began => generation ▸ h.numbered n g r (old began),
    fun g n r n' r' began began' => h.once g n r n' r' (old began) (old began'),
    fun e he g a success => ?_⟩
  obtain ⟨t, known, began⟩ : ∃ t, K t ∧ .began t.number g t.request ∈ c.history := by
    rw [history] at he
    rcases List.mem_cons.1 he with rfl | he
    · exact own g a success
    · exact h.known e he g a success
  exact ⟨t, known, new began⟩

theorem Attests.begins (h : c.Attests K) (begins : Begins c d) : d.Attests K := by
  cases begins with
  | begins ticket _ _ _ eq => exact eq ▸ (h.begin ticket).keep rfl rfl
  | breaks ticket f _ eq =>
    exact eq ▸ (h.begin ticket).over (m := .broke (c.state.generation + 1) none f) rfl rfl
      nofun nofun

/-- The run of a known request is concluded. -/
theorem Attests.conclude (h : c.Attests K)
    (own : ∃ t, K t ∧ .began t.number run.generation t.request ∈ c.history) :
    (c.conclude run).Attests K :=
  h.over (m := .ended run.generation run.outcome) rfl rfl nofun fun _ _ success =>
    Milestone.generation_of_success (f := default) (.inl rfl) success ▸ own

theorem Attests.ends (h : c.Attests K)
    (own : ∃ t, K t ∧ .began t.number run.generation t.request ∈ c.history)
    (ends : Ends run fault c d) : d.Attests K := by
  cases ends with
  | breaks f =>
    exact h.over (m := .broke run.generation run.outcome f) rfl rfl nofun fun _ _ success =>
      Milestone.generation_of_success (.inr rfl) success ▸ own
  | rests => exact (h.conclude own).keep rfl rfl
  | follows _ _ _ begins =>
    have taken : ({ c.conclude run with pending := none } : Core).Attests K :=
      (h.conclude own).keep rfl rfl
    exact taken.begins begins

end Core

namespace Session

variable {K : Ticket → Prop} {probe : Probe} {s t : Session Action}

/-- **What a move does to runs leaves them attested.** A run ends where its coroutine waited, so
that it goes back to a known request. -/
theorem attests_of_paced (paced : Paced s t) (h : s.core.Attests K)
    (traces : s.core.Traces probe K) : t.core.Attests K := by
  cases paced with
  | beside aside _ =>
    exact h.keep (boundsOf_of_course (congrArg Face.course aside.face))
      (congrArg Face.generation aside.face)
  | enters c _ _ busy _ begins =>
    have entered : c.Attests K :=
      h.keep (boundsOf_of_course ((congrArg Face.course busy.face).trans rfl))
        ((congrArg Face.generation busy.face).trans rfl)
    exact entered.begins begins
  | strides u v stage next run run' after front popped step eq =>
    have bounds := boundsOf_stepRun u stage run
    obtain ⟨-, -, generation⟩ := frame_stepRun u stage run
    rw [step] at bounds generation
    have taken : u.core.Attests K := popped ▸ h.keep rfl rfl
    have stepped : v.core.Attests K := taken.keep bounds generation
    exact eq ▸ stepped.keep rfl rfl
  | halts u v stage run run' fault after front popped step ends =>
    have bounds := boundsOf_stepRun u stage run
    obtain ⟨-, -, generation⟩ := frame_stepRun u stage run
    have stepped := stepped_stepRun reacts_react u stage run
    rw [step] at bounds generation stepped
    have taken : u.core.Attests K := popped ▸ h.keep rfl rfl
    have staged : (stage, run) ∈ s.core.face.stages := by
      show (stage, run) ∈ s.waiting.filterMap Waiting.stage?
      rw [front]
      exact List.mem_cons_self
    obtain ⟨ticket, known, began, -⟩ := traces.staged _ staged
    have same : run'.generation = run.generation := by
      cases stepped with
      | ended _ _ _ _ _ _ _ _ alike _ => exact alike.generation
    have begun : .began ticket.number run'.generation ticket.request ∈ u.core.history := by
      rw [popped, same]
      exact began
    exact (taken.keep bounds generation).ends
      ⟨ticket, known, (mem_of_bounds bounds rfl).2 begun⟩ ends

/-- **A run that is over began once, for a request that one of the moves took.** -/
theorem attests_moves (o : Opening) (ms : List Move) :
    (o.session.moves ms).core.Attests (Snapped o ms) := by
  induction ms using List.reverseRecOn with
  | nil =>
    exact ⟨fun _ _ _ began => absurd began List.not_mem_nil,
      fun _ _ _ _ _ began => absurd began List.not_mem_nil,
      fun _ hm => absurd hm List.not_mem_nil⟩
  | append_singleton ms m ih =>
    rw [moves_concat]
    have traces := (traces_moves o ms).mono fun t known => known.append [m]
    exact attests_of_paced (paced_move _ m) (ih.mono fun t known => known.append [m]) traces

end Session

/-! ### The latest success -/

theorem exists_of_latestSuccess {ms : List Milestone} {g : Nat} {a : Artifact}
    (h : latestSuccess? ms = some (g, a)) : ∃ m ∈ ms, m.success? = some (g, a) :=
  List.exists_of_findSome?_eq_some h

namespace Session

variable {s t : Session Action}

/-! ### The chosen compiler -/

def choice? (m : Move) (s : Session Action) : Option String := (s.goesOn? m).bind Waiting.chooses?

/-- The compilers that are chosen in moves, in their order. -/
def choicesOf : List Move → Session Action → List String
  | [], _ => []
  | m :: ms, s => (s.choice? m).toList ++ choicesOf ms (s.move m)

theorem compiler_move (m : Move) (s : Session Action) :
    (s.move m).state.compiler = (s.choice? m).getD s.state.compiler := by
  unfold choice?
  rcases resumed_or_spared m s with ⟨at_, u, goesOn, resumed⟩ | ⟨goesOn, spared⟩
  · have refits := resumed.refits
    rw [goesOn, Option.bind_some, show (s.move m).state.compiler = _ from
      congrArg Outfit.compiler resumed.outfit]
    cases refits with
    | keeps _ _ unchosen _ _ outfit _ =>
      rw [unchosen]
      exact congrArg Outfit.compiler outfit
    | sets _ _ _ _ _ unchosen _ outfit _ =>
      rw [unchosen]
      exact congrArg Outfit.compiler outfit
    | shows _ compiler _ chosen _ outfit _ =>
      rw [chosen]
      exact congrArg Outfit.compiler outfit
    | waits _ _ _ _ outfit _ => exact congrArg Outfit.compiler outfit
    | fits _ _ _ outfit _ => exact congrArg Outfit.compiler outfit
    | fails _ _ _ _ _ outfit _ => exact congrArg Outfit.compiler outfit
  · rw [goesOn]
    exact congrArg Outfit.compiler spared.outfit

/-- **The chosen compiler is the one that was chosen last.** -/
theorem compiler_moves (ms : List Move) (s : Session Action) :
    (s.moves ms).state.compiler = (s.choicesOf ms).getLastD s.state.compiler := by
  induction ms generalizing s with
  | nil => rfl
  | cons m ms ih =>
    show ((s.move m).moves ms).state.compiler = _
    rw [ih, compiler_move, choicesOf]
    cases s.choice? m with
    | none => rfl
    | some compiler => exact (List.getLastD_cons ..).symm

/-! ### Downloads -/

/-- What can be downloaded is the output of the latest success, under the name of the chosen
compiler. -/
theorem parts_of_export {e : BinaryExport} (sound : s.core.Sound) (h : s.export? = .ok e) :
    ∃ g a, latestSuccess? s.history = some (g, a) ∧ e.payload = a.binary ∧
      e.filename = exportName s.state.compiler := by
  unfold export? at h
  split at h
  next can =>
    obtain rfl := Except.ok.inj h
    have artifact : s.state.artifact = lastSuccess s.history := sound.artifact
    unfold lastSuccess at artifact
    cases latest : latestSuccess? s.history with
    | none =>
      rw [latest] at artifact
      simp [canDownload, artifact] at can
    | some x =>
      rw [latest] at artifact
      exact ⟨x.1, x.2, rfl, congrArg Artifact.binary artifact, rfl⟩
  next => cases h

/-- **A download is the output of the last run that succeeded, under the name of the compiler that
is chosen.** The run was begun for one request, which one of the moves took. Unless the request was
brought along, the compiler that is chosen is the one that was chosen last since then, and if none
was, the compiler of the request. -/
theorem download_labelled (o : Opening) (ms : List Move) :
    let s := o.session.moves ms
    ∀ e, s.export? = .ok e → ∃ g a t ms₁ m ms₂,
      latestSuccess? s.history = some (g, a) ∧ e.payload = a.binary ∧
        e.filename = exportName s.state.compiler ∧
        (∀ n r, .began n g r ∈ s.history ↔ n = t.number ∧ r = t.request) ∧
        ms = ms₁ ++ m :: ms₂ ∧ (o.session.moves ms₁).Accepts m t ∧
        ((o.session.moves ms₁).brings? m = none → s.state.compiler =
          ((o.session.moves (ms₁ ++ [m])).choicesOf ms₂).getLastD t.request.compiler) := by
  intro s e h
  obtain ⟨g, a, latest, payload, name⟩ := parts_of_export (sound_moves o ms) h
  have attests := attests_moves o ms
  obtain ⟨e, he, success⟩ := exists_of_latestSuccess latest
  obtain ⟨t, ⟨ms₁, m, ms₂, split, accepts⟩, began⟩ := attests.known e he g a success
  refine ⟨g, a, t, ms₁, m, ms₂, latest, payload, name, fun n r => ⟨fun other => ?_, ?_⟩, split,
    accepts, fun unbrought => ?_⟩
  · exact attests.once g n r t.number t.request other began
  · rintro ⟨rfl, rfl⟩
    exact began
  · have taken : t.request.compiler = (o.session.moves (ms₁ ++ [m])).state.compiler := by
      rw [accepts.snapshot unbrought, moves_concat]
      rfl
    have later : o.session.moves ms = (o.session.moves (ms₁ ++ [m])).moves ms₂ := by
      rw [← moves_append, split]
      simp
    rw [taken, ← compiler_moves, ← later]

/-- The session is started and has compiled, and the slow compiler is being loaded. -/
def switchedMoves : List Move :=
  [.act (.spawn .start)] ++ smallTicks 8 ++ [.act (.spawn (.switchCompiler "slow"))] ++
    smallTicks 1

/-- The download in the meantime. -/
def switchedExport : BinaryExport :=
  { filename := "slow.module.wasm", payload := [0x00, 0x61, 0x73, 0x6d, 0x01, 0x00, 0x00, 0x00] }

theorem download_labelled_switched :
    let s := quickOpening.session.moves switchedMoves
    ∃ g a t ms₁ m ms₂, latestSuccess? s.history = some (g, a) ∧ switchedExport.payload = a.binary ∧
      switchedExport.filename = exportName s.state.compiler ∧
      (∀ n r, .began n g r ∈ s.history ↔ n = t.number ∧ r = t.request) ∧
      switchedMoves = ms₁ ++ m :: ms₂ ∧ (quickOpening.session.moves ms₁).Accepts m t ∧
      ((quickOpening.session.moves ms₁).brings? m = none → s.state.compiler =
        ((quickOpening.session.moves (ms₁ ++ [m])).choicesOf ms₂).getLastD
          t.request.compiler) := by
  have saved : (quickOpening.session.moves switchedMoves).export?.toOption =
      some switchedExport := by decide +kernel
  refine download_labelled quickOpening switchedMoves switchedExport ?_
  cases exported : (quickOpening.session.moves switchedMoves).export? with
  | ok e =>
    rw [exported] at saved
    exact congrArg Except.ok (Option.some.inj saved)
  | error f =>
    rw [exported] at saved
    cases saved

/-- **A download goes under the name of a compiler that did not make it**: the one run of this
session is that of the fast compiler, and the slow one, which is being loaded, gives the name. -/
theorem download_mislabelled :
    let s := quickOpening.session.moves switchedMoves
    s.export?.toOption = some switchedExport ∧
      latestSuccess? s.history =
        some (1, { text := "(module)", binary := switchedExport.payload }) ∧
      (s.history.filterMap Milestone.run?).map (fun x => (x.2, x.1.request.compiler)) =
        [(1, "fast")] ∧
      exportName "fast" = "fast.module.wasm" ∧ (s.loaded? "slow").isSome = false := by
  decide +kernel

end Session

end Playground
