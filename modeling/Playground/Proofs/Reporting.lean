import Playground.Proofs.Pushing
import Playground.Proofs.Outcomes
import Playground.Proofs.WholeRuns

/-!
# How rejections are reported

A compiler that rejects a text ends its run in a failure with just its diagnostics, unless one of
those that are shown cannot be read. Then the report fails, and what is reported instead is that the
report failed. All this holds as long as no listener breaks a publication off. The annotations of a
rejection have the kind of the tag that their text opens with.

* `Diagnostic.OpensWith` — a text opens with a tag, in small or capital letters.
* `diagnosticKind_eq_ok` — the kind that is read from a text.
* `Session.stepRun_reject` — the stage that reports a rejection.
* `Session.refusalAmid`, `Session.pipelineAmid_of_refusal` — runs whose compiler refuses the text.
* `rejection_reported` — which rejections are reported as such.
-/

namespace Playground

open Playground.Core Playground.Text

/-! ### Tags -/

namespace Diagnostic

/-- After white space the text opens with the word, in small or capital letters, and the word ends
there. -/
def OpensWith (word text : List Char) : Prop :=
  ∃ blanks written rest, text = blanks ++ written ++ rest ∧ (∀ c ∈ blanks, isBlank c = true) ∧
    written.map Char.toUpper = word ∧ ∀ c ∈ rest.head?, isWordChar c = false

/-- White space has no letter case. -/
theorem toUpper_of_blank {c : Char} (blank : isBlank c = true) : c.toUpper = c := by
  obtain ⟨b, hb, low, high⟩ := Ranges.contains_iff.1 blank
  have apart : ∀ b ∈ blankRanges, b.2 < 97 ∨ 122 < b.1 := by decide
  have := apart b hb
  unfold Char.toUpper
  split
  next small =>
    have least : 97 ≤ c.toNat := small.1
    have most : c.toNat ≤ 122 := small.2
    omega
  next => rfl

/-- No tag starts with white space. -/
theorem head_of_tag {tag : List Char} (h : tag ∈ tags) :
    ∃ l, tag.head? = some l ∧ isBlank l = false := by
  obtain rfl | rfl | rfl := eq_of_tag h
  · exact ⟨'E', rfl, by decide⟩
  · exact ⟨'W', rfl, by decide⟩
  · exact ⟨'I', rfl, by decide⟩

/-- Tags differ in their first letters. -/
theorem tag_of_head {tag tag' : List Char} (h : tag ∈ tags) (h' : tag' ∈ tags)
    (same : tag.head? = tag'.head?) : tag = tag' := by
  have apart : ∀ t ∈ tags, ∀ t' ∈ tags, t.head? = t'.head? → t = t' := by decide
  exact apart tag h tag' h' same

/-- What opens with a tag goes on with it after white space. -/
theorem dropWhile_of_opensWith {tag cs : List Char} (h : tag ∈ tags) (opens : OpensWith tag cs) :
    ∃ written rest, cs.dropWhile isBlank = written ++ rest ∧ written.map Char.toUpper = tag ∧
      ∀ c ∈ rest.head?, isWordChar c = false := by
  obtain ⟨blanks, written, rest, rfl, blank, upper, ends⟩ := opens
  refine ⟨written, rest, ?_, upper, ends⟩
  obtain ⟨l, head, letter⟩ := head_of_tag h
  cases written with
  | nil =>
    subst upper
    cases head
  | cons c written =>
    rw [← upper] at head
    obtain rfl : c.toUpper = l := Option.some.inj head
    have other : isBlank c = false := by
      refine Bool.eq_false_iff.2 fun blank => ?_
      rw [toUpper_of_blank blank, blank] at letter
      cases letter
    rw [List.append_assoc, List.dropWhile_append_of_pos blank, List.cons_append,
      List.dropWhile_cons_of_neg (by simp [other])]

/-- A text opens with one tag at most. -/
theorem tag_unique {tag tag' cs : List Char} (h : tag ∈ tags) (h' : tag' ∈ tags)
    (opens : OpensWith tag cs) (opens' : OpensWith tag' cs) : tag = tag' := by
  obtain ⟨written, rest, split, upper, -⟩ := dropWhile_of_opensWith h opens
  obtain ⟨written', rest', split', upper', -⟩ := dropWhile_of_opensWith h' opens'
  have front {w r t : List Char} (split : cs.dropWhile isBlank = w ++ r)
      (upper : w.map Char.toUpper = t) (mem : t ∈ tags) :
      t.head? = (cs.dropWhile isBlank).head?.map Char.toUpper := by
    obtain ⟨l, head, -⟩ := head_of_tag mem
    cases w with
    | nil =>
      subst upper
      cases head
    | cons c w =>
      rw [split, ← upper]
      rfl
  exact tag_of_head h h' ((front split upper h).trans (front split' upper' h').symm)

/-- A tag that opens the text is found. -/
theorem leadingTag_of_opensWith {tag cs : List Char} (h : tag ∈ tags) (opens : OpensWith tag cs) :
    (leadingTag cs).isSome = true := by
  obtain ⟨written, rest, split, upper, ends⟩ := dropWhile_of_opensWith h opens
  have reads := readTag_eq_some_iff.2 ⟨split, matches_of_toUpper upper⟩
  unfold leadingTag
  rw [List.isSome_findSome?, List.any_eq_true]
  refine ⟨tag, h, ?_⟩
  rw [reads]
  cases rest with
  | nil => rfl
  | cons c rest => simp [ends c rfl]

/-- The tag that is found in plain letters opens the text. -/
theorem opensWith_of_leadingTag {cs read : List Char} (found : leadingTag cs = some read)
    (plain : 'İ' ∉ read ∧ 'ı' ∉ read) : ∃ tag ∈ tags, OpensWith tag cs ∧
      toLower (String.ofList read) = String.ofList (tag.map Char.toLower) := by
  obtain ⟨tag, mem, rest, reads, ends⟩ := tag_of_leadingTag found
  obtain ⟨split, matched⟩ := readTag_eq_some_iff.1 reads
  have upper := toUpper_of_matches matched plain
  refine ⟨tag, mem, ⟨cs.takeWhile isBlank, read, rest, ?_, ?_, upper, ends⟩, ?_⟩
  · rw [List.append_assoc, ← split, List.takeWhile_append_dropWhile]
  · exact List.all_eq_true.1 (List.all_takeWhile ..)
  · unfold toLower
    rw [String.toList_ofList, lowerFrom_of_toUpper upper (ascii_of_tag mem)]

end Diagnostic

open Diagnostic

/-- The kind of a text is that of the tag that the text opens with, and error without one. -/
theorem diagnosticKind_eq_ok {text : String} {k : AnnotationKind}
    (h : diagnosticKind text = .ok k) :
    (k = .warning ↔ OpensWith "WARNING".toList text.toList) ∧
      (k = .info ↔ OpensWith "INFO".toList text.toList) := by
  have plain := (diagnosticKind_ok_iff text).1 ⟨k, h⟩
  unfold diagnosticKind at h
  cases found : leadingTag text.toList with
  | none =>
    rw [found] at h
    obtain rfl := Except.ok.inj h
    have nothing {tag : List Char} (mem : tag ∈ tags) : ¬ OpensWith tag text.toList := by
      intro opens
      have some := leadingTag_of_opensWith mem opens
      rw [found] at some
      cases some
    exact ⟨iff_of_false nofun (nothing (by decide)), iff_of_false nofun (nothing (by decide))⟩
  | some read =>
    rw [found] at h
    obtain ⟨tag, mem, opens, lower⟩ := opensWith_of_leadingTag found (plain read found)
    simp only [lower] at h
    have only {tag' : List Char} (mem' : tag' ∈ tags) :
        OpensWith tag' text.toList ↔ tag = tag' :=
      ⟨fun opens' => tag_unique mem mem' opens opens', fun same => same ▸ opens⟩
    rw [only (by decide), only (by decide)]
    obtain rfl | rfl | rfl := eq_of_tag mem
    · obtain rfl : AnnotationKind.error = k := Except.ok.inj h
      decide
    · obtain rfl : AnnotationKind.warning = k := Except.ok.inj h
      decide
    · obtain rfl : AnnotationKind.info = k := Except.ok.inj h
      decide

/-- The kind of the annotation is that of the tag that its text opens with; without one, it is an
error. -/
structure Annotation.Tagged (a : Annotation) : Prop where
  warning : a.kind = .warning ↔ OpensWith "WARNING".toList a.text.toList
  info : a.kind = .info ↔ OpensWith "INFO".toList a.text.toList

theorem tagged_of_marks {d : String} {a : Annotation} (h : Marks d a) : a.Tagged := by
  obtain ⟨warning, info⟩ := diagnosticKind_eq_ok h.kind
  rw [← h.text] at warning info
  exact ⟨warning, info⟩

theorem tagged_of_limitDiagnostics {ds : List String} {n : Int} {limited : LimitedDiagnostics}
    (h : limitDiagnostics ds n = .ok limited) : ∀ a ∈ limited.annotations, a.Tagged := by
  obtain ⟨annotations, made, rfl⟩ := limitDiagnostics_eq_ok.1 h
  have tagged : List.Forall₂ (fun a d => a.Tagged ∧ Marks d a) annotations _ :=
    (marks_of_annotationsOf made).flip.imp fun _ _ marks => ⟨tagged_of_marks marks, marks⟩
  exact ((List.forall₂_and_left _ _).1 tagged).1

/-! ### Rejected runs -/

namespace Session

variable {s t u : Session Action} {run : Run} {ds : List String} {others : Stage → List Move}

/-- The announcement of an end that does not count as broken off was not. -/
theorem tell_of_uncut {data : Payload}
    (uncut : (s.tell react compileFinished data).1.core.cuts ≤ s.core.cuts) :
    (s.tell react compileFinished data).2 = none := by
  have alters := alters_tell reacts_react s compileFinished data rfl
  cases broken : (s.tell react compileFinished data).2 with
  | none => rfl
  | some f =>
    rw [broken] at alters
    have cut :
        .cutOff compileFinished f :: .published compileFinished data :: s.core.face.course <:+
        (s.tell react compileFinished data).1.core.face.course := by
      rw [alters.face]
      exact List.suffix_refl _
    exact absurd uncut (Nat.not_le.2 (cuts_lt rfl (List.suffix_cons _ _) cut))

/-- **A run without a module is closed, and the outcome shown stays**, unless its end is broken
off. -/
theorem closeRun_of_empty (empty : run.module = none)
    (uncut : (s.closeRun react run).1.core.cuts ≤ s.core.cuts) :
    ∃ t, s.closeRun react run = (t, { run with module := none }, none) ∧
      t.state.outcome = s.state.outcome := by
  obtain ⟨closing, same, closed, -⟩ := alters_closeRun reacts_react s run
  have outcome : (s.closeRun react run).1.state.outcome = s.state.outcome :=
    (congrArg Face.outcome closed.face).trans (Face.outcome_close run closing _)
  have released : s.releaseModule react run = (s, none) := by
    unfold releaseModule
    rw [empty]
  have returns : (s.closeRun react run).2.2 = none := by
    unfold closeRun at uncut ⊢
    rw [released] at uncut ⊢
    dsimp only at uncut ⊢
    split
    next announced =>
      rw [if_pos announced] at uncut
      split
      next alive =>
        rw [if_pos alive] at uncut
        exact tell_of_uncut (s := { s with indicator := s.indicator.finish }) uncut
      next => rfl
    next => rfl
  exact ⟨_, Prod.ext rfl (Prod.ext (run_closeRun reacts_react s run) returns), outcome⟩

/-- A fault that has a wording and is none of the playground's own is reported as an internal
error. -/
theorem reportFault_of_unowned (alive : s.state.alive = true) (run : Run) {f : Fault}
    (unowned : f.isOwn = false) (worded : f.isWorded = true)
    (uncut : (s.reportFault react run f).1.core.cuts ≤ s.core.cuts) :
    ∃ t o, s.reportFault react run f = (t, { run with outcome := some o }, none) ∧
      Outcome.internal run.request.compiler f = .ok o ∧ t.state.outcome = some o := by
  obtain ⟨plain, uncrashed⟩ := Fault.plain_of_unowned unowned
  have itself : f.cause = f := by
    unfold Fault.cause
    rw [uncrashed]
    rfl
  unfold reportFault at uncut ⊢
  rw [if_pos alive, plain] at uncut ⊢
  dsimp only at uncut ⊢
  rcases alters_reportInternalError reacts_react s run f with
    ⟨why, unworded, -⟩ | ⟨message, t, fault, words, eq, alters⟩
  · unfold Fault.isWorded at worded
    rw [itself] at unworded
    rw [unworded] at worded
    cases worded
  · rw [eq] at uncut ⊢
    have internal : Outcome.internal run.request.compiler f = .ok (.internalError message) := by
      obtain ⟨text, hw, rfl⟩ := internalErrorMessage_eq_ok.1 words
      rw [itself] at hw
      unfold Outcome.internal
      rw [hw]
      rfl
    cases fault with
    | none => exact ⟨t, _, rfl, internal, congrArg Face.outcome alters.face⟩
    | some g =>
      have cut : .cutOff notificationPushed g :: s.core.face.course <:+ t.core.face.course := by
        rw [alters.face]
        exact List.suffix_refl _
      exact absurd uncut (Nat.not_le.2 (cuts_lt rfl (List.suffix_refl _) cut))

/-- What a failed stage is followed by breaks no fewer publications off. -/
theorem cuts_afterStage (stage : Stage) (s : Session Action) (run : Run) (f : Fault) :
    s.core.cuts ≤ ((s.mark (.raised stage f)).reportFault react run f).1.core.cuts ∧
      ((s.mark (.raised stage f)).reportFault react run f).1.core.cuts ≤
        (afterStage react stage (s, run, .error f)).1.core.cuts := by
  have same : (s.mark (.raised stage f)).core.cuts = s.core.cuts :=
    List.countP_cons_of_neg (by simp [Milestone.isCut])
  exact ⟨same ▸ cuts_reportFault (s.mark (.raised stage f)) run f, cuts_closeRun _ _⟩

/-- **A rejection is reported, or it is reported that this failed**, unless a listener breaks a
publication off. -/
theorem stepRun_reject (alive : s.state.alive = true) (run : Run) (empty : run.module = none)
    (uncut : (s.stepRun react .reject run).1.core.cuts ≤ s.core.cuts) : ∃ t run' o,
    s.stepRun react .reject run = (t, .over run' none) ∧
      (Conduct.rejects (.ok run.diagnostics)).ending run.request.compiler
        s.settings.maxPrintingErrors = .ok o ∧
      run'.request = run.request ∧ run'.outcome = some o ∧ t.state.outcome = some o := by
  rw [stepRun_of_alive alive] at uncut ⊢
  generalize entered : ({ run with stages := run.stages ++ [Stage.reject.name] } : Run) = run₀
    at uncut ⊢
  obtain ⟨asked, noted, empty⟩ : run₀.request = run.request ∧ run₀.diagnostics = run.diagnostics ∧
    run₀.module = none := by
    rw [← entered]
    exact ⟨rfl, rfl, empty⟩
  rw [← asked, ← noted]
  obtain ⟨t, run', fault, refused, rejects⟩ := refused_rejectStage reacts_react s run₀
  change s.runStage react .reject run₀ = _ at rejects
  cases refused with
  | unread e limits =>
    -- the report fails, and its fault is reported like that of any other stage
    obtain ⟨unowned, worded⟩ := unowned_limitDiagnostics _ _ e limits
    rw [rejects] at uncut ⊢
    obtain ⟨grown, closes⟩ := cuts_afterStage .reject s run₀ e
    obtain ⟨t, o, reported, internal, shown⟩ :=
      reportFault_of_unowned (s := s.mark (.raised .reject e)) alive run₀ unowned worded
        (Nat.le_trans closes uncut)
    rw [afterStage_error] at uncut ⊢
    rw [reported] at uncut grown ⊢
    obtain ⟨u, closed, after⟩ := closeRun_of_empty (s := t)
      (show { run₀ with outcome := some o }.module = none from empty) (Nat.le_trans uncut grown)
    dsimp only
    rw [closed]
    refine ⟨u, _, o, rfl, ?_, rfl, rfl, after.trans shown⟩
    simp only [Conduct.ending, limits]
    exact internal
  | shown limited t limits alters =>
    have same : t.core.cuts = s.core.cuts := by
      rw [cuts_eq_course, cuts_eq_course, alters.face]
      rfl
    rw [rejects, afterStage_last, ← same] at uncut
    rw [rejects, afterStage_last]
    obtain ⟨u, closed, after⟩ := closeRun_of_empty
      (show { run₀ with outcome := some (.failure run₀.diagnostics) }.module = none from empty)
        uncut
    rw [closed]
    refine ⟨u, _, .failure run₀.diagnostics, rfl, ?_, rfl, rfl,
      after.trans (congrArg Face.outcome alters.face)⟩
    simp only [Conduct.ending, limits]
  | cut limited t e foreign limits alters =>
    rw [rejects] at uncut
    obtain ⟨grown, closes⟩ := cuts_afterStage .reject t
      { run₀ with outcome := some (.failure run₀.diagnostics) } e
    exact absurd (Nat.le_trans (Nat.le_trans grown closes) uncut) (broken_cuts alters)

/-- The session in which a run calls its compiler, and the run then, if it comes to that. -/
def calledAmid (others : Stage → List Move) (request : Request) (s : Session Action) :
    Option (Session Action × Run) :=
  match s.beginRun request with
  | (_, .error _) => none
  | (s, .ok run) =>
    match (s.moves (others .announce)).stepRun react .announce run with
    | (s, .next .invoke run) =>
      let s := s.moves (others .invoke)
      if s.state.alive then some (s, run) else none
    | _ => none

/-- The compiler of the run returns nothing, and these are its last diagnostics. -/
def Refuses (run : Run) (u t : Session Action) (ds : List String) : Prop :=
  u.compileSource react run.generation run.request.compiler run.request.source
    run.request.options = (t, .ok (.error (.ok ds)))

theorem stepRun_of_refuses (alive : u.state.alive = true) (refuses : Refuses run u t ds) :
    u.stepRun react .invoke run =
      (t, .next .reject { run.entered .invoke with diagnostics := ds }) := by
  have asked : (run.entered .invoke).generation = run.generation ∧
      (run.entered .invoke).request = run.request := ⟨rfl, rfl⟩
  rw [stepRun_of_alive alive]
  show afterStage react .invoke (invokeStage react (run.entered .invoke) u) = _
  unfold invokeStage
  rw [asked.1, asked.2, refuses]
  rfl

/-- The run goes on from `v`, just before it calls its compiler. -/
structure GoesOn (others : Stage → List Move) (request : Request) (s v : Session Action)
    (run : Run) : Prop where
  alive : (v.moves (others .invoke)).state.alive = true
  fresh : run.outcome = none
  empty : run.module = none
  tolerates : Tolerates others v
  settings : v.settings = s.settings
  grown : s.core.cuts ≤ v.core.cuts
  goes : let r := runAmid others (stagesLeft .invoke) .invoke run v
    pipelineAmid others request s = (r.1, match r.2.2 with
      | none => .ok r.2.1
      | some f => .error f)

theorem module_of_beginRun {request : Request} (h : s.beginRun request = (t, .ok run)) :
    run.module = none := by
  unfold beginRun at h
  dsimp only at h
  split at h
  · cases h
  · cases h
    rfl

/-- The announcement of a run leaves its module alone. -/
theorem module_of_announced {run' : Run} {next : Stage}
    (h : s.stepRun react .announce run = (t, .next next run')) : run'.module = run.module := by
  unfold stepRun runStage announceStage at h
  split at h
  · dsimp only at h
    split at h
    next told =>
      split at told
      · cases told
        cases h
        rfl
      · cases told
    next => cases h
    next => cases h
  · cases h

theorem goesOn_of_called {request : Request} (tolerates : Tolerates others s)
    (called : calledAmid others request s = some (u, run)) :
    ∃ v, u = v.moves (others .invoke) ∧ GoesOn others request s v run := by
  unfold calledAmid at called
  rcases begins : s.beginRun request with ⟨s₀, f | run₀⟩
  · rw [begins] at called
    cases called
  · simp only [begins] at called
    obtain ⟨core, fresh⟩ := core_of_beginRun begins
    rcases announced_or_over (tolerates.of_begins begins) run₀ with
      ⟨v, run₁, first⟩ | ⟨v, run₁, fault, ended⟩
    · simp only [first.step] at called
      obtain ⟨alive, eq⟩ := Option.ite_none_right_eq_some.1 called
      cases eq
      have announced := (living_stepRun (s₀.moves (others .announce)) .announce run₀).1
      rw [first.step] at announced
      have later : s.history <:+ v.history := by
        rw [show s.history = s₀.history from (congrArg Core.history core).symm]
        exact (later_moves s₀ (others .announce)).trans announced
      refine ⟨v, rfl, alive, first.alike.outcome.trans fresh,
        (module_of_announced first.step).trans (module_of_beginRun begins), first.tolerates, ?_,
        cuts_le later, ?_⟩
      · exact (congrArg Face.settings first.face).trans (congrArg Core.settings core)
      · have onward : runAmid others (stagesLeft .announce) .announce run₀ s₀ =
            runAmid others (stagesLeft .invoke) .invoke run v := by
          conv_lhs => unfold stagesLeft runAmid
          simp only [first.step]
          rfl
        have whole := @pipelineAmid_of_begins others request run₀ s s₀ begins
        rw [onward] at whole
        exact whole
    · simp only [ended] at called
      cases called

/-- The diagnostics with which the compiler of a run refuses its text, if it does, and whether the
session is still alive when they are to be reported. -/
def refusalAmid (others : Stage → List Move) (request : Request) (s : Session Action) :
    Option (List String × Bool) :=
  (calledAmid others request s).bind fun (u, run) =>
    match u.compileSource react run.generation run.request.compiler run.request.source
      run.request.options with
    | (t, .ok (.error (.ok ds))) => some (ds, (t.moves (others .reject)).state.alive)
    | _ => none

theorem refuses_of_refusalAmid {request : Request} {alive : Bool}
    (h : refusalAmid others request s = some (ds, alive)) :
    ∃ u run t, calledAmid others request s = some (u, run) ∧ Refuses run u t ds ∧
      (t.moves (others .reject)).state.alive = alive := by
  obtain ⟨⟨u, run⟩, called, refuses⟩ := Option.bind_eq_some_iff.1 h
  dsimp only at refuses
  split at refuses
  next t ds' eq =>
    cases refuses
    exact ⟨u, run, t, called, eq, rfl⟩
  next => cases refuses

/-- A refusal of the compiler is followed by its report. -/
theorem runAmid_of_refuses {v : Session Action}
    (living : (v.moves (others .invoke)).state.alive = true) (tolerates : Tolerates others v)
    (refuses : Refuses run (v.moves (others .invoke)) t ds) :
    (t.moves (others .reject)).settings = v.settings ∧
      v.core.cuts ≤ (t.moves (others .reject)).core.cuts ∧ ∃ w run' fault,
      (t.moves (others .reject)).stepRun react .reject
        { run.entered .invoke with diagnostics := ds } = (w, .over run' fault) ∧
      runAmid others (stagesLeft .invoke) .invoke run v = (w, run', fault) := by
  have before := tolerates.aside .invoke
  have invokes := stepRun_of_refuses living refuses
  have stepped := stepped_stepRun reacts_react (v.moves (others .invoke)) .invoke run
  have called := (living_stepRun (v.moves (others .invoke)) .invoke run).1
  rw [invokes] at stepped called
  have aside : Aside (v.moves (others .invoke)).core t.core := by
    cases stepped with
    | onward _ _ _ _ _ aside => exact aside
  have beside := (tolerates.of_aside (before.after aside)).aside .reject
  have later : v.history <:+ (t.moves (others .reject)).history :=
    ((later_moves v (others .invoke)).trans called).trans (later_moves t (others .reject))
  refine ⟨congrArg Face.settings ((before.after aside).after beside).face, cuts_le later, ?_⟩
  have last := stepped_stepRun reacts_react (t.moves (others .reject)) .reject
    { run.entered .invoke with diagnostics := ds }
  rcases reports : (t.moves (others .reject)).stepRun react .reject
    { run.entered .invoke with diagnostics := ds } with ⟨w, ⟨next, run'⟩ | ⟨run', fault⟩⟩
  · -- no stage follows a report
    rw [reports] at last
    cases last with
    | announced _ _ first => cases first
    | onward _ _ _ _ advances => cases next <;> exact absurd advances (by decide)
  · refine ⟨w, run', fault, rfl, ?_⟩
    unfold stagesLeft runAmid
    simp only [invokes]
    unfold runAmid
    simp only [reports]

/-- **A refusal of the compiler ends the run**, which returns unless a listener breaks a publication
off. Its report is the outcome, unless the session is stopped before. -/
theorem pipelineAmid_of_refusal {request : Request} {alive : Bool} (tolerates : Tolerates others s)
    (refuses : refusalAmid others request s = some (ds, alive))
    (uncut : (pipelineAmid others request s).1.core.cuts = s.core.cuts) :
    ∃ run, (pipelineAmid others request s).2 = .ok run ∧
      (alive = false → run.outcome = none) ∧
      (alive = true → ∃ o, (Conduct.rejects (.ok ds)).ending run.request.compiler
          s.settings.maxPrintingErrors = .ok o ∧
        run.outcome = some o ∧ (pipelineAmid others request s).1.state.outcome = some o) := by
  obtain ⟨u, run, t, called, refuses, rfl⟩ := refuses_of_refusalAmid refuses
  obtain ⟨v, rfl, living, fresh, empty, tolerates', settings, grown, goes⟩ :=
    goesOn_of_called tolerates called
  obtain ⟨kept, grown', w, run', fault, reports, onward⟩ :=
    runAmid_of_refuses living tolerates' refuses
  rw [goes, onward] at uncut ⊢
  have uncut' : w.core.cuts ≤ (t.moves (others .reject)).core.cuts := by
    rw [show w.core.cuts = s.core.cuts from uncut]
    exact Nat.le_trans grown grown'
  cases alive : (t.moves (others .reject)).state.alive with
  | false =>
    rw [stepRun_of_dead alive] at reports
    obtain ⟨state, ended⟩ := Prod.mk.inj reports
    obtain ⟨x, closed, -⟩ := closeRun_of_empty
      (s := (t.moves (others .reject)).write .debug pipelineLogger
        (abandonedMessage { run.entered .invoke with diagnostics := ds }))
      (show { run.entered .invoke with diagnostics := ds }.module = none from empty)
      (state ▸ uncut')
    rw [closed] at ended
    cases ended
    exact ⟨_, rfl, fun _ => fresh, nofun⟩
  | true =>
    obtain ⟨w', run'', o, reports', ending, asked, outcome, shown⟩ :=
      stepRun_reject alive { run.entered .invoke with diagnostics := ds } empty
        (reports ▸ uncut')
    cases reports.symm.trans reports'
    rw [← asked, kept, settings] at ending
    exact ⟨run', rfl, nofun, fun _ => ⟨o, ending, outcome, shown⟩⟩

end Session

open Session

/-- How a rejection is reported: as the failure where those of its diagnostics that are shown are
legible, and else as the fault of the report. -/
structure ReportedRejection (compiler : String) (n : Int) (ds : List String) (o : Outcome) :
    Prop where
  failure : o = .failure ds ↔ ∀ d ∈ firstMembers n ds, Legible d
  internal : (¬ ∀ d ∈ firstMembers n ds, Legible d) →
    ∃ f, limitDiagnostics ds n = .error f ∧ Outcome.internal compiler f = .ok o

theorem reportedRejection_of_ending {compiler : String} {n : Int} {ds : List String} {o : Outcome}
    (h : (Conduct.rejects (.ok ds)).ending compiler n = .ok o) :
    ReportedRejection compiler n ds o := by
  have readable := limitDiagnostics_ok_iff ds n
  cases limits : limitDiagnostics ds n with
  | ok limited =>
    obtain rfl : Outcome.failure ds = o := by
      simpa only [Conduct.ending, limits, Except.ok.injEq] using h
    have legible := readable.1 ⟨limited, limits⟩
    exact ⟨iff_of_true rfl legible, fun illegible => absurd legible illegible⟩
  | error f =>
    have internal : Outcome.internal compiler f = .ok o := by
      simpa only [Conduct.ending, limits] using h
    have other : o ≠ .failure ds := by
      rintro rfl
      unfold Outcome.internal at internal
      cases hw : f.wording <;> rw [hw] at internal <;> cases internal
    refine ⟨iff_of_false other fun legible => ?_, fun _ => ⟨f, limits, internal⟩⟩
    obtain ⟨limited, limits'⟩ := readable.2 legible
    cases limits.symm.trans limits'

/-- **A rejection is reported as a rejection when its diagnostics are legible.** The diagnostics can
be limited exactly then, and their annotations have the kinds of their tags. A run whose compiler
refuses the text returns in any case, unless a listener breaks a publication off, and shows its
outcome unless the session was stopped. -/
theorem rejection_reported (ds : List String) (n : Int) :
    ((∃ limited, limitDiagnostics ds n = .ok limited) ↔ ∀ d ∈ firstMembers n ds, Legible d) ∧
    (∀ limited, limitDiagnostics ds n = .ok limited → ∀ a ∈ limited.annotations, a.Tagged) ∧
    ∀ (s : Session Action) (others : Stage → List Move) (request : Request) (alive : Bool),
      s.settings.maxPrintingErrors = n → Tolerates others s →
      refusalAmid others request s = some (ds, alive) →
      (pipelineAmid others request s).1.core.cuts = s.core.cuts →
      ∃ run, (pipelineAmid others request s).2 = .ok run ∧
        (alive = false → run.outcome = none) ∧
        (alive = true → ∃ o, run.outcome = some o ∧
          (pipelineAmid others request s).1.state.outcome = some o ∧
          ReportedRejection run.request.compiler n ds o) := by
  refine ⟨limitDiagnostics_ok_iff ds n, fun _ => tagged_of_limitDiagnostics, ?_⟩
  rintro s others request alive rfl tolerates refuses uncut
  obtain ⟨run, returns, stopped, reports⟩ := pipelineAmid_of_refusal tolerates refuses uncut
  refine ⟨run, returns, stopped, fun living => ?_⟩
  obtain ⟨o, ending, outcome, shown⟩ := reports living
  exact ⟨o, outcome, shown, reportedRejection_of_ending ending⟩

theorem rejection_reported_parked :
    let s := busySession terseOpening
    refusalAmid parkedBefore s.buildRequest s = some (mixedTexts, true) ∧
      ∃ run, (pipelineAmid parkedBefore s.buildRequest s).2 = .ok run ∧
        run.outcome = some (.failure mixedTexts) := by
  intro s
  have refuses : refusalAmid parkedBefore s.buildRequest s = some (mixedTexts, true) := by
    decide +kernel
  obtain ⟨limits, -, reports⟩ := rejection_reported mixedTexts 2
  obtain ⟨run, returns, -, reported⟩ :=
    reports s parkedBefore s.buildRequest true rfl (.inr ⟨by decide, rfl⟩) refuses
      (by decide +kernel)
  obtain ⟨o, outcome, -, failure, -⟩ := reported rfl
  have legible := limits.1 limited_mixedTexts
  exact ⟨refuses, run, returns, outcome.trans (congrArg some (failure.2 legible))⟩

/-- The compiler returns nothing, and the tag of its diagnostic is written with a dotless i. -/
def dotlessOpening : Opening :=
  { plainOpening with
    compilers := [("CPython", .scripted { compiles :=
      ⟨{ verdict := .rejects (.ok ["ınfo (1,1)"]) }, []⟩ })] }

/-- One diagnostic cannot be limited, and the run that is refused with it ends in an internal
error. -/
theorem refusal_unreported :
    let s := busySession dotlessOpening
    (∀ limited, limitDiagnostics ["ınfo (1,1)"] 8 ≠ .ok limited) ∧
      refusalAmid (fun _ => []) s.buildRequest s = some (["ınfo (1,1)"], true) ∧
      (pipelineAmid (fun _ => []) s.buildRequest s).2.toOption.bind (·.outcome.map (·.kind)) =
        some "internal_error" := by
  intro s
  refine ⟨fun limited limits => ?_, by decide +kernel, by decide +kernel⟩
  have fails : (limitDiagnostics ["ınfo (1,1)"] 8).toOption.isSome = false := by decide +kernel
  rw [limits] at fails
  cases fails

end Playground
