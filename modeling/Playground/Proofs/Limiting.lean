import Playground.Proofs.Locators

/-!
# What limited diagnostics keep

Limiting takes the first of the diagnostics and makes annotations of those that name a row. Nothing
else is shown, nothing is shown twice, and the order is that of the compiler.

* `NamesRow`, `Marks` — the diagnostics that make a mark, and the marks that they make.
* `toAnnotation_eq_ok` — what one diagnostic makes.
* `LimitedTo` — what there is of limited diagnostics.
* `limitedTo_of_limitDiagnostics`, `prefix_of_limitDiagnostics` — nothing is lost, invented or
  reordered.
-/

namespace Playground

open Playground.Decimal

namespace Diagnostic

/-- The first locator of the diagnostic has a line, counted from one. -/
def NamesRow (d : String) : Prop :=
  ∃ line column, FirstLocator line column d.toList ∧ 1 ≤ decimalValue line

theorem namesRow_iff (d : String) :
    NamesRow d ↔ ∃ pair, locatorDigits d.toList = some pair ∧ 1 ≤ decimalValue pair.1 := by
  constructor
  · rintro ⟨line, column, first, one⟩
    exact ⟨(line, column), locatorDigits_eq_some_iff.2 first, one⟩
  · rintro ⟨⟨line, column⟩, found, one⟩
    exact ⟨line, column, locatorDigits_eq_some_iff.1 found, one⟩

instance : DecidablePred NamesRow := fun d =>
  decidable_of_iff _ (namesRow_iff d).symm

/-- The annotation is on the row before the line of the diagnostic and holds all of its text; its
kind is that of the tag. -/
structure Marks (d : String) (a : Annotation) : Prop where
  row : ∃ line column, FirstLocator line column d.toList ∧ decimalValue line = a.row + 1
  text : a.text = d
  kind : diagnosticKind d = .ok a.kind

/-- **A diagnostic makes a mark exactly when it names a row.** -/
theorem toAnnotation_eq_ok {d : String} {made : Option Annotation}
    (h : toAnnotation d none = .ok made) :
    if NamesRow d then ∃ a, made = some a ∧ Marks d a else made = none := by
  obtain ⟨p, found⟩ := located_of_toAnnotation h
  unfold toAnnotation at h
  simp only [found, bind, Except.bind, pure, Except.pure] at h
  cases p with
  | none =>
    have missing := findLocator_eq_none_iff.1 found
    have nameless : ¬ NamesRow d := fun ⟨_, _, first, _⟩ => missing (holdsLocator_of_first first)
    rw [if_neg nameless]
    exact (Except.ok.inj h).symm
  | some numbers =>
    obtain ⟨l, c⟩ := numbers
    simp only at h
    obtain ⟨line, column, first, -, -, hl, -⟩ := findLocator_eq_some_iff.1 found
    -- no other locator starts as early
    have only : NamesRow d ↔ 1 ≤ l := by
      constructor
      · rintro ⟨line', column', first', one⟩
        cases (locatorDigits_eq_some_iff.2 first).symm.trans (locatorDigits_eq_some_iff.2 first')
        exact hl ▸ one
      · intro one
        exact ⟨line, column, first, hl ▸ one⟩
    by_cases one : 1 ≤ l
    · rw [if_pos (only.2 one)]
      rw [if_neg (Nat.not_lt.2 one)] at h
      cases kind : diagnosticKind d with
      | error f => simp [kind] at h
      | ok k =>
        simp only [kind, Except.ok.injEq] at h
        refine ⟨_, h.symm, ⟨line, column, first, ?_⟩, rfl, kind⟩
        show decimalValue line = l - 1 + 1
        omega
    · rw [if_neg (fun names => one (only.1 names))]
      rw [if_pos (by omega)] at h
      exact (Except.ok.inj h).symm

/-- The annotations are the marks of the diagnostics that name a row, one each, in their order. -/
theorem marks_of_annotationsOf {ds : List String} {annotations : List Annotation}
    (h : annotationsOf ds = .ok annotations) :
    List.Forall₂ Marks (ds.filter NamesRow) annotations := by
  induction ds generalizing annotations with
  | nil =>
    cases h
    exact .nil
  | cons d ds ih =>
    obtain ⟨made, others, first, rest, rfl⟩ := annotationsOf_cons_eq_ok.1 h
    have mark := toAnnotation_eq_ok first
    by_cases names : NamesRow d
    · rw [if_pos names] at mark
      obtain ⟨a, rfl, marks⟩ := mark
      rw [List.filter_cons_of_pos (by simpa using names)]
      exact .cons marks (ih rest)
    · rw [if_neg names] at mark
      subst mark
      rw [List.filter_cons_of_neg (by simpa using names)]
      exact ih rest

/-- What is made of the first diagnostics does not depend on those after them. -/
theorem prefix_of_annotationsOf {ds es : List String} {few many : List Annotation}
    (hf : annotationsOf ds = .ok few) (hm : annotationsOf (ds ++ es) = .ok many) :
    few <+: many := by
  induction ds generalizing few many with
  | nil =>
    cases hf
    exact List.nil_prefix
  | cons d ds ih =>
    obtain ⟨made, others, first, rest, rfl⟩ := annotationsOf_cons_eq_ok.1 hf
    obtain ⟨made', others', first', rest', rfl⟩ := annotationsOf_cons_eq_ok.1 hm
    cases first.symm.trans first'
    exact (List.prefix_append_right_inj _).2 (ih rest rest')

end Diagnostic

open Diagnostic

/-! ### Limited diagnostics -/

/-- These are the first `m` diagnostics with all that belongs to them. -/
structure LimitedTo (m : Nat) (ds : List String) (limited : LimitedDiagnostics) : Prop where
  shown : limited.shown = ds.take m
  length : limited.shown.length = min ds.length m
  total : limited.total = ds.length
  summary : limited.summary.isSome = true ↔ m < ds.length
  message : ∀ text ∈ limited.summary, text = tooManyErrorsMessage ds.length
  annotations : List.Forall₂ Marks (limited.shown.filter NamesRow) limited.annotations

theorem firstMembers_natCast {α : Type} (m : Nat) (xs : List α) :
    firstMembers (m : Int) xs = xs.take m := by
  unfold firstMembers
  rw [if_neg (by omega), Int.natAbs_natCast]

theorem limitedTo_of_limitDiagnostics {ds : List String} {m : Nat} {limited : LimitedDiagnostics}
    (h : limitDiagnostics ds m = .ok limited) : LimitedTo m ds limited := by
  obtain ⟨annotations, made, rfl⟩ := limitDiagnostics_eq_ok.1 h
  rw [firstMembers_natCast] at made ⊢
  refine ⟨rfl, by simp [Nat.min_comm], rfl, ?_, ?_, marks_of_annotationsOf made⟩
  · dsimp only
    split <;> simp <;> omega
  · intro text
    dsimp only
    split <;> simp +contextual

/-- Where more diagnostics are shown, what was shown of fewer stays in front. -/
theorem prefix_of_limitDiagnostics {ds : List String} {m m' : Nat}
    {limited limited' : LimitedDiagnostics} (le : m ≤ m')
    (h : limitDiagnostics ds m = .ok limited) (h' : limitDiagnostics ds m' = .ok limited') :
    limited.shown <+: limited'.shown ∧ limited.annotations <+: limited'.annotations := by
  obtain ⟨annotations, made, rfl⟩ := limitDiagnostics_eq_ok.1 h
  obtain ⟨annotations', made', rfl⟩ := limitDiagnostics_eq_ok.1 h'
  rw [firstMembers_natCast] at made made' ⊢
  have front : ds.take m <+: ds.take m' := List.take_prefix_take_left le
  refine ⟨by simpa [firstMembers_natCast] using front, ?_⟩
  obtain ⟨rest, more⟩ := front
  rw [← more] at made'
  exact prefix_of_annotationsOf made made'

end Playground
