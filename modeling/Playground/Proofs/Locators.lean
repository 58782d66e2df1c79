import Mathlib.Data.List.Induction
import Mathlib.Data.Nat.Digits.Defs
import Playground.Proofs.Legible
import Playground.Proofs.Pieces

/-!
# Where locators are found

A locator is a pair of runs of decimal digits in parentheses, with a comma between them and white
space around each. The reader of diagnostics goes through a text once; what it finds is the locator
that starts first among all parts of the text that have this form.

* `SpacedNumber`, `Locator` — the form of a locator.
* `FirstLocator` — the locator that starts first.
* `readLocator_eq_some_iff` — reading at one place finds the locator that starts there.
* `locatorDigits_eq_none_iff`, `locatorDigits_eq_some_iff` — the search through a text.
* `findLocator_exact` — the numbers that are found, and when a search fails.
-/

namespace Playground.Diagnostic

open Playground.Text Playground.Decimal

/-! ### The form of a locator -/

/-- A run of decimal digits with white space around it. -/
inductive SpacedNumber (ds : List Char) : List Char → Prop where
  | intro (before after : List Char) (some : ds ≠ []) (decimal : ∀ c ∈ ds, isDecimalDigit c = true)
      (blank : ∀ c ∈ before ++ after, isBlank c = true) : SpacedNumber ds (before ++ ds ++ after)

/-- Two numbers in parentheses, with a comma between them. -/
inductive Locator (line column : List Char) : List Char → Prop where
  | intro (p q : List Char) (first : SpacedNumber line p) (second : SpacedNumber column q) :
      Locator line column ('(' :: (p ++ ',' :: (q ++ [')'])))

/-- A locator stands in the text. -/
def HoldsLocator (cs : List Char) : Prop :=
  ∃ line column part, Locator line column part ∧ part <:+: cs

/-- A locator stands in the text, and none starts before it. -/
def FirstLocator (line column cs : List Char) : Prop :=
  ∃ before part after, cs = before ++ part ++ after ∧ Locator line column part ∧
    ∀ before' part' after' line' column', cs = before' ++ part' ++ after' →
      Locator line' column' part' → before.length ≤ before'.length

def decimalValue (ds : List Char) : Nat := Nat.ofDigits 10 (ds.filterMap digitValue?).reverse

/-! ### Digits and white space -/

/-- Every script has its digits apart from all white space. -/
theorem digit_or_blank (c : Char) (digit : isDecimalDigit c = true) : isBlank c = false := by
  obtain ⟨r, hr, low, high⟩ := Ranges.contains_iff.1 digit
  refine Bool.eq_false_iff.2 fun blank => ?_
  obtain ⟨b, hb, low', high'⟩ := Ranges.contains_iff.1 blank
  have apart : ∀ r ∈ digitRanges, ∀ b ∈ blankRanges, r.2 < b.1 ∨ b.2 < r.1 := by decide
  have := apart r hr b hb
  omega

/-- Reading digits gives the number that they stand for. -/
theorem ofDigits_eq_decimalValue {ds : List Char} (decimal : ∀ c ∈ ds, isDecimalDigit c = true) :
    ofDigits ds = decimalValue ds := by
  induction ds using List.reverseRecOn with
  | nil => rfl
  | append_singleton ds d ih =>
    have value : (digitValue? d).isSome = true := by
      rw [isSome_digitValue?]
      exact decimal d (by simp)
    obtain ⟨n, hn⟩ := Option.isSome_iff_exists.1 value
    have others := ih fun c hc => decimal c (List.mem_append_left _ hc)
    rw [ofDigits_append_singleton, others]
    simp [decimalValue, List.filterMap_append, hn, Nat.ofDigits_cons]
    omega

/-! ### Reading at one place -/

theorem spaced_of_readNumber {cs ds rest : List Char} (h : readNumber cs = some (ds, rest)) :
    ∃ part, cs = part ++ rest ∧ SpacedNumber ds part := by
  unfold readNumber at h
  simp only at h
  split at h
  next => cases h
  next some =>
    obtain ⟨rfl, rfl⟩ := Prod.mk.inj (Option.some.inj h)
    refine ⟨cs.takeWhile isBlank ++ (cs.dropWhile isBlank).takeWhile isDecimalDigit ++
      ((cs.dropWhile isBlank).dropWhile isDecimalDigit).takeWhile isBlank, ?_, ?_⟩
    · simp only [List.append_assoc, List.takeWhile_append_dropWhile]
    · refine .intro _ _ (by simpa using some) (List.all_eq_true.1 (List.all_takeWhile ..)) ?_
      intro c hc
      rcases List.mem_append.1 hc with hc | hc
      · exact List.all_eq_true.1 (List.all_takeWhile ..) c hc
      · exact List.all_eq_true.1 (List.all_takeWhile ..) c hc

/-- A number is read up to what is neither a digit nor white space. -/
theorem readNumber_of_spaced {ds part : List Char} (h : SpacedNumber ds part) {x : Char}
    (blank : isBlank x = false) (digit : isDecimalDigit x = false) (rest : List Char) :
    readNumber (part ++ x :: rest) = some (ds, x :: rest) := by
  obtain ⟨before, after, some, decimal, blanks⟩ := h
  have start : (ds ++ (after ++ x :: rest)).dropWhile isBlank = ds ++ (after ++ x :: rest) := by
    obtain ⟨d, ds', rfl⟩ := List.exists_cons_of_ne_nil some
    have : isBlank d = false := digit_or_blank d (decimal d List.mem_cons_self)
    rw [List.cons_append, List.dropWhile_cons_of_neg (by simp [this])]
  -- what follows the digits is white space or `x`
  have stop : ∃ y ys, after ++ x :: rest = y :: ys ∧ isDecimalDigit y = false := by
    cases after with
    | nil => exact ⟨x, rest, rfl, digit⟩
    | cons y ys =>
      have white : isBlank y = true := blanks y (by simp)
      refine ⟨y, ys ++ x :: rest, rfl, Bool.eq_false_iff.2 fun decimal => ?_⟩
      exact Bool.noConfusion ((digit_or_blank y decimal).symm.trans white)
  obtain ⟨y, ys, follows, other⟩ := stop
  unfold readNumber
  simp only [List.append_assoc]
  rw [List.dropWhile_append_of_pos fun c hc => blanks c (List.mem_append_left _ hc), start,
    List.takeWhile_append_of_pos decimal, List.dropWhile_append_of_pos decimal, follows,
    List.takeWhile_cons_of_neg (by simp [other]), List.dropWhile_cons_of_neg (by simp [other]),
    ← follows, List.dropWhile_append_of_pos fun c hc => blanks c (List.mem_append_right _ hc),
    List.dropWhile_cons_of_neg (by simp [blank]), List.append_nil]
  simp [some]

/-- **Reading at one place finds the locator that starts there.** -/
theorem readLocator_eq_some_iff {cs line column : List Char} :
    readLocator cs = some (line, column) ↔
      ∃ part rest, cs = part ++ rest ∧ Locator line column part := by
  constructor
  · intro h
    unfold readLocator at h
    split at h
    next cs =>
      split at h
      next l rest first =>
        split at h
        next c rest' second =>
          obtain ⟨rfl, rfl⟩ := Prod.mk.inj (Option.some.inj h)
          obtain ⟨p, rfl, spaced⟩ := spaced_of_readNumber first
          obtain ⟨q, rfl, spaced'⟩ := spaced_of_readNumber second
          exact ⟨_, rest', by simp, .intro p q spaced spaced'⟩
        next => cases h
      next => cases h
    next => cases h
  · rintro ⟨part, rest, rfl, p, q, first, second⟩
    have line := readNumber_of_spaced first (x := ',') (by decide) (by decide) (q ++ ')' :: rest)
    have column := readNumber_of_spaced second (x := ')') (by decide) (by decide) rest
    unfold readLocator
    simp [line, column]

theorem readLocator_eq_none_iff {cs : List Char} :
    readLocator cs = none ↔ ∀ line column part rest, cs = part ++ rest →
      ¬ Locator line column part := by
  constructor
  · intro h line column part rest split locator
    rw [readLocator_eq_some_iff.2 ⟨part, rest, split, locator⟩] at h
    cases h
  · intro h
    refine Option.eq_none_iff_forall_not_mem.2 fun ⟨line, column⟩ found => ?_
    obtain ⟨part, rest, split, locator⟩ := readLocator_eq_some_iff.1 found
    exact h line column part rest split locator

/-! ### The search through a text -/

theorem locatorDigits_cons (c : Char) (cs : List Char) :
    locatorDigits (c :: cs) = (readLocator (c :: cs)).or (locatorDigits cs) := by
  conv => lhs; unfold locatorDigits
  cases readLocator (c :: cs) <;> rfl

theorem not_locator_nil (line column : List Char) : ¬ Locator line column [] := nofun

/-- **Nothing is found where no part of the text is a locator.** -/
theorem locatorDigits_eq_none_iff {cs : List Char} :
    locatorDigits cs = none ↔ ¬ HoldsLocator cs := by
  induction cs with
  | nil =>
    refine iff_of_true rfl ?_
    rintro ⟨line, column, part, locator, inside⟩
    rw [List.infix_nil] at inside
    exact not_locator_nil line column (inside ▸ locator)
  | cons c cs ih =>
    rw [locatorDigits_cons]
    cases h : readLocator (c :: cs) with
    | some pair =>
      obtain ⟨part, rest, split, locator⟩ := readLocator_eq_some_iff.1 h
      refine iff_of_false nofun fun none => none ⟨_, _, part, locator, ?_⟩
      exact split ▸ (List.prefix_append part rest).isInfix
    | none =>
      have here := readLocator_eq_none_iff.1 h
      rw [Option.none_or, ih]
      refine not_congr ⟨?_, ?_⟩
      · rintro ⟨line, column, part, locator, inside⟩
        exact ⟨line, column, part, locator, List.infix_cons inside⟩
      · rintro ⟨line, column, part, locator, inside⟩
        rcases List.infix_cons_iff.1 inside with ⟨rest, split⟩ | inside
        · exact absurd locator (here line column part rest split.symm)
        · exact ⟨line, column, part, locator, inside⟩

theorem holdsLocator_of_first {line column cs : List Char} (h : FirstLocator line column cs) :
    HoldsLocator cs := by
  obtain ⟨before, part, after, rfl, locator, -⟩ := h
  exact ⟨line, column, part, locator, before, after, rfl⟩

/-- A locator at the front starts first. -/
theorem firstLocator_of_front {line column part rest : List Char} (h : Locator line column part) :
    FirstLocator line column (part ++ rest) :=
  ⟨[], part, rest, rfl, h, fun _ _ _ _ _ _ _ => Nat.zero_le _⟩

/-- **What is found is the locator that starts first.** -/
theorem locatorDigits_eq_some_iff {cs line column : List Char} :
    locatorDigits cs = some (line, column) ↔ FirstLocator line column cs := by
  induction cs with
  | nil =>
    refine iff_of_false nofun fun first => ?_
    exact locatorDigits_eq_none_iff.1 rfl (holdsLocator_of_first first)
  | cons c cs ih =>
    rw [locatorDigits_cons]
    cases h : readLocator (c :: cs) with
    | some pair =>
      obtain ⟨line', column'⟩ := pair
      obtain ⟨part, rest, split, locator⟩ := readLocator_eq_some_iff.1 h
      constructor
      · rintro ⟨⟩
        exact split ▸ firstLocator_of_front locator
      · rintro ⟨before, part', after, split', locator', least⟩
        -- nothing starts before the front
        have front := least [] part rest line' column' split locator
        obtain rfl : before = [] := List.eq_nil_of_length_eq_zero (Nat.le_zero.1 front)
        exact h.symm.trans (readLocator_eq_some_iff.2 ⟨part', after, split', locator'⟩)
    | none =>
      have here := readLocator_eq_none_iff.1 h
      rw [Option.none_or, ih]
      constructor
      · rintro ⟨before, part, after, rfl, locator, least⟩
        refine ⟨c :: before, part, after, rfl, locator, ?_⟩
        rintro (_ | ⟨b, before'⟩) part' after' line' column' split locator'
        · exact absurd locator' (here line' column' part' after' split)
        · obtain ⟨-, split⟩ := List.cons.inj split
          exact Nat.succ_le_succ (least before' part' after' line' column' split locator')
      · rintro ⟨_ | ⟨b, before⟩, part, after, split, locator, least⟩
        · exact absurd locator (here line column part after split)
        · obtain ⟨rfl, rfl⟩ := List.cons.inj split
          refine ⟨before, part, after, rfl, locator, ?_⟩
          rintro before' part' after' line' column' split' locator'
          have le := least (c :: before') part' after' line' column' (by rw [split']; rfl) locator'
          exact Nat.le_of_succ_le_succ le

/-- A text that holds locators holds one that starts first. -/
theorem firstLocator_of_holds {cs : List Char} (h : HoldsLocator cs) :
    ∃ line column, FirstLocator line column cs := by
  cases found : locatorDigits cs with
  | none => exact absurd h (locatorDigits_eq_none_iff.1 found)
  | some pair => exact ⟨pair.1, pair.2, locatorDigits_eq_some_iff.1 found⟩

theorem decimal_of_spaced {ds part : List Char} (h : SpacedNumber ds part) :
    ∀ c ∈ ds, isDecimalDigit c = true := by
  obtain ⟨before, after, some, decimal, blank⟩ := h
  exact decimal

/-- The numbers of a locator are read as what their digits stand for. -/
theorem ofDigits_of_first {line column cs : List Char} (h : FirstLocator line column cs) :
    ofDigits line = decimalValue line ∧ ofDigits column = decimalValue column := by
  obtain ⟨before, part, after, -, ⟨p, q, first, second⟩, -⟩ := h
  exact ⟨ofDigits_eq_decimalValue (decimal_of_spaced first),
    ofDigits_eq_decimalValue (decimal_of_spaced second)⟩

/-! ### Numbers -/

theorem kind_of_numberOf {ds : List Char} {f : Fault} (h : numberOf ds = .error f) :
    f.kind = "ValueError" := by
  unfold numberOf at h
  split at h
  next => exact Except.error.inj h ▸ rfl
  next => cases h

/-- A search that fails was given a value that is not accepted. -/
theorem kind_of_findLocator {text : String} {f : Fault} (h : findLocator text = .error f) :
    f.kind = "ValueError" := by
  unfold findLocator at h
  split at h
  next => cases h
  next line column _ =>
    cases hl : numberOf line with
    | error e =>
      simp only [hl, bind, Except.bind] at h
      exact kind_of_numberOf (Except.error.inj h ▸ hl)
    | ok l =>
      cases hc : numberOf column with
      | error e =>
        simp only [hl, hc, bind, Except.bind] at h
        exact kind_of_numberOf (Except.error.inj h ▸ hc)
      | ok c => simp [hl, hc, bind, Except.bind, pure, Except.pure] at h

/-- A locator without long numbers is found. -/
theorem findLocator_of_first {text : String} {line column : List Char}
    (first : FirstLocator line column text.toList) (hl : line.length ≤ maxDigits)
    (hc : column.length ≤ maxDigits) :
    findLocator text = .ok (some (decimalValue line, decimalValue column)) := by
  obtain ⟨lineValue, columnValue⟩ := ofDigits_of_first first
  rw [findLocator_of_short (locatorDigits_eq_some_iff.2 first) hl hc, lineValue, columnValue]

theorem findLocator_eq_none_iff {text : String} :
    findLocator text = .ok none ↔ ¬ HoldsLocator text.toList := by
  constructor
  · intro nothing holds
    obtain ⟨line, column, first⟩ := firstLocator_of_holds holds
    obtain ⟨hl, hc⟩ := short_of_findLocator (locatorDigits_eq_some_iff.2 first) nothing
    cases nothing.symm.trans (findLocator_of_first first hl hc)
  · intro missing
    unfold findLocator
    rw [locatorDigits_eq_none_iff.2 missing]

theorem findLocator_eq_some_iff {text : String} {l c : Nat} :
    findLocator text = .ok (some (l, c)) ↔
      ∃ line column, FirstLocator line column text.toList ∧ line.length ≤ maxDigits ∧
        column.length ≤ maxDigits ∧ l = decimalValue line ∧ c = decimalValue column := by
  constructor
  · intro found
    have holds : HoldsLocator text.toList := by
      by_contra missing
      cases found.symm.trans (findLocator_eq_none_iff.2 missing)
    obtain ⟨line, column, first⟩ := firstLocator_of_holds holds
    obtain ⟨hl, hc⟩ := short_of_findLocator (locatorDigits_eq_some_iff.2 first) found
    cases found.symm.trans (findLocator_of_first first hl hc)
    exact ⟨line, column, first, hl, hc, rfl, rfl⟩
  · rintro ⟨line, column, first, hl, hc, rfl, rfl⟩
    exact findLocator_of_first first hl hc

/-- Only a number that is too long makes the search fail. -/
theorem long_of_findLocator {text : String} {f : Fault} (fails : findLocator text = .error f) :
    ∃ line column, FirstLocator line column text.toList ∧
      (maxDigits < line.length ∨ maxDigits < column.length) := by
  have holds : HoldsLocator text.toList := by
    by_contra missing
    cases fails.symm.trans (findLocator_eq_none_iff.2 missing)
  obtain ⟨line, column, first⟩ := firstLocator_of_holds holds
  refine ⟨line, column, first, ?_⟩
  by_contra short
  rw [not_or, Nat.not_lt, Nat.not_lt] at short
  cases fails.symm.trans (findLocator_of_first first short.1 short.2)

/-- **Locators are found exactly.** Nothing is found where no part of the text is a locator; else
the numbers are those of the locator that starts first. The search only fails where one of these
has too many digits. -/
theorem findLocator_exact (text : String) :
    (findLocator text = .ok none ↔ ¬ HoldsLocator text.toList) ∧
    (∀ l c, findLocator text = .ok (some (l, c)) ↔
      ∃ line column, FirstLocator line column text.toList ∧ line.length ≤ 4300 ∧
        column.length ≤ 4300 ∧ l = decimalValue line ∧ c = decimalValue column) ∧
    (∀ f, findLocator text = .error f → f.kind = "ValueError" ∧
      ∃ line column, FirstLocator line column text.toList ∧
        (4300 < line.length ∨ 4300 < column.length)) :=
  ⟨findLocator_eq_none_iff, fun _ _ => findLocator_eq_some_iff, fun _ fails =>
    ⟨kind_of_findLocator fails, long_of_findLocator fails⟩⟩

/-- Parentheses that are not closed do not hide a locator, and its digits may be of any script. -/
example : findLocator "((1,((\t٣ , 05) (7,7)" = .ok (some (3, 5)) := by decide

end Playground.Diagnostic
