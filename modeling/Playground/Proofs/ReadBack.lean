import Mathlib.Data.List.Basic
import Playground.Diagnostic.Layout
import Playground.Proofs.Locators

/-!
# Diagnostics are read back where they were written

A diagnostic with a line is laid out with its locator on a line of its own. Reading it gives the
line and the column back, whatever its first line ends with, unless a locator stands there already.

* `locatorDigits_append` — no locator goes across a character that stands in none.
* `Annotates` — the mark that a diagnostic makes for a line.
* `formatDiagnostic_read_back` — what is read from a diagnostic that was laid out.
-/

namespace Playground.Diagnostic

open Playground.Text Playground.Decimal

/-! ### Across a foreign character -/

def standsInLocator (c : Char) : Bool :=
  c = '(' || c = ',' || c = ')' || isBlank c || isDecimalDigit c

theorem standsInLocator_of_spaced {ds part : List Char} (h : SpacedNumber ds part) :
    ∀ c ∈ part, standsInLocator c = true := by
  obtain ⟨before, after, some, decimal, blank⟩ := h
  intro c hc
  unfold standsInLocator
  rcases List.mem_append.1 hc with hc | hc
  · rcases List.mem_append.1 hc with hc | hc
    · simp [blank c (List.mem_append_left _ hc)]
    · simp [decimal c hc]
  · simp [blank c (List.mem_append_right _ hc)]

theorem standsInLocator_of_locator {line column part : List Char} (h : Locator line column part) :
    ∀ c ∈ part, standsInLocator c = true := by
  obtain ⟨p, q, first, second⟩ := h
  intro c hc
  simp only [List.mem_cons, List.mem_append, List.not_mem_nil, or_false] at hc
  obtain rfl | hc | rfl | hc | rfl := hc
  · decide
  · exact standsInLocator_of_spaced first c hc
  · decide
  · exact standsInLocator_of_spaced second c hc
  · decide

/-- A locator does not end in white space. -/
theorem getLast?_of_locator {line column part : List Char} (h : Locator line column part) :
    part.getLast? = some ')' := by
  obtain ⟨p, q, first, second⟩ := h
  have last : '(' :: (p ++ ',' :: (q ++ [')'])) = ('(' :: (p ++ ',' :: q)) ++ [')'] := by simp
  rw [last, List.getLast?_concat]

/-- A locator in front of white space and a foreign character ends before them. -/
theorem prefix_of_locator {line column part cs bs rest : List Char} {x : Char}
    (locator : Locator line column part) (blank : ∀ c ∈ bs, isBlank c = true)
    (foreign : standsInLocator x = false) (h : part <+: cs ++ bs ++ x :: rest) : part <+: cs := by
  -- the foreign character is not reached
  have short : part <+: cs ++ bs := by
    rcases List.prefix_or_prefix_of_prefix h (List.prefix_append (cs ++ bs) _) with h' | ⟨q, rfl⟩
    · exact h'
    · cases q with
      | nil => simp
      | cons y q =>
        obtain ⟨rfl, -⟩ : y = x ∧ q <+: rest := by
          simpa using (List.prefix_append_right_inj (cs ++ bs)).1 h
        have stands := standsInLocator_of_locator locator y (by simp)
        exact Bool.noConfusion (foreign.symm.trans stands)
  -- and the last character is no white space
  rcases List.prefix_or_prefix_of_prefix short (List.prefix_append cs bs) with h' | ⟨q, rfl⟩
  · exact h'
  · rcases List.eq_nil_or_concat' q with rfl | ⟨q, y, rfl⟩
    · simp
    · have last := getLast?_of_locator locator
      rw [← List.append_assoc, List.getLast?_concat] at last
      obtain rfl : y = ')' := Option.some.inj last
      have inside := (List.prefix_append_right_inj cs).1 short
      have white := blank ')' (inside.subset (by simp))
      exact absurd white (by decide)

theorem readLocator_append {cs bs rest : List Char} {x : Char}
    (blank : ∀ c ∈ bs, isBlank c = true) (foreign : standsInLocator x = false) :
    readLocator (cs ++ bs ++ x :: rest) = readLocator cs := by
  refine Option.ext fun ⟨line, column⟩ => ?_
  rw [readLocator_eq_some_iff, readLocator_eq_some_iff]
  constructor
  · rintro ⟨part, after, split, locator⟩
    obtain ⟨after', rfl⟩ := prefix_of_locator locator blank foreign ⟨after, split.symm⟩
    exact ⟨part, after', rfl, locator⟩
  · rintro ⟨part, after, rfl, locator⟩
    exact ⟨part, after ++ bs ++ x :: rest, by simp, locator⟩

/-- Locators start with a parenthesis. -/
theorem locatorDigits_skip {cs : List Char} (h : ∀ c ∈ cs, c ≠ '(') (rest : List Char) :
    locatorDigits (cs ++ rest) = locatorDigits rest := by
  induction cs with
  | nil => rfl
  | cons c cs ih =>
    have other : readLocator (c :: (cs ++ rest)) = none := by
      unfold readLocator
      split
      next same => exact absurd (List.cons.inj same).1 (h c List.mem_cons_self)
      next => rfl
    rw [List.cons_append, locatorDigits_cons, other, Option.none_or]
    exact ih fun c hc => h c (List.mem_cons_of_mem _ hc)

/-- **No locator goes across a foreign character**, so that the search goes on behind it where
nothing was found before it. -/
theorem locatorDigits_append {bs : List Char} {x : Char} (blank : ∀ c ∈ bs, isBlank c = true)
    (foreign : standsInLocator x = false) (cs rest : List Char) :
    locatorDigits (cs ++ bs ++ x :: rest) = (locatorDigits cs).or (locatorDigits rest) := by
  induction cs with
  | nil =>
    have skipped : ∀ c ∈ bs ++ [x], c ≠ '(' := by
      rintro c hc rfl
      rcases List.mem_append.1 hc with hc | hc
      · exact absurd (blank '(' hc) (by decide)
      · obtain rfl := List.mem_singleton.1 hc
        exact absurd foreign (by decide)
    have behind := locatorDigits_skip skipped rest
    rw [List.append_assoc] at behind
    exact behind
  | cons c cs ih =>
    have here : readLocator (c :: cs ++ bs ++ x :: rest) = readLocator (c :: cs) :=
      readLocator_append blank foreign
    rw [List.cons_append, List.cons_append] at here ⊢
    rw [locatorDigits_cons, locatorDigits_cons, here, ih, Option.or_assoc]

/-! ### What is written -/

theorem spaced_digits (n : Nat) : SpacedNumber (digits n) (digits n) := by
  have spaced := SpacedNumber.intro [] [] (digits_ne_nil n) (decimal_digits n) (by simp)
  simpa using spaced

def writtenLocator (line column : Nat) : List Char :=
  '(' :: (digits line ++ ',' :: (digits column ++ [')']))

theorem locatorDigits_written (line column : Nat) :
    locatorDigits (writtenLocator line column) = some (digits line, digits column) := by
  have locator := Locator.intro _ _ (spaced_digits line) (spaced_digits column)
  rw [locatorDigits_eq_some_iff, ← List.append_nil (writtenLocator line column)]
  exact firstLocator_of_front locator

/-- The column that is written for a column. -/
def writtenColumn : Option Nat → Nat
  | none => 1
  | some c => if c = 0 then 1 else c

theorem length_digits_writtenColumn {column : Option Nat}
    (short : ∀ c ∈ column, (digits c).length ≤ maxDigits) :
    (digits (writtenColumn column)).length ≤ maxDigits := by
  have one : (digits 1).length ≤ maxDigits := by
    unfold digits
    decide
  cases column with
  | none => exact one
  | some c =>
    by_cases zero : c = 0
    · simpa [writtenColumn, zero] using one
    · simpa [writtenColumn, zero] using short c rfl

/-- The locator stands on a line of its own, after the name of the source. -/
theorem toList_formatDiagnostic (category code message : String) (line : Nat)
    (column : Option Nat) :
    (formatDiagnostic code message (some line) (column.map Int.ofNat) category).toList =
      (diagnosticHeader category code message).toList ++ ['\n', ' '] ++
        'i' :: ("n input.py".toList ++ writtenLocator line (writtenColumn column)) := by
  have nonnegative (n : Nat) : integerChars (n : Int) = digits n := by
    unfold integerChars
    rw [if_neg (by omega), Int.natAbs_natCast]
  have one : integerChars 1 = digits 1 := nonnegative 1
  cases column with
  | none => simp [formatDiagnostic, integerText, nonnegative, one, writtenLocator, writtenColumn,
      sourceName]
  | some c =>
    by_cases zero : c = 0
    · simp [formatDiagnostic, integerText, nonnegative, one, writtenLocator, writtenColumn,
        sourceName, zero]
    · simp [formatDiagnostic, integerText, nonnegative, writtenLocator, writtenColumn,
        sourceName, zero]

theorem locatorDigits_formatDiagnostic (category code message : String) (line : Nat)
    (column : Option Nat) :
    locatorDigits (formatDiagnostic code message (some line) (column.map Int.ofNat)
        category).toList =
      (locatorDigits (diagnosticHeader category code message).toList).or
        (some (digits line, digits (writtenColumn column))) := by
  have named : locatorDigits ("n input.py".toList ++ writtenLocator line (writtenColumn column)) =
      some (digits line, digits (writtenColumn column)) := by
    rw [locatorDigits_skip (by simp), locatorDigits_written]
  have blank : ['\n', ' '].all isBlank = true := by decide
  rw [toList_formatDiagnostic, locatorDigits_append (List.all_eq_true.1 blank) (by decide), named]

/-! ### What is read back -/

/-- A diagnostic is read back with this line and this column. -/
structure ReadsBack (text : String) (line column : Nat) : Prop where
  located : findLocator text = .ok (some (line, column))
  /-- Line zero makes no mark. -/
  unmarked : line = 0 → ∀ kind, toAnnotation text kind = .ok none
  marked : 1 ≤ line → ∀ k, diagnosticKind text = .ok k →
    toAnnotation text none = .ok (some ⟨line - 1, k, text⟩)
  forced : 1 ≤ line → ∀ k, toAnnotation text (some k) = .ok (some ⟨line - 1, k, text⟩)

theorem readsBack_of_located {text : String} {line column : Nat}
    (h : findLocator text = .ok (some (line, column))) : ReadsBack text line column where
  located := h
  unmarked zero kind := by
    unfold toAnnotation
    simp [h, zero, bind, Except.bind, pure, Except.pure]
  marked one k readable := by
    unfold toAnnotation
    simp [h, Nat.not_lt.2 one, readable, bind, Except.bind, pure, Except.pure]
  forced one k := by
    unfold toAnnotation
    simp [h, Nat.not_lt.2 one, bind, Except.bind, pure, Except.pure]

/-- The search depends on the digits that are found. -/
theorem findLocator_congr {s t : String} (h : locatorDigits s.toList = locatorDigits t.toList) :
    findLocator s = findLocator t := by
  unfold findLocator
  rw [h]

/-- **Diagnostics are read back where they were written.** Where the first line holds no locator,
the line and the column are those that were written; where it holds one, and where no line was
given, all that is read is read from the first line. -/
theorem formatDiagnostic_read_back (category code message : String) :
    let header := diagnosticHeader category code message
    (∀ (line : Nat) (column : Option Nat),
      let text := formatDiagnostic code message (some line) (column.map Int.ofNat) category
      (¬ HoldsLocator header.toList → (digits line).length ≤ 4300 →
        (∀ c ∈ column, (digits c).length ≤ 4300) →
          ReadsBack text line (writtenColumn column)) ∧
      (HoldsLocator header.toList → findLocator text = findLocator header)) ∧
    ∀ column, findLocator (formatDiagnostic code message none column category) =
      findLocator header := by
  intro header
  refine ⟨fun line column => ⟨fun free hl hc => ?_, fun holds => ?_⟩, fun _ => rfl⟩
  · have found := locatorDigits_formatDiagnostic category code message line column
    rw [locatorDigits_eq_none_iff.2 free, Option.none_or] at found
    have located := findLocator_of_short found hl (length_digits_writtenColumn hc)
    rw [ofDigits_digits, ofDigits_digits] at located
    exact readsBack_of_located located
  · refine findLocator_congr ?_
    obtain ⟨l, c, first⟩ := firstLocator_of_holds holds
    rw [locatorDigits_formatDiagnostic, locatorDigits_eq_some_iff.2 first, Option.some_or]

/-- A message that ends in the middle of a locator does not swallow the one that was written. -/
theorem formatDiagnostic_read_back_unclosed :
    let text := formatDiagnostic "E999" "unexpected (1," (some 3) (some 0) "ERROR"
    findLocator text = .ok (some (3, 1)) ∧
      toAnnotation text none = .ok (some ⟨2, .error, text⟩) := by
  intro text
  have free : ¬ HoldsLocator (diagnosticHeader "ERROR" "E999" "unexpected (1,").toList :=
    locatorDigits_eq_none_iff.1 (by decide)
  have length (n : Nat) (small : n < 10) : (digits n).length ≤ 4300 := by
    unfold digits
    simp [small]
  have written := ((formatDiagnostic_read_back "ERROR" "E999" "unexpected (1,").1 3 (some 0)).1
    free (length 3 (by decide)) (by simpa using length 0 (by decide))
  exact ⟨written.located, written.marked (by decide) .error (by decide +kernel)⟩

end Playground.Diagnostic
