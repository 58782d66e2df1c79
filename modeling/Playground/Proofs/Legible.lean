import Mathlib.Data.List.Forall2
import Playground.Diagnostic.Limit

/-!
# Legible diagnostics

A rejection is reported with the annotations that its diagnostics make. Two kinds of diagnostics
cannot be read: numbers of a locator may have too many digits, and the tag of a diagnostic that
marks a row may be written with an i that lower case does not turn into a plain one.

* `Diagnostic.Legible` — a diagnostic that can be read.
* `diagnosticKind_ok_iff` — which tags name a kind.
* `limitDiagnostics_ok_iff` — which diagnostics can be reported.
-/

namespace Playground

open Playground.Text Playground.Decimal

namespace Diagnostic

/-- A diagnostic that can be read. -/
structure Legible (text : String) : Prop where
  /-- The numbers of its locator are not too long. -/
  short : ∀ line column, locatorDigits text.toList = some (line, column) →
    line.length ≤ maxDigits ∧ column.length ≤ maxDigits
  /-- Where it marks a row, its tag has plain letters only. -/
  plain : ∀ line column tag, locatorDigits text.toList = some (line, column) →
    1 ≤ ofDigits line → leadingTag text.toList = some tag → 'İ' ∉ tag ∧ 'ı' ∉ tag

/-! ### Tags -/

theorem ascii_of_toUpper {c : Char} (h : c.toUpper.toNat < 128) : c.toNat < 128 := by
  unfold Char.toUpper at h
  split at h
  next small =>
    have le : c.toNat ≤ 122 := small.2
    omega
  next => exact h

theorem toLower_toUpper_of_ascii : ∀ n < 128,
    (Char.ofNat n).toUpper.toLower = (Char.ofNat n).toLower := by decide

/-- A small or capital letter of a tag has the small one as its lower case. -/
theorem lowerChar_of_toUpper {c letter : Char} (h : c.toUpper = letter)
    (ascii : letter.toNat < 128) : c ≠ 'Σ' ∧ lowerChar c = [letter.toLower] := by
  subst h
  have small : c.toNat < 128 := ascii_of_toUpper ascii
  have lower := toLower_toUpper_of_ascii c.toNat small
  rw [Char.ofNat_toNat] at lower
  refine ⟨?_, ?_⟩
  · rintro rfl
    revert small
    decide
  · unfold lowerChar
    rw [if_pos small, lower]

/-- The letters that are read are those of the tag, in any form that matches them. -/
theorem readTag_eq_some_iff {letters cs read rest : List Char} :
    readTag letters cs = some (read, rest) ↔
      cs = read ++ rest ∧ List.Forall₂ (fun l c => matchesLetter l c = true) letters read := by
  induction letters generalizing cs read with
  | nil =>
    constructor
    · intro h
      obtain ⟨rfl, rfl⟩ : [] = read ∧ cs = rest := by simpa [readTag] using h
      exact ⟨rfl, .nil⟩
    · rintro ⟨rfl, matched⟩
      cases matched
      rfl
  | cons letter letters ih =>
    cases cs with
    | nil =>
      refine iff_of_false nofun ?_
      rintro ⟨split, matched⟩
      cases matched
      cases split
    | cons c cs =>
      unfold readTag
      constructor
      · intro h
        split at h
        next first =>
          obtain ⟨⟨read', rest'⟩, more, eq⟩ := Option.map_eq_some_iff.1 h
          obtain ⟨rfl, rfl⟩ : c :: read' = read ∧ rest' = rest := by simpa using eq
          obtain ⟨rfl, matched⟩ := ih.1 more
          exact ⟨rfl, .cons first matched⟩
        next => cases h
      · rintro ⟨split, matched⟩
        cases matched with
        | @cons _ _ _ read first matched =>
          obtain ⟨rfl, more⟩ : c = _ ∧ cs = read ++ rest := List.cons.inj split
          rw [if_pos first, ih.2 ⟨more, matched⟩]
          rfl

/-- Letters of either case match those of a tag. -/
theorem matches_of_toUpper {letters read : List Char} (h : read.map Char.toUpper = letters) :
    List.Forall₂ (fun l c => matchesLetter l c = true) letters read := by
  subst h
  induction read with
  | nil => exact .nil
  | cons c read ih => exact .cons (by simp [matchesLetter]) ih

/-- Without the dotted capital and the dotless small I, only letters of either case match. -/
theorem toUpper_of_matches {letters read : List Char}
    (h : List.Forall₂ (fun l c => matchesLetter l c = true) letters read)
    (plain : 'İ' ∉ read ∧ 'ı' ∉ read) : read.map Char.toUpper = letters := by
  induction h with
  | nil => rfl
  | @cons l c letters read first _ ih =>
    obtain ⟨⟨hc, hread⟩, ⟨hc', hread'⟩⟩ :
        ('İ' ≠ c ∧ 'İ' ∉ read) ∧ ('ı' ≠ c ∧ 'ı' ∉ read) := by simpa using plain
    have upper : c.toUpper = l := by
      simpa [matchesLetter, Ne.symm hc, Ne.symm hc'] using first
    rw [List.map_cons, upper, ih ⟨hread, hread'⟩]

/-- The lower case of letters of a tag, small or capital, is the tag in small letters. -/
theorem lowerFrom_of_toUpper {letters read : List Char} (upper : read.map Char.toUpper = letters)
    (ascii : ∀ l ∈ letters, l.toNat < 128) (before : List Char) :
    lowerFrom before read = letters.map Char.toLower := by
  subst upper
  induction read generalizing before with
  | nil => rfl
  | cons c read ih =>
    obtain ⟨sigma, lower⟩ := lowerChar_of_toUpper rfl (ascii c.toUpper List.mem_cons_self)
    have others := ih (c :: before) fun l hl => ascii l (List.mem_cons_of_mem _ hl)
    simp only [List.map_cons, lowerFrom, if_neg sigma, lower, others, List.cons_append,
      List.nil_append]

/-- The lower case of a text holds the lower case of each of its characters. -/
theorem mem_lowerFrom {c d : Char} {cs before : List Char} (hc : c ∈ cs) (sigma : c ≠ 'Σ')
    (hd : d ∈ lowerChar c) : d ∈ lowerFrom before cs := by
  induction cs generalizing before with
  | nil => cases hc
  | cons c' cs ih =>
    unfold lowerFrom
    rcases List.mem_cons.1 hc with rfl | hc
    · simp [sigma, hd]
    · exact List.mem_append_right _ (ih hc)

/-- The names of the kinds are written in ASCII. -/
theorem ascii_of_ofName {s : String} {k : AnnotationKind} (h : AnnotationKind.ofName s = .ok k) :
    ∀ c ∈ s.toList, c.toNat < 128 := by
  have named : k.name = s := by
    unfold AnnotationKind.ofName at h
    split at h
    next k' found =>
      obtain rfl : k' = k := by simpa using h
      simpa using List.find?_some found
    next => cases h
  have ascii : k.name.toList.all (fun c => c.toNat < 128) = true := by cases k <;> rfl
  rw [named] at ascii
  simpa using ascii

/-- The leading tag is read from one of the tags, and its word ends where it ends. -/
theorem tag_of_leadingTag {cs read : List Char} (h : leadingTag cs = some read) :
    ∃ tag ∈ tags, ∃ rest, readTag tag (cs.dropWhile isBlank) = some (read, rest) ∧
      ∀ c ∈ rest.head?, isWordChar c = false := by
  obtain ⟨tag, mem, found⟩ := List.exists_of_findSome?_eq_some h
  refine ⟨tag, mem, ?_⟩
  revert found
  split
  next read' hx =>
    rintro ⟨⟩
    exact ⟨[], hx, nofun⟩
  next read' c rest hx =>
    split
    · nofun
    next other =>
      rintro ⟨⟩
      refine ⟨c :: rest, hx, ?_⟩
      rintro _ ⟨⟩
      exact Bool.eq_false_iff.2 other
  next => nofun

theorem eq_of_tag {tag : List Char} (h : tag ∈ tags) :
    tag = "ERROR".toList ∨ tag = "WARNING".toList ∨ tag = "INFO".toList := by
  simpa [tags] using h

theorem ofName_of_tag {tag : List Char} (h : tag ∈ tags) :
    ∃ k, AnnotationKind.ofName (String.ofList (tag.map Char.toLower)) = .ok k := by
  obtain rfl | rfl | rfl := eq_of_tag h
  · exact ⟨.error, rfl⟩
  · exact ⟨.warning, rfl⟩
  · exact ⟨.info, rfl⟩

theorem ascii_of_tag {tag : List Char} (h : tag ∈ tags) : ∀ l ∈ tag, l.toNat < 128 := by
  have ascii : tags.all (fun tag => tag.all fun l => l.toNat < 128) = true := rfl
  simpa using List.all_eq_true.1 ascii tag h

end Diagnostic

open Diagnostic

/-- **A tag names a kind when it has plain letters only.** -/
theorem diagnosticKind_ok_iff (text : String) :
    (∃ k, diagnosticKind text = .ok k) ↔
      ∀ tag, leadingTag text.toList = some tag → 'İ' ∉ tag ∧ 'ı' ∉ tag := by
  unfold diagnosticKind
  cases h : leadingTag text.toList with
  | none => simp
  | some read =>
    obtain ⟨tag, mem, rest, reads, -⟩ := tag_of_leadingTag h
    constructor
    · rintro ⟨k, named⟩ _ ⟨⟩
      have ascii := ascii_of_ofName named
      rw [toLower, String.toList_ofList, String.toList_ofList] at ascii
      refine ⟨fun dotted => ?_, fun dotless => ?_⟩
      · have mem : Char.ofNat 775 ∈ lowerFrom [] read :=
          mem_lowerFrom dotted (by decide) (by decide)
        exact absurd (ascii _ mem) (by decide)
      · have mem : 'ı' ∈ lowerFrom [] read := mem_lowerFrom dotless (by decide) (by decide)
        exact absurd (ascii _ mem) (by decide)
    · intro plain
      have upper := toUpper_of_matches (readTag_eq_some_iff.1 reads).2 (plain read rfl)
      have lower := lowerFrom_of_toUpper upper (ascii_of_tag mem) []
      simp only [toLower, String.toList_ofList, lower]
      exact ofName_of_tag mem

/-! ### Locators -/

theorem numberOf_of_short {ds : List Char} (h : ds.length ≤ maxDigits) :
    numberOf ds = .ok (ofDigits ds) := if_neg (Nat.not_lt.2 h)

theorem short_of_numberOf {ds : List Char} {n : Nat} (h : numberOf ds = .ok n) :
    ds.length ≤ maxDigits := by
  unfold numberOf at h
  split at h
  next => cases h
  next le => exact Nat.not_lt.1 le

theorem findLocator_of_short {text : String} {line column : List Char}
    (h : locatorDigits text.toList = some (line, column)) (hl : line.length ≤ maxDigits)
    (hc : column.length ≤ maxDigits) :
    findLocator text = .ok (some (ofDigits line, ofDigits column)) := by
  unfold findLocator
  rw [h]
  simp [numberOf_of_short hl, numberOf_of_short hc, bind, Except.bind, pure, Except.pure]

theorem short_of_findLocator {text : String} {line column : List Char} {p : Option (Nat × Nat)}
    (h : locatorDigits text.toList = some (line, column)) (found : findLocator text = .ok p) :
    line.length ≤ maxDigits ∧ column.length ≤ maxDigits := by
  unfold findLocator at found
  rw [h] at found
  cases hl : numberOf line with
  | error f => simp [hl, bind, Except.bind] at found
  | ok l =>
    cases hc : numberOf column with
    | error f => simp [hl, hc, bind, Except.bind] at found
    | ok c => exact ⟨short_of_numberOf hl, short_of_numberOf hc⟩

/-! ### Annotations -/

theorem toAnnotation_of_located {text : String} {line column : Nat}
    (h : findLocator text = .ok (some (line, column))) :
    (∃ a, toAnnotation text none = .ok a) ↔ (1 ≤ line → ∃ k, diagnosticKind text = .ok k) := by
  unfold toAnnotation
  simp only [h, bind, Except.bind, pure, Except.pure]
  by_cases le : 1 ≤ line
  · rw [if_neg (Nat.not_lt.2 le)]
    cases diagnosticKind text <;> simp [le]
  · rw [if_pos (Nat.not_le.1 le)]
    simp [le]

theorem located_of_toAnnotation {text : String} {a : Option Annotation}
    (h : toAnnotation text none = .ok a) : ∃ p, findLocator text = .ok p := by
  unfold toAnnotation at h
  cases found : findLocator text with
  | error f => simp [found, bind, Except.bind] at h
  | ok p => exact ⟨p, rfl⟩

/-- **A diagnostic can be made an annotation of, or none, when it is legible.** -/
theorem toAnnotation_ok_iff (text : String) :
    (∃ a, toAnnotation text none = .ok a) ↔ Legible text := by
  cases h : locatorDigits text.toList with
  | none =>
    have located : findLocator text = .ok none := by
      unfold findLocator
      rw [h]
    refine ⟨fun _ => ⟨by simp [h], by simp [h]⟩, fun _ => ⟨none, ?_⟩⟩
    unfold toAnnotation
    rw [located]
    rfl
  | some pair =>
    obtain ⟨line, column⟩ := pair
    constructor
    · rintro ⟨a, annotated⟩
      obtain ⟨p, found⟩ := located_of_toAnnotation annotated
      obtain ⟨hl, hc⟩ := short_of_findLocator h found
      have kind := (toAnnotation_of_located (findLocator_of_short h hl hc)).1 ⟨a, annotated⟩
      refine ⟨fun line' column' same => ?_, fun line' column' tag same le => ?_⟩
      · cases h.symm.trans same
        exact ⟨hl, hc⟩
      · cases h.symm.trans same
        exact (diagnosticKind_ok_iff text).1 (kind le) tag
    · intro legible
      obtain ⟨hl, hc⟩ := legible.short line column h
      refine (toAnnotation_of_located (findLocator_of_short h hl hc)).2 fun le => ?_
      exact (diagnosticKind_ok_iff text).2 fun tag => legible.plain line column tag h le

theorem annotationsOf_cons_eq_ok {d : String} {ds : List String} {annotations : List Annotation} :
    annotationsOf (d :: ds) = .ok annotations ↔ ∃ made others,
      toAnnotation d none = .ok made ∧ annotationsOf ds = .ok others ∧
        annotations = made.toList ++ others := by
  rw [annotationsOf]
  cases toAnnotation d none with
  | error f => simp [bind, Except.bind]
  | ok made => cases annotationsOf ds <;> simp [bind, Except.bind, pure, Except.pure, eq_comm]

theorem annotationsOf_ok_iff (ds : List String) :
    (∃ as, annotationsOf ds = .ok as) ↔ ∀ d ∈ ds, Legible d := by
  induction ds with
  | nil => simp [annotationsOf]
  | cons d ds ih =>
    rw [List.forall_mem_cons, ← ih, ← toAnnotation_ok_iff]
    constructor
    · rintro ⟨annotations, h⟩
      obtain ⟨made, others, first, rest, -⟩ := annotationsOf_cons_eq_ok.1 h
      exact ⟨⟨made, first⟩, others, rest⟩
    · rintro ⟨⟨made, first⟩, others, rest⟩
      exact ⟨_, annotationsOf_cons_eq_ok.2 ⟨made, others, first, rest, rfl⟩⟩

/-- Limited diagnostics are put together once their annotations are there. -/
theorem limitDiagnostics_eq_ok {ds : List String} {n : Int} {limited : LimitedDiagnostics} :
    limitDiagnostics ds n = .ok limited ↔ ∃ annotations,
      annotationsOf (firstMembers n ds) = .ok annotations ∧
        limited = ⟨firstMembers n ds, annotations, ds.length,
          if n < (ds.length : Int) then some (tooManyErrorsMessage ds.length) else none⟩ := by
  unfold limitDiagnostics
  cases made : annotationsOf (firstMembers n ds) with
  | error f => simp [made, bind, Except.bind]
  | ok annotations => simp [made, bind, Except.bind, pure, Except.pure, eq_comm]

/-- **Diagnostics can be reported when those that are shown are legible.** -/
theorem limitDiagnostics_ok_iff (ds : List String) (n : Int) :
    (∃ limited, limitDiagnostics ds n = .ok limited) ↔ ∀ d ∈ firstMembers n ds, Legible d := by
  rw [← annotationsOf_ok_iff]
  constructor
  · rintro ⟨limited, limits⟩
    obtain ⟨annotations, made, -⟩ := limitDiagnostics_eq_ok.1 limits
    exact ⟨annotations, made⟩
  · rintro ⟨annotations, made⟩
    exact ⟨_, limitDiagnostics_eq_ok.2 ⟨annotations, made, rfl⟩⟩

end Playground
