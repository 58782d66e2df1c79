import Mathlib.Data.List.Basic
import Playground.Decimal.Integer

/-!
# Pieces of texts

What the ways of cutting a text make of texts that were put together, and how the classes of
characters that they look at are kept apart.

* `splitOn_append`, `splitOn_joinWith` — pieces between separators.
* `piecesBy_skip`, `piecesBy_piece` — pieces between runs of separators.
* `dropStart?_append`, `eq_append_of_dropStart?` — the text after its start.
* `not_isBlank_of_isWordChar` — no word character is white space.
* `decimal_digits` — a number is written in decimal digits.
-/

namespace Playground.Text

/-! ### Pieces -/

/-- A separator ends one row of pieces and opens another. -/
theorem splitOn_append (sep : Char) (xs ys : List Char) :
    splitOn sep (xs ++ sep :: ys) = splitOn sep xs ++ splitOn sep ys := by
  induction xs with
  | nil => simp [splitOn]
  | cons c xs ih =>
    by_cases h : c = sep
    · simp [splitOn, h, ih]
    · obtain ⟨first, others, eq⟩ := List.exists_cons_of_ne_nil (splitOn_ne_nil sep xs)
      simp [splitOn, h, ih, eq]

/-- Pieces that hold no separator are found again where they were joined by it. -/
theorem splitOn_joinWith {sep : Char} {pieces : List (List Char)} (some : pieces ≠ [])
    (whole : ∀ piece ∈ pieces, ∀ c ∈ piece, c ≠ sep) :
    splitOn sep (joinWith [sep] pieces) = pieces := by
  induction pieces with
  | nil => exact absurd rfl some
  | cons piece others ih =>
    have first := Decimal.splitOn_of_forall_ne (whole piece List.mem_cons_self)
    cases others with
    | nil => exact first
    | cons next others =>
      show splitOn sep (piece ++ [sep] ++ joinWith [sep] (next :: others)) = _
      rw [List.append_assoc, List.singleton_append, splitOn_append, first,
        ih (by simp) fun p hp => whole p (List.mem_cons_of_mem _ hp)]
      rfl

/-- Around its only separator a text has two pieces. -/
theorem splitOn_pair {sep : Char} {xs ys : List Char} (left : ∀ c ∈ xs, c ≠ sep)
    (right : ∀ c ∈ ys, c ≠ sep) : splitOn sep (xs ++ sep :: ys) = [xs, ys] := by
  rw [splitOn_append, Decimal.splitOn_of_forall_ne left, Decimal.splitOn_of_forall_ne right]
  rfl

/-- What opens the first piece opens the whole. -/
theorem joinWith_append_cons (sep before piece : List Char) (others : List (List Char)) :
    joinWith sep ((before ++ piece) :: others) = before ++ joinWith sep (piece :: others) := by
  cases others with
  | nil => rfl
  | cons next others => simp [joinWith]

/-- What stands in joined pieces stands in the separator or in a piece. -/
theorem mem_of_mem_joinWith {sep : List Char} {pieces : List (List Char)} {c : Char}
    (h : c ∈ joinWith sep pieces) : c ∈ sep ∨ ∃ piece ∈ pieces, c ∈ piece := by
  induction pieces with
  | nil => cases h
  | cons piece others ih =>
    cases others with
    | nil => exact Or.inr ⟨piece, List.mem_cons_self, h⟩
    | cons next others =>
      rcases List.mem_append.1 h with h | h
      · rcases List.mem_append.1 h with h | h
        · exact Or.inr ⟨piece, List.mem_cons_self, h⟩
        · exact Or.inl h
      · exact (ih h).imp_right fun ⟨p, hp, hc⟩ => ⟨p, List.mem_cons_of_mem _ hp, hc⟩

/-- Separators at the front belong to no piece. -/
theorem piecesBy_skip {isSep : Char → Bool} {seps : List Char} (rest : List Char)
    (h : ∀ c ∈ seps, isSep c = true) : piecesBy isSep (seps ++ rest) = piecesBy isSep rest := by
  induction seps with
  | nil => rfl
  | cons c seps ih =>
    have sep : isSep c = true := h c List.mem_cons_self
    have first : piecesBy isSep (c :: (seps ++ rest)) = piecesBy isSep (seps ++ rest) := by
      cases seps ++ rest <;> simp [piecesBy, sep]
    exact first.trans (ih fun d hd => h d (List.mem_cons_of_mem _ hd))

/-- A piece goes on up to the next separator. -/
theorem piecesBy_piece {isSep : Char → Bool} {piece rest : List Char} (some : piece ≠ [])
    (h : ∀ c ∈ piece, isSep c = false) (ends : ∀ c ∈ rest.head?, isSep c = true) :
    piecesBy isSep (piece ++ rest) = piece :: piecesBy isSep rest := by
  induction piece with
  | nil => exact absurd rfl some
  | cons c piece ih =>
    have letter : isSep c = false := h c List.mem_cons_self
    cases piece with
    | nil =>
      cases rest with
      | nil => simp [piecesBy, letter]
      | cons d rest =>
        have stop : isSep d = true := ends d rfl
        simp [piecesBy, letter, stop]
    | cons d piece =>
      have next : isSep d = false := h d (by simp)
      have later := ih (by simp) fun e he => h e (List.mem_cons_of_mem _ he)
      rw [List.cons_append] at later
      rw [List.cons_append, List.cons_append, piecesBy.eq_def]
      simp only [letter, next, later, Bool.false_eq_true, if_false]

/-- Only the text after `start` is left when it opens the text. -/
theorem eq_append_of_dropStart? {start cs rest : List Char} (h : dropStart? start cs = some rest) :
    cs = start ++ rest := by
  induction start generalizing cs with
  | nil => exact Option.some.inj h
  | cons p start ih =>
    cases cs with
    | nil => cases h
    | cons c cs =>
      rw [dropStart?] at h
      split at h
      next same => rw [ih h, same, List.cons_append]
      next => cases h

@[simp] theorem dropStart?_append (start rest : List Char) :
    dropStart? start (start ++ rest) = some rest := by
  induction start with
  | nil => cases rest <;> rfl
  | cons p start ih => simpa [dropStart?] using ih

/-- Nothing is taken where the front is not accepted. -/
theorem takeWhile_eq_nil_of_head {p : Char → Bool} {cs : List Char}
    (h : ∀ c ∈ cs.head?, p c = false) : cs.takeWhile p = [] := by
  cases cs with
  | nil => rfl
  | cons c cs => exact List.takeWhile_cons_of_neg (by simp [h c rfl])

/-- Nothing is dropped where the front is not accepted. -/
theorem dropWhile_eq_self_of_head {p : Char → Bool} {cs : List Char}
    (h : ∀ c ∈ cs.head?, p c = false) : cs.dropWhile p = cs := by
  cases cs with
  | nil => rfl
  | cons c cs => exact List.dropWhile_cons_of_neg (by simp [h c rfl])

/-! ### Classes of characters -/

theorem eq_of_isSpaceOrTab {c : Char} (h : isSpaceOrTab c = true) : c = ' ' ∨ c = '\t' := by
  simpa [isSpaceOrTab] using h

theorem isBlank_of_isSpaceOrTab {c : Char} (h : isSpaceOrTab c = true) : isBlank c = true := by
  obtain rfl | rfl := eq_of_isSpaceOrTab h <;> decide

/-- In ASCII, the letters and digits start at the digits. -/
theorem le_toNat_of_isAlphanum {c : Char} (h : c.isAlphanum = true) : 48 ≤ c.toNat := by
  delta Char.isAlphanum Char.isAlpha Char.isUpper Char.isLower Char.isDigit at h
  simp only [Bool.or_eq_true, Bool.and_eq_true, decide_eq_true_eq, ge_iff_le,
    UInt32.le_iff_toNat_le] at h
  have zero : '0'.val.toNat = 48 := rfl
  have upper : 'A'.val.toNat = 65 := rfl
  have lower : 'a'.val.toNat = 97 := rfl
  show 48 ≤ c.val.toNat
  omega

/-- No word character is white space. -/
theorem not_isBlank_of_isWordChar {c : Char} (word : isWordChar c = true) : isBlank c = false := by
  refine Bool.eq_false_iff.2 fun blank => ?_
  obtain ⟨b, hb, low, high⟩ := Ranges.contains_iff.1 blank
  unfold isWordChar at word
  split at word
  next ascii =>
    have apart : ∀ b ∈ blankRanges, b.2 < 48 ∨ 128 ≤ b.1 := by decide
    have side := apart b hb
    have least : 48 ≤ c.toNat := by
      rcases Bool.or_eq_true_iff.1 word with letter | line
      · exact le_toNat_of_isAlphanum letter
      · rw [beq_iff_eq.1 line]
        decide
    omega
  next =>
    obtain ⟨r, hr, low', high'⟩ := Ranges.contains_iff.1 word
    have apart : ∀ r ∈ wordRanges, ∀ b ∈ blankRanges, r.2 < b.1 ∨ b.2 < r.1 := by decide +kernel
    have := apart r hr b hb
    omega

end Playground.Text

namespace Playground.Decimal

open Playground.Text

/-! ### Decimal digits -/

/-- A decimal digit is what has a value as one. -/
theorem isSome_digitValue? (c : Char) : (digitValue? c).isSome = isDecimalDigit c := by
  unfold digitValue? isDecimalDigit Ranges.contains
  rw [List.isSome_findSome?]
  refine congrArg (digitRanges.any ·) (funext fun r => ?_)
  split <;> simp_all

theorem decimal_digit {n : Nat} (h : n < 10) : isDecimalDigit (digit n) = true := by
  rw [← isSome_digitValue?, digitValue?_digit h]
  rfl

theorem digits_ne_nil (n : Nat) : digits n ≠ [] := by
  unfold digits
  split <;> simp

theorem decimal_digits (n : Nat) : ∀ c ∈ digits n, isDecimalDigit c = true := by
  induction n using Nat.strongRecOn with
  | ind n ih =>
    unfold digits
    split
    next small => simpa using decimal_digit small
    next big =>
      intro c hc
      rcases List.mem_append.1 hc with hc | hc
      · exact ih (n / 10) (by omega) c hc
      · obtain rfl := List.mem_singleton.1 hc
        exact decimal_digit (Nat.mod_lt n (by omega))

theorem digits_injective : Function.Injective digits :=
  Function.LeftInverse.injective ofDigits_digits

end Playground.Decimal
