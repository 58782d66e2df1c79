import Mathlib.Algebra.Order.Field.Rat
import Mathlib.Tactic.Linarith
import Playground.Format.Size
import Playground.Proofs.Exactness
import Playground.Proofs.Pieces

/-!
# Sizes are shown close to what they are

Sizes of up to 53 bits are divided by 1024 without loss, so that what is shown is the quotient,
rounded once. The unit is chosen before the rounding: a size below the next unit by a twentieth of
its own at most is shown as 1024.0 of its own.

* `inUnits_mul_right` — what is shown depends on the quotient alone.
* `inUnits_eq` — where the division by unit after unit ends.
* `ShownSize` — the parts of a shown size, and the number that it shows.
* `shownIn`, `abs_value_shownIn_sub_le` — a size rounded to tenths of a unit.
* `size_within_unit` — how close a shown size is, and when it stays within its unit.
-/

namespace Playground.Format

open Playground.Text Playground.Decimal

/-! ### The division by unit after unit -/

/-- What is shown depends on the quotient alone. -/
theorem inUnits_mul_right (num den : Nat) {c : Nat} (pos : 0 < c) (units : List String) :
    inUnits (num * c) (den * c) units = inUnits num den units := by
  have quotient (b : Nat) : oneDecimal (num * c) (b * c) = oneDecimal num b := by
    unfold oneDecimal
    rw [← Nat.mul_assoc, roundHalfEven_mul_right _ _ pos]
  have moved (b : Nat) : b * c * 1024 = b * 1024 * c := Nat.mul_right_comm b c 1024
  have less (b : Nat) : num * c < b * c ↔ num < b := Nat.mul_lt_mul_right pos
  fun_induction inUnits num den units with
  | case1 den => rw [inUnits, quotient]
  | case2 den unit => rw [inUnits, moved, quotient]
  | case3 den unit units more small =>
    rw [inUnits, moved, moved, if_pos ((less _).2 small), quotient]
    exact more
  | case4 den unit units more large ih =>
    rw [inUnits, moved, moved, if_neg (mt (less _).1 large), ih]
    exact more

/-- Sizes of up to 53 bits are divided without loss. -/
theorem formatSize_of_lt {n : Nat} (least : 1024 ≤ n) (small : n < 2 ^ 53) :
    formatSize n = .ok (inUnits n 1 sizeUnits) := by
  obtain ⟨finite, value⟩ := Binary64.magnitude_ofInt (by omega) small
  have scaled := inUnits_mul_right n 1 (pow2_pos (Binary64.headroom n)) sizeUnits
  rw [Nat.one_mul] at scaled
  unfold formatSize
  rw [if_neg (by omega)]
  simp only [finite, value, if_true, scaled]

/-- The division ends with the first unit in which the quotient is below 1024, or with the last. -/
theorem inUnits_eq {num den : Nat} {units : List String} (some : units ≠ [])
    (least : den * 1024 ≤ num) :
    ∃ k unit, units[k]? = Option.some unit ∧
      inUnits num den units = oneDecimal num (den * 1024 ^ (k + 1)) ++ " " ++ unit ∧
      den * 1024 ^ (k + 1) ≤ num ∧
      (num < den * 1024 ^ (k + 1) * 1024 ∨ k + 1 = units.length) := by
  fun_induction inUnits num den units with
  | case1 => exact absurd rfl some
  | case2 den unit => exact ⟨0, unit, rfl, by simp, by simpa using least, Or.inr rfl⟩
  | case3 den unit units more small =>
    exact ⟨0, unit, rfl, by simp, by simpa using least, Or.inl (by simpa using small)⟩
  | case4 den unit units more large ih =>
    obtain ⟨k, unit, found, text, reached, last⟩ := ih more (Nat.not_lt.1 large)
    have next : den * 1024 * 1024 ^ (k + 1) = den * 1024 ^ (k + 1 + 1) := by
      rw [Nat.pow_succ' (n := k + 1), Nat.mul_assoc]
    rw [next] at text reached last
    exact ⟨k + 1, unit, found, text, reached, last.imp_right (congrArg (· + 1))⟩

/-! ### Shown sizes -/

/-- The units above the byte. -/
inductive SizeUnit where
  | kilo
  | mega
  | giga
  deriving DecidableEq, Repr

namespace SizeUnit

def name : SizeUnit → String
  | kilo => "KB"
  | mega => "MB"
  | giga => "GB"

def bytes : SizeUnit → Nat
  | kilo => 1024
  | mega => 1024 ^ 2
  | giga => 1024 ^ 3

theorem name_injective : Function.Injective name := by
  intro u v same
  cases u <;> cases v <;> simp_all [name]

theorem space_not_mem_name (u : SizeUnit) : ∀ c ∈ u.name.toList, c ≠ ' ' := by
  cases u <;> simp [name]

theorem bytes_pos (u : SizeUnit) : 0 < u.bytes := by
  cases u <;> decide

/-- The units stand in their order in the list of names. -/
theorem of_place {k : Nat} {name : String} (h : sizeUnits[k]? = some name) :
    ∃ u : SizeUnit, u.name = name ∧ u.bytes = 1024 ^ (k + 1) ∧
      (k + 1 = sizeUnits.length → u = giga) := by
  match k with
  | 0 => exact ⟨kilo, Option.some.inj h, rfl, by decide⟩
  | 1 => exact ⟨mega, Option.some.inj h, rfl, by decide⟩
  | 2 => exact ⟨giga, Option.some.inj h, rfl, fun _ => rfl⟩
  | k + 3 => cases h

end SizeUnit

/-- A shown size: a number with one digit after the point, and a unit. -/
@[ext]
structure ShownSize where
  whole : Nat
  tenth : Fin 10
  unit : SizeUnit
  deriving DecidableEq, Repr

namespace ShownSize

def text (s : ShownSize) : String :=
  naturalText s.whole ++ "." ++ naturalText s.tenth ++ " " ++ s.unit.name

def value (s : ShownSize) : ℚ := s.whole + (s.tenth : Nat) / 10

/-- The digits of a number hold neither of the marks between the parts of a text. -/
theorem not_mark_of_mem_digits {n : Nat} {c : Char} (h : c ∈ digits n) : c ≠ ' ' ∧ c ≠ '.' := by
  constructor <;> rintro rfl <;> exact absurd (decimal_digits n _ h) (by decide)

def numberChars (s : ShownSize) : List Char := digits s.whole ++ '.' :: digits s.tenth

theorem toList_text (s : ShownSize) :
    s.text.toList = s.numberChars ++ ' ' :: s.unit.name.toList := by
  simp [text, naturalText, numberChars]

/-- The text is cut between the number and the unit. -/
theorem splitOn_text (s : ShownSize) :
    splitOn ' ' s.text.toList = [s.numberChars, s.unit.name.toList] := by
  rw [toList_text]
  refine splitOn_pair (fun c hc => ?_) s.unit.space_not_mem_name
  rcases List.mem_append.1 hc with hc | hc
  · exact (not_mark_of_mem_digits hc).1
  · rcases List.mem_cons.1 hc with rfl | hc
    · decide
    · exact (not_mark_of_mem_digits hc).1

/-- The number is cut at its point. -/
theorem splitOn_numberChars (s : ShownSize) :
    splitOn '.' s.numberChars = [digits s.whole, digits s.tenth] :=
  splitOn_pair (fun _ hc => (not_mark_of_mem_digits hc).2)
    fun _ hc => (not_mark_of_mem_digits hc).2

/-- **A shown size is read off its text.** -/
theorem text_injective : Function.Injective text := by
  intro s t same
  have texts := congrArg (fun text => splitOn ' ' text.toList) same
  simp only [splitOn_text, List.cons.injEq, and_true] at texts
  obtain ⟨numbers, names⟩ := texts
  have parts := congrArg (splitOn '.') numbers
  simp only [splitOn_numberChars, List.cons.injEq, and_true] at parts
  obtain ⟨wholes, tenths⟩ := parts
  exact ShownSize.ext (digits_injective wholes) (Fin.ext (digits_injective tenths))
    (SizeUnit.name_injective (String.toList_inj.1 names))

end ShownSize

def shownIn (u : SizeUnit) (n : Nat) : ShownSize :=
  let tenths := roundHalfEven (10 * n) u.bytes
  ⟨tenths / 10, ⟨tenths % 10, Nat.mod_lt _ (by decide)⟩, u⟩

theorem text_shownIn (u : SizeUnit) (n : Nat) :
    (shownIn u n).text = oneDecimal n u.bytes ++ " " ++ u.name := rfl

theorem value_shownIn (u : SizeUnit) (n : Nat) :
    (shownIn u n).value = (roundHalfEven (10 * n) u.bytes : ℚ) / 10 := by
  have split := Nat.div_add_mod (roundHalfEven (10 * n) u.bytes) 10
  have cast : (10 * (roundHalfEven (10 * n) u.bytes / 10 : Nat) +
      (roundHalfEven (10 * n) u.bytes % 10 : Nat) : ℚ) = roundHalfEven (10 * n) u.bytes := by
    exact_mod_cast split
  simp only [shownIn, ShownSize.value]
  linarith

/-- Rounding to tenths moves a number by a twentieth at most. -/
theorem abs_value_shownIn_sub_le (u : SizeUnit) (n : Nat) :
    |(shownIn u n).value - n / u.bytes| ≤ 1 / 20 := by
  obtain ⟨above, below⟩ := roundHalfEven_near (10 * n) u.bytes_pos
  have pos : (0 : ℚ) < u.bytes := by exact_mod_cast u.bytes_pos
  rw [value_shownIn]
  generalize roundHalfEven (10 * n) u.bytes = tenths at *
  have above : 2 * (10 * (n : ℚ)) ≤ (2 * tenths + 1) * u.bytes := by exact_mod_cast above
  have below : 2 * tenths * (u.bytes : ℚ) ≤ 2 * (10 * n) + u.bytes := by exact_mod_cast below
  rw [abs_sub_le_iff, sub_le_iff_le_add, sub_le_iff_le_add, ← sub_le_iff_le_add',
    le_div_iff₀ pos, div_le_iff₀ pos]
  constructor <;> linarith

theorem one_le_value_shownIn {u : SizeUnit} {n : Nat} (reached : u.bytes ≤ n) :
    1 ≤ (shownIn u n).value := by
  obtain ⟨above, -⟩ := roundHalfEven_near (10 * n) u.bytes_pos
  have ten : 10 ≤ roundHalfEven (10 * n) u.bytes := by
    have twenty : 20 * u.bytes ≤ (2 * roundHalfEven (10 * n) u.bytes + 1) * u.bytes := by omega
    have := Nat.le_of_mul_le_mul_right twenty u.bytes_pos
    omega
  have ten : (10 : ℚ) ≤ roundHalfEven (10 * n) u.bytes := by exact_mod_cast ten
  rw [value_shownIn]
  linarith

/-- The number stays below 1024 exactly if there are less than 1023.95 units; no size is that many
of them. -/
theorem value_shownIn_lt_iff (u : SizeUnit) (n : Nat) :
    (shownIn u n).value < 1024 ↔ 20 * n < 20479 * u.bytes := by
  obtain ⟨above, below⟩ := roundHalfEven_near (10 * n) u.bytes_pos
  have tenths : (shownIn u n).value < 1024 ↔ roundHalfEven (10 * n) u.bytes < 10240 := by
    rw [value_shownIn, div_lt_iff₀ (by decide)]
    norm_num
  rw [tenths]
  generalize roundHalfEven (10 * n) u.bytes = t at *
  have untied : 20 * n ≠ 20479 * u.bytes := by
    cases u <;> simp only [SizeUnit.bytes] <;> omega
  constructor
  · intro less
    have := Nat.mul_le_mul_right u.bytes (show 2 * t + 1 ≤ 20479 by omega)
    omega
  · intro less
    by_contra more
    have := Nat.mul_le_mul_right u.bytes (show 2 * 10240 ≤ 2 * t by omega)
    omega

/-- Sizes of up to 53 bits are shown in the first unit of which there are less than 1024, or in the
last one. -/
theorem formatSize_eq_shownIn {n : Nat} (least : 1024 ≤ n) (small : n < 2 ^ 53) :
    ∃ u, formatSize n = .ok (shownIn u n).text ∧ u.bytes ≤ n ∧
      (n < 1024 * u.bytes ∨ u = .giga) := by
  obtain ⟨k, name, found, text, reached, last⟩ :=
    inUnits_eq (by decide : sizeUnits ≠ []) (by omega : 1 * 1024 ≤ n)
  obtain ⟨u, rfl, bytes, giga⟩ := SizeUnit.of_place found
  rw [Nat.one_mul, ← bytes] at text reached last
  refine ⟨u, ?_, reached, last.imp (fun below => by rwa [Nat.mul_comm]) giga⟩
  rw [formatSize_of_lt least small, text, text_shownIn]

/-- The size is below the next unit by a twentieth of its own unit at most. -/
def JustBelowNext (n : Nat) (u : SizeUnit) : Prop :=
  n < 1024 * u.bytes ∧ 20 * (1024 * u.bytes - n) ≤ u.bytes

/-- **Shown sizes stay close to what they stand for.** A size of up to 53 bits is shown with one
digit after the point, at most a twentieth away from the size in this unit and at least as one; the
number is below 1024 in all units but the last, except for sizes just below the next unit. -/
theorem size_within_unit {n : Nat} (least : 1024 ≤ n) (small : n < 2 ^ 53) :
    ∃ s : ShownSize, formatSize n = .ok s.text ∧
      |s.value - n / s.unit.bytes| ≤ 1 / 20 ∧ 1 ≤ s.value ∧
      (s.value < 1024 ∨ s.unit = .giga ↔
        ¬ JustBelowNext n .kilo ∧ ¬ JustBelowNext n .mega) := by
  obtain ⟨u, text, reached, last⟩ := formatSize_eq_shownIn least small
  refine ⟨shownIn u n, text, abs_value_shownIn_sub_le u n, one_le_value_shownIn reached, ?_⟩
  show (shownIn u n).value < 1024 ∨ u = .giga ↔ _
  rw [value_shownIn_lt_iff]
  unfold JustBelowNext
  -- the unit that a size is shown in is the only one below which it can stand
  cases u <;> simp only [SizeUnit.bytes, reduceCtorEq, or_false, or_true, true_iff] at * <;> omega

/-- The largest size that is shown below 1024.0 kilobytes. -/
theorem size_within_unit_largest :
    1024 ≤ 1048524 ∧ 1048524 < 2 ^ 53 ∧
      ∃ s : ShownSize, formatSize (1048524 : Nat) = .ok s.text ∧
        |s.value - (1048524 : Nat) / s.unit.bytes| ≤ 1 / 20 ∧ 1 ≤ s.value ∧
        (s.value < 1024 ∨ s.unit = .giga) := by
  have least : 1024 ≤ 1048524 := by decide
  have small : 1048524 < 2 ^ 53 := by decide
  obtain ⟨s, text, near, one, stays⟩ := size_within_unit least small
  have free : ¬ JustBelowNext 1048524 .kilo ∧ ¬ JustBelowNext 1048524 .mega := by
    simp [JustBelowNext, SizeUnit.bytes]
  exact ⟨least, small, s, text, near, one, stays.2 free⟩

/-- One byte less than a megabyte is shown as 1024.0 kilobytes. -/
theorem size_leaves_unit :
    ¬ ∀ n : Nat, 1024 ≤ n → n < 2 ^ 53 →
      ∃ s : ShownSize, formatSize n = .ok s.text ∧
        |s.value - n / s.unit.bytes| ≤ 1 / 20 ∧ 1 ≤ s.value ∧
        (s.value < 1024 ∨ s.unit = .giga) := by
  intro stays
  obtain ⟨s, text, -, -, stays⟩ := stays 1048575 (by decide) (by decide)
  have shown : inUnits 1048575 1 sizeUnits = (ShownSize.mk 1024 0 .kilo).text := rfl
  rw [formatSize_of_lt (by decide) (by decide), shown, Except.ok.injEq] at text
  obtain rfl := ShownSize.text_injective text
  rcases stays with less | giga
  · norm_num [ShownSize.value] at less
  · cases giga

end Playground.Format
