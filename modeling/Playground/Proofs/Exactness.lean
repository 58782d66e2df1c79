import Playground.Decimal.Binary64

/-!
# Whole numbers of 53 bits are kept

A whole number of up to 53 bits is moved to the left until it fills the significand, and the
exponent moves it back. Rounding has nothing to do, so that the floating point number is the whole
number itself.

* `roundHalfEven_mul_right` — rounding looks at the quotient alone.
* `parts_ofParts_pack` — a significand and an exponent are found again in the bits.
* `headroom` — how far a whole number is moved.
* `magnitude_ofInt` — whole numbers of up to 53 bits are kept.
-/

namespace Playground.Decimal

theorem roundHalfEven_one (n : Nat) : roundHalfEven n 1 = n := by
  simp [roundHalfEven, Nat.mod_one]

/-- Rounding looks at the quotient alone. -/
theorem roundHalfEven_mul_right (num den : Nat) {c : Nat} (pos : 0 < c) :
    roundHalfEven (num * c) (den * c) = roundHalfEven num den := by
  have less (a b : Nat) : 2 * (a * c) < b * c ↔ 2 * a < b := by
    rw [← Nat.mul_assoc, Nat.mul_lt_mul_right pos]
  have more (a b : Nat) : b * c < 2 * (a * c) ↔ b < 2 * a := by
    rw [← Nat.mul_assoc, Nat.mul_lt_mul_right pos]
  simp only [roundHalfEven, Nat.mul_div_mul_right num den pos, Nat.mul_mod_mul_right, less, more]

namespace Binary64

/-! ### The bits of a number -/

def FullSignificand (m : Nat) : Prop := pow2 52 ≤ m ∧ m < pow2 53

theorem pow2_52 : pow2 52 = 4503599627370496 := rfl

theorem pow2_53 : pow2 53 = 9007199254740992 := rfl

/-- The exponent and the fraction are found again in the bits, whatever the sign. -/
theorem fields_ofParts_pack {m : Nat} {q : Int} (full : FullSignificand m) (low : -1074 ≤ q)
    (high : q ≤ 971) (negative : Bool) :
    ((ofParts negative (pack m q)).exponentBits : Int) = q + 1075 ∧
      (ofParts negative (pack m q)).fractionBits + pow2 52 = m := by
  obtain ⟨least, most⟩ := full
  obtain ⟨b, rfl⟩ : ∃ b : Nat, q = b - 1075 := ⟨(q + 1075).toNat, by omega⟩
  have packed : pack m (b - 1075) = b * pow2 52 + (m - pow2 52) := by
    rw [pack, if_neg (Nat.not_lt.2 least), if_neg (by omega)]
    congr 2
    omega
  have sign : signBit = 2048 * pow2 52 := rfl
  rw [packed, exponentBits, fractionBits, ofParts, sign]
  rw [pow2_53] at most
  rw [pow2_52] at *
  cases negative with
  | false =>
    rw [if_neg Bool.false_ne_true]
    dsimp only
    omega
  | true =>
    rw [if_pos rfl]
    dsimp only
    omega

theorem parts_ofParts_pack {m : Nat} {q : Int} (full : FullSignificand m) (low : -1074 ≤ q)
    (high : q ≤ 971) (negative : Bool) : (ofParts negative (pack m q)).parts = (m, q) := by
  obtain ⟨exponent, fraction⟩ := fields_ofParts_pack full low high negative
  rw [parts, if_neg (by omega), fraction, exponent]
  congr 1
  omega

theorem isFinite_ofParts_pack {m : Nat} {q : Int} (full : FullSignificand m) (low : -1074 ≤ q)
    (high : q ≤ 971) (negative : Bool) : (ofParts negative (pack m q)).isFinite = true := by
  obtain ⟨exponent, -⟩ := fields_ofParts_pack full low high negative
  rw [isFinite, decide_eq_true_eq]
  omega

@[simp] theorem shifted_neg (num den k : Nat) :
    shifted num den (-(k : Int)) = (num * pow2 k, den) := by
  cases k with
  | zero => simp [shifted, pow2]
  | succ k => rw [shifted, if_pos (by omega), Int.natAbs_neg, Int.natAbs_natCast]

@[simp] theorem scaled_neg (m k : Nat) : scaled m (-(k : Int)) = (m, pow2 k) := by
  cases k with
  | zero => simp [scaled, pow2]
  | succ k => rw [scaled, if_pos (by omega), Int.natAbs_neg, Int.natAbs_natCast]

/-! ### Whole numbers -/

/-- The places by which a whole number is moved to the left until it has 53 bits. -/
def headroom (n : Nat) : Nat := 52 - n.log2

theorem log2_lt_of_lt {n : Nat} (pos : 0 < n) (small : n < pow2 53) : n.log2 < 53 :=
  (Nat.log2_lt (Nat.pos_iff_ne_zero.1 pos)).2 small

theorem fullSignificand_of_lt {n : Nat} (pos : 0 < n) (small : n < pow2 53) :
    FullSignificand (n * pow2 (headroom n)) := by
  have log := log2_lt_of_lt pos small
  have split : n.log2 + headroom n = 52 := by
    unfold headroom
    omega
  have low : pow2 n.log2 ≤ n := Nat.log2_self_le (Nat.pos_iff_ne_zero.1 pos)
  have high : n < pow2 (n.log2 + 1) := Nat.lt_log2_self
  -- moved to the left, the number lies between the powers of two that it lay between before
  have joined (a : Nat) : pow2 a * pow2 (headroom n) = pow2 (a + headroom n) :=
    (Nat.pow_add 2 a (headroom n)).symm
  have low := Nat.mul_le_mul_right (pow2 (headroom n)) low
  have high := Nat.mul_lt_mul_of_pos_right high (pow2_pos (headroom n))
  rw [joined, split] at low
  rw [joined, Nat.add_right_comm, split] at high
  exact ⟨low, high⟩

theorem exponentFor_of_lt {n : Nat} (pos : 0 < n) (small : n < pow2 53) :
    exponentFor n 1 = -(headroom n : Int) := by
  have log := log2_lt_of_lt pos small
  have least : headroom n ≤ 52 := Nat.sub_le _ _
  have one : Nat.log2 1 = 0 := by decide
  have guess : (n.log2 : Int) - (Nat.log2 1 : Int) - 52 = -(headroom n : Int) := by
    rw [one, headroom]
    omega
  have bounded : ¬ -(headroom n : Int) < -1074 := by omega
  -- with one more place there would be 54 bits
  have wide : ¬ n * pow2 (headroom n + 1) < pow2 53 * 1 := by
    have := (fullSignificand_of_lt pos small).1
    rw [pow2_succ, pow2_succ 52, Nat.mul_left_comm]
    omega
  have lower : -(headroom n : Int) - 1 = -((headroom n + 1 : Nat) : Int) := by omega
  unfold exponentFor
  simp only [guess, bounded, if_false, lower, shifted_neg, wide, ite_self]

/-- A whole number of up to 53 bits is packed as it is moved, without rounding. -/
theorem ofInt_of_lt {n : Nat} (pos : 0 < n) (small : n < pow2 53) :
    ofInt n = ofParts false (pack (n * pow2 (headroom n)) (-(headroom n : Int))) := by
  have full := fullSignificand_of_lt pos small
  unfold ofInt ofRatio
  rw [Int.natAbs_natCast, if_neg (by omega)]
  simp only [exponentFor_of_lt pos small, shifted_neg, roundHalfEven_one]
  rw [if_neg (Nat.ne_of_lt full.2), decide_eq_false (by omega)]

/-- **A whole number of up to 53 bits is a floating point number.** -/
theorem magnitude_ofInt {n : Nat} (pos : 0 < n) (small : n < pow2 53) :
    (ofInt n).isFinite = true ∧
      (ofInt n).magnitude = (n * pow2 (headroom n), pow2 (headroom n)) := by
  have full := fullSignificand_of_lt pos small
  have least : headroom n ≤ 52 := Nat.sub_le _ _
  rw [ofInt_of_lt pos small]
  refine ⟨isFinite_ofParts_pack full (by omega) (by omega) false, ?_⟩
  rw [magnitude, parts_ofParts_pack full (by omega) (by omega), scaled_neg]

end Binary64

end Playground.Decimal
