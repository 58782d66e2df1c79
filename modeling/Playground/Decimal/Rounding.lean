/-!
# Rounding quotients

* `roundHalfEven` — the integer nearest to a quotient, a half going to the even neighbour.
* `roundHalfEven_near` — the rounded quotient is at most half a unit away.
-/

namespace Playground.Decimal

/-- The natural number nearest to `num / den`; a half goes to the even neighbour. -/
def roundHalfEven (num den : Nat) : Nat :=
  let q := num / den
  let r := num % den
  if 2 * r < den then q
  else if den < 2 * r then q + 1
  else if q % 2 = 0 then q else q + 1

/-- The rounded quotient lies at most half a unit from the quotient. -/
theorem roundHalfEven_near (num : Nat) {den : Nat} (h : 0 < den) :
    2 * num ≤ (2 * roundHalfEven num den + 1) * den ∧
      2 * roundHalfEven num den * den ≤ 2 * num + den := by
  have hr := Nat.mod_lt num h
  have hq := Nat.div_add_mod num den
  have hc : num = num / den * den + num % den := by rw [Nat.mul_comm]; exact hq.symm
  generalize hqq : num / den = q at *
  generalize hrr : num % den = r at *
  have e1 : 2 * q * den = 2 * (q * den) := Nat.mul_assoc 2 q den
  have e2 : (2 * q + 1) * den = 2 * (q * den) + den := by rw [Nat.add_mul, e1]; omega
  have e3 : 2 * (q + 1) * den = 2 * (q * den) + 2 * den := by
    rw [Nat.mul_assoc, Nat.add_mul]; omega
  have e4 : (2 * (q + 1) + 1) * den = 2 * (q * den) + 3 * den := by
    rw [Nat.add_mul, e3]; omega
  unfold roundHalfEven
  simp only [hqq, hrr]
  repeat' split
  all_goals constructor <;> omega

end Playground.Decimal
