/-!
# Powers

* `pow2`, `pow10` — the powers of two and of ten.
* `pow2_succ` — the next power of two.
-/

namespace Playground.Decimal

def pow2 (n : Nat) : Nat := Nat.pow 2 n

def pow10 (n : Nat) : Nat := Nat.pow 10 n

/-- The next power of two is twice as large. -/
theorem pow2_succ (n : Nat) : pow2 (n + 1) = 2 * pow2 n := Nat.mul_comm _ _

theorem pow2_pos (n : Nat) : 0 < pow2 n := Nat.pow_pos (Nat.succ_pos 1)

end Playground.Decimal
