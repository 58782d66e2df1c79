/-!
# Sets of characters as code point ranges

A character class of the Unicode standard is kept as a sorted list of inclusive code point ranges.

* `Ranges.contains` — membership in such a list.
* `Ranges.contains_iff` — membership is membership in one of the ranges.
-/

namespace Playground.Text

/-- A set of code points, written as inclusive ranges. -/
abbrev Ranges := List (Nat × Nat)

namespace Ranges

def contains (ranges : Ranges) (c : Char) : Bool :=
  ranges.any fun r => r.1 ≤ c.toNat && c.toNat ≤ r.2

/-- A character is in the set exactly when one of the ranges holds its code point. -/
theorem contains_iff {ranges : Ranges} {c : Char} :
    ranges.contains c = true ↔ ∃ r ∈ ranges, r.1 ≤ c.toNat ∧ c.toNat ≤ r.2 := by
  simp [contains]

end Ranges

end Playground.Text
