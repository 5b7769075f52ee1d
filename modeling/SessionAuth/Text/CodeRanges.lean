/-!
# Sets of characters given by code points

The Unicode standard publishes a property as the ranges of code points that have it. `CodeRanges`
keeps that form, so that a property is data and `contains` is its only reading.
-/

namespace SessionAuth

/-- A set of code points, as the closed ranges that make it up. -/
abbrev CodeRanges := List (Nat × Nat)

namespace CodeRanges

/-- The character lies in one of the ranges. -/
def contains (ranges : CodeRanges) (c : Char) : Bool :=
  ranges.any fun r => r.1 ≤ c.toNat && c.toNat ≤ r.2

theorem contains_iff (ranges : CodeRanges) (c : Char) :
    ranges.contains c = true ↔ ∃ r ∈ ranges, r.1 ≤ c.toNat ∧ c.toNat ≤ r.2 := by
  simp [contains, List.any_eq_true]

end CodeRanges

end SessionAuth
