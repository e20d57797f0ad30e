/-!
# Sets of code points

A property of characters, as the closed ranges of the code points that have it,
in ascending order. A character is in the set exactly if its code is in one of
the ranges.
-/

namespace HardwareIndex.Text

/-- Closed ranges of code points. -/
abbrev CodeRanges := Array (Nat × Nat)

namespace CodeRanges

/-- Whether the code of a character is in one of the ranges. -/
def contains (ranges : CodeRanges) (c : Char) : Bool :=
  ranges.any fun (first, last) => first ≤ c.toNat && c.toNat ≤ last

theorem contains_iff {ranges : CodeRanges} {c : Char} :
    ranges.contains c = true ↔ ∃ r ∈ ranges, r.1 ≤ c.toNat ∧ c.toNat ≤ r.2 := by
  simp only [contains, Array.any_eq_true', Bool.and_eq_true, decide_eq_true_eq]

end CodeRanges

end HardwareIndex.Text
