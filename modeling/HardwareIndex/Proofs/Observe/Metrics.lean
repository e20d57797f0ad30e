import HardwareIndex.Observe.Metrics

/-!
# Numbers that are set and raised

A sample that is set or raised leaves the other ones as they were. One that has
not been touched counts as zero.
-/

namespace HardwareIndex

namespace Metrics

/-- A number that has been set is read back. -/
theorem get?_set_self (m : Metrics) (s : Sample) (n : Nat) : (m.set s n).get? s = some n := by
  simp [get?, set]

/-- A number that has been set leaves the others as they were. -/
theorem get?_set_of_ne (m : Metrics) {s s' : Sample} (n : Nat) (other : s ≠ s') :
    (m.set s n).get? s' = m.get? s' := by
  have unequal : (s' == s) = false := by simpa using other.symm
  unfold get? set
  rw [List.lookup_cons, unequal]
  induction m.samples with
  | nil => rfl
  | cons sample rest ih =>
    obtain ⟨s'', n'⟩ := sample
    rw [List.filter_cons]
    by_cases same : s'' = s
    · subst same
      simpa [List.lookup_cons, unequal] using ih
    · simp only [bne_iff_ne, ne_eq, same, not_false_eq_true, if_true, List.lookup_cons]
      split
      · rfl
      · exact ih

/-- How often something has been counted. -/
def count (m : Metrics) (s : Sample) : Nat :=
  (m.get? s).getD 0

/-- What is added to one sample is added to no other. -/
theorem count_add (m : Metrics) (s s' : Sample) (n : Nat) :
    (m.add s n).count s' = m.count s' + if s' = s then n else 0 := by
  by_cases same : s' = s
  · subst same
    rw [count, add, get?_set_self, if_pos rfl]
    rfl
  · rw [count, add, get?_set_of_ne m _ (Ne.symm same), if_neg same]
    rfl

end Metrics

end HardwareIndex
