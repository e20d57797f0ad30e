/-!
# Waiting after failures

How long to wait after each of several failures: every wait is twice as long as
the one before, between a first and a longest. A success starts over, and so
does a failure long after the wait before it began. Times are in milliseconds.
-/

namespace HardwareIndex

namespace Backoff

/-- The wait after the first failure. -/
def first : Nat := 800

/-- The longest wait. -/
def longest : Nat := 30000

/-- How long a wait counts. -/
def memory : Nat := 120000

end Backoff

/-- The waits after failures so far. -/
structure Backoff where
  /-- The wait after the next failure, if that comes soon. -/
  next : Nat
  /-- When the last wait began. -/
  last : Option Nat
  next_bounds : Backoff.first ≤ next ∧ next ≤ Backoff.longest := by decide

namespace Backoff

/-- No failure so far. -/
def fresh : Backoff := ⟨first, none, by decide⟩

/-- What is remembered at a time. -/
def remembered (b : Backoff) (now : Nat) : Backoff :=
  if b.last.any fun last => memory < now - last then fresh else b

/-- The wait after a failure at a time, and what is remembered of it. -/
def fail (b : Backoff) (now : Nat) : Nat × Backoff :=
  let wait := (b.remembered now).next
  have bounds : first ≤ wait ∧ wait ≤ longest := (b.remembered now).next_bounds
  (wait, ⟨min (2 * wait) longest, some now, by
    have : first ≤ longest := by decide
    omega⟩)

/-- Every wait is between the first and the longest. -/
theorem fail_bounds (b : Backoff) (now : Nat) :
    first ≤ (b.fail now).1 ∧ (b.fail now).1 ≤ longest :=
  (b.remembered now).next_bounds

/-- The second of two failures in a row waits twice as long, up to the longest wait. -/
theorem fail_fail (b : Backoff) (now later : Nat) (soon : later ≤ now + memory) :
    ((b.fail now).2.fail later).1 = min (2 * (b.fail now).1) longest := by
  have : ¬ memory < later - now := by omega
  simp [fail, remembered, this]

end Backoff

end HardwareIndex
