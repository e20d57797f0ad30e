/-!
# Fair locks

A lock is held by one caller at a time. Those who ask while it is held stand in
a row, in the order of asking. When the holder lets go, or gives up, the lock
goes to the first of the row.
-/

namespace HardwareIndex

/-- Who holds a lock and who waits for it; callers are numbers. -/
structure FairLock where
  holder : Option Nat
  row : List Nat
  deriving DecidableEq, Repr

namespace FairLock

/-- A lock that nobody holds. -/
def free : FairLock := ⟨none, []⟩

/-- All who hold the lock or wait for it, in the order in which they have it. -/
def members (l : FairLock) : List Nat :=
  l.holder.toList ++ l.row

/-- After someone asked for the lock. -/
def request (l : FairLock) (id : Nat) : FairLock :=
  match l.holder with
  | none => { l with holder := some id }
  | some _ => { l with row := l.row ++ [id] }

/-- After the holder let go. -/
def release (l : FairLock) : FairLock :=
  ⟨l.row.head?, l.row.tail⟩

/-- After someone gave up, as holder or in the row. -/
def withdraw (l : FairLock) (id : Nat) : FairLock :=
  if l.holder = some id then l.release else { l with row := l.row.filter (· != id) }

/-- Nobody waits for a lock that is free. -/
def Tight (l : FairLock) : Prop :=
  l.holder = none → l.row = []

theorem eq_free_of_members {l : FairLock} (h : l.members = []) : l = free := by
  obtain ⟨holder, row⟩ := l
  cases holder with
  | none => simpa [members, free] using h
  | some id => cases h

theorem tight_free : free.Tight :=
  fun _ => rfl

theorem Tight.request {l : FairLock} (h : l.Tight) (id : Nat) : (l.request id).Tight := by
  unfold FairLock.request Tight
  cases held : l.holder <;> simp_all [Tight]

theorem tight_release (l : FairLock) : l.release.Tight := by
  intro none
  have empty : l.row = [] := List.head?_eq_none_iff.1 none
  simp [release, empty]

theorem Tight.withdraw {l : FairLock} (h : l.Tight) (id : Nat) : (l.withdraw id).Tight := by
  unfold FairLock.withdraw
  split
  · exact tight_release l
  · intro none
    simp [h none]

theorem Tight.members_request {l : FairLock} (h : l.Tight) (id : Nat) :
    (l.request id).members = l.members ++ [id] := by
  unfold FairLock.request members
  cases held : l.holder with
  | none => simp [h held]
  | some holder => simp

theorem members_release {l : FairLock} {id : Nat} (held : l.holder = some id) :
    l.members = id :: l.release.members := by
  cases row : l.row <;> simp [members, release, held, row]

/-- Someone who gave up is gone, if nobody stands in the row twice. -/
theorem members_withdraw {l : FairLock} (id : Nat) (unique : l.members.Nodup) :
    (l.withdraw id).members = l.members.filter (· != id) := by
  unfold withdraw
  split
  · rename_i held
    rw [members_release held] at unique ⊢
    have absent : id ∉ l.release.members := (List.nodup_cons.1 unique).1
    rw [List.filter_cons_of_neg (by simp), List.filter_eq_self.2]
    intro other member
    simpa using fun same : other = id => absent (same ▸ member)
  · rename_i other
    cases held : l.holder with
    | none => simp [members, held]
    | some holder =>
      have different : holder ≠ id := fun same => other (same ▸ held)
      simp [members, held, different]

end FairLock

end HardwareIndex
