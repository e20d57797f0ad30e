/-!
# Publication slots

A slot holds a value that is published once; only the first publication takes
effect. Subscribers may be there before the value or come later, and may be
cloned; all of them see what the slot holds.
-/

namespace HardwareIndex

/-- A value to be published once, and those who look at it. -/
structure Slot (α : Type) where
  value : Option α
  /-- Number of subscribers. -/
  subscribers : Nat
  deriving Repr

namespace Slot

variable {α : Type}

/-- Nothing published, nobody subscribed. -/
def empty : Slot α := ⟨none, 0⟩

/-- Publish a value; tells whether this publication took effect. -/
def publish (s : Slot α) (a : α) : Slot α × Bool :=
  match s.value with
  | some _ => (s, false)
  | none => ({ s with value := some a }, true)

/-- With one more subscriber. -/
def subscribe (s : Slot α) : Slot α :=
  { s with subscribers := s.subscribers + 1 }

/-- With a clone of a subscriber, if there is that one. -/
def clone (s : Slot α) (id : Nat) : Slot α :=
  if id < s.subscribers then s.subscribe else s

/-- What a subscriber sees. -/
def seenBy (s : Slot α) (id : Nat) : Option α :=
  if id < s.subscribers then s.value else none

/-- With the published value changed in place. -/
def modify (s : Slot α) (f : α → α) : Slot α :=
  { s with value := s.value.map f }

theorem publish_snd (s : Slot α) (a : α) : (s.publish a).2 = s.value.isNone := by
  unfold publish
  split <;> simp_all

theorem publish_value (s : Slot α) (a : α) :
    (s.publish a).1.value = some (s.value.getD a) := by
  unfold publish
  split <;> simp_all

end Slot

end HardwareIndex
