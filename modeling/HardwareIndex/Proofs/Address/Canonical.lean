import HardwareIndex.Proofs.Address.Storage

/-!
# One stored form to an address

Equality, order and hash of addresses look at the whole buffer and at the number
of significant octets. They speak of the significant octets only because the
buffer is zero beyond these, wherever an address comes from: a text, octets, or
the stored address of a prefix, which is zero beyond its counted bits already.
-/

namespace HardwareIndex

/-- What hashes are computed with: a state that takes in lengths and octets. -/
structure Hasher (σ : Type) where
  takeLength : Nat → σ → σ
  takeOctets : List UInt8 → σ → σ
  takeOctet : UInt8 → σ → σ

/-- The hasher that keeps all octets that it takes in. -/
def Hasher.keeping : Hasher (List UInt8) where
  takeLength _ kept := kept
  takeOctets octets kept := kept ++ octets
  takeOctet b kept := kept ++ [b]

namespace Mac

/-- A hash takes in the buffer, its length first, and then the number of significant octets. -/
def hashInto {σ : Type} (h : Hasher σ) (m : Mac) (state : σ) : σ :=
  h.takeOctet (UInt8.ofNat m.len) (h.takeOctets m.octets.toList (h.takeLength maxLen state))

/-- An address that there is by itself, or as the stored address of a prefix. -/
inductive Constructible : Mac → Prop
  | obtained {m : Mac} : m.Obtainable → Constructible m
  | stored {text : String} {p : MacPrefix} : MacPrefix.parse text = .ok p → Constructible p.address

/-- An address of a supported width with zeros beyond it. -/
structure Canonical (m : Mac) : Prop where
  width : m.len = 6 ∨ m.len = 8 ∨ m.len = 20
  zero_beyond : ∀ (i : Nat) (inside : i < maxLen), m.len ≤ i → m.octets[i] = 0

theorem Obtainable.canonical {m : Mac} (h : m.Obtainable) : m.Canonical := by
  obtain ⟨octets, made⟩ := obtainable_iff.1 h
  obtain ⟨width, rfl⟩ := ofBytes?_eq_some_iff.1 made
  refine ⟨isWidth_iff.1 width, ?_⟩
  intro i inside beyond
  have beyond : octets.length ≤ i := beyond
  simp [buffer, List.getElem?_eq_none beyond]

end Mac

namespace MacPrefix

variable {p : MacPrefix} {octets : List UInt8} {bits : Nat}

/-- No bit beyond the counted ones is set. -/
theorem Stores.bitAt_beyond (h : p.Stores octets bits) {j : Nat} (beyond : bits ≤ j) :
    Mac.bitAt p.address.octets.toList j = false := by
  rw [h.bitAt_eq, decide_eq_false (Nat.not_lt.2 beyond), Bool.false_and]

/-- The width holds all counted bits, so that octets beyond it have none of them. -/
theorem Stores.canonical (h : p.Stores octets bits) : p.address.Canonical := by
  refine ⟨Mac.isWidth_iff.1 h.narrowest.isWidth, ?_⟩
  intro i inside beyond
  have holds := h.narrowest.holds
  rw [octet_eq_iff]
  intro k low
  rw [← bitAt_toList p.address inside low, h.bitAt_beyond (by omega)]
  exact (Nat.zero_testBit k).symm

end MacPrefix

namespace Mac

theorem Constructible.canonical {m : Mac} (h : m.Constructible) : m.Canonical := by
  cases h with
  | obtained obtainable => exact obtainable.canonical
  | stored parsed =>
    obtain ⟨_, stores⟩ := MacPrefix.exists_stores_of_parse parsed
    exact stores.canonical

namespace Canonical

variable {a b : Mac}

theorem length_bytes (h : a.Canonical) : a.bytes.length = a.len := by
  have width := h.width
  rw [bytes, List.length_take, Vector.length_toList, maxLen]
  omega

/-- The significant octets determine the whole buffer. -/
theorem eq_iff_bytes (ha : a.Canonical) (hb : b.Canonical) : a = b ↔ a.bytes = b.bytes := by
  constructor
  · rintro rfl
    rfl
  · intro same
    have len : a.len = b.len := by rw [← ha.length_bytes, ← hb.length_bytes, same]
    have octets : a.octets = b.octets := by
      apply Vector.ext
      intro i inside
      rcases Nat.lt_or_ge i a.len with significant | beyond
      · have octet := congrArg (·[i]?) same
        simpa [bytes, List.getElem?_take_of_lt, significant, len ▸ significant, inside] using octet
      · rw [ha.zero_beyond i inside beyond, hb.zero_beyond i inside (len ▸ beyond)]
    obtain ⟨_, _⟩ := a
    obtain ⟨_, _⟩ := b
    simp only at octets len
    rw [octets, len]

/-- Whatever hashes are computed with, they are alike for the same significant octets, and there is
    a way to compute them that tells all others apart. -/
theorem hashInto_eq_iff_bytes (ha : a.Canonical) (hb : b.Canonical) :
    (∀ (σ : Type) (h : Hasher σ) (state : σ), a.hashInto h state = b.hashInto h state) ↔
      a.bytes = b.bytes := by
  rw [← ha.eq_iff_bytes hb]
  constructor
  · intro alike
    have kept : a.octets.toList ++ [UInt8.ofNat a.len] = b.octets.toList ++ [UInt8.ofNat b.len] :=
      alike _ .keeping []
    obtain ⟨octets, len⟩ := List.append_inj kept (by simp)
    have len : a.len = b.len := by
      rcases ha.width with six | eight | twenty <;> rcases hb.width with six' | eight' | twenty' <;>
        simp_all
    obtain ⟨_, _⟩ := a
    obtain ⟨_, _⟩ := b
    simp only at octets len
    rw [Vector.toList_inj.1 octets, len]
  · rintro rfl σ h state
    rfl

end Canonical

/-- Every address that there is, those stored in prefixes among them, has six, eight or twenty
    octets and zeros in the rest of its buffer. The address that is stored in a prefix that was
    read from a text has no bit set beyond the counted ones, and room for all of these. So two
    addresses are equal, are the same key of a map, and have the same hash, however it is computed,
    exactly if their significant octets are the same. -/
theorem stored_in_one_form :
    (∀ m : Mac, m.Constructible → (m.len = 6 ∨ m.len = 8 ∨ m.len = 20) ∧
      ∀ (i : Nat) (inside : i < maxLen), m.len ≤ i → m.octets[i] = 0) ∧
    (∀ (text : String) (p : MacPrefix), MacPrefix.parse text = .ok p →
      (∀ j, p.bits ≤ j → bitAt p.address.octets.toList j = false) ∧
        p.bits ≤ 8 * p.address.len) ∧
    ∀ a b : Mac, a.Constructible → b.Constructible →
      ((a == b) = true ↔ a.bytes = b.bytes) ∧
      (compare a b = .eq ↔ a.bytes = b.bytes) ∧
      ((∀ (σ : Type) (h : Hasher σ) (state : σ), a.hashInto h state = b.hashInto h state) ↔
        a.bytes = b.bytes) := by
  refine ⟨?_, ?_, ?_⟩
  · intro m there
    exact ⟨there.canonical.width, there.canonical.zero_beyond⟩
  · intro text p parsed
    obtain ⟨_, stores⟩ := MacPrefix.exists_stores_of_parse parsed
    exact ⟨fun j => stores.bitAt_beyond, stores.narrowest.holds⟩
  · intro a b ha hb
    have same := ha.canonical.eq_iff_bytes hb.canonical
    exact ⟨beq_iff_eq.trans same, Std.compare_eq_iff_eq.trans same,
      ha.canonical.hashInto_eq_iff_bytes hb.canonical⟩

/-- The octets that a prefix was written with beyond its bits and beyond its width are not kept:
    its address is the one made of eight octets. -/
theorem overlong_prefix_stored :
    let p := MacPrefix.ofOctets [0x02, 0xFF, 0x80, 0, 0, 0, 0x7F, 0xFF, 1, 2] 50
    let m := ofEui64 #v[0x02, 0xFF, 0x80, 0, 0, 0, 0x40, 0]
    MacPrefix.parse "02:ff:80:00:00:00:7f:ff:01:02/50" = .ok p ∧
      ((p.address == m) = true ↔ p.address.bytes = m.bytes) ∧ (p.address == m) = true := by
  intro p m
  have parsed : MacPrefix.parse "02:ff:80:00:00:00:7f:ff:01:02/50" = .ok p := by decide +kernel
  have same := (stored_in_one_form.2.2 p.address m (.stored parsed) (.obtained (.eui64 _))).1
  exact ⟨parsed, same, same.2 (by decide +kernel)⟩

end Mac

end HardwareIndex
