import HardwareIndex.Proofs.Address.LeadingBits

/-!
# What is kept of an address

Any six, eight or twenty octets make an address, and nothing else does. Of a
written prefix three things are kept: its number of bits, the first width that
holds them, and the counted bits of its octets with zeros in place of all
others. They determine the prefix (`stores_iff`), so that the octets that a
prefix was written with matter in their counted bits only.
-/

namespace HardwareIndex

namespace Mac

/-- An address that there is: one that a text writes, or one that is made of octets. -/
inductive Obtainable : Mac → Prop
  | parsed {text : String} {m : Mac} : parse text = .ok m → Obtainable m
  | made {octets : List UInt8} {m : Mac} : ofBytes? octets = some m → Obtainable m
  | eui48 (octets : Vector UInt8 6) : Obtainable (ofEui48 octets)
  | eui64 (octets : Vector UInt8 8) : Obtainable (ofEui64 octets)

theorem obtainable_iff {m : Mac} : m.Obtainable ↔ ∃ octets, ofBytes? octets = some m := by
  constructor
  · rintro (parsed | made | octets | octets)
    · obtain ⟨_, octets, _, made⟩ := parse_eq_ok_iff.1 parsed
      exact ⟨octets, made⟩
    · exact ⟨_, made⟩
    · refine ⟨octets.toList, ofBytes?_eq_some_iff.2 ?_⟩
      simp [ofEui48, isWidth]
    · refine ⟨octets.toList, ofBytes?_eq_some_iff.2 ?_⟩
      simp [ofEui64, isWidth]
  · rintro ⟨_, made⟩
    exact .made made

theorem bytes_of_made {octets : List UInt8} {m : Mac} (made : ofBytes? octets = some m) :
    m.bytes = octets := by
  obtain ⟨width, rfl⟩ := ofBytes?_eq_some_iff.1 made
  have sizes := isWidth_iff.1 width
  exact bytes_buffer (by rw [maxLen]; omega)

/-- Addresses are the same in all octets if they are in all bits. -/
theorem octets_eq_of_bitAt {a b : Mac}
    (same : ∀ j, bitAt a.octets.toList j = bitAt b.octets.toList j) : a.octets = b.octets := by
  apply Vector.ext
  intro i inside
  rw [MacPrefix.octet_eq_iff]
  intro k low
  rw [← MacPrefix.bitAt_toList a inside low, ← MacPrefix.bitAt_toList b inside low, same]

/-- A width is the first one that holds a number of bits. -/
structure IsNarrowest (width bits : Nat) : Prop where
  isWidth : isWidth width = true
  holds : bits ≤ 8 * width
  least : ∀ other, Mac.isWidth other = true → bits ≤ 8 * other → width ≤ other

theorem IsNarrowest.unique {width width' bits : Nat} (h : IsNarrowest width bits)
    (h' : IsNarrowest width' bits) : width = width' :=
  Nat.le_antisymm (h.least _ h'.isWidth h'.holds) (h'.least _ h.isWidth h.holds)

theorem isNarrowest_width {bits : Nat} (bounded : bits ≤ MacPrefix.maxBits) :
    IsNarrowest (MacPrefix.width bits) bits := by
  have bounded : bits ≤ 160 := bounded
  have narrowest {width : Nat} (isWidth : width = 6 ∨ width = 8 ∨ width = 20)
      (holds : bits ≤ 8 * width) (smaller : width ≤ 6 ∨ 48 < bits ∧ width ≤ 8 ∨ 64 < bits) :
      IsNarrowest width bits := by
    refine ⟨isWidth_iff.2 isWidth, holds, ?_⟩
    intro other isWidth' holds'
    rcases isWidth_iff.1 isWidth' with rfl | rfl | rfl <;> omega
  unfold MacPrefix.width
  split
  · exact narrowest (by decide) (by omega) (by omega)
  split
  · exact narrowest (by decide) (by omega) (by omega)
  · exact narrowest (by decide) (by rw [maxLen]; omega) (by omega)

end Mac

namespace MacPrefix

open Mac (bitAt)

/-- Of a written prefix the number of bits is kept, and an address with the counted bits of the
    octets. -/
structure Stores (p : MacPrefix) (octets : List UInt8) (bits : Nat) : Prop where
  bits_eq : p.bits = bits
  narrowest : Mac.IsNarrowest p.address.len bits
  /-- The counted bits are those of the octets with zeros after them; all others are zero. -/
  bitAt_eq : ∀ j, bitAt p.address.octets.toList j = (decide (j < bits) && bitAt octets j)

variable {p q : MacPrefix} {octets octets' : List UInt8} {bits : Nat}

theorem stores_ofOctets (octets : List UInt8) (bounded : bits ≤ maxBits) :
    (ofOctets octets bits).Stores octets bits where
  bits_eq := rfl
  narrowest := Mac.isNarrowest_width bounded
  bitAt_eq := by
    intro j
    by_cases inside : j < maxBits
    · exact bitAt_ofOctets octets bits inside
    · have outside : ¬j / 8 < Mac.maxLen := by
        rw [maxBits] at inside
        omega
      rw [bitAt_outside _ outside, decide_eq_false (by omega), Bool.false_and]

theorem Stores.unique (h : p.Stores octets bits) (h' : q.Stores octets bits) : p = q := by
  have same : p.address.octets = q.address.octets := by
    apply Mac.octets_eq_of_bitAt
    intro j
    rw [h.bitAt_eq, h'.bitAt_eq]
  have width := h.narrowest.unique h'.narrowest
  have counted := h.bits_eq.trans h'.bits_eq.symm
  obtain ⟨⟨_, _⟩, _⟩ := p
  obtain ⟨⟨_, _⟩, _⟩ := q
  simp only at same width counted
  rw [same, width, counted]

/-- What is kept determines the prefix. -/
theorem stores_iff (bounded : bits ≤ maxBits) :
    p.Stores octets bits ↔ p = ofOctets octets bits := by
  constructor
  · intro stores
    exact stores.unique (stores_ofOctets octets bounded)
  · rintro rfl
    exact stores_ofOctets octets bounded

/-- Other octets with the same counted bits are kept as the same prefix. -/
theorem Stores.congr (h : p.Stores octets bits)
    (same : ∀ j < bits, bitAt octets j = bitAt octets' j) : p.Stores octets' bits where
  bits_eq := h.bits_eq
  narrowest := h.narrowest
  bitAt_eq := by
    intro j
    rw [h.bitAt_eq]
    by_cases counts : j < bits
    · rw [same j counts]
    · simp [counts]

theorem Stores.bits_le (h : p.Stores octets bits) : bits ≤ maxBits := by
  have sizes := Mac.isWidth_iff.1 h.narrowest.isWidth
  have holds := h.narrowest.holds
  rw [maxBits, Mac.maxLen]
  omega

/-- A prefix keeps its own octets. -/
theorem Stores.self (h : p.Stores octets bits) :
    p.Stores p.address.octets.toList bits := by
  apply h.congr
  intro j counts
  simp [h.bitAt_eq, counts]

theorem Writes.bits_le {text : List Char} (h : Writes octets bits text) : bits ≤ maxBits := by
  cases h with
  | mk _ _ bounded => exact bounded

/-- What a text is read as is kept of the octets and the number that it writes. -/
theorem exists_stores_of_parse {text : String} (parsed : parse text = .ok p) :
    ∃ octets, p.Stores octets p.bits := by
  obtain ⟨octets, bits, writes, rfl⟩ := parse_eq_ok_iff.1 parsed
  exact ⟨octets, stores_ofOctets octets writes.bits_le⟩

end MacPrefix

end HardwareIndex
