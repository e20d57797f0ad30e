import Mathlib.Data.Nat.Init
import HardwareIndex.Proofs.Address.Storage

/-!
# Nested ranges

The addresses in the range of a prefix determine the prefix: bits of any choice
make an address, so an address can be found in one range and outside another
wherever their counted bits leave room for it. Two ranges are nested or apart.
-/

namespace HardwareIndex

namespace Mac

/-- The octet with the given bits, the highest first. -/
def octetOf (bit : Nat → Bool) : UInt8 :=
  UInt8.ofNat (Nat.ofBits fun k : Fin 8 => bit (7 - k))

theorem testBit_octetOf (bit : Nat → Bool) {k : Nat} (low : k < 8) :
    (octetOf bit).toNat.testBit k = bit (7 - k) := by
  have octet : Nat.ofBits (fun k : Fin 8 => bit (7 - k)) < 2 ^ 8 := Nat.ofBits_lt_two_pow _
  rw [octetOf, UInt8.toNat_ofNat_of_lt' octet, Nat.testBit_ofBits_lt _ k low]

/-- Octets with the given bits. -/
def octetsOf (bit : Nat → Bool) : List UInt8 :=
  (List.range maxLen).map fun i => octetOf fun j => bit (8 * i + j)

theorem bitAt_octetsOf (bit : Nat → Bool) {j : Nat} (inside : j < MacPrefix.maxBits) :
    bitAt (octetsOf bit) j = bit j := by
  have octet : j / 8 < maxLen := by
    rw [MacPrefix.maxBits] at inside
    omega
  have position : 8 * (j / 8) + (7 - (7 - j % 8)) = j := by omega
  have chosen : bitAt (octetsOf bit) j =
      (octetOf fun k => bit (8 * (j / 8) + k)).toNat.testBit (7 - j % 8) := by
    simp [bitAt, octetsOf, octet]
  rw [chosen, testBit_octetOf _ (by omega), position]

/-- There is an address with any choice of bits. -/
theorem exists_obtainable_of_bits (bit : Nat → Bool) :
    ∃ m : Mac, m.Obtainable ∧ m.len = maxLen ∧
      ∀ j < MacPrefix.maxBits, bitAt m.octets.toList j = bit j := by
  have length : (octetsOf bit).length = maxLen := by simp [octetsOf]
  have made := ofBytes?_eq_some_iff.2 ⟨by rw [length]; rfl, rfl⟩
  refine ⟨_, .made made, length, ?_⟩
  intro j inside
  have first : j < 8 * (octetsOf bit).length := by
    rw [length]
    exact inside
  have spelled := MacPrefix.bitAt_bytes ⟨buffer (octetsOf bit), (octetsOf bit).length⟩ first
  rw [← spelled, bytes_of_made made, bitAt_octetsOf bit inside]

end Mac

namespace MacPrefix

open Mac (bitAt)

variable {p q : MacPrefix} {octets octets' : List UInt8} {bits bits' : Nat}

/-- Every address in one range is in another. -/
def Within (p q : MacPrefix) : Prop :=
  ∀ m : Mac, m.Obtainable → p.contains m = true → q.contains m = true

/-- The counted bits of one prefix are counted in another, and the same there. -/
def Extends (p q : MacPrefix) : Prop :=
  q.bits ≤ p.bits ∧
    ∀ j < q.bits, bitAt p.address.octets.toList j = bitAt q.address.octets.toList j

theorem Extends.within (h : p.Extends q) : p.Within q := by
  intro m _ member
  obtain ⟨long, same⟩ := (contains_iff p m).1 member
  refine (contains_iff q m).2 ⟨Nat.le_trans h.1 long, ?_⟩
  intro j counts
  rw [same j (Nat.lt_of_lt_of_le counts h.1), h.2 j counts]

/-- An address with the counted bits of one prefix can differ from the other in all its other
    bits, so that no more than those bits are counted in the other. -/
theorem Stores.extends_of_within (h : p.Stores octets bits) (h' : q.Stores octets' bits')
    (within : p.Within q) : p.Extends q := by
  have counted : p.bits ≤ maxBits := h.bits_eq ▸ h.bits_le
  have counted' : q.bits ≤ maxBits := h'.bits_eq ▸ h'.bits_le
  obtain ⟨m, obtainable, len, chosen⟩ := Mac.exists_obtainable_of_bits fun j =>
    if j < p.bits then bitAt p.address.octets.toList j else !bitAt q.address.octets.toList j
  have member : p.contains m = true := by
    refine (contains_iff p m).2 ⟨by rw [len]; exact counted, ?_⟩
    intro j counts
    rw [chosen j (Nat.lt_of_lt_of_le counts counted), if_pos counts]
  obtain ⟨_, same⟩ := (contains_iff q m).1 (within m obtainable member)
  have shorter : q.bits ≤ p.bits := by
    -- Otherwise the first bit that is not counted in `p` tells the two apart.
    by_contra longer
    have differs := same p.bits (by omega)
    rw [chosen p.bits (by omega), if_neg (Nat.lt_irrefl _)] at differs
    simp at differs
  refine ⟨shorter, ?_⟩
  intro j counts
  rw [← same j counts, chosen j (by omega), if_pos (by omega)]

theorem Stores.within_iff (h : p.Stores octets bits) (h' : q.Stores octets' bits') :
    p.Within q ↔ p.Extends q :=
  ⟨h.extends_of_within h', Extends.within⟩

/-- Prefixes that extend each other are the same: what is kept beside the counted bits follows
    from their number. -/
theorem Stores.eq_of_extends (h : p.Stores octets bits) (h' : q.Stores octets' bits')
    (forth : p.Extends q) (back : q.Extends p) : p = q := by
  obtain rfl := h.bits_eq
  obtain rfl := h'.bits_eq
  have counted : q.bits = p.bits := Nat.le_antisymm forth.1 back.1
  have kept := h'.self
  rw [counted] at kept
  exact h.self.unique (kept.congr back.2)

/-- With an address in both ranges one prefix extends the other. -/
theorem extends_or_extends {m : Mac} (member : p.contains m = true)
    (member' : q.contains m = true) : p.Extends q ∨ q.Extends p := by
  obtain ⟨_, same⟩ := (contains_iff p m).1 member
  obtain ⟨_, same'⟩ := (contains_iff q m).1 member'
  rcases Nat.le_total q.bits p.bits with shorter | longer
  · refine Or.inl ⟨shorter, ?_⟩
    intro j counts
    rw [← same j (by omega), same' j counts]
  · refine Or.inr ⟨longer, ?_⟩
    intro j counts
    rw [← same' j (by omega), same j counts]

/-- One of two prefixes that texts were read as has every address of the other in its range exactly
    if it counts no more bits, and these are the first bits of the other. So two prefixes are equal
    exactly if the same addresses are in their ranges; and if neither range has all addresses of
    the other, no address is in both. -/
theorem ranges_nest_or_part {s t : String} {p q : MacPrefix} (read : parse s = .ok p)
    (read' : parse t = .ok q) :
    (p.Within q ↔
      q.bits ≤ p.bits ∧
        ∀ j < q.bits, bitAt p.address.octets.toList j = bitAt q.address.octets.toList j) ∧
    (p = q ↔ ∀ m : Mac, m.Obtainable → p.contains m = q.contains m) ∧
    (¬p.Within q → ¬q.Within p →
      ∀ m : Mac, m.Obtainable → ¬(p.contains m = true ∧ q.contains m = true)) := by
  obtain ⟨_, stores⟩ := exists_stores_of_parse read
  obtain ⟨_, stores'⟩ := exists_stores_of_parse read'
  refine ⟨stores.within_iff stores', ?_, ?_⟩
  · constructor
    · rintro rfl _ _
      rfl
    · intro same
      have forth : p.Within q := fun m obtainable member => by rwa [← same m obtainable]
      have back : q.Within p := fun m obtainable member => by rwa [same m obtainable]
      exact stores.eq_of_extends stores' (stores.extends_of_within stores' forth)
        (stores'.extends_of_within stores back)
  · rintro apart apart' m _ ⟨member, member'⟩
    rcases extends_or_extends member member' with forth | back
    · exact apart forth.within
    · exact apart' back.within

/-- A range of twelve counted bits in one of four. -/
theorem longer_prefix_nests :
    let p := ofOctets [0x22, 0x4F, 0x60] 12
    let q := ofOctets [0x20] 4
    parse "22:4F:60/12" = .ok p ∧ parse "20/4" = .ok q ∧ p.Within q ∧ p ≠ q := by
  intro p q
  have read : parse "22:4F:60/12" = .ok p := by decide +kernel
  have read' : parse "20/4" = .ok q := by decide +kernel
  obtain ⟨nested, _⟩ := ranges_nest_or_part read read'
  exact ⟨read, read', nested.2 (by decide +kernel), by decide +kernel⟩

end MacPrefix

end HardwareIndex
