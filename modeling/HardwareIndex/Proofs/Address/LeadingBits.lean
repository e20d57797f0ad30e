import HardwareIndex.Proofs.Address.PrefixText

/-!
# Leading bits

A prefix counts bits, the code compares octets: whole ones first, then the last
one under a mask. Bit by bit the two are the same: an address is in a range
exactly if it is long enough and its leading bits are those of the octets that
the prefix was written with. Neither the octets past the counted bits nor the
width of the stored address have a part in it.
-/

namespace HardwareIndex

/-- Bit `j` of octets that zeros follow, counted from the highest bit of the first octet. -/
def Mac.bitAt (octets : List UInt8) (j : Nat) : Bool :=
  (octets.getD (j / 8) 0).toNat.testBit (7 - j % 8)

namespace MacPrefix

open Mac (bitAt maxLen buffer)

/-! ## Bits of one octet -/

theorem octet_eq_iff {a b : UInt8} :
    a = b ↔ ∀ k < 8, a.toNat.testBit k = b.toNat.testBit k := by
  constructor
  · rintro rfl k _
    rfl
  · intro same
    apply UInt8.toNat_inj.1
    apply Nat.eq_of_testBit_eq
    intro k
    by_cases low : k < 8
    · exact same k low
    · have above (c : UInt8) : c.toNat.testBit k = false := by
        apply Nat.testBit_lt_two_pow
        calc c.toNat < 2 ^ 8 := c.toNat_lt
          _ ≤ 2 ^ k := Nat.pow_le_pow_right (by decide) (Nat.le_of_not_lt low)
      rw [above, above]

theorem testBit_lowMask {dropped k : Nat} (some_kept : dropped < 8) (low : k < 8) :
    (lowMask dropped).toNat.testBit k = decide (dropped ≤ k) := by
  have all : ∀ dropped < 8, ∀ k < 8,
      (lowMask dropped).toNat.testBit k = decide (dropped ≤ k) := by decide
  exact all dropped some_kept k low

/-- Octets agree under a mask exactly if they agree in the bits that count. -/
theorem and_lowMask_eq_iff {a b : UInt8} {dropped : Nat} (some_kept : dropped < 8) :
    a &&& lowMask dropped = b &&& lowMask dropped ↔
      ∀ k < 8, dropped ≤ k → a.toNat.testBit k = b.toNat.testBit k := by
  rw [octet_eq_iff]
  apply forall₂_congr
  intro k low
  rw [UInt8.toNat_and, UInt8.toNat_and, Nat.testBit_and, Nat.testBit_and,
    testBit_lowMask some_kept low]
  by_cases counts : dropped ≤ k <;> simp [counts]

/-- The mask of an octet keeps the bits that are among the counted ones of the whole address. -/
theorem testBit_octetMask (bits i : Nat) {k : Nat} (low : k < 8) :
    (octetMask bits i).toNat.testBit k = decide (8 * i + (7 - k) < bits) := by
  unfold octetMask
  split
  · rename_i whole
    have ones : (lowMask 0).toNat.testBit k = decide (0 ≤ k) := testBit_lowMask (by decide) low
    rw [decide_eq_true (Nat.zero_le k)] at ones
    rw [decide_eq_true (by omega)]
    exact ones
  split
  · rw [decide_eq_false (by omega)]
    exact Nat.zero_testBit k
  · rw [testBit_lowMask (by omega) low]
    exact decide_eq_decide.2 (by omega)

/-! ## Bits of a buffer -/

theorem bitAt_toList (m : Mac) {i k : Nat} (inside : i < maxLen) (low : k < 8) :
    bitAt m.octets.toList (8 * i + (7 - k)) = m.octets[i].toNat.testBit k := by
  have octet : (8 * i + (7 - k)) / 8 = i := by omega
  have bit : 7 - (8 * i + (7 - k)) % 8 = k := by omega
  rw [bitAt, octet, bit]
  simp [inside]

theorem bitAt_outside (m : Mac) {j : Nat} (outside : ¬j / 8 < maxLen) :
    bitAt m.octets.toList j = false := by
  have width : m.octets.toList.length ≤ j / 8 := by
    rw [Vector.length_toList]
    omega
  rw [bitAt, List.getD_eq_getElem?_getD, List.getElem?_eq_none width]
  exact Nat.zero_testBit _

/-- The significant octets have the bits of the buffer, as far as they reach. -/
theorem bitAt_bytes (m : Mac) {j : Nat} (inside : j < 8 * m.len) :
    bitAt m.bytes j = bitAt m.octets.toList j := by
  have octet : j / 8 < m.len := by omega
  simp only [bitAt, Mac.bytes, List.getD_eq_getElem?_getD, List.getElem?_take_of_lt octet]

/-- A stored address has the counted bits of the octets it is made of, and no others. -/
theorem bitAt_ofOctets (octets : List UInt8) (bits : Nat) {j : Nat} (inside : j < maxBits) :
    bitAt (ofOctets octets bits).address.octets.toList j =
      (decide (j < bits) && bitAt octets j) := by
  have octet : j / 8 < maxLen := by
    rw [maxBits] at inside
    omega
  have position : 8 * (j / 8) + (7 - (7 - j % 8)) = j := by omega
  have low : 7 - j % 8 < 8 := by omega
  have whole := bitAt_toList (ofOctets octets bits).address octet low
  have mask := testBit_octetMask bits (j / 8) low
  rw [position] at whole mask
  rw [whole]
  simp only [ofOctets, Vector.getElem_mapFinIdx, buffer, Vector.getElem_ofFn, UInt8.toNat_and,
    Nat.testBit_and, mask, bitAt]
  exact Bool.and_comm _ _

/-! ## Comparing octets -/

variable {a b : Mac} {i : Nat}

/-- The bits of one octet that count are those at its places in the buffer, up to the last one
    that counts. -/
theorem forall_testBit_iff (inside : i < maxLen) (dropped : Nat) :
    (∀ k < 8, dropped ≤ k → a.octets[i].toNat.testBit k = b.octets[i].toNat.testBit k) ↔
      ∀ j, j / 8 = i → j < 8 * (i + 1) - dropped →
        bitAt a.octets.toList j = bitAt b.octets.toList j := by
  constructor
  · rintro same j rfl counts
    have position : 8 * (j / 8) + (7 - (7 - j % 8)) = j := by omega
    have bit := same (7 - j % 8) (by omega) (by omega)
    rwa [← bitAt_toList a inside (by omega), ← bitAt_toList b inside (by omega), position] at bit
  · intro same k low counts
    rw [← bitAt_toList a inside low, ← bitAt_toList b inside low]
    exact same _ (by omega) (by omega)

theorem agreeAt_iff (a b : Mac) (i : Nat) : agreeAt a b i = true ↔
    ∀ j, j / 8 = i → bitAt a.octets.toList j = bitAt b.octets.toList j := by
  rw [agreeAt, beq_iff_eq]
  by_cases inside : i < maxLen
  · have octet := forall_testBit_iff (a := a) (b := b) inside 0
    rw [Vector.getElem?_eq_getElem inside, Vector.getElem?_eq_getElem inside, Option.some.injEq,
      octet_eq_iff]
    constructor
    · intro same j here
      exact octet.1 (fun k low _ => same k low) j here (by omega)
    · intro same k low
      exact octet.2 (fun j here _ => same j here) k low (Nat.zero_le k)
  · rw [Vector.getElem?_eq_none (by omega), Vector.getElem?_eq_none (by omega)]
    refine iff_of_true rfl ?_
    rintro j rfl
    rw [bitAt_outside a inside, bitAt_outside b inside]

theorem agreeAbove_iff (a b : Mac) (i : Nat) {dropped : Nat} (some_kept : dropped < 8) :
    agreeAbove a b i dropped = true ↔ ∀ j, j / 8 = i → j < 8 * (i + 1) - dropped →
      bitAt a.octets.toList j = bitAt b.octets.toList j := by
  rw [agreeAbove, beq_iff_eq]
  by_cases inside : i < maxLen
  · rw [Vector.getElem?_eq_getElem inside, Vector.getElem?_eq_getElem inside, Option.map_some,
      Option.map_some, Option.some.injEq, and_lowMask_eq_iff some_kept, forall_testBit_iff inside]
  · rw [Vector.getElem?_eq_none (by omega), Vector.getElem?_eq_none (by omega)]
    refine iff_of_true rfl ?_
    rintro j rfl _
    rw [bitAt_outside a inside, bitAt_outside b inside]

/-- The octets that a scan compares hold the leading bits. -/
theorem scan_iff (a b : Mac) (bits : Nat) :
    (List.range (Scan.ofBits bits).whole).all (agreeAt a b) = true ∧
      (Scan.ofBits bits).masked.all (fun (i, dropped) => agreeAbove a b i dropped) = true ↔
    ∀ j < bits, bitAt a.octets.toList j = bitAt b.octets.toList j := by
  have whole : (List.range (Scan.ofBits bits).whole).all (agreeAt a b) = true ↔
      ∀ j < 8 * (bits / 8), bitAt a.octets.toList j = bitAt b.octets.toList j := by
    rw [List.all_eq_true]
    constructor
    · intro same j before
      have agree := same (j / 8) (List.mem_range.2 (by omega : j / 8 < bits / 8))
      exact (agreeAt_iff a b _).1 agree j rfl
    · intro same i member
      have before : i < bits / 8 := List.mem_range.1 member
      rw [agreeAt_iff]
      intro j here
      exact same j (by omega)
  have last : (Scan.ofBits bits).masked.all (fun (i, dropped) => agreeAbove a b i dropped) = true ↔
      ∀ j < bits, 8 * (bits / 8) ≤ j →
        bitAt a.octets.toList j = bitAt b.octets.toList j := by
    by_cases even : bits % 8 = 0
    · have none : (Scan.ofBits bits).masked = none := if_pos even
      rw [none]
      refine iff_of_true rfl ?_
      intro j before after
      omega
    · have some : (Scan.ofBits bits).masked = some (bits / 8, 8 - bits % 8) := if_neg even
      rw [some, Option.all_some, agreeAbove_iff a b _ (by omega)]
      constructor
      · intro same j before after
        exact same j (by omega) (by omega)
      · intro same j here before
        exact same j (by omega) (by omega)
  rw [whole, last]
  constructor
  · rintro ⟨first, rest⟩ j before
    rcases Nat.lt_or_ge j (8 * (bits / 8)) with early | late
    · exact first j early
    · exact rest j before late
  · intro same
    exact ⟨fun j before => same j (by omega), fun j before _ => same j before⟩

/-- An address is in a range exactly if it has the bits that count and they are those of the
    stored address. -/
theorem contains_iff (p : MacPrefix) (m : Mac) :
    p.contains m = true ↔ p.bits ≤ 8 * m.len ∧
      ∀ j < p.bits, bitAt m.octets.toList j = bitAt p.address.octets.toList j := by
  simp only [contains, Bool.and_eq_true, decide_eq_true_eq, and_assoc, scan_iff,
    @eq_comm Bool (bitAt m.octets.toList _)]

/-- An address is in the range of some octets exactly if it has the bits that count and they are
    those of these octets. -/
theorem contains_ofOctets_iff (octets : List UInt8) {bits : Nat} (bounded : bits ≤ maxBits)
    (m : Mac) :
    (ofOctets octets bits).contains m = true ↔
      bits ≤ 8 * m.len ∧ ∀ j < bits, bitAt m.bytes j = bitAt octets j := by
  rw [contains_iff (ofOctets octets bits)]
  apply and_congr_right
  intro long
  apply forall₂_congr
  intro j counts
  have counts : j < bits := counts
  have long : bits ≤ 8 * m.len := long
  rw [bitAt_bytes m (by omega), bitAt_ofOctets octets bits (by omega), decide_eq_true counts,
    Bool.true_and]

/-- A text with a slash is read as a prefix only if an address, complete or partial, stands before
    the slash and a number of bits after it, each in one way only. An address is in the range
    exactly if it has that many bits and they are the leading ones of the written octets, with
    zeros after these. So whatever else is written, with as many bits and the same leading ones,
    has the same addresses in its range; and so has the prefix with a stored address of any other
    width. -/
theorem contains_iff_leading_bits {a b : String} {p : MacPrefix}
    (read : parse (a ++ "/" ++ b) = .ok p) :
    ∃ (octets : List UInt8) (bits : Nat),
      (∀ octets', Mac.Writes octets' a.toList ↔ octets' = octets) ∧
      (∀ bits', Text.Decimal.Writes bits' b.toList ↔ bits' = bits) ∧
      (∀ m : Mac, p.contains m = true ↔
        bits ≤ 8 * m.len ∧ ∀ j < bits, bitAt m.bytes j = bitAt octets j) ∧
      (∀ (a' b' : String) (p' : MacPrefix) (octets' : List UInt8),
        parse (a' ++ "/" ++ b') = .ok p' → Mac.Writes octets' a'.toList →
        Text.Decimal.Writes bits b'.toList → (∀ j < bits, bitAt octets' j = bitAt octets j) →
        ∀ m : Mac, p'.contains m = p.contains m) ∧
      ∀ (width : Nat) (m : Mac),
        contains ⟨⟨p.address.octets, width⟩, p.bits⟩ m = p.contains m := by
  obtain ⟨octets, bits, ⟨address, number, bounded⟩, rfl⟩ := parse_append_eq_ok_iff.1 read
  refine ⟨octets, bits, ?_, ?_, contains_ofOctets_iff octets bounded, ?_, fun _ _ => rfl⟩
  · intro octets'
    constructor
    · intro address'
      exact address'.unique address
    · rintro rfl
      exact address
  · intro bits'
    constructor
    · intro number'
      exact number'.unique number
    · rintro rfl
      exact number
  · intro a' b' p' octets' read' address' number' same m
    obtain ⟨_, _, ⟨address'', number'', _⟩, rfl⟩ := parse_append_eq_ok_iff.1 read'
    obtain rfl := address''.unique address'
    obtain rfl := number''.unique number'
    rw [Bool.eq_iff_iff, contains_ofOctets_iff _ bounded, contains_ofOctets_iff _ bounded]
    apply and_congr_right
    intro _
    apply forall₂_congr
    intro j counts
    rw [same j counts]

/-- Nine bits reach one bit into the second octet of a partial address. -/
theorem ninth_bit_counts :
    let p := ofOctets [0x21, 0x80] 9
    parse ("21:80" ++ "/" ++ "9") = .ok p ∧ ∀ m : Mac, p.contains m = true ↔
      9 ≤ 8 * m.len ∧ ∀ j < 9, bitAt m.bytes j = bitAt [0x21, 0x80] j := by
  intro p
  have address : Mac.Writes [0x21, 0x80] "21:80".toList :=
    readOctets?_eq_some_iff.1 (by decide +kernel)
  have number : Text.Decimal.Writes 9 "9".toList :=
    .bare (.one (by decide))
  have read : parse ("21:80" ++ "/" ++ "9") = .ok p :=
    parse_append_eq_ok_iff.2 ⟨_, _, ⟨address, number, by decide⟩, rfl⟩
  obtain ⟨octets, bits, written, counted, contains, _⟩ := contains_iff_leading_bits read
  obtain rfl := (written _).1 address
  obtain rfl := (counted _).1 number
  exact ⟨read, contains⟩

end MacPrefix

end HardwareIndex
