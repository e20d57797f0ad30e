import HardwareIndex.Inventory.Name
import HardwareIndex.Proofs.Text.Utf8

/-!
# The order of texts and of their octets

Texts are compared by the codes of their characters. Where the octets of two
characters part, the one of the lower code has the lower octet, and no character
starts with the octets of another one. So texts are in the order of their octets,
and object names in that of the octets of their namespaces, then of their names.
-/

namespace HardwareIndex

namespace Text.Utf8

open Decoder (tail toNat_tail toNat_ofNat encodeChar_eq)

/-! ## Octets of characters -/

variable {m n : Nat} {xs ys : List UInt8}

theorem ofNat_lt_ofNat (octet : n < 256) (less : m < n) : UInt8.ofNat m < UInt8.ofNat n := by
  rw [UInt8.lt_iff_toNat_lt, toNat_ofNat octet, toNat_ofNat (by omega)]
  exact less

theorem tail_lt_tail (less : m < n) (same : m / 64 = n / 64) : tail m < tail n :=
  ofNat_lt_ofNat (by omega) (by omega)

/-- Numbers that agree but for the bits of the tails are told apart by the tails. -/
theorem one_tail_lt (less : m < n) (same : m / 64 = n / 64) : tail m :: xs < tail n :: ys :=
  List.cons_lt_cons_iff.2 (.inl (tail_lt_tail less same))

theorem two_tails_lt (less : m < n) (same : m / 4096 = n / 4096) :
    tail (m / 64) :: tail m :: xs < tail (n / 64) :: tail n :: ys := by
  apply List.cons_lt_cons_iff.2
  by_cases first : m / 64 = n / 64
  · exact .inr ⟨congrArg tail first, one_tail_lt less first⟩
  · exact .inl (tail_lt_tail (by omega) (by omega))

theorem three_tails_lt (less : m < n) (same : m / 262144 = n / 262144) :
    tail (m / 4096) :: tail (m / 64) :: tail m :: xs <
      tail (n / 4096) :: tail (n / 64) :: tail n :: ys := by
  apply List.cons_lt_cons_iff.2
  by_cases first : m / 4096 = n / 4096
  · exact .inr ⟨congrArg tail first, two_tails_lt less first⟩
  · exact .inl (tail_lt_tail (by omega) (by omega))

/-- Whatever follows, the octets of a character come before those of one with a higher code. -/
theorem encodeChar_append_lt {c d : Char} (less : c.toNat < d.toNat) :
    String.utf8EncodeChar c ++ xs < String.utf8EncodeChar d ++ ys := by
  have valid : d.toNat < 0xD800 ∨ 0xDFFF < d.toNat ∧ d.toNat < 0x110000 := d.valid
  -- Unless both characters have the same number of octets, the first octets differ.
  have apart {a b : Nat} (octet : b < 256) (below : a < b) (as bs : List UInt8) :
      UInt8.ofNat a :: as < UInt8.ofNat b :: bs :=
    List.cons_lt_cons_iff.2 (.inl (ofNat_lt_ofNat octet below))
  rw [encodeChar_eq, encodeChar_eq]
  by_cases one : d.toNat ≤ 0x7F
  · rw [if_pos one, if_pos (by omega)]
    exact apart (by omega) less _ _
  rw [if_neg one]
  by_cases two : d.toNat ≤ 0x7FF
  · rw [if_pos two]
    split
    · exact apart (by omega) (by omega) _ _
    by_cases lead : c.toNat / 64 = d.toNat / 64
    · rw [if_pos (by omega), lead]
      exact List.cons_lt_cons_iff.2 (.inr ⟨rfl, one_tail_lt less lead⟩)
    · rw [if_pos (by omega)]
      exact apart (by omega) (by omega) _ _
  rw [if_neg two]
  by_cases three : d.toNat ≤ 0xFFFF
  · rw [if_pos three]
    split
    · exact apart (by omega) (by omega) _ _
    split
    · exact apart (by omega) (by omega) _ _
    by_cases lead : c.toNat / 4096 = d.toNat / 4096
    · rw [if_pos (by omega), lead]
      exact List.cons_lt_cons_iff.2 (.inr ⟨rfl, two_tails_lt less lead⟩)
    · rw [if_pos (by omega)]
      exact apart (by omega) (by omega) _ _
  rw [if_neg three]
  split
  · exact apart (by omega) (by omega) _ _
  split
  · exact apart (by omega) (by omega) _ _
  split
  · exact apart (by omega) (by omega) _ _
  by_cases lead : c.toNat / 262144 = d.toNat / 262144
  · rw [lead]
    exact List.cons_lt_cons_iff.2 (.inr ⟨rfl, three_tails_lt less lead⟩)
  · exact apart (by omega) (by omega) _ _

/-! ## Octets of texts -/

theorem exists_encodeChar_eq_cons (c : Char) : ∃ b rest, String.utf8EncodeChar c = b :: rest := by
  rw [encodeChar_eq]
  split
  · exact ⟨_, _, rfl⟩
  split
  · exact ⟨_, _, rfl⟩
  split <;> exact ⟨_, _, rfl⟩

theorem encode_lt_encode {cs ds : List Char} (less : cs < ds) : encode cs < encode ds := by
  induction less with
  | @nil d ds =>
    obtain ⟨b, rest, octets⟩ := exists_encodeChar_eq_cons d
    rw [encode, encode, List.flatMap_nil, List.flatMap_cons, octets]
    exact List.nil_lt_cons _ _
  | cons _ ih => exact List.append_left_lt ih
  | rel less => exact encodeChar_append_lt less

/-- Texts are in the order of their octets. -/
theorem bytes_lt_bytes_iff {s t : String} : bytes s < bytes t ↔ s < t := by
  constructor
  · intro less
    by_cases before : s < t
    · exact before
    rcases Std.le_iff_lt_or_eq.1 (String.not_lt.1 before) with after | same
    · cases List.lt_asymm less (encode_lt_encode (String.lt_iff.1 after))
    · rw [same] at less
      cases List.lt_irrefl _ less
  · intro less
    exact encode_lt_encode (String.lt_iff.1 less)

theorem bytes_le_bytes_iff {s t : String} : bytes s ≤ bytes t ↔ s ≤ t := by
  rw [← List.not_lt, ← String.not_lt, bytes_lt_bytes_iff]

end Text.Utf8

namespace ObjectName

open Text

/-- A name does not come after another one: its namespace is before the other one by its octets,
    or they share a namespace and its name there is not after the other one. -/
def NotAfter (a b : ObjectName) : Prop :=
  Utf8.bytes a.space < Utf8.bytes b.space ∨
    a.space = b.space ∧ Utf8.bytes a.name ≤ Utf8.bytes b.name

/-- Names are in the order of the octets of their namespaces, then of their names there. -/
theorem isLE_compare_iff {a b : ObjectName} : (compare a b).isLE = true ↔ NotAfter a b := by
  have less {s t : String} : compare s t = .lt ↔ s < t := compareOfLessAndEq_eq_lt
  have lexicographic : compare a b = (compare a.space b.space).then (compare a.name b.name) := rfl
  rw [lexicographic, Ordering.isLE_then_iff_or, less, Std.compare_eq_iff_eq,
    Ordering.isLE_iff_eq_lt_or_eq_eq, less, Std.compare_eq_iff_eq, NotAfter,
    Utf8.bytes_lt_bytes_iff, Utf8.bytes_le_bytes_iff, Std.le_iff_lt_or_eq]

end ObjectName

end HardwareIndex
