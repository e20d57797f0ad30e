import HardwareIndex.Http.Form
import HardwareIndex.Proofs.Text.Utf8

/-!
# Reading form values back

The pairs that a query string was written from are read from it. An octet stands
in a form value as a plus, for itself, or as `%` with its two digits; in none of
these forms is there a separator, so pieces and names end where they were ended.
-/

namespace HardwareIndex

namespace Text

namespace Hex

/-- The digits are ASCII characters above every mark that a form value has a use for. -/
theorem upperDigit_range : ∀ n < 16,
    0x30 ≤ (upperDigit n).toNat ∧ (upperDigit n).toNat ≤ 0x46 ∧ (upperDigit n).toNat ≠ 0x3D := by
  decide

end Hex

end Text

namespace Form

open Text

/-! ## Octets -/

/-- The octet of a digit. -/
def digitOctet (n : Nat) : UInt8 :=
  UInt8.ofNat (Hex.upperDigit n).toNat

theorem toNat_digitOctet {n : Nat} (digit : n < 16) :
    (digitOctet n).toNat = (Hex.upperDigit n).toNat := by
  have range := Hex.upperDigit_range n digit
  exact Utf8.Decoder.toNat_ofNat (by omega)

theorem octet?_digitOctet (b : UInt8) :
    Hex.octet? (digitOctet (b.toNat / 16)) (digitOctet (b.toNat % 16)) = some b := by
  have octet := b.toNat_lt
  have value : 16 * (b.toNat / 16) + b.toNat % 16 = b.toNat := by omega
  rw [Hex.octet?, toNat_digitOctet (by omega), toNat_digitOctet (by omega),
    Hex.value?_upperDigit _ (by omega), Hex.value?_upperDigit _ (by omega)]
  simp [value]

/-- The codes of the octets that stand for themselves. -/
theorem toNat_of_isPlain {b : UInt8} (plain : isPlain b = true) :
    0x2A ≤ b.toNat ∧ b.toNat ≤ 0x7A ∧ b.toNat ≠ 0x2B ∧ b.toNat ≠ 0x3D := by
  simp only [isPlain, Bool.or_eq_true, Bool.and_eq_true, decide_eq_true_eq, beq_iff_eq,
    UInt8.le_iff_toNat_le, ← UInt8.toNat_inj] at plain
  simp at plain
  omega

/-- An octet stands as a plus, for itself, or as `%` with its digits. -/
theorem octets_encodeOctet (b : UInt8) :
    b = 0x20 ∧ Utf8.encode (encodeOctet b) = [0x2B] ∨
      isPlain b = true ∧ Utf8.encode (encodeOctet b) = [b] ∨
      Utf8.encode (encodeOctet b) =
        [0x25, digitOctet (b.toNat / 16), digitOctet (b.toNat % 16)] := by
  unfold encodeOctet
  split
  · rename_i space
    exact Or.inl ⟨beq_iff_eq.1 space, rfl⟩
  split
  · rename_i plain
    have range := toNat_of_isPlain plain
    have code : (Char.ofNat b.toNat).toNat = b.toNat := by
      rw [Char.ofNat, dif_pos (Or.inl (by omega))]
      rfl
    refine Or.inr (Or.inl ⟨plain, ?_⟩)
    rw [Utf8.encode, List.flatMap_singleton, Utf8.Decoder.encodeChar_ascii (by omega), code]
    simp
  · have octet := b.toNat_lt
    have high := Hex.upperDigit_range (b.toNat / 16) (by omega)
    have low := Hex.upperDigit_range (b.toNat % 16) (by omega)
    refine Or.inr (Or.inr ?_)
    simp only [Utf8.encode, percentOctet, List.flatMap_cons, List.flatMap_nil]
    rw [Utf8.Decoder.encodeChar_ascii (by decide), Utf8.Decoder.encodeChar_ascii (by omega),
      Utf8.Decoder.encodeChar_ascii (by omega)]
    rfl

/-- No separator stands among the octets of a value. -/
theorem separator_not_mem {b o : UInt8} (written : o ∈ Utf8.encode (encodeOctet b)) :
    o ≠ 0x26 ∧ o ≠ 0x3D := by
  have octet := b.toNat_lt
  have digit : ∀ n < 16, digitOctet n ≠ 0x26 ∧ digitOctet n ≠ 0x3D := by
    intro n small
    have range := Hex.upperDigit_range n small
    simp only [ne_eq, ← UInt8.toNat_inj, toNat_digitOctet small]
    simp
    omega
  rcases octets_encodeOctet b with ⟨_, octets⟩ | ⟨plain, octets⟩ | octets
  · rw [octets, List.mem_singleton] at written
    subst written
    decide
  · rw [octets, List.mem_singleton] at written
    subst written
    have range := toNat_of_isPlain plain
    simp only [ne_eq, ← UInt8.toNat_inj]
    simp
    omega
  · rw [octets] at written
    simp only [List.mem_cons, List.not_mem_nil, or_false] at written
    rcases written with rfl | rfl | rfl
    · decide
    · exact digit _ (by omega)
    · exact digit _ (by omega)

/-! ## Texts -/

/-- A plus stands for a space. -/
def spaced (octets : List UInt8) : List UInt8 :=
  octets.map fun b => if b == 0x2B then 0x20 else b

theorem percentDecode_cons {b : UInt8} (other : b ≠ 0x25) (rest : List UInt8) :
    percentDecode (b :: rest) = b :: percentDecode rest := by
  rw [percentDecode.eq_2]
  rintro _ _ _ rfl
  exact absurd rfl other

theorem percentDecode_digits (b : UInt8) (rest : List UInt8) :
    percentDecode (0x25 :: digitOctet (b.toNat / 16) :: digitOctet (b.toNat % 16) :: rest) =
      b :: percentDecode rest := by
  rw [percentDecode.eq_1, octet?_digitOctet]

/-- The octets of a value are read as the octet they stand for. -/
theorem percentDecode_encodeOctet (b : UInt8) (rest : List UInt8) :
    percentDecode (spaced (Utf8.encode (encodeOctet b)) ++ rest) = b :: percentDecode rest := by
  have octet := b.toNat_lt
  have digit : ∀ n < 16, digitOctet n ≠ 0x2B := by
    intro n small
    have range := Hex.upperDigit_range n small
    rw [ne_eq, ← UInt8.toNat_inj, toNat_digitOctet small]
    simp
    omega
  rcases octets_encodeOctet b with ⟨rfl, octets⟩ | ⟨plain, octets⟩ | octets
  · rw [octets]
    exact percentDecode_cons (by decide) rest
  · have range := toNat_of_isPlain plain
    have kept : b ≠ 0x2B := by
      rw [ne_eq, ← UInt8.toNat_inj]
      exact range.2.2.1
    have other : b ≠ 0x25 := by
      rw [ne_eq, ← UInt8.toNat_inj]
      simp
      omega
    simpa [octets, spaced, kept] using percentDecode_cons other rest
  · simpa [octets, spaced, digit _ (show b.toNat / 16 < 16 by omega),
      digit _ (show b.toNat % 16 < 16 by omega)] using percentDecode_digits b rest

theorem percentDecode_flatMap (octets : List UInt8) :
    percentDecode (spaced (Utf8.encode (octets.flatMap encodeOctet))) = octets := by
  induction octets with
  | nil => rfl
  | cons b octets ih =>
    rw [List.flatMap_cons, Utf8.encode_append, spaced, List.map_append]
    exact (percentDecode_encodeOctet b _).trans (congrArg _ ih)

theorem decodeText_encodeText (s : String) : decodeText (Utf8.bytes (encodeText s)) = s := by
  have octets : Utf8.bytes (encodeText s) =
      Utf8.encode ((Utf8.bytes s).flatMap encodeOctet) := by
    rw [Utf8.bytes, encodeText, String.toList_ofList]
  show String.ofList (Utf8.decodeLossy (percentDecode (spaced _))) = s
  rw [octets, percentDecode_flatMap, Utf8.bytes, Utf8.decodeLossy_encode, String.ofList_toList]

theorem separator_not_mem_text {s : String} {o : UInt8} (written : o ∈ Utf8.bytes (encodeText s)) :
    o ≠ 0x26 ∧ o ≠ 0x3D := by
  rw [Utf8.bytes, encodeText, String.toList_ofList, Utf8.encode, List.flatMap_assoc,
    List.mem_flatMap] at written
  obtain ⟨b, _, written⟩ := written
  exact separator_not_mem written

/-! ## Pairs -/

/-- The octets of a name and its value with the mark between them. -/
def pieceOf (pair : String × String) : List UInt8 :=
  Utf8.bytes (encodeText pair.1) ++ 0x3D :: Utf8.bytes (encodeText pair.2)

theorem decodePair_pieceOf (pair : String × String) : decodePair (pieceOf pair) = pair := by
  have before : ∀ o ∈ Utf8.bytes (encodeText pair.1), (o != 0x3D) = true := fun o written =>
    bne_iff_ne.2 (separator_not_mem_text written).2
  rw [decodePair, pieceOf, List.takeWhile_append_of_pos before, List.dropWhile_append_of_pos before]
  simp [decodeText_encodeText]

theorem separator_not_mem_pieceOf (pair : String × String) : 0x26 ∉ pieceOf pair := by
  simp only [pieceOf, List.mem_append, List.mem_cons, not_or]
  exact ⟨fun written => (separator_not_mem_text written).1 rfl, by decide,
    fun written => (separator_not_mem_text written).1 rfl⟩

theorem bytes_pair (name value : String) :
    Utf8.bytes (encodeText name ++ "=" ++ encodeText value) = pieceOf (name, value) := by
  have mark : Utf8.encode "=".toList = [0x3D] := rfl
  rw [Utf8.bytes, String.toList_append, String.toList_append, Utf8.encode_append,
    Utf8.encode_append, mark, List.append_assoc, List.singleton_append]
  rfl

theorem bytes_encode (pairs : List (String × String)) :
    Utf8.bytes (encode pairs) = [0x26].intercalate (pairs.map pieceOf) := by
  have mark : Utf8.encode "&".toList = [0x26] := rfl
  have pieces : (pairs.map fun pair =>
      encodeText pair.1 ++ "=" ++ encodeText pair.2).map Utf8.bytes = pairs.map pieceOf := by
    rw [List.map_map]
    apply List.map_congr_left
    rintro pair -
    rw [Function.comp_apply, bytes_pair]
  rw [← pieces, Utf8.bytes, encode, String.toList_intercalate, Utf8.encode_intercalate, mark,
    List.map_map]
  rfl

/-- The pairs that a query string was written from are read from it. -/
theorem decode_encode (pairs : List (String × String)) : decode (encode pairs) = pairs := by
  cases pairs with
  | nil => rfl
  | cons pair pairs =>
    have kept : ∀ piece ∈ (pair :: pairs).map pieceOf, (!piece.isEmpty) = true := by
      rintro _ written
      obtain ⟨pair, _, rfl⟩ := List.mem_map.1 written
      simp [pieceOf]
    have apart : ∀ piece ∈ (pair :: pairs).map pieceOf, 0x26 ∉ piece := by
      rintro _ written
      obtain ⟨pair, _, rfl⟩ := List.mem_map.1 written
      exact separator_not_mem_pieceOf pair
    rw [decode, bytes_encode, List.splitOn_intercalate 0x26 apart (by simp),
      List.filter_eq_self.2 kept, List.map_map]
    exact (List.map_congr_left fun pair _ => decodePair_pieceOf pair).trans (List.map_id _)

/-- The pairs of a query string to which another one is added are those of both. -/
theorem decode_append (query more : String) :
    decode (query ++ "&" ++ more) = decode query ++ decode more := by
  have octets : Utf8.bytes (query ++ "&" ++ more) =
      Utf8.bytes query ++ 0x26 :: Utf8.bytes more := by
    rw [Utf8.bytes, String.toList_append, String.toList_append, Utf8.encode_append,
      Utf8.encode_append, List.append_assoc]
    rfl
  rw [decode, octets, List.splitOn_append_cons_self, List.filter_append, List.map_append]
  rfl

/-- Parts that are joined are read one by one. -/
theorem decode_intercalate (parts : List String) :
    decode ("&".intercalate parts) = parts.flatMap decode := by
  induction parts with
  | nil => rfl
  | cons part parts ih =>
    cases parts with
    | nil => simp
    | cons next parts =>
      rw [String.intercalate_cons_cons, decode_append, ih]
      rfl

end Form

end HardwareIndex
