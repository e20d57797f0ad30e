import HardwareIndex.Proofs.Address.Storage

/-!
# Texts that are no prefixes

A text is a prefix exactly if it writes one, and each text that does not is
refused for the first of three faults: it has no slash, what stands before its
last slash is no address, what stands after it is no number of bits. A fault
carries the part of the text that it is about.
-/

namespace HardwareIndex

/-- What is read as no octets writes none. -/
theorem readOctets?_eq_none_iff {text : String} :
    readOctets? text = none ↔ ¬∃ octets, Mac.Writes octets text.toList := by
  rw [Option.eq_none_iff_forall_ne_some, not_exists]
  apply forall_congr'
  intro octets
  exact not_congr readOctets?_eq_some_iff

namespace MacPrefix

/-- The number of bits that a text writes, if it is not above the largest. -/
def countOf? (text : List Char) : Option Nat :=
  (Text.Decimal.unsigned? 255 text).filter (· ≤ maxBits)

theorem countOf?_eq_some_iff {text : List Char} {bits : Nat} :
    countOf? text = some bits ↔ Text.Decimal.Writes bits text ∧ bits ≤ maxBits := by
  rw [countOf?, Option.filter_eq_some_iff, Text.Decimal.unsigned?_eq_some_iff, decide_eq_true_iff]
  constructor
  · rintro ⟨⟨number, _⟩, small⟩
    exact ⟨number, small⟩
  · rintro ⟨number, small⟩
    exact ⟨⟨number, Nat.le_trans small (by decide)⟩, small⟩

theorem countOf?_eq_none_iff {text : List Char} :
    countOf? text = none ↔ ¬∃ bits ≤ maxBits, Text.Decimal.Writes bits text := by
  rw [Option.eq_none_iff_forall_ne_some, not_exists]
  apply forall_congr'
  intro bits
  exact not_congr (countOf?_eq_some_iff.trans and_comm)

/-- A text without a slash is refused as it stands. -/
theorem parse_of_slash_not_mem {text : String} (unslashed : '/' ∉ text.toList) :
    parse text = .error (.missingPrefixLength text) := by
  rw [parse, splitLast_eq_none_iff.2 unslashed]

/-- Around its last slash a text has an address and a number of bits, or is refused for the first
    of the two that it has not. -/
theorem parse_append_cases (a : String) {b : String} (last : '/' ∉ b.toList) :
    (¬∃ octets, Mac.Writes octets a.toList) ∧ parse (a ++ "/" ++ b) = .error (.invalidMac a) ∨
    (∃ octets, Mac.Writes octets a.toList) ∧
      (¬∃ bits ≤ maxBits, Text.Decimal.Writes bits b.toList) ∧
      parse (a ++ "/" ++ b) = .error (.invalidPrefixLength b) ∨
    ∃ octets bits, Mac.Writes octets a.toList ∧ Text.Decimal.Writes bits b.toList ∧
      bits ≤ maxBits ∧ parse (a ++ "/" ++ b) = .ok (ofOctets octets bits) := by
  have text : (a ++ "/" ++ b).toList = a.toList ++ '/' :: b.toList := by simp
  have split := splitLast_eq_some_iff.2 ⟨text, last⟩
  cases address : readOctets? a with
  | none =>
    refine Or.inl ⟨readOctets?_eq_none_iff.1 address, ?_⟩
    simp only [parse, split, String.ofList_toList, address]
  | some octets =>
    have written := readOctets?_eq_some_iff.1 address
    cases count : countOf? b.toList with
    | none =>
      refine Or.inr (Or.inl ⟨⟨octets, written⟩, countOf?_eq_none_iff.1 count, ?_⟩)
      rw [countOf?] at count
      simp only [parse, split, String.ofList_toList, address, count]
    | some bits =>
      obtain ⟨number, bounded⟩ := countOf?_eq_some_iff.1 count
      refine Or.inr (Or.inr ⟨octets, bits, written, number, bounded, ?_⟩)
      rw [countOf?] at count
      simp only [parse, split, String.ofList_toList, address, count]

/-- A text with a slash has a last one. -/
theorem exists_last_slash {text : String} (slashed : '/' ∈ text.toList) :
    ∃ a b : String, text = a ++ "/" ++ b ∧ '/' ∉ b.toList := by
  cases split : splitLast text.toList with
  | none => exact absurd slashed (splitLast_eq_none_iff.1 split)
  | some parts =>
    obtain ⟨whole, last⟩ := splitLast_eq_some_iff.1 split
    refine ⟨String.ofList parts.1, String.ofList parts.2, ?_, by rwa [String.toList_ofList]⟩
    apply String.toList_inj.1
    simp [whole]

/-- A text is refused for want of a prefix length exactly if it has no slash, and with the whole
    text. Any other text has a last slash. It is refused for the address, which is what stands
    before that slash, exactly if this writes no octets: neither one to twenty pairs of digits with
    one separator, colons or hyphens, nor six, eight or twenty octets with dots. If it does, the
    text is refused for the number of bits, which is what stands after the slash, exactly if this
    is no number of at most 160, in decimal digits after an optional plus. Otherwise, and only then,
    the text is read: as a prefix of that number of bits, whose address has the first width that
    holds them, the counted bits of the octets with zeros after these, and no other bits. -/
theorem parse_tells_first_fault (text : String) :
    (∀ input, parse text = .error (.missingPrefixLength input) ↔
      input = text ∧ '/' ∉ text.toList) ∧
    ('/' ∈ text.toList → ∃ a b : String, text = a ++ "/" ++ b ∧ '/' ∉ b.toList) ∧
    ∀ a b : String, text = a ++ "/" ++ b → '/' ∉ b.toList →
      (∀ input, parse text = .error (.invalidMac input) ↔
        input = a ∧ ¬∃ octets, Mac.Writes octets a.toList) ∧
      (∀ input, parse text = .error (.invalidPrefixLength input) ↔
        input = b ∧ (∃ octets, Mac.Writes octets a.toList) ∧
          ¬∃ bits ≤ 160, Text.Decimal.Writes bits b.toList) ∧
      ∀ p, parse text = .ok p ↔ ∃ octets bits, Mac.Writes octets a.toList ∧
        Text.Decimal.Writes bits b.toList ∧ bits ≤ 160 ∧ p.Stores octets bits := by
  refine ⟨?_, exists_last_slash, ?_⟩
  · intro input
    by_cases slashed : '/' ∈ text.toList
    · obtain ⟨a, b, rfl, last⟩ := exists_last_slash slashed
      refine iff_of_false ?_ fun h => h.2 slashed
      rcases parse_append_cases a last with ⟨_, told⟩ | ⟨_, _, told⟩ | ⟨_, _, _, _, _, told⟩ <;>
        simp [told]
    · simp [parse_of_slash_not_mem slashed, slashed, eq_comm]
  · rintro a b rfl last
    refine ⟨?_, ?_, ?_⟩
    · intro input
      rcases parse_append_cases a last with ⟨unwritten, told⟩ | ⟨written, _, told⟩ |
        ⟨octets, _, written, _, _, told⟩
      · simp [told, unwritten, eq_comm]
      · simp [told, written]
      · simp only [told, reduceCtorEq, false_iff]
        exact fun h => h.2 ⟨octets, written⟩
    · intro input
      rcases parse_append_cases a last with ⟨unwritten, told⟩ | ⟨written, uncounted, told⟩ |
        ⟨_, bits, _, number, bounded, told⟩
      · simp [told, unwritten]
      · rw [told]
        constructor
        · rintro ⟨⟩
          exact ⟨rfl, written, uncounted⟩
        · rintro ⟨rfl, _⟩
          rfl
      · simp only [told, reduceCtorEq, false_iff]
        exact fun h => h.2.2 ⟨bits, bounded, number⟩
    · intro p
      rw [parse_append_eq_ok_iff]
      apply exists₂_congr
      intro octets bits
      rw [and_assoc, and_assoc]
      refine and_congr_right fun _ => and_congr_right fun _ => and_congr_right fun bounded => ?_
      exact (stores_iff bounded).symm

/-- Of several slashes the last one counts, so that the others stand in the address. -/
theorem other_slashes_in_address :
    '/' ∉ "+12".toList ∧ parse "22:4f:60/7/+12" = .error (.invalidMac "22:4f:60/7") := by
  have last : '/' ∉ "+12".toList := by decide
  have unwritten : ¬∃ octets, Mac.Writes octets "22:4f:60/7".toList := by
    rintro ⟨octets, writes⟩
    exact writes.slash_not_mem (by decide)
  obtain ⟨_, _, around⟩ := parse_tells_first_fault "22:4f:60/7/+12"
  obtain ⟨address, _⟩ := around "22:4f:60/7" "+12" rfl last
  exact ⟨last, (address _).2 ⟨rfl, unwritten⟩⟩

end MacPrefix

end HardwareIndex
