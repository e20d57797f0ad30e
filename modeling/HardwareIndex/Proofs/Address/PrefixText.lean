import HardwareIndex.Address.MacPrefix
import HardwareIndex.Proofs.Address.Parsing
import HardwareIndex.Proofs.Text.Decimal

/-!
# Prefixes as they are written

What it means that a text writes a range of addresses: the octets of a complete
or partial address, a slash, and a number of bits of at most 160. No address has
a slash in it, so a text has these parts in one way only. A prefix is read
exactly from the texts that write one, and is the range of their octets and bits.
-/

namespace HardwareIndex

namespace Mac

variable {octets octets' : List UInt8} {text : List Char}

/-- A text writes the octets of a complete or partial address. -/
def Writes (octets : List UInt8) (text : List Char) : Prop :=
  ∃ style : Style, style.Admits octets.length ∧ style.Writes octets text

theorem Writes.unique (h : Writes octets text) (h' : Writes octets' text) : octets = octets' := by
  have read {octets : List UInt8} (h : Writes octets text) :
      readOctets? (String.ofList text) = some octets := by
    rw [readOctets?_eq_some_iff, String.toList_ofList]
    exact h
  exact Option.some.inj ((read h).symm.trans (read h'))

theorem Writes.slash_not_mem (h : Writes octets text) : '/' ∉ text := by
  intro slash
  obtain ⟨style, _, row⟩ := h
  rcases row.mem '/' slash with separator | ⟨v, digit⟩
  · cases style <;> cases separator
  · cases Text.Hex.value?_eq_some_iff.2 digit

end Mac

namespace MacPrefix

/-- A text writes a range of addresses: leading octets, a slash and a number of bits. -/
inductive Writes : List UInt8 → Nat → List Char → Prop
  | mk {octets : List UInt8} {bits : Nat} {address number : List Char} :
      Mac.Writes octets address → Text.Decimal.Writes bits number → bits ≤ maxBits →
      Writes octets bits (address ++ '/' :: number)

variable {text before after : List Char}

theorem splitLast_eq_none_iff : splitLast text = none ↔ '/' ∉ text := by
  induction text with
  | nil => simp [splitLast]
  | cons c text ih =>
    rw [splitLast]
    cases found : splitLast text with
    | none =>
      rw [found] at ih
      by_cases slash : c = '/'
      · simp [slash]
      · simp [slash, ih.1 rfl, Ne.symm slash]
    | some parts =>
      have later : '/' ∈ text := by
        rw [found] at ih
        simpa using ih
      simp [later]

theorem splitLast_eq_some_iff :
    splitLast text = some (before, after) ↔ text = before ++ '/' :: after ∧ '/' ∉ after := by
  induction text generalizing before with
  | nil => simp [splitLast]
  | cons c text ih =>
    rw [splitLast]
    cases found : splitLast text with
    | none =>
      have none_later := splitLast_eq_none_iff.1 found
      constructor
      · intro split
        by_cases slash : c = '/'
        · cases (if_pos slash).symm.trans split
          exact ⟨by rw [slash]; rfl, none_later⟩
        · cases (if_neg slash).symm.trans split
      · rintro ⟨whole, _⟩
        cases before with
        | nil =>
          cases whole
          rfl
        | cons b before =>
          -- The slash before the rest would stand later in the text.
          cases whole
          exact absurd (by simp) none_later
    | some parts =>
      obtain ⟨before', after'⟩ := parts
      constructor
      · intro split
        cases split
        obtain ⟨whole, last⟩ := ih.1 found
        exact ⟨congrArg (c :: ·) whole, last⟩
      · rintro ⟨whole, last⟩
        cases before with
        | nil =>
          cases whole
          rw [splitLast_eq_none_iff.2 last] at found
          cases found
        | cons b before =>
          cases whole
          have split := ih.2 ⟨rfl, last⟩
          cases found.symm.trans split
          rfl

/-- A prefix is read exactly from the texts that write its range. -/
theorem parse_eq_ok_iff {text : String} {p : MacPrefix} : parse text = .ok p ↔
    ∃ octets bits, Writes octets bits text.toList ∧ p = ofOctets octets bits := by
  constructor
  · intro parsed
    unfold parse at parsed
    split at parsed
    · cases parsed
    rename_i before after split
    split at parsed
    · cases parsed
    rename_i octets read
    split at parsed
    · cases parsed
    rename_i bits number
    obtain rfl := Except.ok.inj parsed
    obtain ⟨whole, _⟩ := splitLast_eq_some_iff.1 split
    obtain ⟨number, small⟩ := Option.filter_eq_some_iff.1 number
    have address := readOctets?_eq_some_iff.1 read
    rw [String.toList_ofList] at address
    rw [whole]
    exact ⟨octets, bits, .mk address (Text.Decimal.unsigned?_eq_some_iff.1 number).1
      (of_decide_eq_true small), rfl⟩
  · rintro ⟨octets, bits, writes, rfl⟩
    generalize whole : text.toList = chars at writes
    obtain ⟨address, number, small⟩ := writes
    rename_i before after
    have split : splitLast text.toList = some (before, after) :=
      splitLast_eq_some_iff.2 ⟨whole, number.slash_not_mem⟩
    have read : readOctets? (String.ofList before) = some octets := by
      rw [readOctets?_eq_some_iff, String.toList_ofList]
      exact address
    have octet : bits ≤ 255 := Nat.le_trans small (by decide)
    have bounded : (Text.Decimal.unsigned? 255 after).filter (· ≤ maxBits) = some bits := by
      rw [Text.Decimal.unsigned?_eq_some_iff.2 ⟨number, octet⟩]
      exact Option.filter_some_pos (decide_eq_true small)
    simp only [parse, split, read, bounded]

/-- Around any slash in it a text that writes a range has its two parts: there is one slash. -/
theorem writes_append_iff {octets : List UInt8} {bits : Nat} {a b : List Char} :
    Writes octets bits (a ++ '/' :: b) ↔
      Mac.Writes octets a ∧ Text.Decimal.Writes bits b ∧ bits ≤ maxBits := by
  constructor
  · intro writes
    generalize whole : a ++ '/' :: b = text at writes
    obtain ⟨address, number, small⟩ := writes
    rcases List.append_eq_append_iff.1 whole with ⟨t, rfl, rest⟩ | ⟨t, rfl, rest⟩
    · cases t with
      | nil =>
        cases rest
        rw [List.append_nil] at address
        exact ⟨address, number, small⟩
      | cons c t =>
        cases rest
        exact absurd (by simp) address.slash_not_mem
    · cases t with
      | nil =>
        cases rest
        rw [List.append_nil]
        exact ⟨address, number, small⟩
      | cons c t =>
        cases rest
        exact absurd (by simp) number.slash_not_mem
  · rintro ⟨address, number, small⟩
    exact .mk address number small

/-- A text with a slash is read as the range of what stands before and after it. -/
theorem parse_append_eq_ok_iff {a b : String} {p : MacPrefix} : parse (a ++ "/" ++ b) = .ok p ↔
    ∃ octets bits, (Mac.Writes octets a.toList ∧ Text.Decimal.Writes bits b.toList ∧
      bits ≤ maxBits) ∧ p = ofOctets octets bits := by
  have text : (a ++ "/" ++ b).toList = a.toList ++ '/' :: b.toList := by simp
  simp only [parse_eq_ok_iff, text, writes_append_iff]

end MacPrefix

end HardwareIndex
