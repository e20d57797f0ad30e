import Mathlib.Data.List.Induction
import HardwareIndex.Text.Decimal

/-!
# Numbers as they are written

What it means that a text writes a number: decimal digits, the highest first,
after an optional plus. Zeros may stand in front. The grammar is inductive and
adds one digit at a time at the end; an unsigned number is read exactly from the
texts of this grammar whose number is not above the maximum.
-/

namespace HardwareIndex.Text.Decimal

/-- A text of decimal digits, the highest first, writes a number. -/
inductive Digits : Nat → List Char → Prop
  | one {d : Nat} : d < 10 → Digits d [Nat.digitChar d]
  | more {n d : Nat} {text : List Char} : Digits n text → d < 10 →
      Digits (10 * n + d) (text ++ [Nat.digitChar d])

/-- A text writes a number with or without a plus. -/
inductive Writes : Nat → List Char → Prop
  | bare {n : Nat} {text : List Char} : Digits n text → Writes n text
  | signed {n : Nat} {text : List Char} : Digits n text → Writes n ('+' :: text)

variable {n : Nat} {c : Char} {text : List Char}

theorem isDigit_iff : isDigit c = true ↔ ∃ d < 10, c = Nat.digitChar d := by
  constructor
  · intro digit
    have bounds : 48 ≤ c.toNat ∧ c.toNat ≤ 57 := by
      simpa [isDigit, Char.le_def, UInt32.le_iff_toNat_le] using digit
    refine ⟨c.toNat - 48, by omega, ?_⟩
    have codes : ∀ d < 10, Nat.digitChar d = Char.ofNat (48 + d) := by decide
    rw [codes _ (by omega), Nat.add_sub_cancel' bounds.1, Char.ofNat_toNat]
  · rintro ⟨d, small, rfl⟩
    have all : ∀ d < 10, isDigit (Nat.digitChar d) = true := by decide
    exact all d small

theorem toNat_digitChar {d : Nat} (small : d < 10) : (Nat.digitChar d).toNat - 48 = d := by
  have all : ∀ d < 10, (Nat.digitChar d).toNat - 48 = d := by decide
  exact all d small

theorem value_append_singleton (text : List Char) (c : Char) :
    value (text ++ [c]) = 10 * value text + (c.toNat - 48) := by
  simp [value]

theorem value_digitChar {d : Nat} (small : d < 10) : value [Nat.digitChar d] = d := by
  simp [value, toNat_digitChar small]

/-- Digits have the value that they write. -/
theorem Digits.value_eq (h : Digits n text) : value text = n := by
  induction h with
  | one small => exact value_digitChar small
  | more _ small ih => rw [value_append_singleton, ih, toNat_digitChar small]

theorem Digits.isDigit (h : Digits n text) : ∀ c ∈ text, isDigit c = true := by
  induction h with
  | one small =>
    intro c member
    rw [List.mem_singleton.1 member]
    exact isDigit_iff.2 ⟨_, small, rfl⟩
  | more _ small ih =>
    intro c member
    rcases List.mem_append.1 member with earlier | last
    · exact ih c earlier
    · rw [List.mem_singleton.1 last]
      exact isDigit_iff.2 ⟨_, small, rfl⟩

theorem Digits.ne_nil (h : Digits n text) : text ≠ [] := by
  cases h <;> simp

/-- Any run of digits writes its value. -/
theorem digits_value (some_digit : text ≠ []) (all : ∀ c ∈ text, isDigit c = true) :
    Digits (value text) text := by
  induction text using List.reverseRecOn with
  | nil => exact absurd rfl some_digit
  | append_singleton before c ih =>
    obtain ⟨d, small, rfl⟩ := isDigit_iff.1 (all c (by simp))
    cases before with
    | nil =>
      rw [List.nil_append, value_digitChar small]
      exact .one small
    | cons b before =>
      have earlier := ih (by simp) fun c member => all c (List.mem_append_left _ member)
      rw [value_append_singleton, toNat_digitChar small]
      exact .more earlier small

theorem digits?_eq_some_iff : digits? text = some n ↔ Digits n text := by
  unfold digits?
  constructor
  · intro read
    split at read
    · cases read
    · rename_i digits
      cases read
      simp only [Bool.or_eq_true, List.isEmpty_iff, Bool.not_eq_true', not_or,
        Bool.not_eq_false, List.all_eq_true] at digits
      exact digits_value digits.1 digits.2
  · intro digits
    have all := List.all_eq_true.2 digits.isDigit
    rw [if_neg (by simp [digits.ne_nil, all]), digits.value_eq]

/-- A number is read from a text exactly if the text writes it and it is not too large. -/
theorem unsigned?_eq_some_iff {max : Nat} :
    unsigned? max text = some n ↔ Writes n text ∧ n ≤ max := by
  unfold unsigned?
  dsimp only
  rw [Option.filter_eq_some_iff, decide_eq_true_iff]
  apply and_congr_left
  intro _
  split
  · rename_i rest
    rw [digits?_eq_some_iff]
    constructor
    · exact .signed
    · rintro (digits | digits)
      · cases digits.isDigit '+' List.mem_cons_self
      · exact digits
  · rename_i bare
    rw [digits?_eq_some_iff]
    constructor
    · exact .bare
    · rintro (digits | digits)
      · exact digits
      · exact absurd rfl (bare _)

theorem Writes.slash_not_mem (h : Writes n text) : '/' ∉ text := by
  intro slash
  rcases h with digits | digits
  · cases digits.isDigit '/' slash
  · rcases List.mem_cons.1 slash with plus | slash
    · cases plus
    · cases digits.isDigit '/' slash

theorem Writes.unique {m : Nat} (h : Writes n text) (h' : Writes m text) : n = m := by
  have read := unsigned?_eq_some_iff.2 ⟨h, Nat.le_max_left n m⟩
  exact Option.some.inj (read.symm.trans (unsigned?_eq_some_iff.2 ⟨h', Nat.le_max_right n m⟩))

/-- The digits of a number write it. -/
theorem digits_toDigits (n : Nat) : Digits n (Nat.toDigits 10 n) := by
  induction n using Nat.strongRecOn with
  | ind n ih =>
    rcases Nat.lt_or_ge n 10 with small | large
    · rw [Nat.toDigits_of_lt_base small]
      exact .one small
    · have more := Digits.more (ih (n / 10) (by omega)) (Nat.mod_lt n (by decide))
      rw [Nat.div_add_mod] at more
      rwa [Nat.toDigits_of_base_le (by decide) large]

theorem writes_toString (n : Nat) : Writes n (toString n).toList := by
  rw [Nat.toString_eq_ofList_toDigits, String.toList_ofList]
  exact .bare (digits_toDigits n)

end HardwareIndex.Text.Decimal
