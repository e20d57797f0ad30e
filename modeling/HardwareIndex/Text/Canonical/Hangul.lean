/-!
# Korean syllables

A syllable character stands for one of 19 leading consonants, one of 21 vowels
and perhaps one of 27 trailing consonants. The syllables are in the order of
these letters, so that their codes follow from the codes of the letters. `join?`
and `split?` add and take off one letter, and `split?_join?` says that taking
off undoes adding.
-/

namespace HardwareIndex.Text.Hangul

/-- The syllable of a consonant and a vowel, or of a syllable without a trailing
    consonant and one. -/
def join? (a b : Char) : Option Char :=
  if 0x1100 ≤ a.toNat ∧ a.toNat < 0x1113 ∧ 0x1161 ≤ b.toNat ∧ b.toNat < 0x1176 then
    some (Char.ofNat (0xAC00 + 588 * (a.toNat - 0x1100) + 28 * (b.toNat - 0x1161)))
  else if 0xAC00 ≤ a.toNat ∧ a.toNat < 0xD7A4 ∧ (a.toNat - 0xAC00) % 28 = 0 ∧
      0x11A7 < b.toNat ∧ b.toNat < 0x11C3 then
    some (Char.ofNat (a.toNat + (b.toNat - 0x11A7)))
  else none

/-- The last letter of a syllable, with what stands before it. -/
def split? (c : Char) : Option (Char × Char) :=
  if 0xAC00 ≤ c.toNat ∧ c.toNat < 0xD7A4 then
    if (c.toNat - 0xAC00) % 28 = 0 then
      some (Char.ofNat (0x1100 + (c.toNat - 0xAC00) / 588),
        Char.ofNat (0x1161 + (c.toNat - 0xAC00) / 28 % 21))
    else
      some (Char.ofNat (c.toNat - (c.toNat - 0xAC00) % 28),
        Char.ofNat (0x11A7 + (c.toNat - 0xAC00) % 28))
  else none

theorem toNat_ofNat {n : Nat} (h : n < 0xD800) : (Char.ofNat n).toNat = n := by
  have valid : n.isValidChar := Or.inl h
  have built : Char.ofNat n = Char.ofNatAux n valid := dif_pos valid
  rw [built]
  rfl

theorem ofNat_eq {c : Char} {n : Nat} (h : n = c.toNat) : Char.ofNat n = c := by
  rw [h, Char.ofNat_toNat]

theorem split?_join? {a b c : Char} (h : join? a b = some c) : split? c = some (a, b) := by
  unfold join? at h
  split at h
  · obtain rfl := Option.some.inj h
    unfold split?
    rw [toNat_ofNat (by omega), if_pos (by omega), if_pos (by omega), ofNat_eq (c := a) (by omega),
      ofNat_eq (c := b) (by omega)]
  · split at h
    · obtain rfl := Option.some.inj h
      unfold split?
      rw [toNat_ofNat (by omega), if_pos (by omega), if_neg (by omega),
        ofNat_eq (c := a) (by omega), ofNat_eq (c := b) (by omega)]
    · simp at h

end HardwareIndex.Text.Hangul
