import HardwareIndex.Json.Printer
import HardwareIndex.Json.Reader

/-!
# Reading strings back

A string is read from its compact text: what `Json.escape` writes of a character is
one turn of `Reader.string?`. The reader runs on fuel; the length of the text is
always enough, so no law speaks of fuel beyond that.
-/

namespace HardwareIndex

namespace Text.Hex

theorem fixed_four (n : Nat) : fixed 4 n =
    [digit (n / 4096 % 16), digit (n / 256 % 16), digit (n / 16 % 16), digit (n / 1 % 16)] :=
  rfl

/-- A number of four digits is read from them. -/
theorem number?_fixed_four {n : Nat} (small : n < 65536) : number? (fixed 4 n) = some n := by
  have value : 16 * (16 * (16 * (n / 4096 % 16) + n / 256 % 16) + n / 16 % 16) + n % 16 = n := by
    omega
  have digit : ∀ m, value? (digit (m % 16)).toNat = some (m % 16) := fun m =>
    value?_digit (m % 16) (Nat.mod_lt m (by decide))
  simp [fixed_four, number?, digit, value]

end Text.Hex

namespace Json

theorem length_escape_pos (c : Char) : 1 ≤ (escape c).length := by
  unfold escape
  repeat' split
  all_goals simp

namespace Reader

variable {fuel levels : Nat} {read rest : List Char}

theorem escaped?_control {c : Char} (control : c.toNat < 32) :
    escaped? ('u' :: Text.Hex.fixed 4 c.toNat ++ rest) = some (c, rest) := by
  have unit : unit? (Text.Hex.fixed 4 c.toNat ++ rest) = some (c.toNat, rest) := by
    show (Text.Hex.number? (Text.Hex.fixed 4 c.toNat)).map (·, rest) = _
    rw [Text.Hex.number?_fixed_four (by omega)]
    rfl
  have low : ¬(0xD800 ≤ c.toNat ∧ c.toNat < 0xDC00) := by omega
  have low' : ¬(0xDC00 ≤ c.toNat ∧ c.toNat < 0xE000) := by omega
  show unicode? (Text.Hex.fixed 4 c.toNat ++ rest) = _
  simp only [unicode?, unit, Option.bind_eq_bind, Option.bind_some, if_neg low, if_neg low',
    Char.ofNat_toNat]

/-- What is written of a character is read in one turn. -/
theorem string?_escape (c : Char) :
    string? (fuel + 1) read (escape c ++ rest) = string? fuel (c :: read) rest := by
  unfold escape
  split <;> try rfl
  rename_i quote backslash _ _ _ _ _
  split
  · rename_i control
    simp only [List.cons_append, List.nil_append, string?]
    rw [← List.cons_append, escaped?_control control]
  · rename_i plain
    rw [List.singleton_append, string?]
    · rw [if_neg plain]
    · exact quote
    · exact backslash

theorem string?_flatMap (cs : List Char) (enough : (cs.flatMap escape).length < fuel) :
    string? fuel read (cs.flatMap escape ++ '"' :: rest) =
      some (String.ofList (read.reverse ++ cs), rest) := by
  induction cs generalizing fuel read with
  | nil =>
    obtain ⟨fuel, rfl⟩ := Nat.exists_eq_succ_of_ne_zero (Nat.ne_of_gt enough)
    simp [string?]
  | cons c cs ih =>
    have taken := length_escape_pos c
    rw [List.flatMap_cons, List.length_append] at enough
    obtain ⟨fuel, rfl⟩ := Nat.exists_eq_succ_of_ne_zero (show fuel ≠ 0 by omega)
    rw [List.flatMap_cons, List.append_assoc, string?_escape, ih (by omega)]
    simp

theorem value?_string (text : String) (enough : (text.toList.flatMap escape).length + 1 < fuel) :
    value? fuel levels ((stringText text).toList ++ rest) = some (.str text, rest) := by
  obtain ⟨fuel, rfl⟩ := Nat.exists_eq_succ_of_ne_zero (show fuel ≠ 0 by omega)
  have written : (stringText text).toList ++ rest =
      '"' :: (text.toList.flatMap escape ++ '"' :: rest) := by simp [stringText]
  rw [written]
  show (string? fuel [] _).map _ = _
  rw [string?_flatMap _ (by omega)]
  simp

end Reader

/-- A string is read from its compact text. -/
theorem read?_compact_str (text : String) : read? (Json.str text).compact = some (.str text) := by
  have enough : (text.toList.flatMap escape).length + 1 <
      2 * (stringText text).toList.length + 2 := by
    simp [stringText]
    omega
  have value : Reader.value? (2 * (stringText text).toList.length + 2) Reader.maxLevels
      ((stringText text).toList ++ []) = some (.str text, []) :=
    Reader.value?_string text enough
  rw [List.append_nil] at value
  simp only [read?, readRaw?, compact, value]
  rfl

end Json

end HardwareIndex
