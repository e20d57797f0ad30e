import HardwareIndex.Text.Utf8

/-!
# Reading UTF-8 back

The octets of a text are read as that text: no octet of it is taken for a piece
that is no UTF-8. The octets of one character take a decoder that owes nothing to
one that has read this character and owes nothing again.
-/

namespace HardwareIndex.Text.Utf8

/-! ## Leading octets -/

theorem announced?_two {b : UInt8} (least : 0xC2 ≤ b.toNat) (most : b.toNat ≤ 0xDF) :
    announced? b = some (1, 0x80, 0xBF) := by
  have range : (0xC2 ≤ b && b ≤ 0xDF) = true := by
    simp only [Bool.and_eq_true, decide_eq_true_eq, UInt8.le_iff_toNat_le]
    exact ⟨least, most⟩
  rw [announced?, if_pos range]

theorem announced?_three {b : UInt8} (least : 0xE0 ≤ b.toNat) (most : b.toNat ≤ 0xEF) :
    announced? b = some (2, if b.toNat = 0xE0 then 0xA0 else 0x80,
      if b.toNat = 0xED then 0x9F else 0xBF) := by
  unfold announced?
  simp only [Bool.and_eq_true, decide_eq_true_eq, UInt8.le_iff_toNat_le, beq_iff_eq,
    ← UInt8.toNat_inj]
  simp
  grind

theorem announced?_four {b : UInt8} (least : 0xF0 ≤ b.toNat) (most : b.toNat ≤ 0xF4) :
    announced? b = some (3, if b.toNat = 0xF0 then 0x90 else 0x80,
      if b.toNat = 0xF4 then 0x8F else 0xBF) := by
  unfold announced?
  simp only [Bool.and_eq_true, decide_eq_true_eq, UInt8.le_iff_toNat_le, beq_iff_eq,
    ← UInt8.toNat_inj]
  simp
  grind

namespace Decoder

variable {d : Decoder} {b : UInt8}

/-! ## Single octets -/

theorem step_ascii (free : d.owed = 0) (ascii : b.toNat < 0x80) :
    d.step b = { d with owed := 0, read := Char.ofNat b.toNat :: d.read } := by
  have below : b < 0x80 := UInt8.lt_iff_toNat_lt.2 ascii
  simp only [step, free, lead, if_pos below]

theorem step_lead (free : d.owed = 0) (other : 0x80 ≤ b.toNat) {tails : Nat} {low high : UInt8}
    (announced : announced? b = some (tails, low, high)) :
    d.step b = ⟨tails, low, high, leadBits b tails, d.read⟩ := by
  have above : ¬b < 0x80 := fun below => Nat.not_lt.2 other (UInt8.lt_iff_toNat_lt.1 below)
  simp only [step, free, lead, if_neg above, announced]

/-- The octet that continues a character with the last six bits of a number. -/
def tail (n : Nat) : UInt8 :=
  UInt8.ofNat (n % 64 + 0x80)

theorem toNat_ofNat {n : Nat} (octet : n < 256) : (UInt8.ofNat n).toNat = n := by
  simpa using Nat.mod_eq_of_lt octet

theorem toNat_tail (n : Nat) : (tail n).toNat = n % 64 + 0x80 :=
  toNat_ofNat (by omega)

variable {low high : UInt8} {owed value n : Nat} {read : List Char}

theorem step_tail (least : low.toNat ≤ n % 64 + 0x80) (most : n % 64 + 0x80 ≤ high.toNat) :
    (⟨owed + 2, low, high, value, read⟩ : Decoder).step (tail n) =
      ⟨owed + 1, 0x80, 0xBF, 64 * value + n % 64, read⟩ := by
  have within : (low ≤ tail n && tail n ≤ high) = true := by
    simpa [UInt8.le_iff_toNat_le, toNat_tail] using ⟨least, most⟩
  have bits : (tail n).toNat % 64 = n % 64 := by
    rw [toNat_tail]
    omega
  simp only [step, within, bits, if_true, Nat.succ_ne_zero, if_false]

theorem step_last : (⟨1, 0x80, 0xBF, value, read⟩ : Decoder).step (tail n) =
    ⟨0, 0x80, 0xBF, 0, Char.ofNat (64 * value + n % 64) :: read⟩ := by
  have within : (0x80 ≤ tail n && tail n ≤ 0xBF) = true := by
    simp [UInt8.le_iff_toNat_le, toNat_tail]
    omega
  have bits : (tail n).toNat % 64 = n % 64 := by
    rw [toNat_tail]
    omega
  simp only [step, within, bits, if_true, start]

/-! ## Characters -/

theorem foldl_two (free : d.owed = 0) (least : 0x80 ≤ n) (most : n ≤ 0x7FF) :
    [UInt8.ofNat (n / 64 % 32 + 0xC0), tail n].foldl step d =
      ⟨0, 0x80, 0xBF, 0, Char.ofNat n :: d.read⟩ := by
  have first := toNat_ofNat (n := n / 64 % 32 + 0xC0) (by omega)
  have value : 64 * leadBits (UInt8.ofNat (n / 64 % 32 + 0xC0)) 1 + n % 64 = n := by
    simp only [leadBits, first]
    omega
  rw [List.foldl_cons, step_lead free (by omega) (announced?_two (by omega) (by omega)),
    List.foldl_cons, step_last, List.foldl_nil, value]

theorem foldl_three (free : d.owed = 0) (least : 0x800 ≤ n) (most : n ≤ 0xFFFF)
    (scalar : n < 0xD800 ∨ 0xDFFF < n) :
    [UInt8.ofNat (n / 4096 % 16 + 0xE0), tail (n / 64), tail n].foldl step d =
      ⟨0, 0x80, 0xBF, 0, Char.ofNat n :: d.read⟩ := by
  have first := toNat_ofNat (n := n / 4096 % 16 + 0xE0) (by omega)
  have value : 64 * (64 * leadBits (UInt8.ofNat (n / 4096 % 16 + 0xE0)) 2 + n / 64 % 64) + n % 64 =
      n := by
    simp only [leadBits, first]
    omega
  rw [List.foldl_cons, step_lead free (by omega) (announced?_three (by omega) (by omega)),
    List.foldl_cons, step_tail ?_ ?_, List.foldl_cons, step_last, List.foldl_nil, value]
  · rw [first]
    split <;> simp <;> omega
  · rw [first]
    split <;> simp <;> omega

theorem foldl_four (free : d.owed = 0) (least : 0x10000 ≤ n) (most : n < 0x110000) :
    [UInt8.ofNat (n / 262144 % 8 + 0xF0), tail (n / 4096), tail (n / 64), tail n].foldl step d =
      ⟨0, 0x80, 0xBF, 0, Char.ofNat n :: d.read⟩ := by
  have first := toNat_ofNat (n := n / 262144 % 8 + 0xF0) (by omega)
  have value : 64 * (64 * (64 * leadBits (UInt8.ofNat (n / 262144 % 8 + 0xF0)) 3 + n / 4096 % 64) +
      n / 64 % 64) + n % 64 = n := by
    simp only [leadBits, first]
    omega
  have range : (0x80 : UInt8).toNat ≤ n / 64 % 64 + 0x80 ∧
      n / 64 % 64 + 0x80 ≤ (0xBF : UInt8).toNat := by
    simp
    omega
  rw [List.foldl_cons, step_lead free (by omega) (announced?_four (by omega) (by omega)),
    List.foldl_cons, step_tail ?_ ?_, List.foldl_cons, step_tail range.1 range.2, List.foldl_cons,
    step_last, List.foldl_nil, value]
  · rw [first]
    split <;> simp <;> omega
  · rw [first]
    split <;> simp <;> omega

/-- The octets of a character by the range of its code. -/
theorem encodeChar_eq (c : Char) : String.utf8EncodeChar c =
    if c.toNat ≤ 0x7F then [UInt8.ofNat c.toNat]
    else if c.toNat ≤ 0x7FF then [UInt8.ofNat (c.toNat / 64 % 32 + 0xC0), tail c.toNat]
    else if c.toNat ≤ 0xFFFF then
      [UInt8.ofNat (c.toNat / 4096 % 16 + 0xE0), tail (c.toNat / 64), tail c.toNat]
    else
      [UInt8.ofNat (c.toNat / 262144 % 8 + 0xF0), tail (c.toNat / 4096), tail (c.toNat / 64),
        tail c.toNat] :=
  rfl

theorem encodeChar_ascii {c : Char} (ascii : c.toNat < 0x80) :
    String.utf8EncodeChar c = [UInt8.ofNat c.toNat] := by
  rw [encodeChar_eq, if_pos (by omega)]

/-- The octets of a character are read as that character. -/
theorem foldl_encodeChar (free : d.owed = 0) (c : Char) :
    ((String.utf8EncodeChar c).foldl step d).owed = 0 ∧
      ((String.utf8EncodeChar c).foldl step d).read = c :: d.read := by
  have valid : c.toNat < 0xD800 ∨ 0xDFFF < c.toNat ∧ c.toNat < 0x110000 := c.valid
  have code : Char.ofNat c.toNat = c := Char.ofNat_toNat c
  rw [encodeChar_eq]
  split
  · have octet := toNat_ofNat (n := c.toNat) (by omega)
    rw [List.foldl_cons, step_ascii free (by omega), octet, code]
    exact ⟨rfl, rfl⟩
  split
  · rw [foldl_two free (by omega) (by omega), code]
    exact ⟨rfl, rfl⟩
  split
  · rw [foldl_three free (by omega) (by omega) (by omega), code]
    exact ⟨rfl, rfl⟩
  · rw [foldl_four free (by omega) (by omega), code]
    exact ⟨rfl, rfl⟩

theorem foldl_encode (free : d.owed = 0) (cs : List Char) :
    ((encode cs).foldl step d).owed = 0 ∧
      ((encode cs).foldl step d).read = cs.reverse ++ d.read := by
  induction cs generalizing d with
  | nil => exact ⟨free, rfl⟩
  | cons c cs ih =>
    obtain ⟨freed, read⟩ := foldl_encodeChar free c
    obtain ⟨owed, rest⟩ := ih freed
    rw [encode, List.flatMap_cons, List.foldl_append]
    refine ⟨owed, rest.trans ?_⟩
    simp [read]

end Decoder

/-- The octets of a text are read as that text. -/
theorem decodeLossy_encode (cs : List Char) : decodeLossy (encode cs) = cs := by
  obtain ⟨owed, read⟩ := Decoder.foldl_encode (d := Decoder.start) rfl cs
  rw [decodeLossy, Decoder.finish, if_pos owed, read]
  simp [Decoder.start]

theorem decode?_encode (cs : List Char) : decode? (encode cs) = some cs := by
  rw [decode?, decodeLossy_encode]
  exact if_pos rfl

/-! ## Joined texts -/

theorem encode_append (cs ds : List Char) : encode (cs ++ ds) = encode cs ++ encode ds :=
  List.flatMap_append

theorem encode_intercalate (separator : List Char) (texts : List (List Char)) :
    encode (separator.intercalate texts) = (encode separator).intercalate (texts.map encode) := by
  induction texts with
  | nil => rfl
  | cons text texts ih =>
    cases texts with
    | nil => simp
    | cons next texts =>
      rw [List.intercalate_cons_cons, encode_append, encode_append, ih]
      simp [List.intercalate_cons_cons]

/-! ## ASCII texts -/

theorem toNat_charOf (b : UInt8) : (charOf b).toNat = b.toNat := by
  have small : b.toNat < 256 := b.toNat_lt
  rw [charOf, Char.ofNat, dif_pos (Or.inl (by omega))]
  rfl

theorem charOf_inj {a b : UInt8} : charOf a = charOf b ↔ a = b := by
  constructor
  · intro same
    rw [← UInt8.toNat_inj, ← toNat_charOf a, same, toNat_charOf]
  · exact congrArg charOf

theorem encode_injective {cs ds : List Char} (h : encode cs = encode ds) : cs = ds := by
  rw [← decodeLossy_encode cs, h, decodeLossy_encode]

/-- ASCII characters are their own octets. -/
theorem map_charOf_encode {cs : List Char} (ascii : ∀ c ∈ cs, c.toNat < 0x80) :
    (encode cs).map charOf = cs := by
  induction cs with
  | nil => rfl
  | cons c cs ih =>
    have small : c.toNat < 0x80 := ascii c List.mem_cons_self
    have code : charOf (UInt8.ofNat c.toNat) = c := by
      rw [charOf, Decoder.toNat_ofNat (by omega), Char.ofNat_toNat]
    rw [encode, List.flatMap_cons, Decoder.encodeChar_ascii small, List.singleton_append,
      List.map_cons, code]
    exact congrArg _ (ih fun c member => ascii c (List.mem_cons_of_mem _ member))

theorem encode_map_charOf {codes : List UInt8} (ascii : ∀ b ∈ codes, b.toNat < 0x80) :
    encode (codes.map charOf) = codes := by
  induction codes with
  | nil => rfl
  | cons b codes ih =>
    have small : (charOf b).toNat < 0x80 := by
      rw [toNat_charOf]
      exact ascii b List.mem_cons_self
    rw [List.map_cons, encode, List.flatMap_cons, Decoder.encodeChar_ascii small,
      toNat_charOf, UInt8.ofNat_toNat]
    exact congrArg _ (ih fun b member => ascii b (List.mem_cons_of_mem _ member))

/-! ## Octets as characters -/

/-- All octets of a character that is not ASCII are above those of ASCII. -/
theorem le_toNat_of_mem_encodeChar {c : Char} (other : 0x80 ≤ c.toNat) :
    ∀ b ∈ String.utf8EncodeChar c, 0x80 ≤ b.toNat := by
  have valid : c.toNat < 0xD800 ∨ 0xDFFF < c.toNat ∧ c.toNat < 0x110000 := c.valid
  rw [Decoder.encodeChar_eq, if_neg (by omega)]
  intro b member
  have lead (n : Nat) (octet : n < 256) (high : 0x80 ≤ n) : 0x80 ≤ (UInt8.ofNat n).toNat := by
    rwa [Decoder.toNat_ofNat octet]
  have tail (n : Nat) : 0x80 ≤ (Decoder.tail n).toNat := by
    rw [Decoder.toNat_tail]
    omega
  split at member
  · simp only [List.mem_cons, List.not_mem_nil, or_false] at member
    rcases member with rfl | rfl
    · exact lead _ (by omega) (by omega)
    · exact tail _
  split at member
  · simp only [List.mem_cons, List.not_mem_nil, or_false] at member
    rcases member with rfl | rfl | rfl
    · exact lead _ (by omega) (by omega)
    all_goals exact tail _
  · simp only [List.mem_cons, List.not_mem_nil, or_false] at member
    rcases member with rfl | rfl | rfl | rfl
    · exact lead _ (by omega) (by omega)
    all_goals exact tail _

/-- The octets of a text, each as the character whose code it is. -/
def codes (cs : List Char) : List Char :=
  (encode cs).map charOf

theorem codes_append (cs ds : List Char) : codes (cs ++ ds) = codes cs ++ codes ds := by
  rw [codes, encode_append, List.map_append]
  rfl

theorem codes_of_ascii {cs : List Char} (ascii : ∀ c ∈ cs, c.toNat < 0x80) : codes cs = cs :=
  map_charOf_encode ascii

theorem codes_cons {c : Char} (ascii : c.toNat < 0x80) (cs : List Char) :
    codes (c :: cs) = c :: codes cs := by
  rw [← List.singleton_append, codes_append, codes_of_ascii (by simpa using ascii)]
  rfl

theorem codes_intercalate (separator : List Char) (texts : List (List Char)) :
    codes (separator.intercalate texts) = (codes separator).intercalate (texts.map codes) := by
  induction texts with
  | nil => rfl
  | cons text texts ih =>
    cases texts with
    | nil => simp
    | cons next texts =>
      rw [List.intercalate_cons_cons, codes_append, codes_append, ih]
      simp [List.intercalate_cons_cons]

end HardwareIndex.Text.Utf8
