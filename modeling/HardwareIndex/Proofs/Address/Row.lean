import HardwareIndex.Address.Layout
import HardwareIndex.Proofs.Text.Utf8

/-!
# Rows of digit groups

What it means that a text is a row: two digits of either case to an octet, in
groups of equal width, with one separator between the groups. The grammar is
inductive and knows nothing of positions. A layout reads by positions alone; the
main statement is that it reads a text of whole groups as the octets of the row
that the text is.
-/

namespace HardwareIndex

namespace Text.Hex

/-- A character is a digit of a value, in either case. -/
def IsDigit (c : Char) (value : Nat) : Prop :=
  value < 16 ∧ (c = digit value ∨ c = upperDigit value)

/-- The characters that have a value are its digits. -/
theorem value?_eq_some_iff {c : Char} {v : Nat} : value? c.toNat = some v ↔ IsDigit c v := by
  constructor
  · intro read
    refine ⟨value?_lt read, ?_⟩
    have code : Char.ofNat c.toNat = c := Char.ofNat_toNat c
    rw [← code]
    unfold value? at read
    unfold digit upperDigit
    split at read
    · rename_i decimal
      cases read
      left
      rw [if_pos (by omega)]
      congr 1
      omega
    split at read
    · cases read
      left
      rw [if_neg (by omega)]
      congr 1
      omega
    split at read
    · cases read
      right
      rw [if_neg (by omega)]
      congr 1
      omega
    · cases read
  · rintro ⟨small, rfl | rfl⟩
    · exact value?_digit v small
    · exact value?_upperDigit v small

/-- Digits are ASCII characters. -/
theorem IsDigit.ascii {c : Char} {v : Nat} (h : IsDigit c v) : c.toNat < 0x80 := by
  have read := value?_eq_some_iff.2 h
  unfold value? at read
  grind

end Text.Hex

namespace Mac

open Text.Hex (IsDigit)
open Text.Utf8 (charOf toNat_charOf)

/-! ## The grammar -/

/-- A text of two digits to each octet, without separators. -/
inductive Spells : List UInt8 → List Char → Prop
  | nil : Spells [] []
  | cons {high low : Char} {h l : Nat} {octets : List UInt8} {text : List Char} :
      IsDigit high h → IsDigit low l → Spells octets text →
      Spells (UInt8.ofNat (16 * h + l) :: octets) (high :: low :: text)

/-- A text of groups of a number of octets with a separator between them. -/
inductive Row (separator : Char) (perGroup : Nat) : List UInt8 → List Char → Prop
  | one {octets : List UInt8} {text : List Char} : octets.length = perGroup →
      Spells octets text → Row separator perGroup octets text
  | cons {octets rest : List UInt8} {text more : List Char} : octets.length = perGroup →
      Spells octets text → Row separator perGroup rest more →
      Row separator perGroup (octets ++ rest) (text ++ separator :: more)

/-- The ways to write an address. -/
inductive Style where
  | colon
  | hyphen
  | dot
  deriving DecidableEq, Repr

namespace Style

/-- What stands between groups. -/
def separator : Style → Char
  | colon => ':'
  | hyphen => '-'
  | dot => '.'

/-- Number of octets to a group. -/
def perGroup : Style → Nat
  | colon => 1
  | hyphen => 1
  | dot => 2

/-- A text writes octets in a style. -/
def Writes (style : Style) (octets : List UInt8) (text : List Char) : Prop :=
  Row style.separator style.perGroup octets text

/-- Numbers of octets that may be written in a style: a partial address has no dots. -/
def Admits (style : Style) (n : Nat) : Prop :=
  match style with
  | colon | hyphen => 1 ≤ n ∧ n ≤ maxLen
  | dot => isWidth n = true

end Style

/-! ## Shape of a row -/

theorem Spells.length {octets : List UInt8} {text : List Char} (h : Spells octets text) :
    text.length = 2 * octets.length := by
  induction h with
  | nil => rfl
  | cons high low rest ih =>
    simp only [List.length_cons, ih]
    omega

/-- The two digits of an octet, and those of the octets after it, spell them. -/
theorem Spells.cons_octetText (b : UInt8) {octets : List UInt8} {text : List Char}
    (h : Spells octets text) : Spells (b :: octets) (Text.Hex.octetText b ++ text) := by
  have octet := b.toNat_lt
  have value : UInt8.ofNat (16 * (b.toNat / 16) + b.toNat % 16) = b := by
    rw [Nat.div_add_mod, UInt8.ofNat_toNat]
  have both := Spells.cons (h := b.toNat / 16) (l := b.toNat % 16) ⟨by omega, Or.inl rfl⟩
    ⟨by omega, Or.inl rfl⟩ h
  rwa [value] at both

/-- Any octets can be spelled. -/
theorem exists_spells (octets : List UInt8) : ∃ text, Spells octets text := by
  induction octets with
  | nil => exact ⟨[], .nil⟩
  | cons b octets ih =>
    obtain ⟨text, spells⟩ := ih
    exact ⟨_, spells.cons_octetText b⟩

theorem Spells.isDigit {octets : List UInt8} {text : List Char} (h : Spells octets text) :
    ∀ c ∈ text, ∃ v, IsDigit c v := by
  induction h with
  | nil => nofun
  | cons high low rest ih =>
    intro c member
    rcases List.mem_cons.1 member with rfl | member
    · exact ⟨_, high⟩
    rcases List.mem_cons.1 member with rfl | member
    · exact ⟨_, low⟩
    · exact ih c member

variable {separator : Char} {perGroup : Nat} {octets : List UInt8} {text : List Char}

/-- A row has no characters but digits and its separator. -/
theorem Row.mem (h : Row separator perGroup octets text) :
    ∀ c ∈ text, c = separator ∨ ∃ v, IsDigit c v := by
  induction h with
  | one width spells => exact fun c member => Or.inr (spells.isDigit c member)
  | cons width spells rest ih =>
    intro c member
    rcases List.mem_append.1 member with first | member
    · exact Or.inr (spells.isDigit c first)
    rcases List.mem_cons.1 member with rfl | later
    · exact Or.inl rfl
    · exact ih c later

theorem Row.ascii (plain : separator.toNat < 0x80) (h : Row separator perGroup octets text) :
    ∀ c ∈ text, c.toNat < 0x80 := by
  intro c member
  rcases h.mem c member with rfl | ⟨v, digit⟩
  · exact plain
  · exact digit.ascii

/-- A row has a whole number of groups, and a separator less than groups. -/
theorem Row.length (h : Row separator perGroup octets text) :
    ∃ n, octets.length = perGroup * (n + 1) ∧ text.length + 1 = (2 * perGroup + 1) * (n + 1) := by
  induction h with
  | one width spells => exact ⟨0, by simp [width], by simp [spells.length, width]⟩
  | cons width spells rest ih =>
    obtain ⟨n, octets', text'⟩ := ih
    refine ⟨n + 1, ?_, ?_⟩
    · rw [List.length_append, width, octets', Nat.mul_add perGroup (n + 1) 1]
      omega
    · rw [List.length_append, List.length_cons, spells.length, width,
        Nat.mul_add (2 * perGroup + 1) (n + 1) 1]
      omega

/-- A text as long as one group is a row exactly if it spells the octets. -/
theorem row_iff_spells (width : text.length = 2 * perGroup) :
    Row separator perGroup octets text ↔ Spells octets text := by
  constructor
  · rintro (⟨_, spells⟩ | ⟨width', spells, rest⟩)
    · exact spells
    · rw [List.length_append, List.length_cons, spells.length, width'] at width
      omega
  · intro spells
    have length := spells.length
    exact .one (by omega) spells

/-- A text that goes on after one group is a row exactly if the separator and a row follow. -/
theorem row_append_iff {group rest : List Char} {c : Char} (width : group.length = 2 * perGroup) :
    Row separator perGroup octets (group ++ c :: rest) ↔
      c = separator ∧ ∃ first later, octets = first ++ later ∧ Spells first group ∧
        Row separator perGroup later rest := by
  constructor
  · intro row
    generalize split : group ++ c :: rest = text at row
    cases row with
    | one width' spells =>
      have length := spells.length
      rw [← split, List.length_append, List.length_cons] at length
      omega
    | cons width' spells row =>
      have length := spells.length
      obtain ⟨rfl, tails⟩ := List.append_inj split (by omega)
      obtain ⟨rfl, rfl⟩ := List.cons.inj tails
      exact ⟨rfl, _, _, rfl, spells, row⟩
  · rintro ⟨rfl, first, later, rfl, spells, row⟩
    have length := spells.length
    exact .cons (by omega) spells row

/-- A row of several groups begins with the digits of one and the separator. -/
theorem Row.exists_first_group (h : Row separator perGroup octets text)
    (several : perGroup < octets.length) :
    ∃ group rest, text = group ++ separator :: rest ∧ group.length = 2 * perGroup ∧
      ∀ c ∈ group, ∃ v, IsDigit c v := by
  cases h with
  | one width spells => omega
  | cons width spells row =>
    refine ⟨_, _, rfl, ?_, spells.isDigit⟩
    rw [spells.length, width]

/-! ## Reading by positions -/

theorem octet?_eq_some_iff {high low b : UInt8} : Text.Hex.octet? high low = some b ↔
    ∃ h l, IsDigit (charOf high) h ∧ IsDigit (charOf low) l ∧ UInt8.ofNat (16 * h + l) = b := by
  simp only [← Text.Hex.value?_eq_some_iff, toNat_charOf, Text.Hex.octet?]
  cases Text.Hex.value? high.toNat <;> cases Text.Hex.value? low.toNat <;> simp

/-- The octet whose digits stand at a position. -/
def octetAt? (codes : List UInt8) (p : Nat) : Option UInt8 :=
  match codes[p]?, codes[p + 1]? with
  | some high, some low => Text.Hex.octet? high low
  | _, _ => none

theorem octetAt?_append_left {codes more : List UInt8} {p : Nat} (inside : p + 1 < codes.length) :
    octetAt? (codes ++ more) p = octetAt? codes p := by
  simp only [octetAt?, List.getElem?_append_left inside,
    List.getElem?_append_left (Nat.lt_of_succ_lt inside)]

/-- Octet after octet is read exactly if the text spells them. -/
theorem map_octetAt?_eq_iff {k : Nat} {codes octets : List UInt8} (width : codes.length = 2 * k) :
    (List.range k).map (fun i => octetAt? codes (2 * i)) = octets.map some ↔
      Spells octets (codes.map charOf) := by
  induction k generalizing codes octets with
  | zero =>
    have empty : codes = [] := List.length_eq_zero_iff.1 width
    subst empty
    constructor
    · intro read
      obtain rfl : octets = [] := List.map_eq_nil_iff.1 read.symm
      exact .nil
    · intro spells
      cases spells
      rfl
  | succ k ih =>
    obtain ⟨high, low, rest, rfl⟩ : ∃ high low rest, codes = high :: low :: rest := by
      match codes, width with
      | high :: low :: rest, _ => exact ⟨high, low, rest, rfl⟩
    have first : octetAt? (high :: low :: rest) (2 * 0) = Text.Hex.octet? high low := rfl
    have others : ∀ i, octetAt? (high :: low :: rest) (2 * (i + 1)) = octetAt? rest (2 * i) :=
      fun _ => rfl
    have width' : rest.length = 2 * k := by
      simp only [List.length_cons] at width
      omega
    rw [List.range_succ_eq_map, List.map_cons, List.map_map, first]
    simp only [Function.comp_def, Nat.succ_eq_add_one, others]
    cases octets with
    | nil =>
      refine iff_of_false nofun ?_
      nofun
    | cons b octets =>
      rw [List.map_cons, List.cons.injEq, octet?_eq_some_iff, ih width']
      constructor
      · rintro ⟨⟨h, l, isHigh, isLow, rfl⟩, spells⟩
        exact .cons isHigh isLow spells
      · rintro (_ | ⟨isHigh, isLow, spells⟩)
        exact ⟨⟨_, _, isHigh, isLow, rfl⟩, spells⟩

end Mac

namespace Layout

theorem read?_eq_some_iff {l : Layout} {codes octets : List UInt8} :
    l.read? codes = some octets ↔
      l.separated codes = true ∧ (List.range l.count).map (l.octet? codes) = octets.map some := by
  have read : ∀ (positions : List Nat) (octets : List UInt8),
      positions.mapM (l.octet? codes) = some octets ↔
        positions.map (l.octet? codes) = octets.map some := by
    intro positions
    induction positions with
    | nil => simp
    | cons p positions ih =>
      intro octets
      cases here : l.octet? codes p with
      | none => cases octets <;> simp [here]
      | some b =>
        cases octets with
        | nil => simp [here, Option.bind_eq_some_iff]
        | cons b' octets =>
          simp only [List.mapM_cons, here, bind, Option.bind_some, Option.bind_eq_some_iff, ih,
            pure, Option.some.injEq, List.cons.injEq, List.map_cons]
          constructor
          · rintro ⟨_, read, rfl, rfl⟩
            exact ⟨rfl, read⟩
          · rintro ⟨rfl, read⟩
            exact ⟨octets, read, rfl, rfl⟩
  rw [Layout.read?]
  split
  · rename_i separated
    simp [separated, read]
  · rename_i unseparated
    simp [unseparated]

/-! ## Reading a row -/

section Row

variable {perGroup n : Nat} {separator code : UInt8} {group rest octets : List UInt8}

/-- What follows the first group and its separator stands a stride further on. -/
theorem getElem?_past_group (width : group.length = 2 * perGroup) (p : Nat) :
    (group ++ code :: rest)[2 * perGroup + 1 + p]? = rest[p]? := by
  rw [List.getElem?_append_right (by omega), width, Nat.add_assoc, Nat.add_sub_cancel_left,
    Nat.add_comm 1 p, List.getElem?_cons_succ]

theorem separated_append (width : group.length = 2 * perGroup) :
    separated ⟨2 * perGroup + 1, perGroup, n + 2, separator⟩ (group ++ code :: rest) =
      (code == separator && separated ⟨2 * perGroup + 1, perGroup, n + 1, separator⟩ rest) := by
  have here : (group ++ code :: rest)[2 * perGroup]? = some code := by
    simp [← width]
  have later : ∀ g, (group ++ code :: rest)[(2 * perGroup + 1) * (g + 1) + 2 * perGroup]? =
      rest[(2 * perGroup + 1) * g + 2 * perGroup]? := by
    intro g
    have further : (2 * perGroup + 1) * (g + 1) + 2 * perGroup =
        2 * perGroup + 1 + ((2 * perGroup + 1) * g + 2 * perGroup) := by
      rw [Nat.mul_add_one]
      omega
    rw [further, getElem?_past_group width]
  simp only [separated, separatorPos, Nat.add_sub_cancel, Nat.reduceSubDiff,
    List.range_succ_eq_map, List.all_cons, List.all_map, Function.comp_def, Nat.mul_zero,
    Nat.zero_add, here, Nat.succ_eq_add_one, later]
  rfl

theorem octet?_append_left (width : group.length = 2 * perGroup) {i : Nat} (inside : i < perGroup) :
    octet? ⟨2 * perGroup + 1, perGroup, n, separator⟩ (group ++ rest) i =
      Mac.octetAt? group (2 * i) := by
  have position : digitPos ⟨2 * perGroup + 1, perGroup, n, separator⟩ i = 2 * i := by
    simp [digitPos, Nat.div_eq_of_lt inside, Nat.mod_eq_of_lt inside]
  have read : Mac.octetAt? (group ++ rest) (2 * i) = Mac.octetAt? group (2 * i) :=
    Mac.octetAt?_append_left (by omega)
  rw [← read, ← position]
  rfl

theorem octet?_append_right (width : group.length = 2 * perGroup) (some_octet : 0 < perGroup)
    (n' i : Nat) :
    octet? ⟨2 * perGroup + 1, perGroup, n, separator⟩ (group ++ code :: rest) (perGroup + i) =
      octet? ⟨2 * perGroup + 1, perGroup, n', separator⟩ rest i := by
  have position : digitPos ⟨2 * perGroup + 1, perGroup, n, separator⟩ (perGroup + i) =
      2 * perGroup + 1 + digitPos ⟨2 * perGroup + 1, perGroup, n', separator⟩ i := by
    simp only [digitPos, Nat.add_div_left i some_octet, Nat.add_mod_left, Nat.mul_add_one]
    omega
  simp only [octet?, position, Nat.add_assoc _ (digitPos _ _) 1, getElem?_past_group width]

/-- One group is read as the octets that it spells. -/
theorem read?_one_eq_some_iff (width : group.length = 2 * perGroup) :
    read? ⟨2 * perGroup + 1, perGroup, 1, separator⟩ group = some octets ↔
      Mac.Spells octets (group.map Text.Utf8.charOf) := by
  rw [read?_eq_some_iff, ← Mac.map_octetAt?_eq_iff width]
  have read : (List.range perGroup).map (octet? ⟨2 * perGroup + 1, perGroup, 1, separator⟩ group) =
      (List.range perGroup).map fun i => Mac.octetAt? group (2 * i) := by
    apply List.map_congr_left
    intro i member
    have here : octet? ⟨2 * perGroup + 1, perGroup, 1, separator⟩ (group ++ []) i =
        Mac.octetAt? group (2 * i) := octet?_append_left width (List.mem_range.1 member)
    rwa [List.append_nil] at here
  simp [separated, count, read]

/-- Several groups are read as the octets of the first and those of the others, if the separator
    stands between. -/
theorem read?_append_eq_some_iff (width : group.length = 2 * perGroup)
    (some_octet : 0 < perGroup) :
    read? ⟨2 * perGroup + 1, perGroup, n + 2, separator⟩ (group ++ code :: rest) = some octets ↔
      code = separator ∧ ∃ first later, octets = first ++ later ∧
        Mac.Spells first (group.map Text.Utf8.charOf) ∧
        read? ⟨2 * perGroup + 1, perGroup, n + 1, separator⟩ rest = some later := by
  have first : (List.range perGroup).map (octet? ⟨2 * perGroup + 1, perGroup, n + 2, separator⟩
      (group ++ code :: rest)) = (List.range perGroup).map fun i => Mac.octetAt? group (2 * i) :=
    List.map_congr_left fun i member => octet?_append_left width (List.mem_range.1 member)
  have later : ∀ m, (List.range m).map (octet? ⟨2 * perGroup + 1, perGroup, n + 2, separator⟩
      (group ++ code :: rest) ∘ fun i => perGroup + i) =
      (List.range m).map (octet? ⟨2 * perGroup + 1, perGroup, n + 1, separator⟩ rest) :=
    fun m => List.map_congr_left fun i _ => octet?_append_right width some_octet (n + 1) i
  have total : (n + 2) * perGroup = perGroup + (n + 1) * perGroup := by
    rw [Nat.add_mul, Nat.add_mul]
    omega
  simp only [read?_eq_some_iff, separated_append width, count, total, List.range_add,
    List.map_append, List.map_map, first, later, Bool.and_eq_true, beq_iff_eq]
  constructor
  · rintro ⟨⟨same, separated⟩, read⟩
    obtain ⟨firsts, others, rfl, readFirst, readOthers⟩ := List.map_eq_append_iff.1 read.symm
    exact ⟨same, firsts, others, rfl, (Mac.map_octetAt?_eq_iff width).1 readFirst.symm, separated,
      readOthers.symm⟩
  · rintro ⟨same, firsts, others, rfl, spells, separated, readOthers⟩
    refine ⟨⟨same, separated⟩, ?_⟩
    rw [List.map_append, (Mac.map_octetAt?_eq_iff width).2 spells, readOthers]

/-- A text of several whole groups is the first one, its separator and whole groups again. -/
theorem exists_first_group {codes : List UInt8}
    (size : codes.length + 1 = (2 * perGroup + 1) * (n + 2)) :
    ∃ group code rest, group.length = 2 * perGroup ∧
      rest.length + 1 = (2 * perGroup + 1) * (n + 1) ∧ codes = group ++ code :: rest := by
  rw [Nat.mul_add_one] at size
  have long : 2 * perGroup < codes.length := by
    rw [Nat.mul_add_one] at size
    omega
  refine ⟨codes.take (2 * perGroup), codes[2 * perGroup], codes.drop (2 * perGroup + 1), ?_, ?_, ?_⟩
  · rw [List.length_take]
    omega
  · rw [List.length_drop]
    omega
  · rw [List.getElem_cons_drop, List.take_append_drop]

/-- A text of whole groups is read as the octets of the row that it is. -/
theorem read?_eq_some_iff_row {codes : List UInt8} (some_octet : 0 < perGroup)
    (size : codes.length + 1 = (2 * perGroup + 1) * (n + 1)) :
    read? ⟨2 * perGroup + 1, perGroup, n + 1, separator⟩ codes = some octets ↔
      Mac.Row (Text.Utf8.charOf separator) perGroup octets (codes.map Text.Utf8.charOf) := by
  induction n generalizing codes octets with
  | zero =>
    have width : codes.length = 2 * perGroup := by omega
    rw [read?_one_eq_some_iff width, Mac.row_iff_spells (by rwa [List.length_map])]
  | succ n ih =>
    obtain ⟨group, code, rest, width, size', rfl⟩ := exists_first_group size
    rw [read?_append_eq_some_iff width some_octet, List.map_append, List.map_cons,
      Mac.row_append_iff (by rwa [List.length_map]), Text.Utf8.charOf_inj]
    simp only [ih size']

end Row

end Layout

end HardwareIndex
