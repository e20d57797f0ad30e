import Mathlib.Tactic.IntervalCases
import HardwareIndex.Json.Skipping
import HardwareIndex.Proofs.Json.Strings
import HardwareIndex.Proofs.Text.Decimal
import HardwareIndex.Proofs.Text.Utf8

/-!
# Skipping what is written of a value

The octets of the compact text of a value are skipped, whatever the value holds and
however deep it is nested; and those of a string are read as the string, if it is
asked for. Where the value ends is told by what follows it: a comma or a closing
bracket.
-/

namespace HardwareIndex

namespace Json

open Text.Utf8 (codes)

namespace Reader

variable {rest : List Char}

/-! ## Strings -/

/-- Characters that are neither marks nor controls are skipped. -/
theorem skipString?_append {cs : List Char}
    (plain : ∀ c ∈ cs, 32 ≤ c.toNat ∧ c ≠ '"' ∧ c ≠ '\\') :
    skipString? (cs ++ rest) = skipString? rest := by
  induction cs with
  | nil => rfl
  | cons c cs ih =>
    obtain ⟨printed, quote, backslash⟩ := plain c List.mem_cons_self
    rw [List.cons_append, skipString?, if_neg (by omega)]
    · exact ih fun c member => plain c (List.mem_cons_of_mem _ member)
    · exact quote
    · exact backslash

/-- The four digits of an escape are skipped. -/
theorem skipDigits?_fixed (n : Nat) :
    skipDigits? 3 (Text.Hex.fixed 4 n ++ rest) = skipString? rest := by
  have digit (m : Nat) : (Text.Hex.value? (Text.Hex.digit (m % 16)).toNat).isNone = false := by
    rw [Text.Hex.value?_digit (m % 16) (Nat.mod_lt m (by decide))]
    rfl
  simp [Text.Hex.fixed_four, skipDigits?, digit]

theorem toNat_lt_of_mem_fixed {n : Nat} : ∀ c ∈ Text.Hex.fixed 4 n, c.toNat < 0x80 := by
  have ascii : ∀ m < 16, (Text.Hex.digit m).toNat < 0x80 := by decide
  intro c member
  obtain ⟨i, _, rfl⟩ := List.mem_map.1 member
  exact ascii _ (Nat.mod_lt _ (by decide))

/-- What is written of a character is skipped. -/
theorem skipString?_escape (c : Char) :
    skipString? (codes (escape c) ++ rest) = skipString? rest := by
  unfold escape
  split <;> try rfl
  rename_i quote backslash _ _ _ _ _
  split
  · rw [Text.Utf8.codes_append, Text.Utf8.codes_of_ascii toNat_lt_of_mem_fixed, List.append_assoc]
    exact skipDigits?_fixed c.toNat
  · rename_i printed
    apply skipString?_append
    by_cases ascii : c.toNat < 0x80
    · rw [Text.Utf8.codes_of_ascii (by simpa using ascii)]
      intro d member
      rw [List.mem_singleton.1 member]
      exact ⟨Nat.not_lt.1 printed, quote, backslash⟩
    · intro d member
      obtain ⟨b, octet, rfl⟩ := List.mem_map.1 member
      have high : 0x80 ≤ (Text.Utf8.charOf b).toNat := by
        rw [Text.Utf8.toNat_charOf]
        apply Text.Utf8.le_toNat_of_mem_encodeChar (Nat.not_lt.1 ascii)
        simpa [Text.Utf8.encode] using octet
      have apart {mark : Char} (low : mark.toNat < 0x80) : Text.Utf8.charOf b ≠ mark := by
        rintro rfl
        exact absurd low (Nat.not_lt.2 high)
      exact ⟨by omega, apart (by decide), apart (by decide)⟩

theorem skipString?_flatMap (cs : List Char) :
    skipString? (codes (cs.flatMap escape) ++ '"' :: rest) = some rest := by
  induction cs with
  | nil => rfl
  | cons c cs ih =>
    rw [List.flatMap_cons, Text.Utf8.codes_append, List.append_assoc, skipString?_escape, ih]

/-- A string is read from the octets of what is written of it. -/
theorem utf8?_flatMap (cs : List Char) :
    utf8? (codes (cs.flatMap escape) ++ '"' :: rest) = some (String.ofList cs, rest) := by
  let written := cs.flatMap escape ++ ['"']
  have split : codes (cs.flatMap escape) ++ '"' :: rest = codes written ++ rest := by
    rw [Text.Utf8.codes_append, List.append_assoc]
    rfl
  have octets : (((codes written ++ rest).take
      ((codes written ++ rest).length - rest.length)).map fun c => UInt8.ofNat c.toNat) =
        Text.Utf8.encode written := by
    rw [List.length_append, Nat.add_sub_cancel, List.take_left, codes, List.map_map]
    refine (List.map_congr_left fun b _ => ?_).trans (List.map_id _)
    simp [Text.Utf8.toNat_charOf]
  have read : string? written.length [] written = some (String.ofList cs, []) := by
    have enough : (cs.flatMap escape).length < written.length := by simp [written]
    rw [string?_flatMap cs enough]
    rfl
  have skipped : skipString? (codes written ++ rest) = some rest := by
    rw [← split, skipString?_flatMap]
  rw [split]
  simp only [utf8?, skipped, octets, Text.Utf8.decode?_encode, read, Option.bind_eq_bind,
    Option.bind_some]
  rfl

/-! ## Numbers -/

/-- What follows a value within another one: a comma or a closing bracket. -/
def Closes (rest : List Char) : Prop :=
  ∃ (c : Char) (cs : List Char), rest = c :: cs ∧ (c = ',' ∨ c = ']' ∨ c = '\x7d')

/-- The digits of a number start with another one than zero, unless it is zero. -/
theorem exists_head_toDigits {n : Nat} (positive : 0 < n) :
    ∃ (c : Char) (cs : List Char), Nat.toDigits 10 n = c :: cs ∧ c ≠ '0' := by
  induction n using Nat.strongRecOn with
  | ind n ih =>
    rcases Nat.lt_or_ge n 10 with small | large
    · rw [Nat.toDigits_of_lt_base small]
      have digits : ∀ d < 10, 0 < d → Nat.digitChar d ≠ '0' := by decide
      exact ⟨_, _, rfl, digits n small positive⟩
    · obtain ⟨c, cs, written, nonzero⟩ := ih (n / 10) (by omega) (by omega)
      rw [Nat.toDigits_of_base_le (by decide) large, written]
      exact ⟨c, _, rfl, nonzero⟩

theorem whole?_toDigits (n : Nat) (closes : Closes rest) :
    whole? (Nat.toDigits 10 n ++ rest) = some (Nat.toDigits 10 n, rest) := by
  rcases Nat.eq_zero_or_pos n with rfl | positive
  · rfl
  · have digits := (Text.Decimal.digits_toDigits n).isDigit
    have stops : rest.takeWhile Text.Decimal.isDigit = [] ∧
        rest.dropWhile Text.Decimal.isDigit = rest := by
      obtain ⟨c, cs, rfl, rfl | rfl | rfl⟩ := closes <;> exact ⟨rfl, rfl⟩
    have run : digits? (Nat.toDigits 10 n ++ rest) = some (Nat.toDigits 10 n, rest) := by
      simp only [digits?]
      rw [List.takeWhile_append_of_pos digits, List.dropWhile_append_of_pos digits, stops.1,
        stops.2, List.append_nil, if_neg]
      simp
    obtain ⟨c, cs, written, nonzero⟩ := exists_head_toDigits positive
    rw [written] at run ⊢
    rw [List.cons_append, whole?]
    · exact run
    · rintro rest' same
      cases same
      exact nonzero rfl

theorem magnitude?_toDigits (negative : Bool) (n : Nat) (closes : Closes rest) :
    (magnitude? negative (Nat.toDigits 10 n ++ rest)).map Prod.snd = some rest := by
  have fraction : fraction? rest = some ([], rest) := by
    obtain ⟨c, cs, rfl, rfl | rfl | rfl⟩ := closes <;> rfl
  have exponent : exponent? rest = some ([], rest) := by
    obtain ⟨c, cs, rfl, rfl | rfl | rfl⟩ := closes <;> rfl
  simp only [magnitude?, whole?_toDigits n closes, fraction, exponent, Option.bind_eq_bind,
    Option.bind_some]
  split <;> rfl

/-- A value that starts with a digit or a sign is skipped as a number. -/
theorem skipValue?_number {fuel : Nat} {c : Char} {cs : List Char}
    (starts : c = '-' ∨ Text.Decimal.isDigit c = true) :
    skipValue? (fuel + 1) (c :: cs) = (number? (c :: cs)).map Prod.snd := by
  rcases starts with rfl | digit
  · rfl
  · obtain ⟨d, small, rfl⟩ := Text.Decimal.isDigit_iff.1 digit
    interval_cases d <;> rfl

theorem toList_toString_int (n : Int) :
    (toString n).toList = (if n < 0 then ['-'] else []) ++ Nat.toDigits 10 n.natAbs := by
  cases n with
  | ofNat m =>
    have unsigned : ¬Int.ofNat m < 0 := Int.not_lt.2 (Int.natCast_nonneg m)
    rw [if_neg unsigned, List.nil_append]
    show (Nat.repr m).toList = Nat.toDigits 10 m
    rw [Nat.repr_eq_ofList_toDigits, String.toList_ofList]
  | negSucc m =>
    rw [if_pos (Int.negSucc_lt_zero m)]
    show ("-" ++ Nat.repr (m + 1)).toList = ['-'] ++ Nat.toDigits 10 (m + 1)
    rw [String.toList_append, Nat.repr_eq_ofList_toDigits]
    exact congrArg ('-' :: ·) String.toList_ofList

theorem skipValue?_int {fuel : Nat} (n : Int) (closes : Closes rest) :
    skipValue? (fuel + 1) ((toString n).toList ++ rest) = some rest := by
  have digits := (Text.Decimal.digits_toDigits n.natAbs).isDigit
  rw [toList_toString_int]
  split
  · exact (skipValue?_number (.inl rfl)).trans (magnitude?_toDigits true n.natAbs closes)
  · obtain ⟨c, cs, written⟩ := List.exists_cons_of_ne_nil
      (Text.Decimal.digits_toDigits n.natAbs).ne_nil
    have digit := digits c (by rw [written]; exact List.mem_cons_self)
    have unsigned : number? (c :: (cs ++ rest)) = magnitude? false (c :: (cs ++ rest)) := by
      rw [number?]
      rintro rest' same
      cases same
      cases digit
    have magnitude := magnitude?_toDigits false n.natAbs closes
    rw [written, List.cons_append, ← unsigned] at magnitude
    rw [List.nil_append, written]
    exact (skipValue?_number (.inr digit)).trans magnitude

end Reader

/-! ## Values -/

/-- All numbers in a value are integers. -/
inductive Integral : Json → Prop
  | null : Integral .null
  | bool (b : Bool) : Integral (.bool b)
  | int (n : Int) : Integral (.int n)
  | str (s : String) : Integral (.str s)
  | arr (items : List Json) : (∀ item ∈ items, Integral item) → Integral (.arr items)
  | obj (members : List (String × Json)) : (∀ m ∈ members, Integral m.2) → Integral (.obj members)

/-- The octets of what is written of a value. -/
def written (j : Json) : List Char :=
  codes j.compact.toList

/-- The octets of what is written of a member. -/
def memberWritten (m : String × Json) : List Char :=
  '"' :: (codes (m.1.toList.flatMap escape) ++ '"' :: ':' :: m.2.written)

theorem codes_toList_stringText (s : String) :
    codes (stringText s).toList = '"' :: (codes (s.toList.flatMap escape) ++ ['"']) := by
  rw [stringText, String.toList_ofList, ← List.singleton_append, Text.Utf8.codes_append,
    Text.Utf8.codes_append]
  rfl

theorem written_str (s : String) :
    (Json.str s).written = '"' :: (codes (s.toList.flatMap escape) ++ ['"']) :=
  codes_toList_stringText s

theorem written_arr (items : List Json) :
    (Json.arr items).written = '[' :: ([','].intercalate (items.map written) ++ [']']) := by
  have texts : (compactItems items).map String.toList = items.map (·.compact.toList) := by
    induction items with
    | nil => rfl
    | cons item rest ih => rw [compactItems, List.map_cons, ih, List.map_cons]
  rw [written, compact, String.toList_append, String.toList_append, String.toList_intercalate,
    texts, Text.Utf8.codes_append, Text.Utf8.codes_append, Text.Utf8.codes_intercalate,
    List.map_map]
  rfl

theorem written_obj (members : List (String × Json)) :
    (Json.obj members).written =
      '\x7b' :: ([','].intercalate (members.map memberWritten) ++ ['\x7d']) := by
  have texts : ((compactMembers members).map String.toList).map codes =
      members.map memberWritten := by
    induction members with
    | nil => rfl
    | cons m rest ih =>
      rw [compactMembers, List.map_cons, List.map_cons, ih, List.map_cons, memberWritten]
      have colon : codes (':' :: m.2.compact.toList) = ':' :: codes m.2.compact.toList :=
        Text.Utf8.codes_cons (by decide) _
      simp [Text.Utf8.codes_append, codes_toList_stringText, written, colon]
  rw [written, compact, String.toList_append, String.toList_append, String.toList_intercalate,
    Text.Utf8.codes_append, Text.Utf8.codes_append, Text.Utf8.codes_intercalate, texts]
  rfl

theorem written_int (n : Int) :
    (Json.int n).written = (if n < 0 then ['-'] else []) ++ Nat.toDigits 10 n.natAbs := by
  have digits : ∀ d < 10, (Nat.digitChar d).toNat < 0x80 := by decide
  have ascii : ∀ c ∈ (if n < 0 then ['-'] else []) ++ Nat.toDigits 10 n.natAbs,
      c.toNat < 0x80 := by
    intro c member
    rcases List.mem_append.1 member with sign | digit
    · split at sign
      · rw [List.mem_singleton.1 sign]
        decide
      · cases sign
    · obtain ⟨d, small, rfl⟩ :=
        Text.Decimal.isDigit_iff.1 ((Text.Decimal.digits_toDigits n.natAbs).isDigit c digit)
      exact digits d small
  rw [written, compact, Reader.toList_toString_int, Text.Utf8.codes_of_ascii ascii]

/-- What is written of a value starts with neither a blank nor a bracket that closes an array. -/
theorem Integral.exists_head {j : Json} (h : Integral j) :
    ∃ (c : Char) (cs : List Char), j.written = c :: cs ∧ Reader.isBlank c = false ∧ c ≠ ']' := by
  cases h with
  | null => exact ⟨_, _, rfl, rfl, by decide⟩
  | bool b => cases b <;> exact ⟨_, _, rfl, rfl, by decide⟩
  | int n =>
    rw [written_int]
    split
    · exact ⟨_, _, rfl, rfl, by decide⟩
    · have digits := Text.Decimal.digits_toDigits n.natAbs
      obtain ⟨c, cs, run⟩ := List.exists_cons_of_ne_nil digits.ne_nil
      obtain ⟨d, small, rfl⟩ := Text.Decimal.isDigit_iff.1
        (digits.isDigit c (by rw [run]; exact List.mem_cons_self))
      have all : ∀ d < 10, Reader.isBlank (Nat.digitChar d) = false ∧ Nat.digitChar d ≠ ']' := by
        decide
      exact ⟨_, cs, run, all d small⟩
  | str s => exact ⟨_, _, written_str s, rfl, by decide⟩
  | arr items => exact ⟨_, _, written_arr items, rfl, by decide⟩
  | obj members => exact ⟨_, _, written_obj members, rfl, by decide⟩

namespace Reader

variable {rest : List Char} {fuel : Nat}

/-- A text is skipped as a value, as long as what follows it closes the value. -/
def Skips (frame : Frame) (text : List Char) : Prop :=
  ∀ (fuel : Nat) (rest : List Char), Closes rest → 2 * text.length ≤ fuel →
    (skipName? frame (text ++ rest)).bind (skipValue? fuel) = some rest

theorem closes_closing (frame : Frame) : Closes (frame.closing :: rest) := by
  cases frame
  · exact ⟨_, _, rfl, .inr (.inl rfl)⟩
  · exact ⟨_, _, rfl, .inr (.inr rfl)⟩

/-- Values between commas are skipped with the bracket that closes their frame. -/
theorem skipValues?_intercalate {frame : Frame} (text : List Char) (more : List (List Char))
    (skips : ∀ t ∈ text :: more, Skips frame t)
    (enough : 2 * ([','].intercalate (text :: more)).length < fuel) :
    skipValues? fuel frame ([','].intercalate (text :: more) ++ frame.closing :: rest) =
      some rest := by
  induction more generalizing text fuel with
  | nil =>
    rw [List.intercalate_singleton] at enough ⊢
    obtain ⟨fuel, rfl⟩ := Nat.exists_eq_succ_of_ne_zero (show fuel ≠ 0 by omega)
    rw [skipValues?, skips text List.mem_cons_self fuel _ (closes_closing frame) (by omega)]
    cases frame <;> rfl
  | cons next more ih =>
    rw [List.intercalate_cons_cons, List.append_assoc, List.length_append, List.length_append,
      List.length_singleton] at enough
    rw [List.intercalate_cons_cons, List.append_assoc, List.append_assoc, List.singleton_append]
    obtain ⟨fuel, rfl⟩ := Nat.exists_eq_succ_of_ne_zero (show fuel ≠ 0 by omega)
    rw [skipValues?, skips text List.mem_cons_self fuel _ ⟨',', _, rfl, .inl rfl⟩ (by omega)]
    exact ih next (fun t member => skips t (List.mem_cons_of_mem _ member)) (by omega)

theorem skips_array {text : List Char} (nonempty : text ≠ [])
    (skips : ∀ (fuel : Nat) (rest : List Char), Closes rest → 2 * text.length ≤ fuel + 1 →
      skipValue? (fuel + 1) (text ++ rest) = some rest) : Skips .array text := by
  intro fuel rest closes enough
  have long := List.length_pos_iff.2 nonempty
  obtain ⟨fuel, rfl⟩ := Nat.exists_eq_succ_of_ne_zero (show fuel ≠ 0 by omega)
  exact skips fuel rest closes enough

/-- A member is skipped if its value is. -/
theorem skips_member {m : String × Json} (skips : Skips .array m.2.written) :
    Skips .object (memberWritten m) := by
  intro fuel rest closes enough
  have name : skipName? .object (memberWritten m ++ rest) = some (m.2.written ++ rest) := by
    have opened : Text.dropChar? '"' (skip (memberWritten m ++ rest)) =
        some (codes (m.1.toList.flatMap escape) ++ '"' :: ':' :: (m.2.written ++ rest)) := by
      simp [memberWritten, skip, isBlank, Text.dropChar?]
    simp only [skipName?, opened, Option.bind_eq_bind, Option.bind_some, skipString?_flatMap]
    rfl
  have shorter : m.2.written.length ≤ (memberWritten m).length := by
    simp [memberWritten]
    omega
  rw [name]
  exact skips fuel rest closes (by omega)

/-- The bracket that opens a frame. -/
def Frame.opening : Frame → Char
  | .array => '['
  | .object => '\x7b'

theorem skipValue?_opening {frame : Frame} {c : Char} {cs : List Char} (solid : isBlank c = false)
    (more : c ≠ frame.closing) :
    skipValue? (fuel + 1) (frame.opening :: c :: cs) = skipValues? fuel frame (c :: cs) := by
  have stays : skip (c :: cs) = c :: cs := by simp [skip, solid]
  have unclosed : close? frame (c :: cs) = none := by
    rw [close?, stays, Text.dropChar?, if_neg more]
  have opened : skipValue? (fuel + 1) (frame.opening :: c :: cs) =
      (close? frame (c :: cs)).or (skipValues? fuel frame (c :: cs)) := by
    cases frame <;> rfl
  rw [opened, unclosed, Option.none_or]

/-- A frame is skipped if the values in it are. -/
theorem skips_frame (frame : Frame) {texts : List (List Char)}
    (starts : ∀ t ∈ texts, ∃ (c : Char) (cs : List Char),
      t = c :: cs ∧ isBlank c = false ∧ c ≠ frame.closing)
    (skips : ∀ t ∈ texts, Skips frame t) :
    Skips .array (frame.opening :: ([','].intercalate texts ++ [frame.closing])) := by
  refine skips_array (List.cons_ne_nil _ _) ?_
  intro fuel rest _ enough
  rw [List.cons_append, List.append_assoc, List.singleton_append]
  cases texts with
  | nil => cases frame <;> rfl
  | cons text more =>
    obtain ⟨c, cs, rfl, solid, open_⟩ := starts text List.mem_cons_self
    have begins : ∃ cs', [','].intercalate ((c :: cs) :: more) = c :: cs' := by
      cases more with
      | nil => exact ⟨cs, List.intercalate_singleton⟩
      | cons next more => exact ⟨_, List.intercalate_cons_cons⟩
    obtain ⟨cs', begins⟩ := begins
    have skipped : skipValues? fuel frame
        ([','].intercalate ((c :: cs) :: more) ++ frame.closing :: rest) = some rest := by
      apply skipValues?_intercalate (c :: cs) more skips
      simp only [List.length_cons, List.length_append, List.length_nil] at enough
      omega
    rw [begins, List.cons_append] at skipped ⊢
    exact (skipValue?_opening solid open_).trans skipped

end Reader

/-- Whatever a value holds, and however deep, what is written of it is skipped. -/
theorem Integral.skips {j : Json} (h : Integral j) : Reader.Skips .array j.written := by
  induction h with
  | null => exact Reader.skips_array (List.cons_ne_nil _ _) fun _ _ _ _ => rfl
  | bool b => cases b <;> exact Reader.skips_array (List.cons_ne_nil _ _) fun _ _ _ _ => rfl
  | int n =>
    obtain ⟨c, cs, head, _⟩ := (Integral.int n).exists_head
    refine Reader.skips_array (by rw [head]; exact List.cons_ne_nil c cs) ?_
    intro fuel rest closes _
    rw [written_int, ← Reader.toList_toString_int]
    exact Reader.skipValue?_int n closes
  | str s =>
    rw [written_str]
    refine Reader.skips_array (List.cons_ne_nil _ _) ?_
    intro fuel rest _ _
    rw [List.cons_append, List.append_assoc]
    exact Reader.skipString?_flatMap s.toList
  | arr items all ih =>
    rw [written_arr]
    refine Reader.skips_frame .array ?_ ?_
    · intro t member
      obtain ⟨item, listed, rfl⟩ := List.mem_map.1 member
      exact (all item listed).exists_head
    · intro t member
      obtain ⟨item, listed, rfl⟩ := List.mem_map.1 member
      exact ih item listed
  | obj members all ih =>
    rw [written_obj]
    refine Reader.skips_frame .object ?_ ?_
    · intro t member
      obtain ⟨m, listed, rfl⟩ := List.mem_map.1 member
      exact ⟨_, _, rfl, rfl, by decide⟩
    · intro t member
      obtain ⟨m, listed, rfl⟩ := List.mem_map.1 member
      exact Reader.skips_member (ih m listed)

end Json

end HardwareIndex
