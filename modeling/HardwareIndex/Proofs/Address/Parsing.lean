import HardwareIndex.Proofs.Address.Row

/-!
# Parsing addresses

A text is read exactly if it writes octets in one of the three styles, and then
as those octets; octets of a supported number make an address. The layout that a
text is read by is found from its length and its first separator, and what is no
ASCII character has octets that are neither digits nor separators, so that both
sides of the main statement speak of characters alone.
-/

namespace HardwareIndex

namespace Mac

open Text
open Text.Utf8 (charOf toNat_charOf)

/-- The octets of a text are a row exactly if its characters are: what is no ASCII character has
    octets that are no digits and no separator. -/
theorem row_encode_iff {separator : Char} {perGroup : Nat} {octets : List UInt8} {text : List Char}
    (plain : separator.toNat < 0x80) :
    Row separator perGroup octets ((Utf8.encode text).map charOf) ↔
      Row separator perGroup octets text := by
  constructor
  · intro row
    have ascii : ∀ b ∈ Utf8.encode text, b.toNat < 0x80 := by
      intro b member
      rw [← toNat_charOf]
      exact row.ascii plain _ (List.mem_map.2 ⟨b, member, rfl⟩)
    rwa [Utf8.encode_injective (Utf8.encode_map_charOf ascii)] at row
  · intro row
    rwa [Utf8.map_charOf_encode (row.ascii plain)]

/-! ## Styles -/

namespace Style

/-- The octet of the separator. -/
def code : Style → UInt8
  | colon => Layout.colon
  | hyphen => Layout.hyphen
  | dot => Layout.dot

/-- The layout of a number of groups. -/
def layout (style : Style) (groups : Nat) : Layout :=
  ⟨2 * style.perGroup + 1, style.perGroup, groups, style.code⟩

theorem charOf_code (style : Style) : charOf style.code = style.separator := by
  cases style <;> rfl

theorem separator_ascii (style : Style) : style.separator.toNat < 0x80 := by
  cases style <;> decide

theorem perGroup_pos (style : Style) : 0 < style.perGroup := by
  cases style <;> decide

/-- Whole groups of a style are read as the octets that they write. -/
theorem read?_layout_iff (style : Style) {n : Nat} {octets : List UInt8} {text : List Char}
    (size : (Utf8.encode text).length + 1 = (2 * style.perGroup + 1) * (n + 1)) :
    (style.layout (n + 1)).read? (Utf8.encode text) = some octets ↔ style.Writes octets text := by
  rw [layout, Layout.read?_eq_some_iff_row style.perGroup_pos size, charOf_code,
    row_encode_iff style.separator_ascii, Writes]

/-- The layout of a text, if there is one, is that of whole groups in some style. -/
theorem exists_of_of? {codes : List UInt8} {l : Layout} (found : Layout.of? codes = some l) :
    ∃ (style : Style) (n : Nat), l = style.layout (n + 1) ∧
      codes.length + 1 = (2 * style.perGroup + 1) * (n + 1) ∧
      style.Admits (style.perGroup * (n + 1)) := by
  unfold Layout.of? at found
  split at found
  · cases found
  rename_i long
  split at found
  · rename_i first
    dsimp only at found
    split at found
    · cases found
    rename_i whole
    obtain ⟨n, size⟩ : ∃ n, codes.length + 1 = 3 * (n + 1) :=
      ⟨(codes.length + 1) / 3 - 1, by omega⟩
    have groups : (codes.length + 1) / 3 = n + 1 := by omega
    have admitted : 1 ≤ 1 * (n + 1) ∧ 1 * (n + 1) ≤ maxLen := by omega
    rw [groups] at found
    cases found
    by_cases hyphens : codes[2]? = some Layout.hyphen
    · exact ⟨.hyphen, n, by rw [hyphens]; rfl, size, admitted⟩
    · have colons : codes[2]?.getD Layout.colon = Layout.colon := by
        rcases first with two | colons | hyphens'
        · rw [List.getElem?_eq_none (by omega)]
          rfl
        · rw [colons]
          rfl
        · exact absurd hyphens' hyphens
      exact ⟨.colon, n, by rw [colons]; rfl, size, admitted⟩
  split at found
  · dsimp only at found
    split at found
    · cases found
    rename_i whole
    obtain ⟨n, size⟩ : ∃ n, codes.length + 1 = 5 * (n + 1) :=
      ⟨(codes.length + 1) / 5 - 1, by omega⟩
    have groups : (codes.length + 1) / 5 = n + 1 := by omega
    rw [groups] at found whole
    cases found
    refine ⟨.dot, n, rfl, size, ?_⟩
    exact Decidable.of_not_not (p := isWidth (2 * (n + 1)) = true) fun other => whole (Or.inr other)
  · cases found

theorem getElem?_map_charOf {codes : List UInt8} {p : Nat} {b : UInt8} :
    (codes.map charOf)[p]? = some (charOf b) ↔ codes[p]? = some b := by
  rw [List.getElem?_map, Option.map_eq_some_iff]
  simp only [Text.Utf8.charOf_inj, exists_eq_right]

/-- Colons or hyphens between pairs of digits show at the third place. -/
theorem of?_eq_some_of_pairs {codes : List UInt8} {n : Nat} (style : Style)
    (size : codes.length + 1 = 3 * (n + 1)) (short : n + 1 ≤ maxLen)
    (first : codes.length = 2 ∨ codes[2]? = some Layout.colon ∨ codes[2]? = some Layout.hyphen)
    (shows : codes[2]?.getD Layout.colon = style.code) (pairs : style.perGroup = 1) :
    Layout.of? codes = some (style.layout (n + 1)) := by
  have groups : (codes.length + 1) / 3 = n + 1 := by omega
  unfold Layout.of?
  rw [if_neg (by omega), if_pos first]
  dsimp only
  rw [groups, if_neg (by omega), shows, layout, pairs]

/-- Dots between groups of four digits show at the fifth place. -/
theorem of?_eq_some_of_dots {codes : List UInt8} {n : Nat} (size : codes.length + 1 = 5 * (n + 1))
    (width : isWidth (2 * (n + 1)) = true)
    (others : ¬(codes[2]? = some Layout.colon ∨ codes[2]? = some Layout.hyphen))
    (shows : codes[4]? = some Layout.dot) : Layout.of? codes = some (dot.layout (n + 1)) := by
  have groups : (codes.length + 1) / 5 = n + 1 := by omega
  unfold Layout.of?
  rw [if_neg (by omega), if_neg (not_or.2 ⟨by omega, others⟩), if_pos shows]
  dsimp only
  rw [groups, if_neg (by simp [width]; omega)]
  rfl

/-- One group is a pair of digits, and goes for one of colons. -/
theorem of?_of_one_group {style : Style} {codes octets : List UInt8}
    (row : Row style.separator style.perGroup octets (codes.map charOf))
    (size : codes.length = 2 * style.perGroup) (admits : style.Admits style.perGroup) :
    Layout.of? codes = some (colon.layout 1) ∧ codes.length + 1 = 3 ∧
      Row colon.separator colon.perGroup octets (codes.map charOf) := by
  cases style with
  | dot => cases admits
  | _ =>
    have two : codes.length = 2 := size
    have none : codes[2]? = none := List.getElem?_eq_none (by omega)
    have spells := (row_iff_spells (by rw [List.length_map]; exact two)).1 row
    refine ⟨of?_eq_some_of_pairs colon (by omega) (by decide) (Or.inl two) ?_ rfl, by omega, ?_⟩
    · rw [none]
      rfl
    · exact (row_iff_spells (by rw [List.length_map]; exact two)).2 spells

/-- Several groups show their separator, and so the style. -/
theorem of?_of_several_groups {style : Style} {codes octets : List UInt8} {n : Nat}
    (row : Row style.separator style.perGroup octets (codes.map charOf))
    (several : style.perGroup < octets.length)
    (size : codes.length + 1 = (2 * style.perGroup + 1) * (n + 1))
    (admits : style.Admits (style.perGroup * (n + 1))) :
    Layout.of? codes = some (style.layout (n + 1)) := by
  obtain ⟨group, rest, split, width, digits⟩ := row.exists_first_group several
  have shows : codes[2 * style.perGroup]? = some style.code := by
    rw [← getElem?_map_charOf, charOf_code, split, ← width]
    simp
  cases style with
  | colon =>
    have short : n + 1 ≤ maxLen := Nat.one_mul (n + 1) ▸ admits.2
    have shows : codes[2]? = some Layout.colon := shows
    exact of?_eq_some_of_pairs .colon size short (Or.inr (Or.inl shows)) (by rw [shows]; rfl) rfl
  | hyphen =>
    have short : n + 1 ≤ maxLen := Nat.one_mul (n + 1) ▸ admits.2
    have shows : codes[2]? = some Layout.hyphen := shows
    exact of?_eq_some_of_pairs .hyphen size short (Or.inr (Or.inr shows)) (by rw [shows]; rfl) rfl
  | dot =>
    refine of?_eq_some_of_dots size admits ?_ shows
    -- The third place is that of a digit.
    have digit : ∀ b, codes[2]? = some b → ∃ v, Text.Hex.IsDigit (charOf b) v := by
      intro b there
      rw [← getElem?_map_charOf, split, List.getElem?_append_left (by rw [width]; decide)] at there
      exact digits _ (List.mem_of_getElem? there)
    rintro (colons | hyphens)
    · obtain ⟨v, isDigit⟩ := digit _ colons
      cases Text.Hex.value?_eq_some_iff.2 isDigit
    · obtain ⟨v, isDigit⟩ := digit _ hyphens
      cases Text.Hex.value?_eq_some_iff.2 isDigit

/-- A text that is a row of a style has a layout that it is a row of: its own, or that of colons
    if it has one group and so no separator. -/
theorem exists_of?_of_row {style : Style} {codes octets : List UInt8}
    (row : Row style.separator style.perGroup octets (codes.map charOf))
    (admits : style.Admits octets.length) :
    ∃ (style' : Style) (n : Nat), Layout.of? codes = some (style'.layout (n + 1)) ∧
      codes.length + 1 = (2 * style'.perGroup + 1) * (n + 1) ∧
      Row style'.separator style'.perGroup octets (codes.map charOf) := by
  obtain ⟨n, octetCount, size⟩ := row.length
  rw [List.length_map] at size
  rw [octetCount] at admits
  cases n with
  | zero =>
    rw [Nat.zero_add, Nat.mul_one] at size admits
    exact ⟨.colon, 0, of?_of_one_group row (Nat.succ.inj size) admits⟩
  | succ n =>
    have several : style.perGroup < octets.length := by
      have more := Nat.mul_lt_mul_of_pos_left (show 1 < n + 1 + 1 by omega) style.perGroup_pos
      omega
    exact ⟨style, n + 1, of?_of_several_groups row several size admits, size, row⟩

end Style

end Mac

/-! ## Complete and partial addresses -/

/-- A text is read as the octets that it writes in some style. -/
theorem readOctets?_eq_some_iff {text : String} {octets : List UInt8} :
    readOctets? text = some octets ↔ ∃ style : Mac.Style, style.Admits octets.length ∧
      style.Writes octets text.toList := by
  rw [readOctets?, Text.Utf8.bytes, Option.bind_eq_some_iff]
  constructor
  · rintro ⟨l, found, read⟩
    obtain ⟨style, n, rfl, size, admits⟩ := Mac.Style.exists_of_of? found
    have row := (Layout.read?_eq_some_iff_row style.perGroup_pos size).1 read
    rw [style.charOf_code] at row
    obtain ⟨m, octetCount, size'⟩ := row.length
    rw [List.length_map, size] at size'
    obtain rfl : n = m := Nat.succ.inj (Nat.mul_left_cancel (Nat.succ_pos _) size')
    rw [← octetCount] at admits
    exact ⟨style, admits, (Mac.row_encode_iff style.separator_ascii).1 row⟩
  · rintro ⟨style, admits, writes⟩
    obtain ⟨style', n, found, size, row⟩ := Mac.Style.exists_of?_of_row
      ((Mac.row_encode_iff style.separator_ascii).2 writes) admits
    refine ⟨style'.layout (n + 1), found, (style'.read?_layout_iff size).2 ?_⟩
    exact (Mac.row_encode_iff style'.separator_ascii).1 row

/-! ## Addresses -/

namespace Mac

theorem bytes_buffer {octets : List UInt8} (short : octets.length ≤ maxLen) :
    (buffer octets).toList.take octets.length = octets := by
  apply List.ext_getElem
  · rw [List.length_take, Vector.length_toList, Nat.min_eq_left short]
  · intro i _ inside
    simp [buffer, inside]

/-- An address is made of any supported number of octets, and they are its octets. -/
theorem ofBytes?_eq_some_iff {octets : List UInt8} {m : Mac} :
    ofBytes? octets = some m ↔
      isWidth octets.length = true ∧ m = ⟨buffer octets, octets.length⟩ := by
  rw [ofBytes?]
  split
  · rename_i width
    rw [Option.some.injEq, eq_comm]
    exact (and_iff_right width).symm
  · rename_i other
    exact iff_of_false nofun fun h => other h.1

theorem isWidth_iff {n : Nat} : isWidth n = true ↔ n = 6 ∨ n = 8 ∨ n = 20 := by
  simp [isWidth, maxLen, or_assoc]

namespace Style

/-- Complete addresses may be written in every style. -/
theorem admits_of_isWidth (style : Style) {n : Nat} (width : isWidth n = true) :
    style.Admits n := by
  cases style with
  | dot => exact width
  | _ =>
    have sizes := isWidth_iff.1 width
    refine ⟨by omega, ?_⟩
    rw [maxLen]
    omega

/-- Whole groups of octets can be written. -/
theorem exists_row (separator : Char) {perGroup n : Nat} {octets : List UInt8}
    (size : octets.length = perGroup * (n + 1)) : ∃ text, Row separator perGroup octets text := by
  induction n generalizing octets with
  | zero =>
    obtain ⟨text, spells⟩ := exists_spells octets
    exact ⟨text, .one (by omega) spells⟩
  | succ n ih =>
    rw [Nat.mul_add_one] at size
    obtain ⟨text, spells⟩ := exists_spells (octets.take perGroup)
    have size' : (octets.drop perGroup).length = perGroup * (n + 1) := by
      rw [List.length_drop]
      omega
    obtain ⟨more, row⟩ := ih size'
    have both := Row.cons (by rw [List.length_take]; omega) spells row
    rw [List.take_append_drop] at both
    exact ⟨_, both⟩

theorem exists_writes (style : Style) {octets : List UInt8}
    (width : isWidth octets.length = true) : ∃ text, style.Writes octets text := by
  obtain ⟨n, size⟩ : ∃ n, octets.length = style.perGroup * (n + 1) := by
    rcases isWidth_iff.1 width with six | eight | twenty
    · cases style with
      | dot => exact ⟨2, six⟩
      | _ => exact ⟨5, six⟩
    · cases style with
      | dot => exact ⟨3, eight⟩
      | _ => exact ⟨7, eight⟩
    · cases style with
      | dot => exact ⟨9, twenty⟩
      | _ => exact ⟨19, twenty⟩
  exact exists_row style.separator size

end Style

/-- A text is read as an address exactly if it writes the octets of one. -/
theorem parse_eq_ok_iff {text : String} {m : Mac} : parse text = .ok m ↔
    ∃ (style : Style) (octets : List UInt8), style.Writes octets text.toList ∧
      ofBytes? octets = some m := by
  have read : parse text = .ok m ↔ (readOctets? text).bind ofBytes? = some m := by
    rw [parse]
    cases (readOctets? text).bind ofBytes? <;> simp
  rw [read, Option.bind_eq_some_iff]
  simp only [readOctets?_eq_some_iff]
  constructor
  · rintro ⟨octets, ⟨style, _, writes⟩, made⟩
    exact ⟨style, octets, writes, made⟩
  · rintro ⟨style, octets, writes, made⟩
    have width := (ofBytes?_eq_some_iff.1 made).1
    exact ⟨octets, ⟨style, style.admits_of_isWidth width, writes⟩, made⟩

/-- What is no address is refused with the text itself. -/
theorem eq_invalidMac_of_parse {text : String} {e : ParseError} (h : parse text = .error e) :
    e = .invalidMac text := by
  rw [parse] at h
  split at h <;> cases h
  rfl

/-- A text is an address exactly if it writes six, eight or twenty octets: as pairs of
    hexadecimal digits of either case with colons between them, as pairs with hyphens between
    them, or as groups of four with dots between them. The address has these octets in their
    order, and is the one that is made of them. Any other text is refused, as it stands. Six, eight
    or twenty octets make an address, whatever they are, and can be written in each style; all
    that writes them, in whichever cases, is read as this address. -/
theorem parse_iff_written :
    (∀ (text : String) (m : Mac), parse text = .ok m ↔
      ∃ (style : Style) (octets : List UInt8),
        (octets.length = 6 ∨ octets.length = 8 ∨ octets.length = 20) ∧
        style.Writes octets text.toList ∧ m.len = octets.length ∧ m.bytes = octets ∧
        ofBytes? octets = some m) ∧
    (∀ (text : String) (e : ParseError), parse text = .error e ↔
      e = .invalidMac text ∧ ∀ (style : Style) (octets : List UInt8),
        octets.length = 6 ∨ octets.length = 8 ∨ octets.length = 20 →
        ¬style.Writes octets text.toList) ∧
    ∀ octets : List UInt8, octets.length = 6 ∨ octets.length = 8 ∨ octets.length = 20 →
      ∃ m, ofBytes? octets = some m ∧ ∀ style : Style,
        (∃ text : String, style.Writes octets text.toList) ∧
        ∀ text : String, style.Writes octets text.toList → parse text = .ok m := by
  refine ⟨?_, ?_, ?_⟩
  · intro text m
    rw [parse_eq_ok_iff]
    constructor
    · rintro ⟨style, octets, writes, made⟩
      obtain ⟨width, rfl⟩ := ofBytes?_eq_some_iff.1 made
      have sizes := isWidth_iff.1 width
      have short : octets.length ≤ maxLen := by
        rw [maxLen]
        omega
      exact ⟨style, octets, sizes, writes, rfl, bytes_buffer short, made⟩
    · rintro ⟨style, octets, _, writes, _, _, made⟩
      exact ⟨style, octets, writes, made⟩
  · intro text e
    constructor
    · intro refused
      refine ⟨eq_invalidMac_of_parse refused, ?_⟩
      intro style octets sizes writes
      have made := ofBytes?_eq_some_iff.2 ⟨isWidth_iff.2 sizes, rfl⟩
      cases refused.symm.trans (parse_eq_ok_iff.2 ⟨style, octets, writes, made⟩)
    · rintro ⟨rfl, unwritten⟩
      cases parsed : parse text with
      | ok m =>
        obtain ⟨style, octets, writes, made⟩ := parse_eq_ok_iff.1 parsed
        exact absurd writes (unwritten style octets (isWidth_iff.1 (ofBytes?_eq_some_iff.1 made).1))
      | error e => rw [eq_invalidMac_of_parse parsed]
  · intro octets sizes
    have width := isWidth_iff.2 sizes
    have made := ofBytes?_eq_some_iff.2 ⟨width, rfl⟩
    refine ⟨_, made, fun style => ⟨?_, ?_⟩⟩
    · obtain ⟨text, writes⟩ := style.exists_writes width
      exact ⟨String.ofList text, by rwa [String.toList_ofList]⟩
    · intro text writes
      exact parse_eq_ok_iff.2 ⟨style, octets, writes, made⟩

/-- Digits of both cases in groups of four. -/
theorem mixed_case_parsed :
    let octets : List UInt8 := [0x00, 0xDE, 0x11, 0x64, 0x00, 0xA1]
    Style.dot.Writes octets "00dE.1164.00a1".toList ∧
      parse "00dE.1164.00a1" = .ok ⟨buffer octets, octets.length⟩ := by
  intro octets
  have digit {c : Char} {v : Nat} (read : Text.Hex.value? c.toNat = some v) :
      Text.Hex.IsDigit c v :=
    Text.Hex.value?_eq_some_iff.1 read
  have first : Spells [0x00, 0xDE] ['0', '0', 'd', 'E'] :=
    .cons (h := 0) (l := 0) (digit rfl) (digit rfl)
      (.cons (h := 13) (l := 14) (digit rfl) (digit rfl) .nil)
  have second : Spells [0x11, 0x64] ['1', '1', '6', '4'] :=
    .cons (h := 1) (l := 1) (digit rfl) (digit rfl)
      (.cons (h := 6) (l := 4) (digit rfl) (digit rfl) .nil)
  have third : Spells [0x00, 0xA1] ['0', '0', 'a', '1'] :=
    .cons (h := 0) (l := 0) (digit rfl) (digit rfl)
      (.cons (h := 10) (l := 1) (digit rfl) (digit rfl) .nil)
  have writes : Style.dot.Writes octets "00dE.1164.00a1".toList :=
    .cons rfl first (.cons rfl second (.one rfl third))
  obtain ⟨m, made, written⟩ := parse_iff_written.2.2 octets (Or.inl rfl)
  obtain ⟨_, rfl⟩ := ofBytes?_eq_some_iff.1 made
  exact ⟨writes, (written .dot).2 _ writes⟩

end Mac

end HardwareIndex
