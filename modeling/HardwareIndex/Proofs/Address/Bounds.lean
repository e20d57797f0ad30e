import HardwareIndex.Proofs.Address.Checked
import HardwareIndex.Proofs.Address.Storage

/-!
# Reading addresses stays in bounds

With every access checked the same is read, masked and compared as without. The
length of a text decides it all: it is a whole number of groups with one separator
less, so that each piece but the last is a full group with its separator and the
last one lacks only that (`chunks_append`, `chunks_last`), and the groups are few
enough for the buffer. By induction on the groups each octet is stored right behind
those before it (`foldlM_storeGroup_eq`).
-/

namespace HardwareIndex

namespace Checked

open Mac (buffer maxLen)

/-! ## Octets -/

theorem item_toList {n : Nat} (octets : Vector UInt8 n) {i : Nat} (inside : i < n) :
    item octets.toList i = .ok octets[i] :=
  item_eq (by simp [inside])

theorem hexOctet_eq (high low : UInt8) :
    hexOctet high low = accept (Text.Hex.octet? high low) := by
  unfold hexOctet Text.Hex.octet?
  cases isHigh : Text.Hex.value? high.toNat with
  | none => rfl
  | some h =>
    cases isLow : Text.Hex.value? low.toNat with
    | none => rfl
    | some l =>
      have parts : ∀ h < 16, ∀ l < 16,
          UInt8.ofNat h <<< UInt8.ofNat 4 ||| UInt8.ofNat l = UInt8.ofNat (16 * h + l) := by
        decide
      have value := parts h (Text.Hex.value?_lt isHigh) l (Text.Hex.value?_lt isLow)
      rw [accept_some, ok_bind, shiftLeft_eq _ (by decide), ok_bind, accept_some, ok_bind, value]
      rfl

/-- The octet after those that are stored is stored behind them. -/
theorem put_buffer {done : List UInt8} (room : done.length < maxLen) (octet : UInt8) :
    put (buffer done) done.length octet = .ok (buffer (done ++ [octet])) := by
  rw [put, dif_pos room]
  refine congrArg Except.ok (Vector.ext fun i inside => ?_)
  rw [Vector.getElem_set]
  by_cases here : done.length = i
  · subst here
    simp [buffer]
  · rw [if_neg here]
    simp only [buffer, Vector.getElem_ofFn, List.getD_eq_getElem?_getD]
    by_cases before : i < done.length
    · rw [List.getElem?_append_left before]
    · rw [List.getElem?_eq_none (by omega), List.getElem?_eq_none (by simp; omega)]

/-! ## Groups -/

section Groups

variable {perGroup : Nat} {separator code : UInt8} {group rest done : List UInt8}

/-- The layout of one group. -/
abbrev oneGroup (perGroup : Nat) (separator : UInt8) : Layout :=
  ⟨2 * perGroup + 1, perGroup, 1, separator⟩

/-- The octets of a group are stored behind those before it. -/
theorem storeOctets_eq (separator : UInt8) (width : group.length = 2 * perGroup)
    (tail : List UInt8) {index : Nat} (room : index + perGroup ≤ maxLen) (m : Nat) {j : Nat}
    (within : j + m ≤ perGroup) (full : done.length = index + j) :
    (List.range' j m).foldlM (storeOctet (group ++ tail) index) (buffer done) =
      accept (((List.range' j m).mapM ((oneGroup perGroup separator).octet? group)).map
        fun octets => buffer (done ++ octets)) := by
  induction m generalizing j done with
  | zero => simp
  | succ m ih =>
    obtain ⟨high, isHigh⟩ : ∃ b, group[2 * j]? = some b :=
      ⟨_, List.getElem?_eq_getElem (by omega)⟩
    obtain ⟨low, isLow⟩ : ∃ b, group[2 * j + 1]? = some b :=
      ⟨_, List.getElem?_eq_getElem (by omega)⟩
    have octet : (oneGroup perGroup separator).octet? group j = Text.Hex.octet? high low := by
      have read : (oneGroup perGroup separator).octet? (group ++ []) j =
          Mac.octetAt? group (2 * j) := Layout.octet?_append_left width (by omega)
      rw [List.append_nil] at read
      rw [read, Mac.octetAt?, isHigh, isLow]
    have step : storeOctet (group ++ tail) index (buffer done) j =
        accept ((Text.Hex.octet? high low).map fun b => buffer (done ++ [b])) := by
      have high' : (group ++ tail)[2 * j]? = some high :=
        (List.getElem?_append_left (by omega)).trans isHigh
      have low' : (group ++ tail)[2 * j + 1]? = some low :=
        (List.getElem?_append_left (by omega)).trans isLow
      rw [storeOctet, item_eq high', ok_bind, item_eq low', ok_bind, hexOctet_eq]
      cases Text.Hex.octet? high low with
      | none => rfl
      | some b =>
        rw [accept_some, ok_bind, ← full, put_buffer (by omega)]
        rfl
    rw [List.range'_succ, List.foldlM_cons, List.mapM_cons, step, octet]
    cases Text.Hex.octet? high low with
    | none => rfl
    | some b =>
      rw [Option.map_some, accept_some, ok_bind, ih (by omega) (by simp [full]; omega)]
      cases (List.range' (j + 1) m).mapM ((oneGroup perGroup separator).octet? group) <;> simp

theorem read?_oneGroup (perGroup : Nat) (separator : UInt8) (group : List UInt8) :
    (oneGroup perGroup separator).read? group =
      (List.range' 0 perGroup).mapM ((oneGroup perGroup separator).octet? group) := by
  simp [Layout.read?, Layout.separated, Layout.count, List.range_eq_range']

theorem length_of_read? {l : Layout} {codes octets : List UInt8}
    (read : l.read? codes = some octets) : octets.length = l.count := by
  have octets := congrArg List.length (Layout.read?_eq_some_iff.1 read).2
  simpa using octets.symm

/-- The octets of a group that a piece begins with. -/
theorem foldlM_storeOctet_eq (separator : UInt8) (width : group.length = 2 * perGroup)
    (tail : List UInt8) {i : Nat} (room : perGroup * i + perGroup ≤ maxLen)
    (full : done.length = perGroup * i) :
    (List.range perGroup).foldlM (storeOctet (group ++ tail) (perGroup * i)) (buffer done) =
      accept (((oneGroup perGroup separator).read? group).map
        fun octets => buffer (done ++ octets)) := by
  rw [read?_oneGroup, List.range_eq_range']
  exact storeOctets_eq separator width tail room perGroup (by omega) full

/-- The last group has no separator to be checked. -/
theorem storeGroup_last (width : group.length = 2 * perGroup) {i : Nat}
    (room : perGroup * i + perGroup ≤ maxLen) (full : done.length = perGroup * i) :
    storeGroup perGroup separator (buffer done) (group, i) =
      accept (((oneGroup perGroup separator).read? group).map
        fun octets => buffer (done ++ octets)) := by
  have octets := foldlM_storeOctet_eq separator width [] room full
  rw [List.append_nil] at octets
  rw [storeGroup, octets]
  cases (oneGroup perGroup separator).read? group with
  | none => rfl
  | some octets =>
    rw [Option.map_some, accept_some, ok_bind, if_neg (by omega)]
    rfl

/-- Every other group has one behind its digits. -/
theorem storeGroup_append (width : group.length = 2 * perGroup) {i : Nat}
    (room : perGroup * i + perGroup ≤ maxLen) (full : done.length = perGroup * i) :
    storeGroup perGroup separator (buffer done) (group ++ [code], i) =
      accept (if code = separator then ((oneGroup perGroup separator).read? group).map
        fun octets => buffer (done ++ octets) else none) := by
  have there : (group ++ [code])[2 * perGroup]? = some code := by simp [← width]
  rw [storeGroup, foldlM_storeOctet_eq separator width [code] room full]
  cases (oneGroup perGroup separator).read? group with
  | none => simp
  | some octets =>
    rw [Option.map_some, accept_some, ok_bind, if_pos (by simp [width]), item_eq there, ok_bind]
    split <;> rfl

theorem chunks_last (some_octet : 0 < perGroup) (width : group.length = 2 * perGroup) :
    chunks (2 * perGroup + 1) group = [group] := by
  cases group with
  | nil => simp at width; omega
  | cons first group =>
    rw [List.length_cons] at width
    rw [chunks, Nat.add_sub_cancel, List.take_of_length_le (by omega),
      List.drop_of_length_le (by omega), chunks]

theorem chunks_append (some_octet : 0 < perGroup) (width : group.length = 2 * perGroup) :
    chunks (2 * perGroup + 1) (group ++ code :: rest) =
      (group ++ [code]) :: chunks (2 * perGroup + 1) rest := by
  cases group with
  | nil => simp at width; omega
  | cons first group =>
    rw [List.length_cons] at width
    rw [List.cons_append, chunks, Nat.add_sub_cancel, List.cons_append]
    have short : 2 * perGroup = (group ++ [code]).length := by simp [width]
    rw [show group ++ code :: rest = (group ++ [code]) ++ rest by simp, short, List.take_left,
      List.drop_left]

/-- Several groups are read as the first and the others, if the separator stands between. -/
theorem read?_append (some_octet : 0 < perGroup) (width : group.length = 2 * perGroup) (n : Nat) :
    Layout.read? ⟨2 * perGroup + 1, perGroup, n + 2, separator⟩ (group ++ code :: rest) =
      (if code = separator then (oneGroup perGroup separator).read? group else none).bind
        fun first => (Layout.read? ⟨2 * perGroup + 1, perGroup, n + 1, separator⟩ rest).map
          (first ++ ·) := by
  ext octets
  rw [Layout.read?_append_eq_some_iff width some_octet, Option.bind_eq_some_iff]
  have one (first : List UInt8) : (oneGroup perGroup separator).read? group = some first ↔
      Mac.Spells first (group.map Text.Utf8.charOf) := Layout.read?_one_eq_some_iff width
  simp only [← one, Option.map_eq_some_iff, Option.ite_none_right_eq_some]
  constructor
  · rintro ⟨same, first, later, rfl, readFirst, readLater⟩
    exact ⟨first, ⟨same, readFirst⟩, later, readLater, rfl⟩
  · rintro ⟨first, ⟨same, readFirst⟩, later, readLater, rfl⟩
    exact ⟨same, first, later, rfl, readFirst, readLater⟩

/-- The octets of whole groups are stored one after the other, and every access is in bounds. -/
theorem foldlM_storeGroup_eq (some_octet : 0 < perGroup) (n : Nat) {codes done : List UInt8}
    {i : Nat} (size : codes.length + 1 = (2 * perGroup + 1) * (n + 1))
    (room : perGroup * (i + (n + 1)) ≤ maxLen) (full : done.length = perGroup * i) :
    ((chunks (2 * perGroup + 1) codes).zipIdx i).foldlM (storeGroup perGroup separator)
        (buffer done) =
      accept ((Layout.read? ⟨2 * perGroup + 1, perGroup, n + 1, separator⟩ codes).map
        fun octets => buffer (done ++ octets)) := by
  induction n generalizing codes done i with
  | zero =>
    have width : codes.length = 2 * perGroup := by omega
    rw [chunks_last some_octet width, List.zipIdx_singleton, List.foldlM_cons,
      storeGroup_last width room full]
    exact bind_pure _
  | succ n ih =>
    obtain ⟨group, code, rest, width, size', rfl⟩ := Layout.exists_first_group size
    have next : perGroup * (i + 1) = perGroup * i + perGroup := Nat.mul_add_one ..
    have total : perGroup * (i + (n + 1 + 1)) = perGroup * (i + 1) + perGroup * (n + 1) := by
      rw [← Nat.mul_add]
      congr 1
      omega
    rw [chunks_append some_octet width, List.zipIdx_cons, List.foldlM_cons,
      storeGroup_append width (by omega) full, read?_append some_octet width]
    by_cases same : code = separator
    · rw [if_pos same, if_pos same]
      cases read : (oneGroup perGroup separator).read? group with
      | none => rfl
      | some first =>
        have count : first.length = perGroup := (length_of_read? read).trans (Nat.one_mul _)
        have room' : perGroup * (i + 1 + (n + 1)) ≤ maxLen := by
          rwa [Nat.mul_add, ← total]
        have full' : (done ++ first).length = perGroup * (i + 1) := by
          rw [List.length_append, full, count, next]
        rw [Option.map_some, accept_some, ok_bind, ih size' room' full', Option.bind_some,
          Option.map_map]
        simp [Function.comp_def]
    · rw [if_neg same, if_neg same]
      rfl

/-- Whole groups that fit in the buffer are stored as the octets that are read. -/
theorem storeGroups_eq (some_octet : 0 < perGroup) (separator : UInt8) {n : Nat}
    {codes : List UInt8} (size : codes.length + 1 = (2 * perGroup + 1) * (n + 1))
    (room : perGroup * (n + 1) ≤ maxLen) :
    (do return (← storeGroups perGroup separator codes, perGroup * (n + 1))) =
      accept ((Layout.read? ⟨2 * perGroup + 1, perGroup, n + 1, separator⟩ codes).map
        fun octets => (buffer octets, octets.length)) := by
  have stored : (chunks (2 * perGroup + 1) codes).zipIdx.foldlM (storeGroup perGroup separator)
      (buffer []) =
        accept ((Layout.read? ⟨2 * perGroup + 1, perGroup, n + 1, separator⟩ codes).map buffer) :=
    foldlM_storeGroup_eq some_octet n size (by rwa [Nat.zero_add]) rfl
  rw [storeGroups, stored]
  cases read : Layout.read? ⟨2 * perGroup + 1, perGroup, n + 1, separator⟩ codes with
  | none => rfl
  | some octets =>
    have count : octets.length = perGroup * (n + 1) :=
      (length_of_read? read).trans (Nat.mul_comm ..)
    rw [Option.map_some, Option.map_some, accept_some, accept_some, ok_bind, count]
    rfl

end Groups

/-! ## Texts -/

section Texts

variable {codes : List UInt8}

/-- What is read of a text by a layout, as it is stored. -/
def stored? (codes : List UInt8) (layout : Option Layout) : Option (Buffer × Nat) :=
  (layout.bind fun l => l.read? codes).map fun octets => (buffer octets, octets.length)

theorem showsPairs_eq (long : 2 ≤ codes.length) : showsPairs codes =
    .ok (decide (codes.length = 2 ∨ codes[2]? = some Layout.colon ∨
      codes[2]? = some Layout.hyphen)) := by
  unfold showsPairs
  by_cases two : codes.length = 2
  · simp [two]
  · obtain ⟨third, there⟩ : ∃ b, codes[2]? = some b := ⟨_, List.getElem?_eq_getElem (by omega)⟩
    rw [if_neg two, item_eq there, ok_bind, there]
    simp [two, Bool.beq_eq_decide_eq]

theorem showsDots_eq : showsDots codes = .ok (decide (codes[4]? = some Layout.dot)) := by
  unfold showsDots
  by_cases long : 4 < codes.length
  · obtain ⟨fifth, there⟩ : ∃ b, codes[4]? = some b := ⟨_, List.getElem?_eq_getElem long⟩
    rw [if_pos long, item_eq there, ok_bind, there]
    simp [Bool.beq_eq_decide_eq]
  · rw [if_neg long, List.getElem?_eq_none (by omega)]
    rfl

theorem pairSeparator_eq : pairSeparator codes = .ok (codes[2]?.getD Layout.colon) := by
  unfold pairSeparator
  by_cases more : 2 < codes.length
  · have there := List.getElem?_eq_getElem more
    rw [if_pos more, item_eq there, there, Option.getD_some]
  · rw [if_neg more, List.getElem?_eq_none (by omega)]
    rfl

theorem readPairs_eq (long : 2 ≤ codes.length) : readPairs codes =
    accept (stored? codes
      (if (codes.length + 1) % 3 ≠ 0 ∨ maxLen < (codes.length + 1) / 3 then none
        else some ⟨3, 1, (codes.length + 1) / 3, codes[2]?.getD Layout.colon⟩)) := by
  unfold readPairs
  split
  · rfl
  · rename_i whole
    obtain ⟨n, groups⟩ : ∃ n, (codes.length + 1) / 3 = n + 1 :=
      ⟨(codes.length + 1) / 3 - 1, by omega⟩
    have read := storeGroups_eq Nat.one_pos (codes[2]?.getD Layout.colon)
      (show codes.length + 1 = 3 * (n + 1) by omega) (by omega)
    rw [Nat.one_mul] at read
    rw [pairSeparator_eq, ok_bind, groups, read]
    rfl

theorem readDots_eq (long : 2 ≤ codes.length) : readDots codes =
    accept (stored? codes
      (if (codes.length + 1) % 5 ≠ 0 ∨ ¬Mac.isWidth (2 * ((codes.length + 1) / 5)) then none
        else some ⟨5, 2, (codes.length + 1) / 5, Layout.dot⟩)) := by
  unfold readDots
  by_cases whole : (codes.length + 1) % 5 ≠ 0
  · rw [if_pos (Or.inl whole), if_pos (Or.inl whole)]
    rfl
  obtain ⟨n, groups⟩ : ∃ n, (codes.length + 1) / 5 = n + 1 :=
    ⟨(codes.length + 1) / 5 - 1, by omega⟩
  have count : 2 * (codes.length + 1) / 5 = 2 * (n + 1) := by omega
  rw [count, groups]
  split
  · rfl
  · rename_i width
    have sizes := Mac.isWidth_iff.1 (Decidable.of_not_not (not_or.1 width).2)
    have read := storeGroups_eq Nat.two_pos Layout.dot
      (show codes.length + 1 = 5 * (n + 1) by omega) (by rw [maxLen]; omega)
    rw [read]
    rfl

/-- Whatever octets a text has, it is read with every access in bounds. -/
theorem readOctets_eq (codes : List UInt8) :
    readOctets codes = accept (stored? codes (Layout.of? codes)) := by
  unfold readOctets Layout.of?
  by_cases short : codes.length < 2
  · rw [if_pos short, if_pos short]
    rfl
  have long : 2 ≤ codes.length := by omega
  rw [if_neg short, if_neg short, showsPairs_eq long, ok_bind]
  by_cases pairs : codes.length = 2 ∨ codes[2]? = some Layout.colon ∨
      codes[2]? = some Layout.hyphen
  · rw [if_pos pairs, decide_eq_true pairs, if_pos rfl, readPairs_eq long]
  rw [if_neg pairs, decide_eq_false pairs, if_neg nofun, showsDots_eq, ok_bind]
  by_cases dots : codes[4]? = some Layout.dot
  · rw [if_pos dots, decide_eq_true dots, if_pos rfl, readDots_eq long]
  · rw [if_neg dots, decide_eq_false dots, if_neg nofun]
    rfl

theorem readOctets_bytes (text : String) : readOctets (Text.Utf8.bytes text) =
    accept ((readOctets? text).map fun octets => (buffer octets, octets.length)) :=
  readOctets_eq _

theorem mac_eq (text : String) : mac text = .ok (Mac.parse text) := by
  rw [mac, readOctets_bytes, attempt_accept, ok_bind, Mac.parse]
  cases readOctets? text with
  | none => rfl
  | some octets =>
    rw [Option.map_some, Option.bind_some, Mac.ofBytes?]
    dsimp only
    split <;> rfl

end Texts

/-! ## Masks -/

theorem lowMask_eq {dropped : Nat} (some_kept : dropped < 8) :
    lowMask dropped = .ok (MacPrefix.lowMask dropped) :=
  shiftLeft_eq _ some_kept

/-- Whatever the number of bits and the index, a mask is made without a shift by eight or more. -/
theorem octetMask_eq (bits index : Nat) :
    octetMask bits index = .ok (MacPrefix.octetMask bits index) := by
  unfold octetMask MacPrefix.octetMask
  split
  · rfl
  split
  · rfl
  · rw [minus_eq (by omega), ok_bind, minus_eq (by omega), ok_bind, lowMask_eq (by omega)]

theorem masked_eq (bits : Nat) (octets : Buffer) : masked bits octets =
    .ok (octets.mapFinIdx fun i octet _ => octet &&& MacPrefix.octetMask bits i) := by
  have masks : (List.range maxLen).mapM (octetMask bits) =
      .ok ((List.range maxLen).map (MacPrefix.octetMask bits)) := by
    rw [show octetMask bits = fun i => pure (MacPrefix.octetMask bits i) from
      funext (octetMask_eq bits), List.mapM_pure, pure_eq_ok]
  rw [masked, masks, ok_bind]
  refine congrArg Except.ok (Vector.ext fun i inside => ?_)
  simp [inside]

theorem macPrefix_eq (text : String) : macPrefix text = .ok (MacPrefix.parse text) := by
  unfold macPrefix MacPrefix.parse
  cases MacPrefix.splitLast text.toList with
  | none => rfl
  | some parts =>
    dsimp only
    rw [readOctets_bytes, attempt_accept, ok_bind]
    cases readOctets? (String.ofList parts.1) with
    | none => rfl
    | some octets =>
      rw [Option.map_some]
      dsimp only
      cases (Text.Decimal.unsigned? 255 parts.2).filter (· ≤ MacPrefix.maxBits) with
      | none => rfl
      | some bits =>
        dsimp only
        rw [masked_eq, ok_bind]
        rfl

/-! ## Ranges -/

section Ranges

variable (a b : Mac) {i dropped : Nat}

theorem agreeAt_eq (inside : i < maxLen) : agreeAt a b i = .ok (MacPrefix.agreeAt a b i) := by
  rw [agreeAt, item_toList _ inside, ok_bind, item_toList _ inside, ok_bind, MacPrefix.agreeAt,
    Vector.getElem?_eq_getElem inside, Vector.getElem?_eq_getElem inside]
  rfl

theorem agreeAbove_eq (inside : i < maxLen) (some_kept : dropped < 8) :
    agreeAbove a b i dropped = .ok (MacPrefix.agreeAbove a b i dropped) := by
  rw [agreeAbove, lowMask_eq some_kept, ok_bind, item_toList _ inside, ok_bind,
    item_toList _ inside, ok_bind, MacPrefix.agreeAbove, Vector.getElem?_eq_getElem inside,
    Vector.getElem?_eq_getElem inside]
  rfl

theorem allM_agreeAt_eq {whole : Nat} (inside : whole ≤ maxLen) :
    (List.range whole).allM (agreeAt a b) =
      .ok ((List.range whole).all (MacPrefix.agreeAt a b)) := by
  have along : ∀ indices : List Nat, (∀ i ∈ indices, i < whole) →
      indices.allM (agreeAt a b) = .ok (indices.all (MacPrefix.agreeAt a b)) := by
    intro indices
    induction indices with
    | nil => exact fun _ => rfl
    | cons i later ih =>
      intro within
      have here : i < whole := within i List.mem_cons_self
      rw [List.allM_cons, agreeAt_eq a b (by omega), ok_bind, List.all_cons]
      cases MacPrefix.agreeAt a b i with
      | false => rfl
      | true => exact ih fun j later => within j (List.mem_cons_of_mem _ later)
  exact along _ fun i => List.mem_range.1

/-- A range whose bits fit in the buffer is compared with every access in bounds. -/
theorem contains_eq {p : MacPrefix} (bounded : p.bits ≤ MacPrefix.maxBits) (m : Mac) :
    contains p m = .ok (p.contains m) := by
  rw [MacPrefix.maxBits] at bounded
  unfold contains MacPrefix.contains Scan.ofBits
  dsimp only
  by_cases short : 8 * m.len < p.bits
  · rw [if_pos short, decide_eq_false (by omega)]
    rfl
  rw [if_neg short, decide_eq_true (by omega), allM_agreeAt_eq _ _ (by omega), ok_bind]
  cases (List.range (p.bits / 8)).all (MacPrefix.agreeAt p.address m) with
  | false => rfl
  | true =>
    by_cases whole : p.bits % 8 = 0
    · rw [if_neg (by decide), if_pos whole, if_pos whole]
      rfl
    · rw [if_neg (by decide), if_neg whole, if_neg whole, minus_eq (by omega), ok_bind,
        agreeAbove_eq _ _ (by omega) (by omega)]
      rfl

end Ranges

end Checked

/-! ## Positions -/

/-- All that a layout says of a text is within it, and within the buffer. -/
theorem Layout.within_of_of? {codes : List UInt8} {l : Layout} (found : of? codes = some l) :
    l.count ≤ Mac.maxLen ∧ (∀ i < l.count, l.digitPos i + 1 < codes.length) ∧
      ∀ g, g + 1 < l.groups → l.separatorPos g < codes.length := by
  obtain ⟨style, n, rfl, size, admits⟩ := Mac.Style.exists_of_of? found
  cases style with
  | dot =>
    have sizes := Mac.isWidth_iff.1 admits
    simp only [Mac.Style.perGroup, Mac.Style.layout, Mac.maxLen, count, digitPos, separatorPos] at *
    refine ⟨by omega, fun i inside => by omega, fun g inside => by omega⟩
  | _ =>
    have short := admits.2
    simp only [Mac.Style.perGroup, Mac.Style.layout, Mac.maxLen, count, digitPos, separatorPos] at *
    refine ⟨by omega, fun i inside => by omega, fun g inside => by omega⟩

/-- The octets that are compared are in the buffer, and some bits of a masked one count. -/
theorem Scan.within_of_bits_le {bits : Nat} (bounded : bits ≤ MacPrefix.maxBits) :
    (∀ i < (ofBits bits).whole, i < Mac.maxLen) ∧
      ∀ i dropped, (ofBits bits).masked = some (i, dropped) →
        i < Mac.maxLen ∧ 0 < dropped ∧ dropped < 8 := by
  rw [MacPrefix.maxBits] at bounded
  constructor
  · intro i whole
    simp only [ofBits] at whole
    omega
  · intro i dropped compared
    simp only [ofBits, Option.ite_none_left_eq_some, Option.some.injEq, Prod.mk.injEq] at compared
    omega

/-- Octets of any number and value are read with every index into them, into their groups and into
    the buffer of twenty in bounds, and give what is read of them by their layout: so no text makes
    the reading of an address or of a prefix halt, and each gives the address, the prefix or the
    fault that it has. A mask is made for any number of bits and any index with no difference below
    zero and no shift by eight or more; whether an address is in a range that was read is found so
    too, and with every index into the two buffers below twenty. The positions that a layout gives
    are within the octets it is the layout of, and those that a range compares are within the
    buffer. -/
theorem Mac.accesses_in_bounds :
    (∀ codes : List UInt8, Checked.readOctets codes =
      Checked.accept (((Layout.of? codes).bind (·.read? codes)).map
        fun octets => (buffer octets, octets.length))) ∧
    (∀ text : String, Checked.mac text = .ok (Mac.parse text) ∧
      Checked.macPrefix text = .ok (MacPrefix.parse text)) ∧
    (∀ bits index : Nat, Checked.octetMask bits index = .ok (MacPrefix.octetMask bits index)) ∧
    (∀ (text : String) (p : MacPrefix), MacPrefix.parse text = .ok p → ∀ m : Mac,
      Checked.contains p m = .ok (p.contains m)) ∧
    (∀ (codes : List UInt8) (l : Layout), Layout.of? codes = some l →
      l.count ≤ 20 ∧ (∀ i < l.count, l.digitPos i + 1 < codes.length) ∧
        ∀ g, g + 1 < l.groups → l.separatorPos g < codes.length) ∧
    ∀ (text : String) (p : MacPrefix), MacPrefix.parse text = .ok p →
      let scan := Scan.ofBits p.bits
      (∀ i < scan.whole, i < 20) ∧ ∀ i dropped, scan.masked = some (i, dropped) →
        i < 20 ∧ 0 < dropped ∧ dropped < 8 := by
  have bits_le {text : String} {p : MacPrefix} (parsed : MacPrefix.parse text = .ok p) :
      p.bits ≤ MacPrefix.maxBits := by
    obtain ⟨_, stores⟩ := MacPrefix.exists_stores_of_parse parsed
    exact stores.bits_le
  refine ⟨Checked.readOctets_eq, fun text => ⟨Checked.mac_eq text, Checked.macPrefix_eq text⟩,
    Checked.octetMask_eq, ?_, fun _ _ => Layout.within_of_of?, ?_⟩
  · intro text p parsed m
    exact Checked.contains_eq (bits_le parsed) m
  · intro text p parsed
    exact Scan.within_of_bits_le (bits_le parsed)

/-- A prefix of all the bits that there are: twenty octets are compared, and none under a mask. -/
theorem Mac.longest_prefix_compared :
    let text := "00:01:02:03:04:05:06:07:08:09:0a:0b:0c:0d:0e:0f:10:11:12:13/160"
    let octets := (List.range 20).map UInt8.ofNat
    let p := MacPrefix.ofOctets octets 160
    let m : Mac := ⟨buffer octets, 20⟩
    MacPrefix.parse text = .ok p ∧ Checked.contains p m = .ok (p.contains m) ∧
      p.contains m = true := by
  intro text octets p m
  have parsed : MacPrefix.parse text = .ok p := by decide +kernel
  have within := accesses_in_bounds.2.2.2.1 text p parsed m
  exact ⟨parsed, within, by decide +kernel⟩

end HardwareIndex
