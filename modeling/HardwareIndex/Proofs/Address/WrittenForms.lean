import HardwareIndex.Inventory.Record
import HardwareIndex.Proofs.Address.Storage
import HardwareIndex.Proofs.Json.Strings

/-!
# Written forms

Addresses and prefixes are written in one form, whatever form they were read
from: pairs of lower-case digits with colons between them, and after a slash the
number of bits. What is written of a value is read as that value, and so is the
JSON string that holds it.
-/

namespace HardwareIndex

/-! ## Values in JSON strings -/

/-- A value is read back from its text, from its form in JSON and from the text of this form. -/
structure ReadsBack {A : Type} (parse : String → Except ParseError A) (ofJson? : Json → Option A)
    (text : A → String) (toJson : A → Json) (a : A) : Prop where
  parse_text : parse (text a) = .ok a
  ofJson?_toJson : ofJson? (toJson a) = some a
  ofJson?_compact : (Json.read? (toJson a).compact).bind ofJson? = some a

section Strings

variable {A : Type} {parse : String → Except ParseError A} {ofJson? : Json → Option A}
  {text : A → String} {toJson : A → Json} {a b : A}

/-- Values that are the texts of JSON strings are read from the strings that write them. -/
theorem ofJson?_eq_some_iff_parse
    (reads : ∀ j, ofJson? j = j.asString?.bind fun s => (parse s).toOption) {j : Json} :
    ofJson? j = some a ↔ ∃ s, j = .str s ∧ parse s = .ok a := by
  rw [reads]
  cases j with
  | str s => cases parsed : parse s <;> simp [Json.asString?, parsed, Except.toOption]
  | _ => simp [Json.asString?]

theorem readsBack_of_parse
    (reads : ∀ j, ofJson? j = j.asString?.bind fun s => (parse s).toOption)
    (writes : toJson a = .str (text a)) (parsed : parse (text a) = .ok a) :
    ReadsBack parse ofJson? text toJson a := by
  have read := (ofJson?_eq_some_iff_parse reads).2 ⟨text a, rfl, parsed⟩
  rw [← writes] at read
  refine ⟨parsed, read, ?_⟩
  rw [writes, Json.read?_compact_str, Option.bind_some, ← writes, read]

namespace ReadsBack

/-- Values that are read back are the same if their texts are. -/
theorem eq_iff_text (h : ReadsBack parse ofJson? text toJson a)
    (h' : ReadsBack parse ofJson? text toJson b) : a = b ↔ text a = text b := by
  constructor
  · rintro rfl
    rfl
  · intro same
    have read := h.parse_text
    rw [same, h'.parse_text] at read
    exact (Except.ok.inj read).symm

theorem eq_iff_toJson (h : ReadsBack parse ofJson? text toJson a)
    (h' : ReadsBack parse ofJson? text toJson b) : a = b ↔ toJson a = toJson b := by
  constructor
  · rintro rfl
    rfl
  · intro same
    have read := h.ofJson?_toJson
    rw [same, h'.ofJson?_toJson] at read
    exact (Option.some.inj read).symm

end ReadsBack

end Strings

/-! ## Addresses -/

namespace Mac

variable {m : Mac}

theorem colonText_singleton (b : UInt8) : colonText [b] = Text.Hex.octetText b := by
  rw [colonText, List.map_singleton, List.intercalate_singleton]

theorem colonText_cons_cons (b c : UInt8) (rest : List UInt8) :
    colonText (b :: c :: rest) = Text.Hex.octetText b ++ ':' :: colonText (c :: rest) := by
  simp [colonText]

/-- The colon notation of some octets is a row of them. -/
theorem writes_colonText (b : UInt8) (rest : List UInt8) :
    Style.colon.Writes (b :: rest) (colonText (b :: rest)) := by
  have spells (b : UInt8) : Spells [b] (Text.Hex.octetText b) := by
    simpa using Spells.nil.cons_octetText b
  induction rest generalizing b with
  | nil =>
    rw [colonText_singleton]
    exact .one rfl (spells b)
  | cons c rest ih =>
    rw [colonText_cons_cons]
    exact .cons rfl (spells b) (ih c)

theorem isUpper_octetText (b : UInt8) : ∀ c ∈ Text.Hex.octetText b, c.isUpper = false := by
  have lower : ∀ v < 16, (Text.Hex.digit v).isUpper = false := by decide
  have octet := b.toNat_lt
  have high := lower (b.toNat / 16) (by omega)
  have low := lower (b.toNat % 16) (by omega)
  simp [Text.Hex.octetText, high, low]

/-- Colon notation is in lower case. -/
theorem isUpper_colonText (octets : List UInt8) :
    ∀ c ∈ colonText octets, c.isUpper = false := by
  induction octets with
  | nil => simp [colonText]
  | cons b rest ih =>
    cases rest with
    | nil =>
      rw [colonText_singleton]
      exact isUpper_octetText b
    | cons d rest =>
      rw [colonText_cons_cons]
      intro c member
      rcases List.mem_append.1 member with digit | later
      · exact isUpper_octetText b c digit
      rcases List.mem_cons.1 later with rfl | later
      · rfl
      · exact ih c later

/-- What is written of an address writes its octets, in lower case. -/
theorem writes_text (width : isWidth m.bytes.length = true) :
    Style.colon.Writes m.bytes m.text.toList ∧ ∀ c ∈ m.text.toList, c.isUpper = false := by
  have text : m.text.toList = colonText m.bytes := String.toList_ofList
  rw [text]
  cases octets : m.bytes with
  | nil =>
    rw [octets] at width
    cases width
  | cons b rest => exact ⟨writes_colonText b rest, isUpper_colonText _⟩

/-- An address is read from what is written of it. -/
theorem Obtainable.parse_text (h : m.Obtainable) : parse m.text = .ok m := by
  obtain ⟨octets, made⟩ := obtainable_iff.1 h
  have width := (ofBytes?_eq_some_iff.1 made).1
  obtain rfl := bytes_of_made made
  exact parse_eq_ok_iff.2 ⟨.colon, m.bytes, (writes_text width).1, made⟩

theorem Obtainable.readsBack (h : m.Obtainable) : ReadsBack parse ofJson? text toJson m :=
  readsBack_of_parse (fun _ => rfl) rfl h.parse_text

/-- An address that is read from a text is written in colon notation and lower case. -/
theorem exists_writes_of_parse {text : String} (parsed : parse text = .ok m) :
    ∃ octets, Writes octets text.toList ∧ Style.colon.Writes octets m.text.toList ∧
      ∀ c ∈ m.text.toList, c.isUpper = false := by
  obtain ⟨style, octets, writes, made⟩ := parse_eq_ok_iff.1 parsed
  have width := (ofBytes?_eq_some_iff.1 made).1
  obtain rfl := bytes_of_made made
  exact ⟨m.bytes, ⟨style, style.admits_of_isWidth width, writes⟩,
    writes_text width⟩

end Mac

/-! ## Prefixes -/

namespace MacPrefix

open Mac (bitAt)

variable {p : MacPrefix} {octets : List UInt8} {bits : Nat}

/-- The significant octets of a stored address have the bits that the prefix keeps. -/
theorem Stores.bytes (h : p.Stores octets bits) : p.Stores p.address.bytes bits := by
  apply h.self.congr
  intro j counts
  have holds := h.narrowest.holds
  exact (bitAt_bytes p.address (by omega)).symm

theorem Stores.isWidth_bytes (h : p.Stores octets bits) :
    Mac.isWidth p.address.bytes.length = true := by
  have sizes := Mac.isWidth_iff.1 h.narrowest.isWidth
  have length : p.address.bytes.length = p.address.len := by
    rw [Mac.bytes, List.length_take, Vector.length_toList, Mac.maxLen]
    omega
  rw [length]
  exact h.narrowest.isWidth

/-- A prefix is read from what is written of it. -/
theorem Stores.parse_text (h : p.Stores octets bits) : parse p.text = .ok p := by
  have address : Mac.Writes p.address.bytes p.address.text.toList :=
    ⟨.colon, Mac.Style.colon.admits_of_isWidth h.isWidth_bytes,
      (Mac.writes_text h.isWidth_bytes).1⟩
  obtain rfl := h.bits_eq
  exact parse_append_eq_ok_iff.2 ⟨_, _, ⟨address, Text.Decimal.writes_toString p.bits, h.bits_le⟩,
    (stores_iff h.bits_le).1 h.bytes⟩

theorem readsBack_of_parsed {s : String} (parsed : parse s = .ok p) :
    ReadsBack parse ofJson? text toJson p := by
  obtain ⟨_, stores⟩ := exists_stores_of_parse parsed
  exact readsBack_of_parse (fun _ => rfl) rfl stores.parse_text

end MacPrefix

/-- Every address that there is is read back from its text, from its JSON value and from the text of
    that. Whatever text an address is read from, it is written as the same octets in colon notation
    and lower case, also in JSON; so two texts are read as one address exactly if the same is
    written of both. A JSON value is read as an address exactly if it is a string that is read as
    it, and again two of them are read as one address exactly if the same JSON is written of both.
    What is written of a prefix that a text or a JSON string was read as is read back too, whatever
    that text was, and two prefixes are the same exactly if the same is written of both. -/
theorem written_forms_read_back :
    (∀ m : Mac, m.Obtainable → ReadsBack Mac.parse Mac.ofJson? Mac.text Mac.toJson m) ∧
    (∀ (s : String) (m : Mac), Mac.parse s = .ok m → m.toJson = .str m.text ∧
      ∃ octets, Mac.Writes octets s.toList ∧ Mac.Style.colon.Writes octets m.text.toList ∧
        ∀ c ∈ m.text.toList, c.isUpper = false) ∧
    (∀ (s s' : String) (m m' : Mac), Mac.parse s = .ok m → Mac.parse s' = .ok m' →
      (m = m' ↔ m.text = m'.text)) ∧
    (∀ (j : Json) (m : Mac), Mac.ofJson? j = some m ↔ ∃ s, j = .str s ∧ Mac.parse s = .ok m) ∧
    (∀ (j j' : Json) (m m' : Mac), Mac.ofJson? j = some m → Mac.ofJson? j' = some m' →
      (m = m' ↔ m.toJson = m'.toJson)) ∧
    (∀ (s : String) (p : MacPrefix), MacPrefix.parse s = .ok p →
      ReadsBack MacPrefix.parse MacPrefix.ofJson? MacPrefix.text MacPrefix.toJson p) ∧
    (∀ (s s' : String) (p p' : MacPrefix), MacPrefix.parse s = .ok p →
      MacPrefix.parse s' = .ok p' → (p = p' ↔ p.text = p'.text)) ∧
    ∀ (j : Json) (p : MacPrefix),
      MacPrefix.ofJson? j = some p ↔ ∃ s, j = .str s ∧ MacPrefix.parse s = .ok p := by
  have fromText {s : String} {m : Mac} (parsed : Mac.parse s = .ok m) :
      ReadsBack Mac.parse Mac.ofJson? Mac.text Mac.toJson m :=
    (Mac.Obtainable.parsed parsed).readsBack
  have fromJson (j : Json) (m : Mac) :
      Mac.ofJson? j = some m ↔ ∃ s, j = .str s ∧ Mac.parse s = .ok m :=
    ofJson?_eq_some_iff_parse fun _ => rfl
  refine ⟨fun m => Mac.Obtainable.readsBack,
    fun s m parsed => ⟨rfl, Mac.exists_writes_of_parse parsed⟩, ?_, fromJson, ?_,
    fun s p => MacPrefix.readsBack_of_parsed, ?_, ?_⟩
  · intro s s' m m' parsed parsed'
    exact (fromText parsed).eq_iff_text (fromText parsed')
  · intro j j' m m' read read'
    obtain ⟨_, _, parsed⟩ := (fromJson j m).1 read
    obtain ⟨_, _, parsed'⟩ := (fromJson j' m').1 read'
    exact (fromText parsed).eq_iff_toJson (fromText parsed')
  · intro s s' p p' parsed parsed'
    exact (MacPrefix.readsBack_of_parsed parsed).eq_iff_text
      (MacPrefix.readsBack_of_parsed parsed')
  · intro j p
    exact ofJson?_eq_some_iff_parse fun _ => rfl

/-- A prefix of a partial address with bits beyond the counted ones. -/
theorem unmasked_prefix_read_back :
    let p := MacPrefix.ofOctets [0x22, 0x4F, 0x60] 12
    MacPrefix.parse "22-4F-60/+012" = .ok p ∧ p.text = "22:40:00:00:00:00/12" ∧
      ReadsBack MacPrefix.parse MacPrefix.ofJson? MacPrefix.text MacPrefix.toJson p := by
  intro p
  have parsed : MacPrefix.parse "22-4F-60/+012" = .ok p := by decide +kernel
  exact ⟨parsed, by decide +kernel, written_forms_read_back.2.2.2.2.2.1 _ p parsed⟩

end HardwareIndex
