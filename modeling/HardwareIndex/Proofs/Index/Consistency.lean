import HardwareIndex.Proofs.Index.Owners

/-!
# Consistent entries

Entries are consistent if every record stands under its own name, every owner
of a key lists it, and every key that some record lists has an owner. Records
come and go without breaking this, however they share their keys: between the
removal of a record and the release of its keys, or between a claim and the
insertion of the claimant, it is the spec of the whole operation that counts.
-/

namespace HardwareIndex

open Std

namespace Entries

variable {R : Type} [Indexed R] {K : Type}

/-- The owners of keys list them, and every key that some record lists has an owner. -/
structure OwnersAgree (records : NameMap R) (lists : K → R → Bool)
    (owner? : K → Option ObjectName) : Prop where
  listed : ∀ {k : K} {name : ObjectName}, owner? k = some name →
    ∃ r, records[name]? = some r ∧ lists k r = true
  owned : ∀ {k : K} {name : ObjectName} {r : R}, records[name]? = some r → lists k r = true →
    (owner? k).isSome

/-- Every record stands under its name, and the owners of both kinds of keys agree with the
    records. -/
structure Consistent (e : Entries R) : Prop where
  named : ∀ {name : ObjectName} {r : R}, e.records[name]? = some r → Indexed.name r = name
  macs : OwnersAgree e.records listsMac (e.macOwners[·]?)
  uuids : OwnersAgree e.records listsUuid (e.uuidOwners[·]?)

omit [Indexed R] in
theorem OwnersAgree.isSome_iff {records : NameMap R} {lists : K → R → Bool}
    {owner? : K → Option ObjectName} (h : OwnersAgree records lists owner?) {k : K} :
    (owner? k).isSome ↔
      ∃ (name : ObjectName) (r : R), records[name]? = some r ∧ lists k r = true := by
  constructor
  · intro owned
    obtain ⟨name, owner⟩ := Option.isSome_iff_exists.1 owned
    obtain ⟨r, held, lists⟩ := h.listed owner
    exact ⟨name, r, held, lists⟩
  · rintro ⟨name, r, held, lists⟩
    exact h.owned held lists

/-- Claimants agree with the records they are looked for among. -/
theorem ownersAgree_claimant? {e : Entries R}
    (named : ∀ {name : ObjectName} {r : R}, e.records[name]? = some r → Indexed.name r = name)
    (lists : K → R → Bool) :
    OwnersAgree e.records lists fun k => e.claimant? (lists k) := by
  constructor
  · intro k name claimed
    obtain ⟨n, r, held, lists, rfl⟩ := exists_of_claimant?_eq_some claimed
    exact ⟨r, (named held).symm ▸ held, lists⟩
  · intro k name r held lists
    exact isSome_claimant?_iff.2 ⟨name, r, held, lists⟩

omit [Indexed R] in
/-- A record goes and its keys fall to others: only what it owned and listed changes hands. -/
theorem OwnersAgree.erase {records : NameMap R} {lists : K → R → Bool}
    {owner? owner'? heir? : K → Option ObjectName} {name : ObjectName} {old : R}
    (h : OwnersAgree records lists owner?) (held : records[name]? = some old)
    (heirs : OwnersAgree (records.erase name) lists heir?)
    (handed : ∀ k, owner'? k =
      if lists k old = true ∧ owner? k = some name then heir? k else owner? k) :
    OwnersAgree (records.erase name) lists owner'? := by
  constructor
  · intro k n owner
    rw [handed] at owner
    split at owner
    · exact heirs.listed owner
    · rename_i kept
      obtain ⟨r, found, listed⟩ := h.listed owner
      -- The owner is not the record that went, for that one would have let go of the key.
      have other : name ≠ n := by
        rintro rfl
        cases held.symm.trans found
        exact kept ⟨listed, owner⟩
      exact ⟨r, by simpa [ExtTreeMap.getElem?_erase, other] using found, listed⟩
  · intro k n r found listed
    rw [handed]
    split
    · exact heirs.owned found listed
    · have other : name ≠ n := by
        rintro rfl
        simp at found
      exact h.owned (by simpa [ExtTreeMap.getElem?_erase, other] using found) listed

omit [Indexed R] in
/-- A record comes under a free name and takes all that it lists. -/
theorem OwnersAgree.insert {records : NameMap R} {lists : K → R → Bool}
    {owner? owner'? : K → Option ObjectName} {name : ObjectName} {r : R}
    (h : OwnersAgree records lists owner?) (absent : records[name]? = none)
    (taken : ∀ k, owner'? k = if lists k r = true then some name else owner? k) :
    OwnersAgree (records.insert name r) lists owner'? := by
  constructor
  · intro k n owner
    rw [taken] at owner
    split at owner
    · rename_i listed
      cases owner
      exact ⟨r, by simp, listed⟩
    · obtain ⟨r', found, listed⟩ := h.listed owner
      have other : name ≠ n := by
        rintro rfl
        cases absent.symm.trans found
      exact ⟨r', by simpa [ExtTreeMap.getElem?_insert, other] using found, listed⟩
  · intro k n r' found listed
    rw [taken]
    split
    · rfl
    · rename_i unlisted
      rw [ExtTreeMap.getElem?_insert] at found
      split at found
      · cases found
        exact absurd listed unlisted
      · exact h.owned found listed

theorem consistent_empty : Consistent (empty : Entries R) := by
  refine ⟨?_, ⟨?_, ?_⟩, ⟨?_, ?_⟩⟩ <;> simp [empty]

/-- Records that are left stand under their names. -/
theorem Consistent.named_erase {e : Entries R} (h : e.Consistent) {name n : ObjectName} {r : R}
    (found : (e.records.erase name)[n]? = some r) : Indexed.name r = n := by
  rw [ExtTreeMap.getElem?_erase] at found
  split at found
  · cases found
  · exact h.named found

theorem Consistent.remove {e : Entries R} (h : e.Consistent) (name : ObjectName) :
    (e.remove name).Consistent := by
  cases held : e.records[name]? with
  | none => rwa [remove_of_absent held]
  | some old =>
    have namedOld : Indexed.name old = name := h.named held
    let rest : Entries R := { e with records := e.records.erase name }
    have named : ∀ {n : ObjectName} {r : R}, rest.records[n]? = some r → Indexed.name r = n :=
      h.named_erase
    rw [remove_of_present held]
    refine ⟨?_, ?_, ?_⟩
    · intro n r found
      rw [release_records] at found
      exact named found
    · rw [release_records]
      apply h.macs.erase held (ownersAgree_claimant? named listsMac)
      intro k
      simp only [release_macOwners, namedOld, listsMac_iff]
      rfl
    · rw [release_records]
      apply h.uuids.erase held (ownersAgree_claimant? named listsUuid)
      intro k
      simp only [release_uuidOwners, namedOld, listsUuid_iff]
      rfl

theorem Consistent.insert {e : Entries R} (h : e.Consistent) (r : R) :
    (e.insert r).1.Consistent := by
  have rest := h.remove (Indexed.name r)
  have absent : (e.remove (Indexed.name r)).records[Indexed.name r]? = none := by simp
  refine ⟨?_, ?_, ?_⟩
  · intro name r' found
    rw [insert_records, ← remove_records, ExtTreeMap.getElem?_insert] at found
    split at found
    · rename_i same
      cases found
      simpa using same
    · exact rest.named found
  · rw [insert_records, ← remove_records]
    apply rest.macs.insert absent
    intro k
    simp only [insert_macOwners, listsMac_iff]
  · rw [insert_records, ← remove_records]
    apply rest.uuids.insert absent
    intro k
    simp only [insert_uuidOwners, listsUuid_iff]

/-- A run of insertions is one after the other, whatever was warned of before. -/
theorem insertAll_cons (e : Entries R) (r : R) (records : List R) :
    (e.insertAll (r :: records)).1 = ((e.insert r).1.insertAll records).1 := by
  have warned : ∀ (records : List R) (e : Entries R) (w w' : List Warning),
      (records.foldl (fun (p : Entries R × List Warning) r =>
        ((p.1.insert r).1, p.2 ++ (p.1.insert r).2)) (e, w)).1 =
      (records.foldl (fun (p : Entries R × List Warning) r =>
        ((p.1.insert r).1, p.2 ++ (p.1.insert r).2)) (e, w')).1 := by
    intro records
    induction records with
    | nil => intros; rfl
    | cons r records ih => intro e w w'; exact ih _ _ _
  exact warned records _ _ _

/-- Of several records with one name the last is kept; the others make no difference to it. -/
theorem insertAll_records (e : Entries R) (records : List R) (name : ObjectName) :
    (e.insertAll records).1.records[name]? =
      (records.filter fun r => Indexed.name r = name).getLast?.or e.records[name]? := by
  induction records generalizing e with
  | nil => rfl
  | cons r records ih =>
    rw [insertAll_cons, ih, insert_records]
    by_cases named : Indexed.name r = name
    · subst named
      rw [List.filter_cons_of_pos (by simp), List.getLast?_cons]
      cases later : (records.filter fun r' => Indexed.name r' = Indexed.name r).getLast? <;> simp
    · rw [List.filter_cons_of_neg (by simpa using named)]
      simp [ExtTreeMap.getElem?_insert, ExtTreeMap.getElem?_erase, named]

theorem Consistent.insertAll {e : Entries R} (h : e.Consistent) (records : List R) :
    (e.insertAll records).1.Consistent := by
  induction records generalizing e with
  | nil => exact h
  | cons r records ih =>
    rw [insertAll_cons]
    exact ih (h.insert r)

/-! ## What queries find -/

theorem Consistent.mem_macOwners_iff {e : Entries R} (h : e.Consistent) {mac : Mac} :
    mac ∈ e.macOwners ↔
      ∃ (name : ObjectName) (r : R), e.records[name]? = some r ∧ mac ∈ Indexed.macs r := by
  rw [ExtTreeMap.mem_iff_isSome_getElem?, h.macs.isSome_iff]
  simp only [listsMac_iff]

theorem Consistent.mem_uuidOwners_iff {e : Entries R} (h : e.Consistent) {uuid : Uuid} :
    uuid ∈ e.uuidOwners ↔
      ∃ (name : ObjectName) (r : R), e.records[name]? = some r ∧ Indexed.uuid r = some uuid := by
  rw [ExtTreeMap.mem_iff_isSome_getElem?, h.uuids.isSome_iff]
  simp only [listsUuid_iff]

omit [Indexed R] in
/-- Following an owner to its record finds one exactly for the keys that are listed, and one
    that lists the key. -/
theorem OwnersAgree.bind_records {records : NameMap R} {lists : K → R → Bool}
    {owner? : K → Option ObjectName} (h : OwnersAgree records lists owner?) (k : K) :
    ((owner? k).bind (records[·]?)).isSome = (owner? k).isSome ∧
      ∀ r, (owner? k).bind (records[·]?) = some r →
        ∃ name : ObjectName, records[name]? = some r ∧ lists k r = true := by
  cases owner : owner? k with
  | none => simp
  | some name =>
    obtain ⟨r, held, lists⟩ := h.listed owner
    simp only [Option.bind_some, held, Option.isSome_some, Option.some.injEq, true_and]
    rintro r' rfl
    exact ⟨name, held, lists⟩

/-- A query for an address that is matched exactly finds a record exactly if one lists it. -/
theorem Consistent.byMac?_exact {e : Entries R} (h : e.Consistent)
    (exact : Indexed.matching R = .exact) (mac : Mac) :
    ((e.byMac? mac).isSome ↔
      ∃ (name : ObjectName) (r : R), e.records[name]? = some r ∧ mac ∈ Indexed.macs r) ∧
    ∀ r, e.byMac? mac = some r → e.records[Indexed.name r]? = some r ∧ mac ∈ Indexed.macs r := by
  have lookup : e.byMac? mac = e.macOwners[mac]?.bind fun name => e.records[name]? := by
    rw [byMac?, exact]
  obtain ⟨same, listed⟩ := h.macs.bind_records mac
  rw [lookup]
  constructor
  · rw [same, h.macs.isSome_iff]
    simp only [listsMac_iff]
  · intro r found
    obtain ⟨name, held, lists⟩ := listed r found
    exact ⟨(h.named held).symm ▸ held, listsMac_iff.1 lists⟩

/-- A query for an identifier finds a record exactly if one has it. -/
theorem Consistent.byUuid?_spec {e : Entries R} (h : e.Consistent) (uuid : Uuid) :
    ((e.byUuid? uuid).isSome ↔
      ∃ (name : ObjectName) (r : R), e.records[name]? = some r ∧ Indexed.uuid r = some uuid) ∧
    ∀ r, e.byUuid? uuid = some r →
      e.records[Indexed.name r]? = some r ∧ Indexed.uuid r = some uuid := by
  obtain ⟨same, listed⟩ := h.uuids.bind_records uuid
  rw [byUuid?]
  constructor
  · rw [same, h.uuids.isSome_iff]
    simp only [listsUuid_iff]
  · intro r found
    obtain ⟨name, held, lists⟩ := listed r found
    exact ⟨(h.named held).symm ▸ held, listsUuid_iff.1 lists⟩

end Entries

end HardwareIndex
