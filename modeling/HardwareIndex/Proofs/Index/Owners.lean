import HardwareIndex.Index.Entries

/-!
# Who owns a key

What each operation on entries does to the owner of one key, whatever else the
records share. A release hands the keys of a record that is gone to their
claimants; a claim makes a record the owner of all it lists. Neither depends on
the order in which the keys are visited, nor on how often a record lists one.
-/

namespace HardwareIndex

open Std

/-- The values of a map by name are the second components of its list. -/
theorem NameMap.values_eq {α : Type} (m : NameMap α) : m.values = m.toList.map Prod.snd := by
  obtain ⟨inner⟩ := m
  induction inner using ExtDTreeMap.inductionOn with
  | mk t =>
    change DTreeMap.Internal.Impl.values t.inner =
      (DTreeMap.Internal.Impl.Const.toList t.inner).map Prod.snd
    rw [DTreeMap.Internal.Impl.values_eq_map_snd,
      DTreeMap.Internal.Impl.Const.toList_eq_toListModel_map, List.map_map]
    rfl

theorem NameMap.mem_values {α : Type} {m : NameMap α} {a : α} :
    a ∈ m.values ↔ ∃ name : ObjectName, m[name]? = some a := by
  simp [NameMap.values_eq, ExtTreeMap.mem_toList_iff_getElem?_eq_some]

namespace Entries

variable {R : Type} [Indexed R]

@[simp] theorem listsMac_iff {mac : Mac} {r : R} :
    listsMac mac r = true ↔ mac ∈ Indexed.macs r := by
  simp [listsMac]

@[simp] theorem listsUuid_iff {uuid : Uuid} {r : R} :
    listsUuid uuid r = true ↔ Indexed.uuid r = some uuid := by
  simp [listsUuid]

/-- Claimants are looked for among the records alone. -/
theorem claimant?_congr {e e' : Entries R} (same : e.records = e'.records) (lists : R → Bool) :
    e.claimant? lists = e'.claimant? lists := by
  simp only [claimant?, same]

theorem exists_of_claimant?_eq_some {e : Entries R} {lists : R → Bool} {name : ObjectName}
    (h : e.claimant? lists = some name) :
    ∃ (n : ObjectName) (r : R),
      e.records[n]? = some r ∧ lists r = true ∧ Indexed.name r = name := by
  obtain ⟨r, found, named⟩ := Option.map_eq_some_iff.1 h
  obtain ⟨n, held⟩ := NameMap.mem_values.1 (List.mem_of_find?_eq_some found)
  exact ⟨n, r, held, List.find?_some found, named⟩

theorem isSome_claimant?_iff {e : Entries R} {lists : R → Bool} :
    (e.claimant? lists).isSome ↔
      ∃ (n : ObjectName) (r : R), e.records[n]? = some r ∧ lists r = true := by
  simp only [claimant?, Option.isSome_map, List.find?_isSome, NameMap.mem_values]
  constructor
  · rintro ⟨r, ⟨n, held⟩, lists⟩
    exact ⟨n, r, held, lists⟩
  · rintro ⟨n, r, held, lists⟩
    exact ⟨r, ⟨n, held⟩, lists⟩

/-! ## Releasing keys -/

@[simp] theorem releaseMac_records (name : ObjectName) (e : Entries R) (mac : Mac) :
    (releaseMac name e mac).records = e.records := by
  unfold releaseMac
  split
  · split <;> rfl
  · rfl

@[simp] theorem releaseMac_uuidOwners (name : ObjectName) (e : Entries R) (mac : Mac) :
    (releaseMac name e mac).uuidOwners = e.uuidOwners := by
  unfold releaseMac
  split
  · split <;> rfl
  · rfl

/-- An address that is released goes to its claimant, if its owner was the record that is
    gone. -/
theorem releaseMac_macOwners (name : ObjectName) (e : Entries R) (mac k : Mac) :
    (releaseMac name e mac).macOwners[k]? =
      if k = mac ∧ e.macOwners[k]? = some name then e.claimant? (listsMac k)
      else e.macOwners[k]? := by
  by_cases same : k = mac
  · subst same
    unfold releaseMac
    by_cases owned : e.macOwners[k]? = some name
    · cases heir : e.claimant? (listsMac k) <;> simp [owned]
    · simp [owned]
  · have other : mac ≠ k := Ne.symm same
    unfold releaseMac
    split
    · split <;> simp [same, other, ExtTreeMap.getElem?_insert, ExtTreeMap.getElem?_erase]
    · simp [same]

theorem releaseMacs_records (name : ObjectName) (macs : List Mac) (e : Entries R) :
    (macs.foldl (releaseMac name) e).records = e.records := by
  induction macs generalizing e with
  | nil => rfl
  | cons mac macs ih => rw [List.foldl_cons, ih, releaseMac_records]

theorem releaseMacs_uuidOwners (name : ObjectName) (macs : List Mac) (e : Entries R) :
    (macs.foldl (releaseMac name) e).uuidOwners = e.uuidOwners := by
  induction macs generalizing e with
  | nil => rfl
  | cons mac macs ih => rw [List.foldl_cons, ih, releaseMac_uuidOwners]

/-- To release an address twice is to release it once: what it went to is its claimant
    still. -/
theorem releaseMacs_macOwners (name : ObjectName) (macs : List Mac) (e : Entries R) (k : Mac) :
    (macs.foldl (releaseMac name) e).macOwners[k]? =
      if k ∈ macs ∧ e.macOwners[k]? = some name then e.claimant? (listsMac k)
      else e.macOwners[k]? := by
  induction macs generalizing e with
  | nil => simp
  | cons mac macs ih =>
    have claimant : (releaseMac name e mac).claimant? (listsMac k) = e.claimant? (listsMac k) :=
      claimant?_congr (releaseMac_records name e mac) _
    rw [List.foldl_cons, ih, releaseMac_macOwners, claimant]
    by_cases first : k = mac
    · subst first
      by_cases owned : e.macOwners[k]? = some name <;> simp [owned]
    · simp [first]

@[simp] theorem releaseUuid_records (name : ObjectName) (e : Entries R) (uuid : Uuid) :
    (releaseUuid name e uuid).records = e.records := by
  unfold releaseUuid
  split
  · split <;> rfl
  · rfl

@[simp] theorem releaseUuid_macOwners (name : ObjectName) (e : Entries R) (uuid : Uuid) :
    (releaseUuid name e uuid).macOwners = e.macOwners := by
  unfold releaseUuid
  split
  · split <;> rfl
  · rfl

theorem releaseUuid_uuidOwners (name : ObjectName) (e : Entries R) (uuid k : Uuid) :
    (releaseUuid name e uuid).uuidOwners[k]? =
      if k = uuid ∧ e.uuidOwners[k]? = some name then e.claimant? (listsUuid k)
      else e.uuidOwners[k]? := by
  by_cases same : k = uuid
  · subst same
    unfold releaseUuid
    by_cases owned : e.uuidOwners[k]? = some name
    · cases heir : e.claimant? (listsUuid k) <;> simp [owned]
    · simp [owned]
  · have other : uuid ≠ k := Ne.symm same
    unfold releaseUuid
    split
    · split <;> simp [same, other, ExtTreeMap.getElem?_insert, ExtTreeMap.getElem?_erase]
    · simp [same]

@[simp] theorem release_records (e : Entries R) (r : R) : (e.release r).records = e.records := by
  unfold release
  cases Indexed.uuid r <;> simp [releaseMacs_records]

theorem release_macOwners (e : Entries R) (r : R) (k : Mac) :
    (e.release r).macOwners[k]? =
      if k ∈ Indexed.macs r ∧ e.macOwners[k]? = some (Indexed.name r)
      then e.claimant? (listsMac k) else e.macOwners[k]? := by
  unfold release
  cases Indexed.uuid r <;> simp [releaseMacs_macOwners]

theorem release_uuidOwners (e : Entries R) (r : R) (k : Uuid) :
    (e.release r).uuidOwners[k]? =
      if Indexed.uuid r = some k ∧ e.uuidOwners[k]? = some (Indexed.name r)
      then e.claimant? (listsUuid k) else e.uuidOwners[k]? := by
  unfold release
  cases Indexed.uuid r with
  | none => simp [releaseMacs_uuidOwners]
  | some uuid =>
    have claimant := claimant?_congr (releaseMacs_records (Indexed.name r) (Indexed.macs r) e)
      (listsUuid k)
    simp [releaseUuid_uuidOwners, releaseMacs_uuidOwners, claimant, eq_comm]

/-! ## Claiming keys -/

@[simp] theorem claimMac_records (name : ObjectName) (p : Entries R × List Warning) (mac : Mac) :
    (claimMac name p mac).1.records = p.1.records := rfl

@[simp] theorem claimMac_uuidOwners (name : ObjectName) (p : Entries R × List Warning) (mac : Mac) :
    (claimMac name p mac).1.uuidOwners = p.1.uuidOwners := rfl

@[simp] theorem claimMac_macOwners (name : ObjectName) (p : Entries R × List Warning) (mac : Mac) :
    (claimMac name p mac).1.macOwners = p.1.macOwners.insert mac name := rfl

theorem claimMacs_records (name : ObjectName) (macs : List Mac) (p : Entries R × List Warning) :
    (macs.foldl (claimMac name) p).1.records = p.1.records := by
  induction macs generalizing p with
  | nil => rfl
  | cons mac macs ih => rw [List.foldl_cons, ih, claimMac_records]

theorem claimMacs_uuidOwners (name : ObjectName) (macs : List Mac) (p : Entries R × List Warning) :
    (macs.foldl (claimMac name) p).1.uuidOwners = p.1.uuidOwners := by
  induction macs generalizing p with
  | nil => rfl
  | cons mac macs ih => rw [List.foldl_cons, ih, claimMac_uuidOwners]

theorem claimMacs_macOwners (name : ObjectName) (macs : List Mac) (p : Entries R × List Warning)
    (k : Mac) :
    (macs.foldl (claimMac name) p).1.macOwners[k]? =
      if k ∈ macs then some name else p.1.macOwners[k]? := by
  induction macs generalizing p with
  | nil => simp
  | cons mac macs ih =>
    rw [List.foldl_cons, ih, claimMac_macOwners, ExtTreeMap.getElem?_insert]
    by_cases first : mac = k
    · simp [first]
    · simp [first, Ne.symm first]

@[simp] theorem claim_records (e : Entries R) (r : R) : (e.claim r).1.records = e.records := by
  unfold claim
  cases Indexed.uuid r <;> simp [claimUuid, claimMacs_records]

/-- A record that claims its keys owns every address that it lists. -/
theorem claim_macOwners (e : Entries R) (r : R) (k : Mac) :
    (e.claim r).1.macOwners[k]? =
      if k ∈ Indexed.macs r then some (Indexed.name r) else e.macOwners[k]? := by
  unfold claim
  cases Indexed.uuid r <;> simp [claimUuid, claimMacs_macOwners]

theorem claim_uuidOwners (e : Entries R) (r : R) (k : Uuid) :
    (e.claim r).1.uuidOwners[k]? =
      if Indexed.uuid r = some k then some (Indexed.name r) else e.uuidOwners[k]? := by
  unfold claim
  cases Indexed.uuid r <;>
    simp [claimUuid, claimMacs_uuidOwners, ExtTreeMap.getElem?_insert]

/-! ## Removing and inserting records -/

theorem remove_of_absent {e : Entries R} {name : ObjectName} (h : e.records[name]? = none) :
    e.remove name = e := by
  simp only [remove, h]

theorem remove_of_present {e : Entries R} {name : ObjectName} {old : R}
    (h : e.records[name]? = some old) :
    e.remove name = release { e with records := e.records.erase name } old := by
  simp only [remove, h]

@[simp] theorem remove_records (e : Entries R) (name : ObjectName) :
    (e.remove name).records = e.records.erase name := by
  cases held : e.records[name]? with
  | none =>
    rw [remove_of_absent held]
    apply ExtTreeMap.ext_getElem?
    intro k
    by_cases same : name = k
    · simp [← same, held]
    · simp [ExtTreeMap.getElem?_erase, same]
  | some old => simp [remove_of_present held]

@[simp] theorem insert_records (e : Entries R) (r : R) :
    (e.insert r).1.records = (e.records.erase (Indexed.name r)).insert (Indexed.name r) r := by
  simp [insert]

theorem insert_macOwners (e : Entries R) (r : R) (k : Mac) :
    (e.insert r).1.macOwners[k]? =
      if k ∈ Indexed.macs r then some (Indexed.name r)
      else (e.remove (Indexed.name r)).macOwners[k]? := by
  simp [insert, claim_macOwners]

theorem insert_uuidOwners (e : Entries R) (r : R) (k : Uuid) :
    (e.insert r).1.uuidOwners[k]? =
      if Indexed.uuid r = some k then some (Indexed.name r)
      else (e.remove (Indexed.name r)).uuidOwners[k]? := by
  simp [insert, claim_uuidOwners]

end Entries

end HardwareIndex
