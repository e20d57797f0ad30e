import HardwareIndex.Proofs.Index.Ownership

/-!
# Updates made again and undone

An update that is made twice is made once, and one that sets a record as it
stands, with all its keys its own, changes nothing. A record that comes and goes
leaves no trace if no key of it was listed more than once before; a record that
goes and comes leaves none if it owned all its keys, whoever else lists them. In
each case the keys pass through the hands of others and come back.
-/

namespace HardwareIndex

open Std

namespace Entries

variable {R : Type} [Indexed R] {e : Entries R} {r : R}

/-- A record owns all keys that it lists. -/
def OwnsAll (e : Entries R) (r : R) : Prop :=
  ∀ key : RecordKey, lists key r = true → e.owner? key = some (Indexed.name r)

/-- Of the keys of a record each is listed by at most one record of the entries. -/
def SharesWithOne (e : Entries R) (r : R) : Prop :=
  ∀ key : RecordKey, lists key r = true → ∀ name name' : ObjectName,
    e.records[name]?.any (lists key) = true → e.records[name']?.any (lists key) = true →
    name = name'

/-- Where a key is listed at most once, its owner is the first to list it. -/
theorem Consistent.first?_eq_owner? (h : e.Consistent) {key : RecordKey}
    (once : ∀ name name' : ObjectName, e.records[name]?.any (lists key) = true →
      e.records[name']?.any (lists key) = true → name = name') :
    NameMap.first? e.records (lists key) = e.owner? key := by
  rw [NameMap.first?_eq_iff]
  cases owner : e.owner? key with
  | none =>
    intro name
    cases held : e.records[name]? with
    | none => rfl
    | some r =>
      cases listed : lists key r with
      | false => simp [listed]
      | true =>
        have owned := h.owners.owned held listed
        simp [owner] at owned
  | some name =>
    obtain ⟨r, held, listed⟩ := h.owners.listed owner
    have passes : e.records[name]?.any (lists key) = true := by simp [held, listed]
    refine ⟨passes, ?_⟩
    intro other passes'
    rw [once name other passes passes']
    exact ReflCmp.isLE_rfl

end Entries

namespace Update

variable {R : Type} [Indexed R] {e : Entries R} {r : R} {name : ObjectName}

/-- An update that is made twice is made once. -/
theorem applyTo_applyTo_self (h : e.Consistent) (u : Update R) :
    u.applyTo (u.applyTo e) = u.applyTo e := by
  have after := u.consistent_applyTo h
  apply Entries.ext_owners
  · intro name
    simp only [records_applyTo]
    split <;> rfl
  · intro key
    cases listed : u.lists key with
    | true => rw [owner?_of_lists after listed, owner?_of_lists h listed]
    | false =>
      -- What the record does not list it has let go of the first time.
      apply owner?_of_unowned after listed
      by_cases owned : e.owner? key = some u.name
      · rw [owner?_of_owned h listed owned]
        exact NameMap.first?_erase_ne e.records (Entries.lists key) u.name
      · rwa [owner?_of_unowned h listed owned]

/-- A record that is set as it stands, with all its keys its own, changes nothing. -/
theorem applyTo_set_of_ownsAll (h : e.Consistent) (held : e.records[Indexed.name r]? = some r)
    (owns : e.OwnsAll r) : (Update.set r).applyTo e = e := by
  apply Entries.ext_owners
  · intro name
    rw [records_applyTo]
    by_cases same : Indexed.name r = name
    · simp [← same, held]
    · simp [same]
  · intro key
    cases listed : (Update.set r).lists key with
    | true => rw [owns key listed, owner?_of_lists h listed, name_set]
    | false =>
      apply owner?_of_unowned h listed
      intro owner
      cases listed.symm.trans (h.lists_of_owner? held owner)

/-- A record that comes under a free name and goes again leaves no trace, if at most one record
    lists each of its keys. -/
theorem applyTo_delete_set (h : e.Consistent) (absent : e.records[Indexed.name r]? = none)
    (shares : e.SharesWithOne r) :
    (Update.delete (Indexed.name r)).applyTo ((Update.set r).applyTo e) = e := by
  have after := (Update.set r).consistent_applyTo h
  have erased : ((Update.set r).applyTo e).records.erase (Indexed.name r) = e.records := by
    apply ExtTreeMap.ext_getElem?
    intro name
    rw [ExtTreeMap.getElem?_erase, records_applyTo]
    by_cases same : Indexed.name r = name
    · simp [← same, absent]
    · simp [same]
  apply Entries.ext_owners
  · intro name
    rw [applyTo, toStep, Step.applyTo, Entries.remove_records, erased]
  · intro key
    have unlisted := lists_delete (R := R) (Indexed.name r) key
    cases listed : (Update.set r).lists key with
    | true =>
      have taken := owner?_of_lists h listed
      rw [owner?_of_owned after unlisted taken, name_delete, erased]
      exact h.first?_eq_owner? (shares key listed)
    | false =>
      have unowned := h.owner?_ne_of_absent absent key
      have kept := owner?_of_unowned h listed unowned
      rw [owner?_of_unowned after unlisted (kept.symm ▸ unowned), kept]

/-- A record that goes and comes back leaves no trace, if it owned all its keys. -/
theorem applyTo_set_delete (h : e.Consistent) (held : e.records[name]? = some r)
    (owns : e.OwnsAll r) : (Update.set r).applyTo ((Update.delete name).applyTo e) = e := by
  obtain rfl := h.named held
  have after := (Update.delete (Indexed.name r)).consistent_applyTo h
  apply Entries.ext_owners
  · intro name
    rw [records_applyTo, records_applyTo]
    by_cases same : Indexed.name r = name
    · simp [← same, held]
    · simp [same]
  · intro key
    cases listed : (Update.set r).lists key with
    | true => rw [owns key listed, owner?_of_lists after listed, name_set]
    | false =>
      have unowned : e.owner? key ≠ some (Indexed.name r) := by
        intro owner
        cases listed.symm.trans (h.lists_of_owner? held owner)
      have kept := owner?_of_unowned h (lists_delete (Indexed.name r) key) unowned
      rw [owner?_of_unowned after listed (kept.symm ▸ unowned), kept]

end Update

namespace Run

variable {R : Type} [Indexed R]

/-- After any run: to set a record a second time changes nothing more, and to set one as it stands
    changes nothing at all if it owns all its keys. To set a record under a name that is free and
    to delete that name again changes nothing if each key of the record was listed by at most one
    record. To delete a record that owns all its keys and to set it again changes nothing either,
    whoever else lists them. -/
theorem reapplied_and_undone (steps : List (Step R)) :
    let entries (updates : List (Update R)) :=
      (of (steps ++ updates.map Update.toStep)).session.index.entries
    let before := (of steps).session.index.entries
    (∀ r : R, entries [.set r, .set r] = entries [.set r]) ∧
    (∀ r : R, before.records[Indexed.name r]? = some r → before.OwnsAll r →
      entries [.set r] = before) ∧
    (∀ r : R, before.records[Indexed.name r]? = none → before.SharesWithOne r →
      entries [.set r, .delete (Indexed.name r)] = before) ∧
    ∀ (name : ObjectName) (r : R), before.records[name]? = some r → before.OwnsAll r →
      entries [.delete name, .set r] = before := by
  intro entries before
  have consistent : before.Consistent := consistent steps
  have changed (updates : List (Update R)) : entries updates =
      updates.foldl (fun e u => u.applyTo e) before :=
    entries_append_updates steps updates
  refine ⟨?_, ?_, ?_, ?_⟩
  · intro r
    rw [changed, changed]
    exact Update.applyTo_applyTo_self consistent (.set r)
  · intro r held owns
    rw [changed]
    exact Update.applyTo_set_of_ownsAll consistent held owns
  · intro r absent shares
    rw [changed]
    exact Update.applyTo_delete_set consistent absent shares
  · intro name r held owns
    rw [changed]
    exact Update.applyTo_set_delete consistent held owns

/-- One machine owns an address that another lists, and a third one takes another address and
    gives it back. -/
theorem addresses_come_back :
    let mac (last : UInt8) : Mac := ⟨Mac.buffer [0x00, 0xDE, 0x11, 0x64, 0x00, last], 6⟩
    let machine (name : String) (macs : List Mac) : Machine :=
      ⟨⟨"lab", name⟩, none, macs.map fun mac => ⟨none, mac, none⟩, .null⟩
    let a := machine "a" [mac 1, mac 2]
    let b := machine "b" [mac 1]
    let c := machine "c" [mac 2, mac 2]
    let entries (updates : List (Update Machine)) :=
      (of ([.set a, .set b] ++ updates.map Update.toStep)).session.index.entries
    (entries []).OwnsAll b ∧ (entries []).SharesWithOne c ∧
    entries [.set b] = entries [] ∧ entries [.set c, .delete c.name] = entries [] ∧
    entries [.delete b.name, .set b] = entries [] := by
  intro mac machine a b c entries
  have owns : (entries []).OwnsAll b := by
    intro key listed
    cases key with
    | mac m =>
      obtain rfl : m = mac 1 := List.mem_singleton.1 (Entries.listsMac_iff.1 listed)
      decide +kernel
    | uuid u => cases Entries.listsUuid_iff.1 listed
  have shares : (entries []).SharesWithOne c := by
    intro key listed
    cases key with
    | mac m =>
      have member : m ∈ [mac 2, mac 2] := Entries.listsMac_iff.1 listed
      obtain rfl : m = mac 2 := by simpa using member
      have first : (entries []).records.toList.all
          (fun entry => !Entries.lists (.mac (mac 2)) entry.2 || entry.1 == a.name) = true := by
        decide +kernel
      have only {name : ObjectName} (passes : (entries []).records[name]?.any
          (Entries.lists (.mac (mac 2))) = true) : name = a.name := by
        obtain ⟨r, held, listed⟩ := (Option.any_eq_true _ _).1 passes
        have member := ExtTreeMap.mem_toList_iff_getElem?_eq_some.2 held
        simpa [listed] using List.all_eq_true.1 first (name, r) member
      intro name name' passes passes'
      exact (only passes).trans (only passes').symm
    | uuid u => cases Entries.listsUuid_iff.1 listed
  have heldB : (entries []).records[b.name]? = some b := by
    have last : entries [] = (Update.set b).applyTo ((Update.set a).applyTo Entries.empty) :=
      entries_append_updates [] [.set a, .set b]
    rw [last, Update.records_applyTo]
    exact if_pos rfl
  have absentC : (entries []).records[c.name]? = none := by
    decide +kernel
  obtain ⟨_, again, comes, goes⟩ := reapplied_and_undone [.set a, .set b]
  exact ⟨owns, shares, again b heldB owns, comes c absentC shares, goes b.name b heldB owns⟩

end Run

end HardwareIndex
