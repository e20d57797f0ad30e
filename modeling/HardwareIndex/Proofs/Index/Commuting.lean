import HardwareIndex.Proofs.Index.Ownership

/-!
# Updates in either order

Updates of different names may be made in either order: a key that one of the two
names owned passes through the hands of the other at most for the time between,
and ends with the first record, in name order, that is neither of the two. Only
two records that are set and list one key leave a trace of their order, since the
later one owns that key. What the caller of an update is told is the same in any
case.
-/

namespace HardwareIndex

open Std

namespace Update

variable {R : Type} [Indexed R] {e : Entries R} {u u' : Update R} {key : RecordKey}

/-- Both updates set records, and these list one address or have one identifier. -/
def Contends (u u' : Update R) : Prop :=
  ∃ r r' : R, u = .set r ∧ u' = .set r' ∧
    ((∃ mac : Mac, mac ∈ Indexed.macs r ∧ mac ∈ Indexed.macs r') ∨
      ∃ uuid : Uuid, Indexed.uuid r = some uuid ∧ Indexed.uuid r' = some uuid)

theorem lists_iff : u.lists key = true ↔ ∃ r, u = .set r ∧ Entries.lists key r = true := by
  cases u <;> simp [lists, record?]

theorem contends_iff :
    u.Contends u' ↔ ∃ key : RecordKey, u.lists key = true ∧ u'.lists key = true := by
  simp only [lists_iff]
  constructor
  · rintro ⟨r, r', rfl, rfl, ⟨mac, listed, listed'⟩ | ⟨uuid, listed, listed'⟩⟩
    · exact ⟨.mac mac, ⟨r, rfl, Entries.listsMac_iff.2 listed⟩, r', rfl,
        Entries.listsMac_iff.2 listed'⟩
    · exact ⟨.uuid uuid, ⟨r, rfl, Entries.listsUuid_iff.2 listed⟩, r', rfl,
        Entries.listsUuid_iff.2 listed'⟩
  · rintro ⟨key, ⟨r, rfl, listed⟩, r', rfl, listed'⟩
    refine ⟨r, r', rfl, rfl, ?_⟩
    cases key with
    | mac mac => exact Or.inl ⟨mac, Entries.listsMac_iff.1 listed, Entries.listsMac_iff.1 listed'⟩
    | uuid uuid =>
      exact Or.inr ⟨uuid, Entries.listsUuid_iff.1 listed, Entries.listsUuid_iff.1 listed'⟩

theorem records_comm (apart : u.name ≠ u'.name) (e : Entries R) (name : ObjectName) :
    (u'.applyTo (u.applyTo e)).records[name]? = (u.applyTo (u'.applyTo e)).records[name]? := by
  simp only [records_applyTo]
  by_cases first : u.name = name
  · have other : u'.name ≠ name := fun second => apart (first.trans second.symm)
    simp [first, other]
  · simp [first]

/-- For a key that an update does not list its record is as good as absent. -/
theorem first?_erase_applyTo (unlisted : u.lists key = false) (name : ObjectName) :
    NameMap.first? ((u.applyTo e).records.erase name) (Entries.lists key) =
      NameMap.first? ((e.records.erase u.name).erase name) (Entries.lists key) := by
  apply NameMap.first?_congr
  intro n
  rw [ExtTreeMap.getElem?_erase, ExtTreeMap.getElem?_erase, records_applyTo,
    ExtTreeMap.getElem?_erase]
  by_cases gone : name = n
  · simp [gone]
  by_cases written : u.name = n
  · simpa [gone, written, lists] using unlisted
  · simp [gone, written]

/-- A key that neither of two updates lists goes to the first of the other records if one of
    the two names owned it. -/
theorem owner?_applyTo_applyTo (h : e.Consistent)
    (unlisted : u.lists key = false) (unlisted' : u'.lists key = false) :
    (u'.applyTo (u.applyTo e)).owner? key =
      if e.owner? key = some u.name ∨ e.owner? key = some u'.name then
        NameMap.first? ((e.records.erase u.name).erase u'.name) (Entries.lists key)
      else e.owner? key := by
  have after := u.consistent_applyTo h
  by_cases own : e.owner? key = some u.name
  · rw [if_pos (Or.inl own)]
    have first := owner?_of_owned h unlisted own
    -- The key has gone to the first other record: to the other name only for the time between.
    by_cases handed : NameMap.first? (e.records.erase u.name) (Entries.lists key) = some u'.name
    · rw [owner?_of_owned after unlisted' (first.trans handed), first?_erase_applyTo unlisted]
    · rw [NameMap.first?_erase_of_ne handed, ← first]
      exact owner?_of_unowned after unlisted' (first.symm ▸ handed)
  · have first := owner?_of_unowned h unlisted own
    by_cases own' : e.owner? key = some u'.name
    · rw [if_pos (Or.inr own'), owner?_of_owned after unlisted' (first.trans own'),
        first?_erase_applyTo unlisted]
    · rw [if_neg (not_or.2 ⟨own, own'⟩), ← first]
      exact owner?_of_unowned after unlisted' (first.symm ▸ own')

/-- A key that only the first of two updates lists stays with its record. -/
theorem owner?_of_first_lists (h : e.Consistent) (apart : u.name ≠ u'.name)
    (listed : u.lists key = true) (unlisted' : u'.lists key = false) :
    (u'.applyTo (u.applyTo e)).owner? key = some u.name := by
  have first := owner?_of_lists h listed
  rw [← first]
  apply owner?_of_unowned (u.consistent_applyTo h) unlisted'
  rw [first]
  exact fun same => apart (Option.some.inj same)

/-- A key that the second of two updates lists goes to its record. -/
theorem owner?_of_second_lists (h : e.Consistent) (listed' : u'.lists key = true) :
    (u'.applyTo (u.applyTo e)).owner? key = some u'.name :=
  owner?_of_lists (u.consistent_applyTo h) listed'

theorem owner?_comm (h : e.Consistent) (apart : u.name ≠ u'.name)
    (free : ¬(u.lists key = true ∧ u'.lists key = true)) :
    (u'.applyTo (u.applyTo e)).owner? key = (u.applyTo (u'.applyTo e)).owner? key := by
  cases listed : u.lists key with
  | true =>
    have unlisted' : u'.lists key = false := by
      simpa [listed] using free
    rw [owner?_of_first_lists h apart listed unlisted', owner?_of_second_lists h listed]
  | false =>
    cases listed' : u'.lists key with
    | true =>
      rw [owner?_of_second_lists h listed', owner?_of_first_lists h apart.symm listed' listed]
    | false =>
      have swapped : (e.records.erase u'.name).erase u.name =
          (e.records.erase u.name).erase u'.name := by
        apply ExtTreeMap.ext_getElem?
        intro name
        simp only [ExtTreeMap.getElem?_erase]
        split <;> split <;> rfl
      rw [owner?_applyTo_applyTo h listed listed',
        owner?_applyTo_applyTo h listed' listed, swapped]
      simp only [or_comm]

/-- Updates of different names commute exactly if they do not contend for a key. -/
theorem applyTo_comm_iff (h : e.Consistent) (apart : u.name ≠ u'.name) :
    u'.applyTo (u.applyTo e) = u.applyTo (u'.applyTo e) ↔ ¬u.Contends u' := by
  rw [contends_iff]
  constructor
  · rintro same ⟨key, listed, listed'⟩
    have owner := owner?_of_second_lists (u := u) h listed'
    rw [same, owner?_of_second_lists h listed] at owner
    exact apart (Option.some.inj owner)
  · intro free
    apply Entries.ext_owners (records_comm apart e)
    intro key
    exact owner?_comm h apart fun both => free ⟨key, both⟩

end Update

namespace Run

variable {R : Type} [Indexed R]

/-- Make two updates of different names after any run. Either order leaves the same records and
    the same owners of all keys, unless both set records and these list one address or have one
    identifier; then it does not. The caller of each update is told the same in either order. -/
theorem updates_commute (steps : List (Step R)) (u u' : Update R) (apart : u.name ≠ u'.name) :
    let session (updates : List (Update R)) := (of (steps ++ updates.map Update.toStep)).session
    let reply (updates : List (Update R)) (u : Update R) :=
      ((session updates).step (steps.length + updates.length) u.toStep).2.1
    ((session [u, u']).index.entries = (session [u', u]).index.entries ↔ ¬u.Contends u') ∧
    reply [] u = reply [u'] u ∧ reply [u] u' = reply [] u' := by
  intro session reply
  have consistent : (of steps).session.index.entries.Consistent := consistent steps
  have entries (updates : List (Update R)) : (session updates).index.entries =
      updates.foldl (fun e u => u.applyTo e) (of steps).session.index.entries :=
    entries_append_updates steps updates
  have told {u u' : Update R} (apart : u.name ≠ u'.name) : reply [u'] u = reply [] u := by
    cases u with
    | set record => rfl
    | delete name =>
      have held : (session [u']).index.entries.records[name]? =
          (session []).index.entries.records[name]? := by
        rw [entries, entries]
        exact (u'.records_applyTo _ name).trans (if_neg apart.symm)
      exact congrArg Reply.removed held
  refine ⟨?_, (told apart).symm, told apart.symm⟩
  rw [entries, entries]
  exact Update.applyTo_comm_iff consistent apart

/-- Two machines that share an address with a third one both let go of it. -/
theorem let_go_in_either_order :
    let mac (last : UInt8) : Mac := ⟨Mac.buffer [0x00, 0xDE, 0x11, 0x64, 0x00, last], 6⟩
    let machine (name : String) (last : UInt8) : Machine :=
      ⟨⟨"lab", name⟩, none, [⟨none, mac last, none⟩], .null⟩
    let steps : List (Step Machine) :=
      [.set (machine "c" 1), .set (machine "a" 1), .set (machine "b" 1)]
    let u : Update Machine := .set (machine "a" 2)
    let u' : Update Machine := .set (machine "b" 3)
    u.name ≠ u'.name ∧ (of (steps ++ [u.toStep, u'.toStep])).session.index.entries =
      (of (steps ++ [u'.toStep, u.toStep])).session.index.entries := by
  intro mac machine steps u u'
  have apart : u.name ≠ u'.name := by decide
  have free : ¬u.Contends u' := by
    have different : mac 2 ≠ mac 3 := by decide
    rintro ⟨r, r', set, set', shared⟩
    obtain rfl := Update.set.inj set
    obtain rfl := Update.set.inj set'
    rcases shared with ⟨_, listed, listed'⟩ | ⟨_, listed, _⟩
    · exact different ((List.mem_singleton.1 listed).symm.trans (List.mem_singleton.1 listed'))
    · cases listed
  exact ⟨apart, (updates_commute steps u u' apart).1.2 free⟩

end Run

end HardwareIndex
