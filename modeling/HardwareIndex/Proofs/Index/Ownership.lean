import HardwareIndex.Proofs.Index.Integrity
import HardwareIndex.Proofs.Index.Updates

/-!
# Owners after an update

An update sets or deletes the record of one name. It leaves a key with the record
that is set, if that one lists the key; a key that the name owned before and that
it does not list any longer falls to the first other record, in name order, that
lists it; every other key stays where it was. All keys, addresses and
identifiers alike, follow this one rule. Updates are steps that a session at rest
takes alone: no pending call moves on account of one.
-/

namespace HardwareIndex

open Std

/-! ## The first name -/

namespace NameMap

variable {α : Type} {m m' : NameMap α} {test : α → Bool} {name : ObjectName}

/-- A name is the first one, in name order, under which a value passes a test, or no value
    passes it. -/
def IsFirst (m : NameMap α) (test : α → Bool) : Option ObjectName → Prop
  | some name => m[name]?.any test = true ∧
    ∀ other : ObjectName, m[other]?.any test = true → (compare name other).isLE = true
  | none => ∀ name : ObjectName, m[name]?.any test = false

/-- The first name under which a value passes a test. -/
def first? (m : NameMap α) (test : α → Bool) : Option ObjectName :=
  (m.toList.find? (test ∘ Prod.snd)).map Prod.fst

theorem isFirst_first? (m : NameMap α) (test : α → Bool) : IsFirst m test (first? m test) := by
  unfold first?
  cases found : m.toList.find? (test ∘ Prod.snd) with
  | none =>
    intro name
    cases held : m[name]? with
    | none => rfl
    | some a =>
      have member : (name, a) ∈ m.toList := ExtTreeMap.mem_toList_iff_getElem?_eq_some.2 held
      simpa using List.find?_eq_none.1 found (name, a) member
  | some entry =>
    obtain ⟨name, a⟩ := entry
    obtain ⟨passes, before, rest, split, failed⟩ := List.find?_eq_some_iff_append.1 found
    have ordered := m.ordered_keys_toList
    rw [split] at ordered
    refine ⟨?_, ?_⟩
    · have member : (name, a) ∈ m.toList := List.mem_of_find?_eq_some found
      rw [ExtTreeMap.mem_toList_iff_getElem?_eq_some.1 member]
      exact passes
    · intro other passes'
      obtain ⟨b, held, passes'⟩ := (Option.any_eq_true _ _).1 passes'
      have member := ExtTreeMap.mem_toList_iff_getElem?_eq_some.2 held
      rw [split] at member
      rcases List.mem_append.1 member with earlier | later
      · have fails := failed (other, b) earlier
        simp [passes'] at fails
      rcases List.mem_cons.1 later with same | later
      · cases same
        exact ReflCmp.isLE_rfl
      · have below := List.rel_of_pairwise_cons (List.pairwise_append.1 ordered).2.1 later
        rw [below]
        rfl

theorem IsFirst.unique {o o' : Option ObjectName} (h : IsFirst m test o) (h' : IsFirst m test o') :
    o = o' := by
  cases o with
  | none =>
    cases o' with
    | none => rfl
    | some name' => cases (h name').symm.trans h'.1
  | some name =>
    cases o' with
    | none => cases (h' name).symm.trans h.1
    | some name' =>
      have same := OrientedCmp.isLE_antisymm (h.2 name' h'.1) (h'.2 name h.1)
      rw [LawfulEqCmp.eq_of_compare same]

theorem first?_eq_iff {o : Option ObjectName} : first? m test = o ↔ IsFirst m test o := by
  constructor
  · rintro rfl
    exact isFirst_first? m test
  · exact (isFirst_first? m test).unique

/-- Which name is the first depends only on where the test is passed. -/
theorem first?_congr (same : ∀ name : ObjectName, m[name]?.any test = m'[name]?.any test) :
    first? m test = first? m' test := by
  rw [first?_eq_iff]
  have first := isFirst_first? m' test
  cases found : first? m' test with
  | none =>
    rw [found] at first
    intro name
    rw [same]
    exact first name
  | some name =>
    rw [found] at first
    refine ⟨(same name).trans first.1, ?_⟩
    intro other passes
    exact first.2 other ((same other).symm.trans passes)

theorem first?_erase_ne (m : NameMap α) (test : α → Bool) (name : ObjectName) :
    first? (m.erase name) test ≠ some name := by
  intro found
  have passes := (first?_eq_iff.1 found).1
  simp at passes

/-- Only when the first name goes there is another first one. -/
theorem first?_erase_of_ne (other : first? m test ≠ some name) :
    first? (m.erase name) test = first? m test := by
  have first := isFirst_first? m test
  rw [first?_eq_iff]
  cases found : first? m test with
  | none =>
    rw [found] at first
    intro n
    by_cases gone : name = n
    · simp [gone]
    · simpa [ExtTreeMap.getElem?_erase, gone] using first n
  | some n =>
    rw [found] at first other
    have apart : name ≠ n := fun same => other (congrArg some same.symm)
    refine ⟨by simpa [ExtTreeMap.getElem?_erase, apart] using first.1, ?_⟩
    intro n' passes
    apply first.2 n'
    by_cases gone : name = n'
    · simp [gone] at passes
    · simpa [ExtTreeMap.getElem?_erase, gone] using passes

end NameMap

/-! ## Keys of both kinds -/

/-- What a record is found under beside its name. -/
inductive RecordKey where
  | mac (mac : Mac)
  | uuid (uuid : Uuid)

namespace Entries

variable {R : Type} [Indexed R] {e e' : Entries R}

/-- Whether a record lists a key. -/
def lists : RecordKey → R → Bool
  | .mac mac => listsMac mac
  | .uuid uuid => listsUuid uuid

/-- The name of the record that owns a key. -/
def owner? (e : Entries R) : RecordKey → Option ObjectName
  | .mac mac => e.macOwners[mac]?
  | .uuid uuid => e.uuidOwners[uuid]?

omit [Indexed R] in
/-- Entries are the same if they have the same records and each key has the same owner. -/
theorem ext_owners (records : ∀ name : ObjectName, e.records[name]? = e'.records[name]?)
    (owners : ∀ key : RecordKey, e.owner? key = e'.owner? key) : e = e' := by
  have records : e.records = e'.records := ExtTreeMap.ext_getElem? fun name => records name
  have macs : e.macOwners = e'.macOwners := ExtTreeMap.ext_getElem? fun mac => owners (.mac mac)
  have uuids : e.uuidOwners = e'.uuidOwners :=
    ExtTreeMap.ext_getElem? fun uuid => owners (.uuid uuid)
  obtain ⟨_, _, _⟩ := e
  obtain ⟨_, _, _⟩ := e'
  cases records
  cases macs
  cases uuids
  rfl

theorem Consistent.owners (h : e.Consistent) : OwnersAgree e.records lists e.owner? := by
  constructor
  · intro key name owner
    cases key with
    | mac mac => exact h.macs.listed owner
    | uuid uuid => exact h.uuids.listed owner
  · intro key name r held listed
    cases key with
    | mac mac => exact h.macs.owned held listed
    | uuid uuid => exact h.uuids.owned held listed

/-- What a record owns, it lists. -/
theorem Consistent.lists_of_owner? (h : e.Consistent) {name : ObjectName} {r : R} {key : RecordKey}
    (held : e.records[name]? = some r) (owner : e.owner? key = some name) : lists key r = true := by
  obtain ⟨r', held', listed⟩ := h.owners.listed owner
  cases held.symm.trans held'
  exact listed

theorem Consistent.owner?_ne_of_absent (h : e.Consistent) {name : ObjectName}
    (absent : e.records[name]? = none) (key : RecordKey) : e.owner? key ≠ some name := by
  intro owner
  obtain ⟨r, held, _⟩ := h.owners.listed owner
  cases absent.symm.trans held

/-- The claimant is the first one to list the key. -/
theorem claimant?_eq_first?
    (named : ∀ {name : ObjectName} {r : R}, e.records[name]? = some r → Indexed.name r = name)
    (test : R → Bool) : e.claimant? test = NameMap.first? e.records test := by
  rw [claimant?, NameMap.first?, NameMap.values_eq, List.find?_map, Option.map_map]
  cases found : e.records.toList.find? (test ∘ Prod.snd) with
  | none => rfl
  | some entry =>
    have held := ExtTreeMap.mem_toList_iff_getElem?_eq_some.1 (List.mem_of_find?_eq_some found)
    exact congrArg some (named held)

theorem owner?_release (e : Entries R) (r : R) (key : RecordKey) :
    (e.release r).owner? key =
      if lists key r = true ∧ e.owner? key = some (Indexed.name r) then e.claimant? (lists key)
      else e.owner? key := by
  cases key with
  | mac mac => simpa only [owner?, lists, listsMac_iff] using release_macOwners e r mac
  | uuid uuid => simpa only [owner?, lists, listsUuid_iff] using release_uuidOwners e r uuid

/-- A record that goes leaves each key that it owned to the first one left that lists it. -/
theorem Consistent.owner?_remove (h : e.Consistent) (name : ObjectName) (key : RecordKey) :
    (e.remove name).owner? key =
      if e.owner? key = some name then NameMap.first? (e.records.erase name) (lists key)
      else e.owner? key := by
  cases held : e.records[name]? with
  | none =>
    rw [remove_of_absent held, if_neg (h.owner?_ne_of_absent held key)]
  | some old =>
    let rest : Entries R := { e with records := e.records.erase name }
    have unchanged : rest.owner? key = e.owner? key := by cases key <;> rfl
    have heir : rest.claimant? (lists key) = NameMap.first? (e.records.erase name) (lists key) :=
      claimant?_eq_first? h.named_erase (lists key)
    rw [remove_of_present held, owner?_release, unchanged, heir, h.named held]
    by_cases owner : e.owner? key = some name
    · rw [if_pos owner, if_pos ⟨h.lists_of_owner? held owner, owner⟩]
    · rw [if_neg owner, if_neg fun both => owner both.2]

theorem owner?_insert (e : Entries R) (r : R) (key : RecordKey) :
    (e.insert r).1.owner? key =
      if lists key r = true then some (Indexed.name r)
      else (e.remove (Indexed.name r)).owner? key := by
  cases key with
  | mac mac => simpa only [owner?, lists, listsMac_iff] using insert_macOwners e r mac
  | uuid uuid => simpa only [owner?, lists, listsUuid_iff] using insert_uuidOwners e r uuid

end Entries

/-! ## Updates -/

/-- A change of what is indexed under one name. -/
inductive Update (R : Type) where
  | set (record : R)
  | delete (name : ObjectName)

namespace Update

variable {R : Type} [Indexed R] {e : Entries R}

/-- The name that an update is about. -/
def name : Update R → ObjectName
  | .set record => Indexed.name record
  | .delete name => name

@[simp] theorem name_set (r : R) : (Update.set r).name = Indexed.name r := rfl

@[simp] theorem name_delete (name : ObjectName) : (Update.delete name : Update R).name = name := rfl

omit [Indexed R] in
/-- The record that an update leaves under its name. -/
def record? : Update R → Option R
  | .set record => some record
  | .delete _ => none

omit [Indexed R] in
@[simp] theorem record?_set (r : R) : (Update.set r).record? = some r := rfl

omit [Indexed R] in
@[simp] theorem record?_delete (name : ObjectName) :
    (Update.delete name : Update R).record? = none := rfl

/-- The step that makes an update. -/
def toStep : Update R → Step R
  | .set record => .set record
  | .delete name => .delete name

/-- Whether the record that an update leaves lists a key. -/
def lists (u : Update R) (key : RecordKey) : Bool :=
  u.record?.any (Entries.lists key)

@[simp] theorem lists_set (r : R) (key : RecordKey) :
    (Update.set r).lists key = Entries.lists key r := rfl

@[simp] theorem lists_delete (name : ObjectName) (key : RecordKey) :
    (Update.delete name : Update R).lists key = false := rfl

/-- The entries after an update. -/
def applyTo (u : Update R) (e : Entries R) : Entries R :=
  u.toStep.applyTo e

theorem consistent_applyTo (h : e.Consistent) (u : Update R) : (u.applyTo e).Consistent :=
  u.toStep.consistent_applyTo h

/-- An update decides what stands under its name, and under no other. -/
theorem records_applyTo (u : Update R) (e : Entries R) (name : ObjectName) :
    (u.applyTo e).records[name]? = if u.name = name then u.record? else e.records[name]? := by
  have written : Step.lastWrite? [u.toStep] name =
      ((some (u.name, u.record?)).filter (·.1 == name)).map Prod.snd := by
    rw [Step.lastWrite?_singleton]
    cases u <;> rfl
  rw [applyTo, Step.getElem?_applyTo, written]
  by_cases same : u.name = name <;> simp [same, Option.filter]

/-- Who owns a key after an update. -/
theorem owner?_applyTo (h : e.Consistent) (u : Update R) (key : RecordKey) :
    (u.applyTo e).owner? key =
      if u.lists key = true then some u.name
      else if e.owner? key = some u.name then
        NameMap.first? (e.records.erase u.name) (Entries.lists key)
      else e.owner? key := by
  cases u with
  | set record =>
    rw [← h.owner?_remove]
    exact Entries.owner?_insert e record key
  | delete name => exact h.owner?_remove name key

variable {u : Update R} {key : RecordKey}

theorem owner?_of_lists (h : e.Consistent) (listed : u.lists key = true) :
    (u.applyTo e).owner? key = some u.name := by
  rw [owner?_applyTo h, if_pos listed]

theorem owner?_of_owned (h : e.Consistent) (unlisted : u.lists key = false)
    (owned : e.owner? key = some u.name) :
    (u.applyTo e).owner? key = NameMap.first? (e.records.erase u.name) (Entries.lists key) := by
  rw [owner?_applyTo h, unlisted, if_neg Bool.false_ne_true, if_pos owned]

theorem owner?_of_unowned (h : e.Consistent) (unlisted : u.lists key = false)
    (unowned : e.owner? key ≠ some u.name) : (u.applyTo e).owner? key = e.owner? key := by
  rw [owner?_applyTo h, unlisted, if_neg Bool.false_ne_true, if_neg unowned]

end Update

/-! ## Updates of an index with callers -/

namespace Session

variable {R : Type} [Indexed R]

/-- What is indexed does not decide whether a call can advance. -/
theorem advance?_eq_none_congr {index index' : Index R} (same : index.isReady = index'.isReady)
    {lock : FairLock} {id : Nat} {stage : CallStage R} :
    advance? index lock id stage = none ↔ advance? index' lock id stage = none := by
  cases stage with
  | queued source =>
    simp only [advance?, same]
    split
    · split <;> simp
    · simp
  | listing source =>
    simp only [advance?]
    split <;> simp
  | waiting query =>
    simp only [advance?, same]
    split <;> simp

theorem turnAmong?_eq_none_of_stands {index : Index R} {lock : FairLock}
    {calls : List (Nat × CallStage R)}
    (stands : ∀ call ∈ calls, advance? index lock call.1 call.2 = none) :
    turnAmong? index lock calls = none := by
  induction calls with
  | nil => rfl
  | cons call calls ih =>
    have first := stands call List.mem_cons_self
    have others := ih fun other member => stands other (List.mem_cons_of_mem _ member)
    simp only [turnAmong?, first, others, Option.map_none]

/-- A session at rest has settled. -/
theorem settle_of_atRest {s : Session R} (rest : s.AtRest) : s.settle = ⟨s, [], []⟩ := by
  apply settle_of_turn?_eq_none
  apply turnAmong?_eq_none_of_stands
  intro call member
  exact rest call.1 call.2 member

/-- An update of a session at rest lets no call advance. -/
theorem settle_enter_update {s : Session R} (rest : s.AtRest) (id : Nat) (u : Update R) :
    (s.enter id u.toStep).settle =
      ⟨{ s with index := { s.index with entries := u.applyTo s.index.entries } }, [], []⟩ := by
  have entered : s.enter id u.toStep =
      { s with index := { s.index with entries := u.applyTo s.index.entries } } := by
    cases u <;> rfl
  have still : (s.enter id u.toStep).AtRest := by
    intro n stage member
    have same := enter_isReady s id u.toStep
    rw [entered] at member same ⊢
    exact (advance?_eq_none_congr same).2 (rest n stage member)
  rw [settle_of_atRest still, entered]

/-- A session at rest takes an update alone. -/
theorem after_update {s : Session R} (rest : s.AtRest) (id : Nat) (u : Update R) :
    s.after id u.toStep =
      { s with index := { s.index with entries := u.applyTo s.index.entries } } := by
  rw [after, step, settle_enter_update rest]

end Session

namespace Run

variable {R : Type} [Indexed R]

/-- Updates that follow a run change its entries one after the other. -/
theorem entries_append_updates (steps : List (Step R)) (updates : List (Update R)) :
    (of (steps ++ updates.map Update.toStep)).session.index.entries =
      updates.foldl (fun e u => u.applyTo e) (of steps).session.index.entries := by
  induction updates using List.reverseRecOn with
  | nil => simp
  | append_singleton updates u ih =>
    rw [List.map_append, ← List.append_assoc, List.map_singleton, of_append_singleton, next,
      Session.after_update (reached _).rest, ih, List.foldl_append]
    rfl

/-- Set a record after any run, or delete a name. A key that the set record lists is its own from
    then on. Any other key goes, if the name of the update owned it, to the first of the other
    records, in name order, that lists it, and to nobody if none does; if not, it stays with its
    owner. What stands under other names does not change. -/
theorem owner_after_update (steps : List (Step R)) :
    let entries (steps : List (Step R)) := (of steps).session.index.entries
    let before := entries steps
    (∀ r : R,
      let name := Indexed.name r
      let after := entries (steps ++ [.set r])
      (∀ key : RecordKey, after.owner? key =
        if Entries.lists key r = true then some name
        else if before.owner? key = some name then
          NameMap.first? (before.records.erase name) (Entries.lists key)
        else before.owner? key) ∧
      ∀ other : ObjectName, after.records[other]? =
        if name = other then some r else before.records[other]?) ∧
    (∀ name : ObjectName,
      let after := entries (steps ++ [.delete name])
      (∀ key : RecordKey, after.owner? key =
        if before.owner? key = some name then
          NameMap.first? (before.records.erase name) (Entries.lists key)
        else before.owner? key) ∧
      ∀ other : ObjectName, after.records[other]? =
        if name = other then none else before.records[other]?) ∧
    ∀ (records : NameMap R) (test : R → Bool) (first : Option ObjectName),
      NameMap.first? records test = first ↔ NameMap.IsFirst records test first := by
  intro entries before
  have consistent : before.Consistent := consistent steps
  refine ⟨?_, ?_, fun _ _ _ => NameMap.first?_eq_iff⟩
  · intro r name after
    have changed : after = (Update.set r).applyTo before := entries_append_updates steps [.set r]
    rw [changed]
    exact ⟨(Update.set r).owner?_applyTo consistent, (Update.set r).records_applyTo before⟩
  · intro name after
    have changed : after = (Update.delete name).applyTo before :=
      entries_append_updates steps [.delete name]
    rw [changed]
    exact ⟨(Update.delete name).owner?_applyTo consistent,
      (Update.delete name).records_applyTo before⟩

/-- A key that is let go of goes to the first name, not to the one that owned it before. -/
example :
    let mac : Mac := ⟨Mac.buffer [0x00, 0xDE, 0x11, 0x64, 0x00, 0xA1], 6⟩
    let machine (name : String) : Machine := ⟨⟨"lab", name⟩, none, [⟨none, mac, none⟩], .null⟩
    let run := of [.set (machine "a"), .set (machine "c"), .set (machine "b"), .delete ⟨"lab", "b"⟩]
    run.session.index.entries.owner? (.mac mac) = some ⟨"lab", "a"⟩ := by
  decide +kernel

end Run

end HardwareIndex
