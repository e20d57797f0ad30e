import HardwareIndex.Proofs.Index.Ownership
import HardwareIndex.Proofs.Text.Utf8Order

/-!
# Answers to queries

What a query finds is told by the records and the owners of keys alone. A name
finds the record that stands under it. A key finds the record that its owner
stands for, which lists it, and nothing if no record lists it. Where addresses
are matched by prefix, the record with the least name of those with a prefix that
contains the address is found. For any query there is one such answer, and
consistent entries give it.
-/

namespace HardwareIndex

open Std

namespace NameMap

variable {α : Type}

/-- The first value that passes a test stands under the first name. -/
theorem find?_values (m : NameMap α) (test : α → Bool) :
    m.values.find? test = (first? m test).bind (m[·]?) := by
  rw [values_eq, List.find?_map, first?]
  cases found : m.toList.find? (test ∘ Prod.snd) with
  | none => rfl
  | some entry =>
    have held := ExtTreeMap.mem_toList_iff_getElem?_eq_some.1 (List.mem_of_find?_eq_some found)
    exact held.symm

end NameMap

namespace Entries

variable {R : Type} [Indexed R] {records : NameMap R}

/-- What a key leads to: the record of its owner, which lists it, or none if no record lists it. -/
def LeadsTo (records : NameMap R) (owner? : Option ObjectName) (lists : R → Prop) :
    Option R → Prop
  | some r => owner? = some (Indexed.name r) ∧ records[Indexed.name r]? = some r ∧ lists r
  | none => ∀ (name : ObjectName) (r : R), records[name]? = some r → ¬lists r

/-- The record with the least name of those that pass, or none if no record passes. -/
def IsLeast (records : NameMap R) (passes : R → Prop) : Option R → Prop
  | some r => records[Indexed.name r]? = some r ∧ passes r ∧
    ∀ (name : ObjectName) (other : R), records[name]? = some other → passes other →
      (Indexed.name r).NotAfter name
  | none => ∀ (name : ObjectName) (r : R), records[name]? = some r → ¬passes r

/-- How entries answer a query. -/
inductive Answers (e : Entries R) : Query → Outcome R → Prop
  | name (name : ObjectName) : Answers e (.byName name) (.found e.records[name]?)
  | owned (mac : Mac) (found : Option R) : Indexed.matching R = .exact →
    LeadsTo e.records e.macOwners[mac]? (mac ∈ Indexed.macs ·) found →
    Answers e (.byMac mac) (.found found)
  | covered (mac : Mac) (found : Option R) : Indexed.matching R = .byPrefix →
    IsLeast e.records (fun r => ∃ p ∈ Indexed.prefixes r, p.contains mac = true) found →
    Answers e (.byMac mac) (.found found)
  | uuid (uuid : Uuid) (found : Option R) :
    LeadsTo e.records e.uuidOwners[uuid]? (Indexed.uuid · = some uuid) found →
    Answers e (.byUuid uuid) (.found found)
  | readiness : Answers e .readiness .ready
  | setup : Answers e .setup (.report ⟨0, [], true⟩)

/-! ## One answer -/

theorem LeadsTo.unique {owner? : Option ObjectName} {lists : R → Prop} {found found' : Option R}
    (h : LeadsTo records owner? lists found) (h' : LeadsTo records owner? lists found') :
    found = found' := by
  cases found with
  | none =>
    cases found' with
    | none => rfl
    | some r' => exact absurd h'.2.2 (h _ r' h'.2.1)
  | some r =>
    cases found' with
    | none => exact absurd h.2.2 (h' _ r h.2.1)
    | some r' =>
      have same : Indexed.name r = Indexed.name r' := Option.some.inj (h.1.symm.trans h'.1)
      rw [← h.2.1, ← h'.2.1, same]

theorem IsLeast.unique {passes : R → Prop} {found found' : Option R}
    (h : IsLeast records passes found) (h' : IsLeast records passes found') : found = found' := by
  cases found with
  | none =>
    cases found' with
    | none => rfl
    | some r' => exact absurd h'.2.1 (h _ r' h'.1)
  | some r =>
    cases found' with
    | none => exact absurd h.2.1 (h' _ r h.1)
    | some r' =>
      have before := ObjectName.isLE_compare_iff.2 (h.2.2 _ r' h'.1 h'.2.1)
      have after := ObjectName.isLE_compare_iff.2 (h'.2.2 _ r h.1 h.2.1)
      have same := LawfulEqCmp.eq_of_compare (OrientedCmp.isLE_antisymm before after)
      rw [← h.1, ← h'.1, same]

/-- Entries answer a query in one way. -/
theorem Answers.unique {e : Entries R} {query : Query} {outcome outcome' : Outcome R}
    (h : e.Answers query outcome) (h' : e.Answers query outcome') : outcome = outcome' := by
  cases h with
  | name => cases h'; rfl
  | owned mac found exact leads =>
    cases h' with
    | owned _ _ _ leads' => rw [leads.unique leads']
    | covered _ _ ranges => cases exact.symm.trans ranges
  | covered mac found ranges least =>
    cases h' with
    | owned _ _ exact => cases exact.symm.trans ranges
    | covered _ _ _ least' => rw [least.unique least']
  | uuid uuid found leads =>
    cases h' with
    | uuid _ _ leads' => rw [leads.unique leads']
  | readiness => cases h'; rfl
  | setup => cases h'; rfl

/-! ## Consistent entries -/

/-- Following an owner to its record leads to where the key does. -/
theorem OwnersAgree.leadsTo {K : Type} {lists : K → R → Bool} {owner? : K → Option ObjectName}
    (h : OwnersAgree records lists owner?)
    (named : ∀ {name : ObjectName} {r : R}, records[name]? = some r → Indexed.name r = name)
    (k : K) {lists' : R → Prop} (same : ∀ r, lists k r = true ↔ lists' r) :
    LeadsTo records (owner? k) lists' ((owner? k).bind (records[·]?)) := by
  cases owner : owner? k with
  | none =>
    intro name r held listed
    have owned := h.owned held ((same r).2 listed)
    rw [owner] at owned
    cases owned
  | some name =>
    obtain ⟨r, held, listed⟩ := h.listed owner
    obtain rfl := named held
    rw [Option.bind_some, held]
    exact ⟨rfl, held, (same r).1 listed⟩

/-- Scanning the records in the order of their names finds the one with the least name. -/
theorem Consistent.isLeast_find? {e : Entries R} (h : e.Consistent) (test : R → Bool)
    {passes : R → Prop} (same : ∀ r, test r = true ↔ passes r) :
    IsLeast e.records passes (e.records.values.find? test) := by
  have first := NameMap.isFirst_first? e.records test
  rw [NameMap.find?_values]
  cases found : NameMap.first? e.records test with
  | none =>
    rw [found] at first
    intro name r held passed
    have fails := first name
    rw [held, Option.any_some] at fails
    cases ((same r).2 passed).symm.trans fails
  | some name =>
    rw [found] at first
    obtain ⟨r, held, passed⟩ := (Option.any_eq_true _ _).1 first.1
    obtain rfl := h.named held
    rw [Option.bind_some, held]
    refine ⟨held, (same r).1 passed, ?_⟩
    intro name other held' passed'
    apply ObjectName.isLE_compare_iff.1
    apply first.2
    rw [held']
    exact (same other).2 passed'

/-- A ready index gives the answers of its entries. -/
theorem Consistent.answers {index : Index R} (h : index.entries.Consistent) (query : Query) :
    index.entries.Answers query (Session.answer index query) := by
  cases query with
  | byName name => exact .name name
  | byMac mac =>
    cases matching : Indexed.matching R with
    | exact =>
      have lookup : index.entries.byMac? mac =
          index.entries.macOwners[mac]?.bind (index.entries.records[·]?) := by
        rw [byMac?, matching]
      rw [Session.answer, lookup]
      exact .owned mac _ matching (h.macs.leadsTo h.named mac fun _ => listsMac_iff)
    | byPrefix =>
      have lookup : index.entries.byMac? mac = index.entries.records.values.find? fun r =>
          (Indexed.prefixes r).any (·.contains mac) := by
        rw [byMac?, matching]
      rw [Session.answer, lookup]
      exact .covered mac _ matching (h.isLeast_find? _ fun _ => List.any_eq_true)
  | byUuid uuid => exact .uuid uuid _ (h.uuids.leadsTo h.named uuid fun _ => listsUuid_iff)
  | readiness => exact .readiness
  | setup => exact .setup

end Entries

end HardwareIndex
