import HardwareIndex.Client.KeyCache

/-!
# Entries of a cache

What each operation does to one key of one entry, to the owner of one key and to
the stamps. The entry that loses its last key goes with it, so that who holds a
key can be told without asking which entries are left.
-/

namespace HardwareIndex

open Std

namespace CacheEntry

@[simp] theorem mem_drop {e : CacheEntry} {space space' : KeySpace} {key k : String} :
    k ∈ (e.drop space key).keys.get space' ↔
      k ∈ e.keys.get space' ∧ ¬(space' = space ∧ k = key) := by
  unfold drop
  by_cases same : space' = space
  · subst same
    simp [ExtTreeSet.mem_erase, and_comm, @eq_comm _ k key]
  · simp [PerSpace.get_modify_of_ne _ same, same]

@[simp] theorem mem_add {e : CacheEntry} {space space' : KeySpace} {key k : String} {last : Nat} :
    k ∈ (e.add space key last).keys.get space' ↔
      k ∈ e.keys.get space' ∨ (space' = space ∧ k = key) := by
  unfold add
  by_cases same : space' = space
  · subst same
    simp [ExtTreeSet.mem_insert, or_comm, @eq_comm _ k key]
  · simp [PerSpace.get_modify_of_ne _ same, same]

theorem not_mem_empty {space : KeySpace} {k : String} : k ∉ empty.keys.get space := by
  cases space <;> simp [empty, PerSpace.get]

theorem isEmpty_iff {e : CacheEntry} :
    e.isEmpty = true ↔ ∀ (space : KeySpace) (k : String), k ∉ e.keys.get space := by
  rw [isEmpty, Bool.and_eq_true, ExtTreeSet.isEmpty_iff, ExtTreeSet.isEmpty_iff,
    ExtTreeSet.eq_empty_iff_forall_not_mem, ExtTreeSet.eq_empty_iff_forall_not_mem]
  constructor
  · rintro ⟨noMac, noUuid⟩ space k
    cases space with
    | mac => exact noMac k
    | uuid => exact noUuid k
  · intro none
    exact ⟨none .mac, none .uuid⟩

end CacheEntry

namespace KeyCache

/-- The entry of a name has a key. -/
def Holds (entries : NameMap CacheEntry) (name : ObjectName) (space : KeySpace) (key : String) :
    Prop :=
  ∃ entry, entries[name]? = some entry ∧ key ∈ entry.keys.get space

/-- No entry is without a key. -/
def Filled (entries : NameMap CacheEntry) : Prop :=
  ∀ (name : ObjectName) (entry : CacheEntry), entries[name]? = some entry → entry.isEmpty = false

/-- The stamps of the entries differ, and none is later than the clock. -/
structure Stamped (entries : NameMap CacheEntry) (clock : Nat) : Prop where
  distinct : ∀ {name name' : ObjectName} {entry entry' : CacheEntry},
    entries[name]? = some entry → entries[name']? = some entry' → entry.last = entry'.last →
    name = name'
  bounded : ∀ {name : ObjectName} {entry : CacheEntry}, entries[name]? = some entry →
    entry.last ≤ clock

variable {entries : NameMap CacheEntry} {name n : ObjectName} {space space' : KeySpace}
  {key k : String} {clock : Nat}

/-! ## Taking a key -/

theorem getElem?_disown (entries : NameMap CacheEntry) (name n : ObjectName) (space : KeySpace)
    (key : String) : (disown entries name space key)[n]? =
      if n = name then (entries[n]?.map (·.drop space key)).filter (!·.isEmpty)
      else entries[n]? := by
  unfold disown
  by_cases same : n = name
  · subst same
    cases held : entries[n]? with
    | none => simp [held]
    | some entry => cases left : (entry.drop space key).isEmpty <;> simp [Option.filter, left]
  · have other : name ≠ n := Ne.symm same
    split
    · simp [same]
    · dsimp only
      split <;> simp [other, ExtTreeMap.getElem?_insert, ExtTreeMap.getElem?_erase]

theorem holds_disown : Holds (disown entries name space key) n space' k ↔
    Holds entries n space' k ∧ ¬(n = name ∧ space' = space ∧ k = key) := by
  unfold Holds
  rw [getElem?_disown]
  by_cases same : n = name
  · rw [if_pos same]
    constructor
    · rintro ⟨left, found, member⟩
      obtain ⟨found, _⟩ := Option.filter_eq_some_iff.1 found
      obtain ⟨entry, held, rfl⟩ := Option.map_eq_some_iff.1 found
      obtain ⟨had, other⟩ := CacheEntry.mem_drop.1 member
      exact ⟨⟨entry, held, had⟩, fun all => other all.2⟩
    · rintro ⟨⟨entry, held, had⟩, other⟩
      have member : k ∈ (entry.drop space key).keys.get space' :=
        CacheEntry.mem_drop.2 ⟨had, fun both => other ⟨same, both⟩⟩
      have kept : (entry.drop space key).isEmpty = false := by
        rw [Bool.eq_false_iff]
        exact fun empty => CacheEntry.isEmpty_iff.1 empty space' k member
      refine ⟨entry.drop space key, ?_, member⟩
      simp [held, kept]
  · rw [if_neg same]
    simp [same]

theorem filled_disown (filled : Filled entries) : Filled (disown entries name space key) := by
  intro n entry found
  rw [getElem?_disown] at found
  split at found
  · simpa using (Option.filter_eq_some_iff.1 found).2
  · exact filled n entry found

/-- Who keeps an entry keeps its stamp. -/
theorem Stamped.of_forall_exists {entries' : NameMap CacheEntry} (h : Stamped entries clock)
    (kept : ∀ {n : ObjectName} {entry' : CacheEntry}, entries'[n]? = some entry' →
      ∃ entry, entries[n]? = some entry ∧ entry.last = entry'.last) :
    Stamped entries' clock := by
  constructor
  · intro n n' entry entry' found found' same
    obtain ⟨old, held, last⟩ := kept found
    obtain ⟨old', held', last'⟩ := kept found'
    exact h.distinct held held' (last.trans (same.trans last'.symm))
  · intro n entry found
    obtain ⟨old, held, last⟩ := kept found
    exact last ▸ h.bounded held

theorem stamped_disown (h : Stamped entries clock) :
    Stamped (disown entries name space key) clock := by
  apply h.of_forall_exists
  intro n entry' found
  rw [getElem?_disown] at found
  split at found
  · obtain ⟨entry, held, rfl⟩ := Option.map_eq_some_iff.1 (Option.filter_eq_some_iff.1 found).1
    exact ⟨entry, held, rfl⟩
  · exact ⟨entry', found, rfl⟩

theorem size_disown_le : (disown entries name space key).size ≤ entries.size := by
  unfold disown
  split
  · exact Nat.le_refl _
  · rename_i entry held
    dsimp only
    split
    · exact ExtTreeMap.size_erase_le
    · have member : entries.contains name = true := by
        rw [ExtTreeMap.contains_eq_isSome_getElem?, held]
        rfl
      exact Nat.le_of_eq (ExtTreeMap.size_insert.trans (if_pos member))

/-! ## Using an entry -/

/-- An entry that is used now is the only one with the new stamp. -/
theorem stamped_insert (h : Stamped entries clock) {used : CacheEntry}
    (now : used.last = clock + 1) : Stamped (entries.insert name used) (clock + 1) := by
  have kept : ∀ {n : ObjectName} {entry : CacheEntry}, (entries.insert name used)[n]? = some entry →
      (n = name ∧ entry.last = clock + 1) ∨
        (entries[n]? = some entry ∧ entry.last ≤ clock) := by
    intro n entry found
    rw [ExtTreeMap.getElem?_insert] at found
    split at found
    · rename_i same
      cases found
      exact Or.inl ⟨(compare_eq_iff_eq.1 same).symm, now⟩
    · exact Or.inr ⟨found, h.bounded found⟩
  constructor
  · intro n n' entry entry' found found' same
    rcases kept found with ⟨rfl, last⟩ | ⟨old, last⟩ <;>
      rcases kept found' with ⟨rfl, last'⟩ | ⟨old', last'⟩
    · rfl
    · omega
    · omega
    · exact h.distinct old old' same
  · intro n entry found
    rcases kept found with ⟨_, last⟩ | ⟨_, last⟩ <;> omega

theorem holds_insert {used : CacheEntry} : Holds (entries.insert name used) n space k ↔
    if n = name then k ∈ used.keys.get space else Holds entries n space k := by
  unfold Holds
  rw [ExtTreeMap.getElem?_insert]
  by_cases same : n = name
  · simp [same]
  · have other : name ≠ n := Ne.symm same
    simp [same, other]

theorem filled_insert (filled : Filled entries) {used : CacheEntry}
    (kept : used.isEmpty = false) : Filled (entries.insert name used) := by
  intro n entry found
  rw [ExtTreeMap.getElem?_insert] at found
  split at found
  · cases found
    exact kept
  · exact filled n entry found

/-! ## Dropping an entry -/

theorem holds_erase : Holds (entries.erase name) n space k ↔
    Holds entries n space k ∧ n ≠ name := by
  unfold Holds
  rw [ExtTreeMap.getElem?_erase]
  by_cases same : n = name
  · simp [same]
  · have other : name ≠ n := Ne.symm same
    simp [same, other]

theorem filled_erase (filled : Filled entries) : Filled (entries.erase name) := by
  intro n entry found
  rw [ExtTreeMap.getElem?_erase] at found
  split at found
  · cases found
  · exact filled n entry found

theorem stamped_erase (h : Stamped entries clock) : Stamped (entries.erase name) clock := by
  apply h.of_forall_exists
  intro n entry found
  rw [ExtTreeMap.getElem?_erase] at found
  split at found
  · cases found
  · exact ⟨entry, found, rfl⟩

theorem getElem?_forget (owners : ExtTreeMap String ObjectName) (keys : ExtTreeSet String)
    (k : String) : (forget owners keys)[k]? = if k ∈ keys then none else owners[k]? := by
  have erased : ∀ (l : List String) (owners : ExtTreeMap String ObjectName),
      (l.foldl (fun owners key => owners.erase key) owners)[k]? =
        if k ∈ l then none else owners[k]? := by
    intro l
    induction l with
    | nil => simp
    | cons key l ih =>
      intro owners
      rw [List.foldl_cons, ih, ExtTreeMap.getElem?_erase]
      by_cases same : key = k <;> simp [same, @eq_comm _ k key]
  rw [forget, erased]
  simp

end KeyCache

end HardwareIndex
