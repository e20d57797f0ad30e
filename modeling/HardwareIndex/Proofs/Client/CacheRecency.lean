import HardwareIndex.Proofs.Client.CacheIntegrity
import HardwareIndex.Proofs.Client.RecencyList
import Mathlib.Data.List.Nodup

/-!
# A cache as a recency list

A cache keeps no order, only stamps. As the stamps differ they order its entries,
and in that order a cache is a recency list: what is used gets the newest stamp
and so comes to the front, a key that goes to another name changes no stamp, and
the entry with the oldest stamp is the last one.
-/

namespace HardwareIndex

open Std

namespace KeyCache

/-- A name with its entry, as a recency list has it. -/
def asRecent (held : ObjectName × CacheEntry) : RecencyEntry :=
  ⟨held.1, held.2.keys⟩

/-- Names with their entries in the order of their stamps, the newest one in front. -/
structure Ordered (entries : NameMap CacheEntry) (order : List (ObjectName × CacheEntry)) :
    Prop where
  mem_iff : ∀ {name : ObjectName} {entry : CacheEntry},
    (name, entry) ∈ order ↔ entries[name]? = some entry
  descending : order.Pairwise fun held held' => held'.2.last < held.2.last

variable {entries : NameMap CacheEntry} {order : List (ObjectName × CacheEntry)}
  {name : ObjectName} {space : KeySpace} {key : String} {clock : Nat}

namespace Ordered

/-- Entries that come before or after each other are of different names. -/
theorem names (h : Ordered entries order) : order.Pairwise fun held held' => held'.1 ≠ held.1 := by
  refine h.descending.imp_of_mem ?_
  rintro ⟨n, entry⟩ ⟨n', entry'⟩ member member' earlier same
  cases same
  cases (h.mem_iff.1 member).symm.trans (h.mem_iff.1 member')
  exact Nat.lt_irrefl _ earlier

theorem nodup (h : Ordered entries order) : order.Nodup :=
  h.names.imp fun different same => different (congrArg Prod.fst same.symm)

theorem length (h : Ordered entries order) : order.length = entries.size := by
  have distinct : entries.toList.Nodup := by
    refine ExtTreeMap.distinct_keys_toList.imp ?_
    rintro held held' different rfl
    exact different ReflCmp.compare_self
  have perm : order.Perm entries.toList := by
    rw [List.perm_ext_iff_of_nodup h.nodup distinct]
    rintro ⟨n, entry⟩
    rw [h.mem_iff, ExtTreeMap.mem_toList_iff_getElem?_eq_some]
  rw [perm.length_eq, ExtTreeMap.length_toList]

/-- A name has one entry in the order, or none. -/
theorem filter_name (h : Ordered entries order) (name : ObjectName) :
    order.filter (·.1 == name) = (entries[name]?.map (name, ·)).toList := by
  have single : (entries[name]?.map (name, ·)).toList.Nodup := by cases entries[name]? <;> simp
  have perm : (order.filter (·.1 == name)).Perm (entries[name]?.map (name, ·)).toList := by
    rw [List.perm_ext_iff_of_nodup (h.nodup.filter _) single]
    rintro ⟨n, entry⟩
    rw [List.mem_filter, h.mem_iff]
    constructor
    · rintro ⟨held, same⟩
      obtain rfl : n = name := by simpa using same
      simp [held]
    · intro member
      obtain ⟨_, held, same⟩ := Option.map_eq_some_iff.1 (Option.mem_toList.1 member)
      cases same
      exact ⟨held, by simp⟩
  cases held : entries[name]? with
  | none => simpa [held] using perm
  | some entry => simpa [held] using perm

/-- What is kept of each entry without a change of its stamp stays in order. -/
theorem filterMap (h : Ordered entries order) {left : NameMap CacheEntry}
    {keep : ObjectName → CacheEntry → Option CacheEntry}
    (kept : ∀ name : ObjectName, left[name]? = entries[name]?.bind (keep name))
    (stamped : ∀ {name : ObjectName} {entry entry' : CacheEntry},
      keep name entry = some entry' → entry'.last = entry.last) :
    Ordered left (order.filterMap fun held => (keep held.1 held.2).map (held.1, ·)) := by
  constructor
  · intro n entry'
    rw [List.mem_filterMap, kept]
    constructor
    · rintro ⟨⟨n₀, entry⟩, member, found⟩
      obtain ⟨_, found, same⟩ := Option.map_eq_some_iff.1 found
      cases same
      exact Option.bind_eq_some_iff.2 ⟨entry, h.mem_iff.1 member, found⟩
    · intro found
      obtain ⟨entry, held, found⟩ := Option.bind_eq_some_iff.1 found
      exact ⟨(n, entry), h.mem_iff.2 held, Option.map_eq_some_iff.2 ⟨entry', found, rfl⟩⟩
  · rw [List.pairwise_filterMap]
    refine h.descending.imp ?_
    intro held held' earlier _ found _ found'
    obtain ⟨entry, left, rfl⟩ := Option.map_eq_some_iff.1 found
    obtain ⟨entry', left', rfl⟩ := Option.map_eq_some_iff.1 found'
    rw [stamped left, stamped left']
    exact earlier

/-- Without an entry. -/
theorem erase (h : Ordered entries order) (name : ObjectName) :
    Ordered (entries.erase name) (order.filter (·.1 != name)) := by
  constructor
  · intro n entry
    rw [List.mem_filter, h.mem_iff, ExtTreeMap.getElem?_erase]
    by_cases same : n = name
    · simp [same]
    · have other : name ≠ n := Ne.symm same
      simp [same, other]
  · exact h.descending.filter _

/-- With an entry that is used later than all others. -/
theorem insert (h : Ordered entries order) {used : CacheEntry}
    (later : ∀ {name : ObjectName} {entry : CacheEntry}, entries[name]? = some entry →
      entry.last < used.last) :
    Ordered (entries.insert name used) ((name, used) :: order.filter (·.1 != name)) := by
  constructor
  · intro n entry
    rw [List.mem_cons, List.mem_filter, h.mem_iff, ExtTreeMap.getElem?_insert]
    by_cases same : n = name
    · simp [same, @eq_comm _ entry]
    · have other : name ≠ n := Ne.symm same
      simp [same, other]
  · refine List.pairwise_cons.2 ⟨?_, h.descending.filter _⟩
    intro held member
    exact later (h.mem_iff.1 (List.mem_of_mem_filter member))

/-- The entry that was used before all others is the last one. -/
theorem dropLast (h : Ordered entries order) {entry : CacheEntry}
    (held : entries[name]? = some entry)
    (oldest : ∀ (other : ObjectName) (entry' : CacheEntry), entries[other]? = some entry' →
      other ≠ name → entry.last < entry'.last) :
    order.filter (·.1 != name) = order.dropLast := by
  have member : (name, entry) ∈ order := h.mem_iff.2 held
  obtain ⟨front, last, rfl⟩ : ∃ front last, order = front ++ [last] :=
    ⟨_, _, (List.dropLast_concat_getLast (List.ne_nil_of_mem member)).symm⟩
  have names := List.pairwise_append.1 h.names
  have earlier := (List.pairwise_append.1 h.descending).2.2
  have isLast : last = (name, entry) := by
    by_contra different
    have front : (name, entry) ∈ front := by
      rcases List.mem_append.1 member with front | same
      · exact front
      · exact absurd (List.mem_singleton.1 same).symm different
    have after := earlier _ front last List.mem_cons_self
    have before := oldest last.1 last.2 (h.mem_iff.1 (by simp)) (names.2.2 _ front last (by simp))
    exact Nat.lt_asymm after before
  subst isLast
  have others : ∀ held ∈ front, (held.1 != name) = true := by
    intro held member
    simpa using (names.2.2 held member _ List.mem_cons_self).symm
  rw [List.filter_append, List.filter_eq_self.2 others, List.dropLast_concat]
  simp

end Ordered

/-! ## One step -/

/-- A cache does what a recency list does. -/
structure Refines (c : KeyCache) (l : RecencyList) : Prop where
  sound : c.Sound
  fits : c.Fits
  capacity : c.capacity = l.capacity
  ordered : ∃ order, Ordered c.entries order ∧ l.entries = order.map asRecent

variable {c : KeyCache} {l : RecencyList}

theorem refines_new (capacity : Nat) : Refines (new capacity) (RecencyList.new capacity) := by
  refine ⟨sound_new capacity, Or.inr (Nat.zero_le _), rfl, [], ⟨?_, List.Pairwise.nil⟩, rfl⟩
  intro n entry
  simp [new]

namespace Refines

theorem size (h : Refines c l) : c.size = l.entries.length := by
  obtain ⟨order, ordered, same⟩ := h.ordered
  rw [same, List.length_map, ordered.length]
  rfl

theorem containsName (h : Refines c l) (name : ObjectName) :
    c.containsName name = l.containsName name := by
  obtain ⟨order, ordered, same⟩ := h.ordered
  rw [Bool.eq_iff_iff, KeyCache.containsName, ExtTreeMap.contains_eq_isSome_getElem?,
    Option.isSome_iff_exists, RecencyList.containsName, same, List.any_map, List.any_eq_true]
  constructor
  · rintro ⟨entry, held⟩
    exact ⟨(name, entry), ordered.mem_iff.2 held, by simp [asRecent]⟩
  · rintro ⟨⟨n, entry⟩, member, found⟩
    obtain rfl : n = name := by simpa [asRecent] using found
    exact ⟨entry, ordered.mem_iff.1 member⟩

theorem known? (h : Refines c l) (space : KeySpace) (key : Option String) :
    c.owner? space key = l.known? space key := by
  obtain ⟨order, ordered, same⟩ := h.ordered
  cases key with
  | none => rfl
  | some key =>
    by_cases empty : key.isEmpty = true
    · obtain rfl : key = "" := by simpa using empty
      rfl
    · simp only [owner?, present?, RecencyList.known?, empty, Option.filter, Bool.not_false,
        if_true, Option.bind_some, if_false, same, List.find?_map, Option.map_map,
        Bool.false_eq_true]
      cases found : order.find? ((·.has space key) ∘ asRecent) with
      | some held =>
        obtain ⟨n, entry⟩ := held
        have has : key ∈ entry.keys.get space := by
          simpa [asRecent, RecencyEntry.has] using List.find?_some found
        have held := ordered.mem_iff.1 (List.mem_of_find?_eq_some found)
        exact h.sound.owns.2 ⟨entry, held, has⟩
      | none =>
        rw [Option.map_none, Option.eq_none_iff_forall_ne_some]
        intro n owned
        obtain ⟨entry, held, has⟩ := h.sound.owns.1 owned
        have lacks := List.find?_eq_none.1 found _ (ordered.mem_iff.2 held)
        exact lacks (by simpa [asRecent, RecencyEntry.has] using has)

theorem find? (h : Refines c l) (mac uuid : Option String) :
    c.find? mac uuid = l.find? mac uuid := by
  rw [KeyCache.find?, h.known?, h.known?, RecencyList.find?]
  cases l.known? .mac mac <;> rfl

theorem lookup (h : Refines c l) (mac uuid : Option String) :
    Refines (c.lookup mac uuid).1 (l.lookup mac uuid).1 ∧
      (c.lookup mac uuid).2 = (l.lookup mac uuid).2 := by
  have same := h.find? mac uuid
  unfold KeyCache.lookup RecencyList.lookup
  rw [← same]
  cases found : c.find? mac uuid with
  | none => exact ⟨h, rfl⟩
  | some name =>
    obtain ⟨entry, held⟩ := h.sound.held_of_find? found
    have fits : (c.touch name).Fits := by
      rw [Fits, size_touch]
      exact h.fits
    refine ⟨⟨h.sound.touch held, fits, h.capacity, ?_⟩, rfl⟩
    obtain ⟨order, ordered, same⟩ := h.ordered
    refine ⟨(name, { entry with last := c.clock + 1 }) :: order.filter (·.1 != name), ?_, ?_⟩
    · dsimp only
      rw [entries_touch held]
      apply ordered.insert
      intro n other held
      exact Nat.lt_succ_of_le (h.sound.stamped.bounded held)
    · have front : order.filter (·.1 == name) = [(name, entry)] := by
        simpa [held] using ordered.filter_name name
      simp only [same, List.partition_eq_filter_filter, List.filter_map]
      change (order.filter (·.1 == name)).map asRecent ++
        (order.filter (·.1 != name)).map asRecent = _
      rw [front]
      rfl

end Refines

/-- What is left of the entry of a name when a key is given to another name. -/
def yielded (space : KeySpace) (key : String) (name n : ObjectName) (entry : CacheEntry) :
    Option CacheEntry :=
  if n ≠ name ∧ key ∈ entry.keys.get space then
    some (entry.drop space key) |>.filter (!·.isEmpty)
  else some entry

/-- Only the owner of a key has it, so it is the same to take the key from its owner and to
    take it from all entries. -/
theorem getElem?_taken (h : c.Sound) (space : KeySpace) (key : String) (name n : ObjectName) :
    (c.taken space key name)[n]? = c.entries[n]?.bind (yielded space key name n) := by
  rcases taken_cases c space key name with ⟨taken, only⟩ | ⟨previous, owned, different, taken⟩
  · rw [taken]
    cases held : c.entries[n]? with
    | none => rfl
    | some entry =>
      refine (if_neg ?_).symm
      rintro ⟨other, has⟩
      exact other (only n (h.owns.2 ⟨entry, held, has⟩))
  · rw [taken, getElem?_disown]
    cases held : c.entries[n]? with
    | none => simp
    | some entry =>
      by_cases same : n = previous
      · subst same
        obtain ⟨_, held', has⟩ := h.owns.1 owned
        cases held.symm.trans held'
        simp [yielded, different, has]
      · have lacks : key ∉ entry.keys.get space := fun has =>
          same (Option.some.inj ((h.owns.2 ⟨entry, held, has⟩).symm.trans owned))
        simp [yielded, same, lacks]

theorem last_of_yielded {n : ObjectName} {entry left : CacheEntry}
    (h : yielded space key name n entry = some left) : left.last = entry.last := by
  unfold yielded at h
  split at h
  · cases (Option.filter_eq_some_iff.1 h).1
    rfl
  · cases h
    rfl

theorem map_yielded (space : KeySpace) (key : String) (name : ObjectName)
    (held : ObjectName × CacheEntry) :
    ((yielded space key name held.1 held.2).map (held.1, ·)).map asRecent =
      (asRecent held).yield? space key name := by
  unfold yielded RecencyEntry.yield? RecencyEntry.has
  by_cases takes : held.1 ≠ name ∧ key ∈ held.2.keys.get space
  · have takes' : (asRecent held).name ≠ name ∧
        ((asRecent held).keys.get space).contains key = true := takes
    have bare : (held.2.drop space key).isEmpty =
        (asRecent (held.1, held.2.drop space key)).isBare := rfl
    rw [if_pos takes, if_pos takes', Option.filter_some, bare]
    unfold asRecent CacheEntry.drop
    dsimp only
    split <;> rename_i left
    · rw [if_neg (by simpa using left)]
      rfl
    · rw [if_pos (by simpa using left)]
      rfl
  · have keeps : ¬((asRecent held).name ≠ name ∧
        ((asRecent held).keys.get space).contains key = true) := takes
    rw [if_neg takes, if_neg keeps]
    rfl

namespace Refines

/-- A key that is given away changes no stamp, and the entry that it is given to comes to the
    front. -/
theorem give (h : Refines c l) (space : KeySpace) (key : String) (name : ObjectName) :
    ∃ order, Ordered (c.assign space key name).entries order ∧
      l.give space key name = order.map asRecent := by
  obtain ⟨order, ordered, same⟩ := h.ordered
  have left := ordered.filterMap (getElem?_taken h.sound space key name) last_of_yielded
  generalize kept : order.filterMap _ = rest at left
  have recent : l.entries.filterMap (·.yield? space key name) = rest.map asRecent := by
    rw [same, ← kept, List.map_filterMap, List.filterMap_map]
    refine List.filterMap_congr ?_
    intro held _
    exact (map_yielded space key name held).symm
  have own : (rest.map asRecent).find? (·.name == name) =
      (c.taken space key name)[name]?.map fun entry => ⟨name, entry.keys⟩ := by
    rw [← List.head?_filter, List.filter_map]
    change ((rest.filter (·.1 == name)).map asRecent).head? = _
    rw [left.filter_name]
    cases (c.taken space key name)[name]? <;> rfl
  have later : ∀ {n : ObjectName} {entry : CacheEntry},
      (c.taken space key name)[n]? = some entry → entry.last < c.clock + 1 := fun held =>
    Nat.lt_succ_of_le ((stamped_taken h.sound).bounded held)
  refine ⟨_, entries_assign ▸ left.insert later, ?_⟩
  simp only [RecencyList.give, recent, own, List.filter_map, List.map_cons]
  cases (c.taken space key name)[name]? <;> rfl

theorem insert (h : Refines c l) (space : KeySpace) (key : String) (name : ObjectName) :
    Refines (c.insert space key name).1 (l.insert space key name).1 ∧
      (c.insert space key name).2 = (l.insert space key name).2 := by
  obtain ⟨order, ordered, same⟩ := h.give space key name
  have sound := h.sound.assign space key name
  have length : (l.give space key name).length = (c.assign space key name).size := by
    rw [same, List.length_map, ordered.length]
    rfl
  have capacity : (c.assign space key name).capacity = l.capacity := h.capacity
  cases shrinks_assign h.sound h.fits space key name with
  | fits fits result =>
    have room : ¬(l.capacity ≠ 0 ∧ l.capacity < (l.give space key name).length) := by
      rintro ⟨bounded, full⟩
      rcases fits with unbounded | enough <;> omega
    rw [result, RecencyList.insert, if_neg room]
    exact ⟨⟨sound, fits, capacity, order, ordered, same⟩, rfl⟩
  | evicts victim entry bounded full held oldest fits result =>
    have exceeded : l.capacity ≠ 0 ∧ l.capacity < (l.give space key name).length := by
      omega
    have rest : (l.give space key name).dropLast =
        (order.filter (·.1 != victim)).map asRecent := by
      rw [same, ← List.map_dropLast, ordered.dropLast held oldest]
    rw [result, RecencyList.insert, if_pos exceeded]
    refine ⟨⟨sound.evict held, fits, capacity_evict.trans capacity, _, ?_, rest⟩, rfl⟩
    rw [entries_evict held]
    exact ordered.erase victim

theorem next (h : Refines c l) (step : CacheStep) : Refines (c.next step) (l.next step) := by
  cases step with
  | lookup mac uuid => exact (h.lookup mac uuid).1
  | insert space key name => exact (h.insert space key name).1

theorem answer (h : Refines c l) (step : CacheStep) : c.answer step = l.answer step := by
  cases step with
  | lookup mac uuid => exact congrArg CacheAnswer.found (h.lookup mac uuid).2
  | insert space key name => exact congrArg CacheAnswer.evicted (h.insert space key name).2

end Refines

/-! ## Runs -/

theorem refines (capacity : Nat) (steps : List CacheStep) :
    Refines (of capacity steps) (RecencyList.of capacity steps) := by
  induction steps using List.reverseRecOn with
  | nil => exact refines_new capacity
  | append_singleton steps step ih =>
    rw [of_append_singleton, RecencyList.of_append_singleton]
    exact ih.next step

/-- After any steps a cache and a recency list of one capacity answer every further step alike,
    be it a lookup or an insertion with the number of entries that it drops; they have as many
    entries, and entries for the same names. -/
theorem answers_as_recency_list (capacity : Nat) (steps : List CacheStep) :
    let c := of capacity steps
    let l := RecencyList.of capacity steps
    (∀ step : CacheStep, c.answer step = l.answer step) ∧
    c.size = l.entries.length ∧
    ∀ name : ObjectName, c.containsName name = l.containsName name := by
  intro c l
  have refines : Refines c l := refines capacity steps
  exact ⟨refines.answer, refines.size, refines.containsName⟩

end KeyCache

end HardwareIndex
