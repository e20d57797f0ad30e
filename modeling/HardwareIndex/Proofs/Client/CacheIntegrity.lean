import Mathlib.Data.List.Induction
import HardwareIndex.Proofs.Client.CacheEntries

/-!
# Integrity of a cache

The owners and the entries of a cache are two views of one relation between keys
and names, and every operation keeps them in step: a key that goes to another
name, an entry that loses its last key, an entry that is evicted with all of its
keys. As the stamps differ the entry to evict is the only oldest one, and as the
one just used has the newest stamp it is never that one.
-/

namespace HardwareIndex

open Std

namespace KeyCache

/-- The owners agree with the entries, no entry is without a key, and the stamps differ. -/
structure Sound (c : KeyCache) : Prop where
  owns : ∀ {space : KeySpace} {k : String} {n : ObjectName},
    (c.owners.get space)[k]? = some n ↔ Holds c.entries n space k
  filled : Filled c.entries
  stamped : Stamped c.entries c.clock

/-- A cache holds no more entries than it may. -/
def Fits (c : KeyCache) : Prop :=
  c.capacity = 0 ∨ c.size ≤ c.capacity

variable {c : KeyCache} {name : ObjectName} {space : KeySpace} {key : String}

theorem sound_new (capacity : Nat) : (new capacity).Sound := by
  refine ⟨?_, ?_, ⟨?_, ?_⟩⟩
  · intro space k n
    cases space <;> simp [new, Holds, PerSpace.get]
  · intro n entry found
    simp [new] at found
  · intro n n' entry entry' found
    simp [new] at found
  · intro n entry found
    simp [new] at found

/-! ## Looking up -/

theorem entries_touch {entry : CacheEntry} (held : c.entries[name]? = some entry) :
    (c.touch name).entries = c.entries.insert name { entry with last := c.clock + 1 } := by
  apply ExtTreeMap.ext_getElem?
  intro n
  rw [touch, ExtTreeMap.getElem?_modify, ExtTreeMap.getElem?_insert, held]
  rfl

theorem Sound.touch (h : c.Sound) {entry : CacheEntry} (held : c.entries[name]? = some entry) :
    (c.touch name).Sound := by
  have entries := entries_touch held
  refine ⟨?_, ?_, ?_⟩
  · intro space k n
    rw [entries, holds_insert]
    split
    · rename_i same
      subst same
      show (c.owners.get space)[k]? = some n ↔ _
      rw [h.owns, Holds, held]
      simp
    · exact h.owns
  · rw [entries]
    exact filled_insert h.filled (h.filled name entry held)
  · rw [entries]
    exact stamped_insert h.stamped rfl

/-- A name that is found has an entry. -/
theorem Sound.held_of_find? (h : c.Sound) {mac uuid : Option String}
    (found : c.find? mac uuid = some name) : ∃ entry, c.entries[name]? = some entry := by
  have held : ∀ (space : KeySpace) (key : Option String), c.owner? space key = some name →
      ∃ entry, c.entries[name]? = some entry := by
    intro space key owned
    obtain ⟨k, _, owner⟩ := Option.bind_eq_some_iff.1 owned
    obtain ⟨entry, held, _⟩ := h.owns.1 owner
    exact ⟨entry, held⟩
  rcases Option.or_eq_some_iff.1 found with owned | ⟨_, owned⟩
  · exact held .mac mac owned
  · exact held .uuid uuid owned

theorem Sound.lookup (h : c.Sound) (mac uuid : Option String) : (c.lookup mac uuid).1.Sound := by
  unfold KeyCache.lookup
  cases found : c.find? mac uuid with
  | none => exact h
  | some name =>
    obtain ⟨entry, held⟩ := h.held_of_find? found
    exact h.touch held

theorem size_touch : (c.touch name).size = c.size :=
  ExtTreeMap.size_modify

theorem Fits.lookup (h : c.Fits) (mac uuid : Option String) : (c.lookup mac uuid).1.Fits := by
  unfold KeyCache.lookup
  cases c.find? mac uuid with
  | none => exact h
  | some name =>
    rw [Fits, size_touch]
    exact h

/-! ## Giving a key -/

/-- A key is taken from the name that has it, unless that is the name that it is for. -/
theorem taken_cases (c : KeyCache) (space : KeySpace) (key : String) (name : ObjectName) :
    (c.taken space key name = c.entries ∧
      ∀ previous, (c.owners.get space)[key]? = some previous → previous = name) ∨
    ∃ previous, (c.owners.get space)[key]? = some previous ∧ previous ≠ name ∧
      c.taken space key name = disown c.entries previous space key := by
  unfold taken
  cases owned : (c.owners.get space)[key]? with
  | none => exact Or.inl ⟨rfl, nofun⟩
  | some previous =>
    by_cases same : previous = name
    · left
      refine ⟨if_pos same, ?_⟩
      rintro _ ⟨⟩
      exact same
    · exact Or.inr ⟨previous, rfl, same, if_neg same⟩

theorem filled_taken (h : c.Sound) : Filled (c.taken space key name) := by
  rcases taken_cases c space key name with ⟨taken, _⟩ | ⟨previous, _, _, taken⟩
  · rw [taken]
    exact h.filled
  · rw [taken]
    exact filled_disown h.filled

theorem stamped_taken (h : c.Sound) : Stamped (c.taken space key name) c.clock := by
  rcases taken_cases c space key name with ⟨taken, _⟩ | ⟨previous, _, _, taken⟩
  · rw [taken]
    exact h.stamped
  · rw [taken]
    exact stamped_disown h.stamped

theorem size_taken_le : (c.taken space key name).size ≤ c.size := by
  rcases taken_cases c space key name with ⟨taken, _⟩ | ⟨previous, _, _, taken⟩
  · exact Nat.le_of_eq (congrArg ExtTreeMap.size taken)
  · rw [taken]
    exact size_disown_le

/-- Once a key has been taken, nobody has it but the name that it is for. -/
theorem holds_taken (h : c.Sound) {n : ObjectName} {space' : KeySpace} {k : String} :
    Holds (c.taken space key name) n space' k ↔
      Holds c.entries n space' k ∧ ¬(n ≠ name ∧ space' = space ∧ k = key) := by
  rcases taken_cases c space key name with ⟨taken, only⟩ | ⟨previous, owned, different, taken⟩
  · rw [taken]
    constructor
    · intro holds
      refine ⟨holds, ?_⟩
      rintro ⟨other, rfl, rfl⟩
      exact other (only n (h.owns.2 holds))
    · exact And.left
  · rw [taken, holds_disown]
    constructor
    · rintro ⟨holds, kept⟩
      refine ⟨holds, ?_⟩
      rintro ⟨_, rfl, rfl⟩
      exact kept ⟨Option.some.inj ((h.owns.2 holds).symm.trans owned), rfl, rfl⟩
    · rintro ⟨holds, kept⟩
      refine ⟨holds, ?_⟩
      rintro ⟨rfl, rfl, rfl⟩
      exact kept ⟨different, rfl, rfl⟩

theorem entries_assign : (c.assign space key name).entries =
    (c.taken space key name).insert name
      (((c.taken space key name)[name]?.getD .empty).add space key (c.clock + 1)) :=
  rfl

theorem getElem?_owners_assign {space' : KeySpace} {k : String} :
    ((c.assign space key name).owners.get space')[k]? =
      if space' = space ∧ k = key then some name else (c.owners.get space')[k]? := by
  unfold assign
  by_cases same : space' = space
  · subst same
    simp [ExtTreeMap.getElem?_insert, @eq_comm _ k key]
  · simp [PerSpace.get_modify_of_ne _ same, same]

/-- What the entry of a name has before it is given a key. -/
theorem mem_getD_iff {entries : NameMap CacheEntry} {k : String} :
    k ∈ (entries[name]?.getD .empty).keys.get space ↔ Holds entries name space k := by
  unfold Holds
  cases held : entries[name]? with
  | none => simp [CacheEntry.not_mem_empty]
  | some entry => simp

theorem Sound.assign (h : c.Sound) (space : KeySpace) (key : String) (name : ObjectName) :
    (c.assign space key name).Sound := by
  refine ⟨?_, ?_, ?_⟩
  · intro space' k n
    rw [getElem?_owners_assign, entries_assign, holds_insert, CacheEntry.mem_add, mem_getD_iff,
      holds_taken h, holds_taken h]
    by_cases given : space' = space ∧ k = key
    · rw [if_pos given]
      by_cases same : n = name
      · simp [same, given]
      · have other : name ≠ n := Ne.symm same
        simp [same, other, given]
    · rw [if_neg given, h.owns]
      by_cases same : n = name
      · subst same
        simp [given]
      · simp [same, given]
  · rw [entries_assign]
    refine filled_insert (filled_taken h) ?_
    rw [Bool.eq_false_iff]
    intro empty
    exact CacheEntry.isEmpty_iff.1 empty space key (CacheEntry.mem_add.2 (Or.inr ⟨rfl, rfl⟩))
  · rw [entries_assign]
    exact stamped_insert (stamped_taken h) rfl

theorem size_assign_le : (c.assign space key name).size ≤ c.size + 1 := by
  have less : (c.taken space key name).size ≤ c.size := size_taken_le
  have more := ExtTreeMap.size_insert_le (t := c.taken space key name) (k := name)
    (v := ((c.taken space key name)[name]?.getD .empty).add space key (c.clock + 1))
  rw [size, entries_assign]
  omega

/-! ## Evicting -/

theorem getElem?_owners_evict {entry : CacheEntry} (held : c.entries[name]? = some entry)
    {k : String} : ((c.evict name).owners.get space)[k]? =
      if k ∈ entry.keys.get space then none else (c.owners.get space)[k]? := by
  rw [evict, held]
  cases space with
  | mac => exact getElem?_forget c.owners.mac entry.keys.mac k
  | uuid => exact getElem?_forget c.owners.uuid entry.keys.uuid k

theorem entries_evict {entry : CacheEntry} (held : c.entries[name]? = some entry) :
    (c.evict name).entries = c.entries.erase name := by
  rw [evict, held]

theorem Sound.evict (h : c.Sound) {entry : CacheEntry} (held : c.entries[name]? = some entry) :
    (c.evict name).Sound := by
  have clock : (c.evict name).clock = c.clock := by rw [KeyCache.evict, held]
  refine ⟨?_, ?_, ?_⟩
  · intro space k n
    rw [getElem?_owners_evict held, entries_evict held, holds_erase]
    by_cases member : k ∈ entry.keys.get space
    · rw [if_pos member]
      have owner : (c.owners.get space)[k]? = some name := h.owns.2 ⟨entry, held, member⟩
      constructor
      · intro owned
        cases owned
      · rintro ⟨holds, other⟩
        cases owner.symm.trans (h.owns.2 holds)
        exact absurd rfl other
    · rw [if_neg member, h.owns]
      constructor
      · intro holds
        refine ⟨holds, ?_⟩
        rintro rfl
        obtain ⟨entry', held', member'⟩ := holds
        cases held.symm.trans held'
        exact member member'
      · exact And.left
  · rw [entries_evict held]
    exact filled_erase h.filled
  · rw [entries_evict held, clock]
    exact stamped_erase h.stamped

theorem size_evict {entry : CacheEntry} (held : c.entries[name]? = some entry) :
    (c.evict name).size = c.size - 1 := by
  have member : c.entries.contains name = true := by
    rw [ExtTreeMap.contains_eq_isSome_getElem?, held]
    rfl
  rw [size, entries_evict held, ExtTreeMap.size_erase, if_pos member]
  rfl

/-- The entry to evict was used before every other one. -/
theorem last_lt_of_oldest? (h : c.Sound) {victim other : ObjectName} {entry entry' : CacheEntry}
    (oldest : c.oldest? = some victim) (held : c.entries[victim]? = some entry)
    (held' : c.entries[other]? = some entry') (different : other ≠ victim) :
    entry.last < entry'.last := by
  obtain ⟨⟨victim', entry₀⟩, least, rfl⟩ := Option.map_eq_some_iff.1 oldest
  have held₀ := ExtTreeMap.mem_toList_iff_getElem?_eq_some.1 (List.minOn?_mem least)
  cases held.symm.trans held₀
  have notAfter : entry.last ≤ entry'.last := by
    have member := ExtTreeMap.mem_toList_iff_getElem?_eq_some.2 held'
    have bound := List.apply_get_minOn?_le_of_mem (f := fun call : ObjectName × CacheEntry =>
      call.2.last) member
    simpa [least] using bound
  refine Nat.lt_of_le_of_ne notAfter ?_
  intro same
  exact different (h.stamped.distinct held' held same.symm)

/-- How a cache with at most one entry too many comes to keep its capacity. -/
inductive Shrinks (c : KeyCache) (result : KeyCache × Nat) : Prop
  | fits : c.Fits → result = (c, 0) → Shrinks c result
  | evicts (victim : ObjectName) (entry : CacheEntry) : 0 < c.capacity → c.capacity < c.size →
      c.entries[victim]? = some entry →
      (∀ (other : ObjectName) (entry' : CacheEntry), c.entries[other]? = some entry' →
        other ≠ victim → entry.last < entry'.last) →
      (c.evict victim).Fits → result = (c.evict victim, 1) → Shrinks c result

theorem shrink_of_fits (h : c.Fits) : c.shrink = (c, 0) := by
  have stops : ¬(0 < c.capacity ∧ c.capacity < c.size) := by
    rintro ⟨bounded, full⟩
    rcases h with unbounded | fits <;> omega
  rw [shrink, dif_neg stops]

theorem shrink_of_full (bounded : 0 < c.capacity) (full : c.capacity < c.size) :
    c.shrink = (c.evictOldest.shrink.1, c.evictOldest.shrink.2 + 1) := by
  rw [shrink, dif_pos ⟨bounded, full⟩]

theorem shrinks (h : c.Sound) (room : c.capacity = 0 ∨ c.size ≤ c.capacity + 1) :
    Shrinks c c.shrink := by
  by_cases fits : c.Fits
  · exact .fits fits (shrink_of_fits fits)
  · have bounded : 0 < c.capacity := Nat.pos_of_ne_zero fun none => fits (Or.inl none)
    have full : c.capacity < c.size := Nat.lt_of_not_le fun enough => fits (Or.inr enough)
    obtain ⟨victim, entry, oldest, held⟩ := exists_oldest?_eq_some (Nat.zero_lt_of_lt full)
    have evicted : c.evictOldest = c.evict victim := by
      rw [evictOldest, oldest]
      rfl
    have capacity : (c.evict victim).capacity = c.capacity := by rw [evict, held]
    have left : (c.evict victim).Fits := by
      right
      rw [size_evict held, capacity]
      omega
    refine .evicts victim entry bounded full held ?_ left ?_
    · intro other entry' held' different
      exact last_lt_of_oldest? h oldest held held' different
    · rw [shrink_of_full bounded full, evicted, shrink_of_fits left]

/-! ## Inserting -/

/-- The entry of a name once it has been given a key. -/
theorem exists_held_assign (c : KeyCache) (space : KeySpace) (key : String) (name : ObjectName) :
    ∃ entry, (c.assign space key name).entries[name]? = some entry ∧ entry.last = c.clock + 1 ∧
      key ∈ entry.keys.get space := by
  refine ⟨_, ExtTreeMap.getElem?_insert_self, rfl, ?_⟩
  exact CacheEntry.mem_add.2 (Or.inr ⟨rfl, rfl⟩)

/-- Of two entries one is another one. -/
theorem exists_other {entry : CacheEntry} (held : c.entries[name]? = some entry)
    (several : 1 < c.size) :
    ∃ (other : ObjectName) (entry' : CacheEntry), other ≠ name ∧
      c.entries[other]? = some entry' := by
  have left : 0 < (c.evict name).size := by
    rw [size_evict held]
    omega
  obtain ⟨other, entry', _, found⟩ := exists_oldest?_eq_some left
  rw [entries_evict held, ExtTreeMap.getElem?_erase] at found
  by_cases same : name = other
  · simp [same] at found
  · refine ⟨other, entry', Ne.symm same, ?_⟩
    simpa [same] using found

/-- How an insertion ends: the key is given, and an entry may have been evicted for it. -/
theorem shrinks_assign (h : c.Sound) (fits : c.Fits) (space : KeySpace) (key : String)
    (name : ObjectName) : Shrinks (c.assign space key name) (c.insert space key name) := by
  refine shrinks (h.assign space key name) ?_
  have more : (c.assign space key name).size ≤ c.size + 1 := size_assign_le
  have capacity : (c.assign space key name).capacity = c.capacity := rfl
  rcases fits with unbounded | enough
  · exact Or.inl unbounded
  · right
    omega

/-- What is evicted for a key is the entry used least recently, never the one just used. -/
theorem insert_cases (h : c.Sound) (fits : c.Fits) (space : KeySpace) (key : String)
    (name : ObjectName) :
    c.insert space key name = (c.assign space key name, 0) ∨
      ∃ (victim : ObjectName) (entry : CacheEntry), victim ≠ name ∧
        (c.assign space key name).entries[victim]? = some entry ∧
        c.insert space key name = ((c.assign space key name).evict victim, 1) ∧
        ∀ (other : ObjectName) (entry' : CacheEntry),
          (c.assign space key name).entries[other]? = some entry' → other ≠ victim →
          entry.last < entry'.last := by
  cases shrinks_assign h fits space key name with
  | fits _ result => exact Or.inl result
  | evicts victim entry bounded full held least _ result =>
    refine Or.inr ⟨victim, entry, ?_, held, result, least⟩
    rintro rfl
    -- Another entry would have a stamp later than the newest one.
    obtain ⟨used, held', now, _⟩ := exists_held_assign c space key victim
    cases held.symm.trans held'
    obtain ⟨other, entry', different, found⟩ := exists_other held (by omega)
    have later := least other entry' found different
    have bound := (h.assign space key victim).stamped.bounded found
    have clock : (c.assign space key victim).clock = c.clock + 1 := rfl
    omega

/-- Once a key has been inserted, the entry of its name has it. -/
theorem holds_insert_self (h : c.Sound) (fits : c.Fits) (space : KeySpace) (key : String)
    (name : ObjectName) : Holds (c.insert space key name).1.entries name space key := by
  obtain ⟨used, held, _, member⟩ := exists_held_assign c space key name
  rcases insert_cases h fits space key name with result | ⟨victim, entry, other, found, result, _⟩
  · rw [result]
    exact ⟨used, held, member⟩
  · rw [result, entries_evict found, holds_erase]
    exact ⟨⟨used, held, member⟩, Ne.symm other⟩

/-! ## Runs -/

theorem capacity_lookup (mac uuid : Option String) :
    (c.lookup mac uuid).1.capacity = c.capacity := by
  unfold lookup
  split <;> rfl

theorem clock_lookup_le (mac uuid : Option String) :
    (c.lookup mac uuid).1.clock ≤ c.clock + 1 := by
  unfold lookup
  split
  · exact Nat.le_refl _
  · exact Nat.le_succ _

theorem capacity_evict : (c.evict name).capacity = c.capacity := by
  unfold evict
  split <;> rfl

theorem clock_evict : (c.evict name).clock = c.clock := by
  unfold evict
  split <;> rfl

/-- What holds of a cache after some steps. -/
structure Reached (capacity : Nat) (steps : List CacheStep) (c : KeyCache) : Prop where
  sound : c.Sound
  fits : c.Fits
  bound : c.capacity = capacity
  clock : c.clock ≤ steps.length

theorem Reached.next {capacity : Nat} {steps : List CacheStep} (h : Reached capacity steps c)
    (step : CacheStep) : Reached capacity (steps ++ [step]) (c.next step) := by
  have clock := h.clock
  cases step with
  | lookup mac uuid =>
    refine ⟨h.sound.lookup mac uuid, h.fits.lookup mac uuid,
      (capacity_lookup mac uuid).trans h.bound, ?_⟩
    have ticked := clock_lookup_le (c := c) mac uuid
    rw [List.length_append, List.length_singleton]
    exact Nat.le_trans ticked (Nat.succ_le_succ clock)
  | insert space key name =>
    have sound := h.sound.assign space key name
    have ticked : (c.assign space key name).clock ≤
        (steps ++ [CacheStep.insert space key name]).length := by
      rw [List.length_append, List.length_singleton]
      exact Nat.succ_le_succ clock
    cases shrinks_assign h.sound h.fits space key name with
    | fits fits result =>
      rw [KeyCache.next, result]
      exact ⟨sound, fits, h.bound, ticked⟩
    | evicts victim entry _ _ held _ fits result =>
      rw [KeyCache.next, result]
      exact ⟨sound.evict held, fits, capacity_evict.trans h.bound,
        Nat.le_trans (Nat.le_of_eq clock_evict) ticked⟩

theorem reached (capacity : Nat) (steps : List CacheStep) :
    Reached capacity steps (of capacity steps) := by
  induction steps using List.reverseRecOn with
  | nil => exact ⟨sound_new capacity, Or.inr (Nat.zero_le _), rfl, Nat.le_refl _⟩
  | append_singleton steps step ih =>
    rw [of_append_singleton]
    exact ih.next step

/-- After any steps on a new cache a key resolves to a name exactly if the entry of that name has
    the key; no entry is without a key; the stamps of the entries differ and none is later than
    the clock, which has ticked at most once a step; and there are no more entries than the
    capacity allows. An insertion drops at most one entry: the one used least recently, which is
    not the one it has just used. -/
theorem keys_correspond (capacity : Nat) (steps : List CacheStep) :
    let c := of capacity steps
    (∀ (space : KeySpace) (key : String) (name : ObjectName),
      (c.owners.get space)[key]? = some name ↔
        ∃ entry, c.entries[name]? = some entry ∧ key ∈ entry.keys.get space) ∧
    (∀ (name : ObjectName) (entry : CacheEntry), c.entries[name]? = some entry →
      ∃ (space : KeySpace) (key : String), key ∈ entry.keys.get space) ∧
    (∀ (name name' : ObjectName) (entry entry' : CacheEntry), c.entries[name]? = some entry →
      c.entries[name']? = some entry' → name ≠ name' → entry.last ≠ entry'.last) ∧
    (∀ (name : ObjectName) (entry : CacheEntry), c.entries[name]? = some entry →
      entry.last ≤ c.clock) ∧
    c.clock ≤ steps.length ∧
    (capacity ≠ 0 → c.size ≤ capacity) ∧
    ∀ (space : KeySpace) (key : String) (name : ObjectName),
      let assigned := c.assign space key name
      let inserted := c.insert space key name
      inserted.2 ≤ 1 ∧ inserted.1.containsName name = true ∧
      (inserted.1.owners.get space)[key]? = some name ∧
      (inserted = (assigned, 0) ∨ ∃ (victim : ObjectName) (entry : CacheEntry),
        victim ≠ name ∧ assigned.entries[victim]? = some entry ∧
        inserted = (assigned.evict victim, 1) ∧
        ∀ (other : ObjectName) (entry' : CacheEntry), assigned.entries[other]? = some entry' →
          other ≠ victim → entry.last < entry'.last) := by
  intro c
  have reached : Reached capacity steps c := reached capacity steps
  have sound := reached.sound
  refine ⟨fun space key name => sound.owns, ?_, ?_, fun name entry => sound.stamped.bounded,
    reached.clock, ?_, ?_⟩
  · intro name entry held
    by_contra none
    have empty : entry.isEmpty = true := by
      rw [CacheEntry.isEmpty_iff]
      intro space key member
      exact none ⟨space, key, member⟩
    rw [sound.filled name entry held] at empty
    cases empty
  · intro name name' entry entry' held held' different same
    exact different (sound.stamped.distinct held held' same)
  · intro bounded
    rcases reached.fits with unbounded | fits
    · exact absurd (reached.bound.symm.trans unbounded) bounded
    · exact reached.bound ▸ fits
  · intro space key name
    have ended := insert_cases sound reached.fits space key name
    have holds := holds_insert_self sound reached.fits space key name
    have next := reached.next (.insert space key name)
    refine ⟨?_, ?_, next.sound.owns.2 holds, ended⟩
    · rcases ended with result | ⟨_, _, _, _, result, _⟩
      · rw [result]
        exact Nat.zero_le 1
      · exact Nat.le_of_eq (congrArg Prod.snd result)
    · obtain ⟨entry, held, _⟩ := holds
      rw [containsName, ExtTreeMap.contains_eq_isSome_getElem?, held]
      rfl

/-- A cache for one name drops the first name when a second one comes. -/
theorem one_entry_left :
    let steps : List CacheStep := [.insert .mac "a" ⟨"lab", "x"⟩, .insert .uuid "b" ⟨"lab", "y"⟩]
    (of 1 steps).size ≤ 1 ∧ (of 1 steps).containsName ⟨"lab", "y"⟩ = true := by
  intro steps
  obtain ⟨_, _, _, _, _, bound, _⟩ := keys_correspond 1 steps
  exact ⟨bound Nat.one_ne_zero, by decide +kernel⟩

end KeyCache

end HardwareIndex
