import Std.Data.ExtTreeSet
import HardwareIndex.Index.Entries

/-!
# Cache of resolved keys

A cache of bounded size that maps address and identifier texts to the names they
were resolved to. Each name has one entry, with the keys known to resolve to it
and a stamp of its last use. When there are too many entries the one with the
oldest stamp is dropped with all its keys. A capacity of zero means no bound.
-/

namespace HardwareIndex

/-- The two kinds of keys under which a name is cached. -/
inductive KeySpace where
  | mac
  | uuid
  deriving DecidableEq, Repr

/-- A value for each kind of keys. -/
structure PerSpace (α : Type) where
  mac : α
  uuid : α

namespace PerSpace

variable {α : Type}

/-- The value for one kind. -/
def get (v : PerSpace α) : KeySpace → α
  | .mac => v.mac
  | .uuid => v.uuid

/-- With the value for one kind changed. -/
def modify (v : PerSpace α) (space : KeySpace) (f : α → α) : PerSpace α :=
  match space with
  | .mac => { v with mac := f v.mac }
  | .uuid => { v with uuid := f v.uuid }

@[simp] theorem get_modify_same (v : PerSpace α) (space : KeySpace) (f : α → α) :
    (v.modify space f).get space = f (v.get space) := by
  cases space <;> rfl

theorem get_modify_of_ne (v : PerSpace α) {space other : KeySpace} (h : other ≠ space)
    (f : α → α) : (v.modify space f).get other = v.get other := by
  cases space <;> cases other <;> first | rfl | exact absurd rfl h

end PerSpace

/-- What is cached for a name. -/
structure CacheEntry where
  keys : PerSpace (Std.ExtTreeSet String)
  /-- Stamp of the last use. -/
  last : Nat

namespace CacheEntry

/-- No keys, never used. -/
def empty : CacheEntry := ⟨⟨∅, ∅⟩, 0⟩

/-- Whether no key is left. -/
def isEmpty (e : CacheEntry) : Bool :=
  e.keys.mac.isEmpty && e.keys.uuid.isEmpty

/-- Without a key. -/
def drop (e : CacheEntry) (space : KeySpace) (key : String) : CacheEntry :=
  { e with keys := e.keys.modify space (·.erase key) }

/-- With a key, used at the given stamp. -/
def add (e : CacheEntry) (space : KeySpace) (key : String) (last : Nat) : CacheEntry :=
  ⟨e.keys.modify space (·.insert key), last⟩

end CacheEntry

/-- Names by the keys that resolve to them. -/
structure KeyCache where
  /-- Largest number of entries; zero for no bound. -/
  capacity : Nat
  /-- The latest stamp. -/
  clock : Nat
  entries : NameMap CacheEntry
  owners : PerSpace (Std.ExtTreeMap String ObjectName)

namespace KeyCache

/-- A new cache. -/
def new (capacity : Nat) : KeyCache := ⟨capacity, 0, ∅, ⟨∅, ∅⟩⟩

/-- Number of entries. -/
def size (c : KeyCache) : Nat :=
  c.entries.size

/-- Whether nothing is cached. -/
def isEmpty (c : KeyCache) : Bool :=
  c.entries.isEmpty

/-- Whether a name has an entry. -/
def containsName (c : KeyCache) (name : ObjectName) : Bool :=
  c.entries.contains name

/-- A key that is given and not empty. -/
def present? (key : Option String) : Option String :=
  key.filter fun s => !s.isEmpty

/-- The name that a key is cached for. -/
def owner? (c : KeyCache) (space : KeySpace) (key : Option String) : Option ObjectName :=
  (present? key).bind fun key => (c.owners.get space)[key]?

/-- The name cached for an address or, if that is absent or unknown, for an identifier. -/
def find? (c : KeyCache) (mac uuid : Option String) : Option ObjectName :=
  (c.owner? .mac mac).or (c.owner? .uuid uuid)

/-- With the entry of a name used now. -/
def touch (c : KeyCache) (name : ObjectName) : KeyCache :=
  let clock := c.clock + 1
  { c with clock, entries := c.entries.modify name fun entry => { entry with last := clock } }

/-- Look keys up; a hit counts as a use. -/
def lookup (c : KeyCache) (mac uuid : Option String) : KeyCache × Option ObjectName :=
  match c.find? mac uuid with
  | some name => (c.touch name, some name)
  | none => (c, none)

/-- Take a key from the entry of a name, which goes when it has no key left. -/
def disown (entries : NameMap CacheEntry) (name : ObjectName) (space : KeySpace) (key : String) :
    NameMap CacheEntry :=
  match entries[name]? with
  | none => entries
  | some entry =>
    let left := entry.drop space key
    if left.isEmpty then entries.erase name else entries.insert name left

/-- The entries once a key has been taken from the name that had it, if that was another one. -/
def taken (c : KeyCache) (space : KeySpace) (key : String) (name : ObjectName) :
    NameMap CacheEntry :=
  match (c.owners.get space)[key]? with
  | none => c.entries
  | some previous => if previous = name then c.entries else disown c.entries previous space key

/-- Give a key to the entry of a name. -/
def assign (c : KeyCache) (space : KeySpace) (key : String) (name : ObjectName) : KeyCache :=
  let clock := c.clock + 1
  let entries := c.taken space key name
  let entry := (entries[name]?.getD .empty).add space key clock
  { c with
    clock
    entries := entries.insert name entry
    owners := c.owners.modify space (·.insert key name) }

/-- The name whose entry was used least recently. -/
def oldest? (c : KeyCache) : Option ObjectName :=
  (c.entries.toList.minOn? fun (_, entry) => entry.last).map Prod.fst

/-- Without some keys. -/
def forget (owners : Std.ExtTreeMap String ObjectName) (keys : Std.ExtTreeSet String) :
    Std.ExtTreeMap String ObjectName :=
  keys.toList.foldl (fun owners key => owners.erase key) owners

/-- Without the entry of a name and its keys. -/
def evict (c : KeyCache) (name : ObjectName) : KeyCache :=
  match c.entries[name]? with
  | none => c
  | some entry => { c with
      entries := c.entries.erase name
      owners := ⟨forget c.owners.mac entry.keys.mac, forget c.owners.uuid entry.keys.uuid⟩ }

/-- Without the entry that was used least recently. -/
def evictOldest (c : KeyCache) : KeyCache :=
  c.oldest?.elim c c.evict

/-- A cache with entries has an oldest one. -/
theorem exists_oldest?_eq_some {c : KeyCache} (h : 0 < c.size) :
    ∃ name entry, c.oldest? = some name ∧ c.entries[name]? = some entry := by
  have length : c.entries.toList.length = c.size := Std.ExtTreeMap.length_toList
  have cached : c.entries.toList ≠ [] := List.ne_nil_of_length_pos (length ▸ h)
  obtain ⟨⟨name, entry⟩, found⟩ :=
    Option.isSome_iff_exists.1 (List.isSome_minOn?_iff.2 cached :
      (c.entries.toList.minOn? fun (_, entry) => entry.last).isSome)
  refine ⟨name, entry, by rw [oldest?, found]; rfl, ?_⟩
  exact Std.ExtTreeMap.mem_toList_iff_getElem?_eq_some.1 (List.minOn?_mem found)

theorem size_evictOldest_lt {c : KeyCache} (h : 0 < c.size) : c.evictOldest.size < c.size := by
  obtain ⟨name, entry, oldest, cached⟩ := exists_oldest?_eq_some h
  have held : c.entries.contains name = true := by
    rw [Std.ExtTreeMap.contains_eq_isSome_getElem?, cached]
    rfl
  have erased : (c.entries.erase name).size = c.entries.size - 1 := by
    rw [Std.ExtTreeMap.size_erase, if_pos held]
  simp only [evictOldest, oldest, Option.elim, evict, cached, size] at h ⊢
  omega

/-- Drop the entry that was used least recently, again and again until the capacity is
    kept; tells how many. -/
def shrink (c : KeyCache) : KeyCache × Nat :=
  if h : 0 < c.capacity ∧ c.capacity < c.size then
    have _ := size_evictOldest_lt (Nat.zero_lt_of_lt h.2)
    let (left, evicted) := shrink c.evictOldest
    (left, evicted + 1)
  else (c, 0)
termination_by c.size

/-- Cache a key for a name; tells how many entries were dropped. -/
def insert (c : KeyCache) (space : KeySpace) (key : String) (name : ObjectName) : KeyCache × Nat :=
  (c.assign space key name).shrink

end KeyCache

/-- What is asked of a cache. -/
inductive CacheStep where
  | lookup (mac uuid : Option String)
  | insert (space : KeySpace) (key : String) (name : ObjectName)

namespace KeyCache

/-- The cache after one more step. -/
def next (c : KeyCache) : CacheStep → KeyCache
  | .lookup mac uuid => (c.lookup mac uuid).1
  | .insert space key name => (c.insert space key name).1

/-- A new cache after some steps. -/
def of (capacity : Nat) (steps : List CacheStep) : KeyCache :=
  steps.foldl next (new capacity)

theorem of_append_singleton (capacity : Nat) (steps : List CacheStep) (step : CacheStep) :
    of capacity (steps ++ [step]) = (of capacity steps).next step := by
  simp [of]

end KeyCache

end HardwareIndex
