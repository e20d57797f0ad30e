import HardwareIndex.Client.KeyCache

/-!
# Recency lists

A cache of resolved keys in its plainest form: a list of names with their keys,
from the one used most recently to the one used least recently. A use moves an
entry to the front, and what is too much is dropped from the end. There are
neither stamps nor owners of keys; the keys are looked for in the entries.
-/

namespace HardwareIndex

open Std

/-- A name with the keys that resolve to it. -/
structure RecencyEntry where
  name : ObjectName
  keys : PerSpace (ExtTreeSet String)

namespace RecencyEntry

/-- Whether an entry has a key. -/
def has (e : RecencyEntry) (space : KeySpace) (key : String) : Bool :=
  (e.keys.get space).contains key

/-- Whether an entry has no key at all. -/
def isBare (e : RecencyEntry) : Bool :=
  e.keys.mac.isEmpty && e.keys.uuid.isEmpty

/-- With a key. -/
def gain (e : RecencyEntry) (space : KeySpace) (key : String) : RecencyEntry :=
  { e with keys := e.keys.modify space (·.insert key) }

/-- Without a key that is given to a name, if that is another one; nothing is left of an
    entry that had no other key. -/
def yield? (e : RecencyEntry) (space : KeySpace) (key : String) (name : ObjectName) :
    Option RecencyEntry :=
  if e.name ≠ name ∧ e.has space key then
    let left := { e with keys := e.keys.modify space (·.erase key) }
    if left.isBare then none else some left
  else some e

end RecencyEntry

/-- Names with their keys, the one used last in front. -/
structure RecencyList where
  /-- Largest number of entries; zero for no bound. -/
  capacity : Nat
  entries : List RecencyEntry

/-- What a step answers: the name that is found, or how many entries are dropped. -/
inductive CacheAnswer where
  | found (name : Option ObjectName)
  | evicted (count : Nat)
  deriving DecidableEq

/-- What a cache answers to a step. -/
def KeyCache.answer (c : KeyCache) : CacheStep → CacheAnswer
  | .lookup mac uuid => .found (c.lookup mac uuid).2
  | .insert space key name => .evicted (c.insert space key name).2

namespace RecencyList

/-- No entries. -/
def new (capacity : Nat) : RecencyList := ⟨capacity, []⟩

/-- Whether a name has an entry. -/
def containsName (l : RecencyList) (name : ObjectName) : Bool :=
  l.entries.any (·.name == name)

/-- The name that a key is known for; no key and the empty key are not known. -/
def known? (l : RecencyList) (space : KeySpace) : Option String → Option ObjectName
  | none => none
  | some key =>
    if key.isEmpty then none else (l.entries.find? (·.has space key)).map RecencyEntry.name

/-- The name that an address is known for or, if there is none, an identifier. -/
def find? (l : RecencyList) (mac uuid : Option String) : Option ObjectName :=
  match l.known? .mac mac with
  | some name => some name
  | none => l.known? .uuid uuid

/-- Look keys up and move the entry of the name that is found to the front. -/
def lookup (l : RecencyList) (mac uuid : Option String) : RecencyList × Option ObjectName :=
  match l.find? mac uuid with
  | some name =>
    let (found, others) := l.entries.partition (·.name == name)
    ({ l with entries := found ++ others }, some name)
  | none => (l, none)

/-- Take a key from the entries of other names and give it to the entry of a name, which
    goes to the front. -/
def give (l : RecencyList) (space : KeySpace) (key : String) (name : ObjectName) :
    List RecencyEntry :=
  let left := l.entries.filterMap (·.yield? space key name)
  let own := (left.find? (·.name == name)).getD ⟨name, ⟨∅, ∅⟩⟩
  own.gain space key :: left.filter (·.name != name)

/-- Give a key to a name and drop the last entry if there is one too many; tells how many
    were dropped. -/
def insert (l : RecencyList) (space : KeySpace) (key : String) (name : ObjectName) :
    RecencyList × Nat :=
  let entries := l.give space key name
  if l.capacity ≠ 0 ∧ l.capacity < entries.length then
    ({ l with entries := entries.dropLast }, 1)
  else ({ l with entries }, 0)

/-- What a list answers to a step. -/
def answer (l : RecencyList) : CacheStep → CacheAnswer
  | .lookup mac uuid => .found (l.lookup mac uuid).2
  | .insert space key name => .evicted (l.insert space key name).2

/-- The list after one more step. -/
def next (l : RecencyList) : CacheStep → RecencyList
  | .lookup mac uuid => (l.lookup mac uuid).1
  | .insert space key name => (l.insert space key name).1

/-- A new list after some steps. -/
def of (capacity : Nat) (steps : List CacheStep) : RecencyList :=
  steps.foldl next (new capacity)

theorem of_append_singleton (capacity : Nat) (steps : List CacheStep) (step : CacheStep) :
    of capacity (steps ++ [step]) = (of capacity steps).next step := by
  simp [of]

end RecencyList

end HardwareIndex
