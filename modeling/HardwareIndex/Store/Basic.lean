import HardwareIndex.Index.Entries
import HardwareIndex.Resource.Object

/-!
# Stores

Where an index is populated from: a store lists its objects or fails, and reads
single ones by name. A memory store keeps objects by name and lists them in name
order.
-/

namespace HardwareIndex

/-- A store that cannot be read, with the cause in words. -/
structure StoreError where
  cause : String
  deriving DecidableEq, Repr

/-- The wording of a failure. -/
def StoreError.message (e : StoreError) : String :=
  "backing store error: " ++ e.cause

/-- The failure of a store behind a closed port. -/
def StoreError.refused : StoreError := ⟨"connection refused"⟩

/-- What a store lists: for each object its record or what is wrong with it. -/
abbrev Listing (R : Type) := List (Except ValidationError R)

namespace Listing

variable {S R : Type}

/-- The listing of objects. -/
def ofObjects [Convertible S R] (objects : List (Object S)) : Listing R :=
  objects.map Object.toRecord

/-- The records of the valid objects. -/
def valid (l : Listing R) : List R :=
  l.filterMap Except.toOption

/-- What is wrong with the invalid objects. -/
def invalid (l : Listing R) : List ValidationError :=
  l.filterMap fun
    | .ok _ => none
    | .error e => some e

end Listing

namespace MemoryStore

/-- A store of objects kept by name; of objects with one name the last is kept. -/
def ofObjects {S : Type} (objects : List (Object S)) : NameMap (Object S) :=
  objects.foldl (fun store o => store.insert o.name o) ∅

/-- A store of records kept by name. -/
def ofRecords {R : Type} [Indexed R] (records : List R) : NameMap R :=
  records.foldl (fun store r => store.insert (Indexed.name r) r) ∅

end MemoryStore

end HardwareIndex
