import HardwareIndex.Store.Basic

/-!
# Indices

An index holds the entries of one kind and a phase: it is uninitialized until a
setup begins, initializing while one lists its store, and ready from the first
setup that completes. Records are set and deleted in any phase. A setup that
fails leaves the entries as they were.
-/

namespace HardwareIndex

/-- How far the setup of an index has come. -/
inductive Phase where
  | uninitialized
  | initializing
  | ready
  deriving DecidableEq, Repr

/-- The phases. -/
def Phase.all : List Phase := [.uninitialized, .initializing, .ready]

/-- The word for a phase. -/
def Phase.text : Phase → String
  | .uninitialized => "uninitialized"
  | .initializing => "initializing"
  | .ready => "ready"

/-- What a setup reports. -/
structure SetupReport where
  /-- Number of records inserted. -/
  indexed : Nat
  /-- Objects that were skipped. -/
  invalid : List ValidationError
  /-- The index was ready before; nothing was listed. -/
  alreadyInitialized : Bool
  deriving DecidableEq, Repr

/-- The report of a setup that found the index ready. -/
def SetupReport.already : SetupReport := ⟨0, [], true⟩

/-- The index of one kind of records. -/
structure Index (R : Type) where
  entries : Entries R
  phase : Phase

namespace Index

variable {R : Type} [Indexed R]

/-- A new index. -/
def new : Index R := ⟨Entries.empty, .uninitialized⟩

/-- Whether a setup has completed. -/
def isReady (index : Index R) : Bool :=
  index.phase == .ready

/-- With a record set. -/
def set (index : Index R) (r : R) : Index R × List Warning :=
  let (entries, warnings) := index.entries.insert r
  ({ index with entries }, warnings)

/-- Without the record of a name. -/
def delete (index : Index R) (name : ObjectName) : Index R :=
  { index with entries := index.entries.remove name }

/-- While a setup lists its store. -/
def begin (index : Index R) : Index R :=
  { index with phase := .initializing }

/-- After a setup whose store could not be listed. -/
def fail (index : Index R) (e : StoreError) : Index R × List Warning :=
  ({ index with phase := .uninitialized }, [.listingFailed (Indexed.kind R) e.message])

/-- After a setup that listed its store. -/
def populate (index : Index R) (l : Listing R) : Index R × SetupReport × List Warning :=
  let skipped := l.invalid.map (Warning.invalidSkipped (Indexed.kind R))
  let (entries, warnings) := index.entries.insertAll l.valid
  (⟨entries, .ready⟩, ⟨l.valid.length, l.invalid, false⟩, skipped ++ warnings)

/-- A whole setup from a store that answers at once. -/
def setup (index : Index R) (listing : Except StoreError (Listing R)) :
    Index R × Except StoreError SetupReport × List Warning :=
  if index.isReady then (index, .ok .already, [])
  else match listing with
    | .ok l =>
      let (index, report, warnings) := index.begin.populate l
      (index, .ok report, warnings)
    | .error e =>
      let (index, warnings) := index.begin.fail e
      (index, .error e, warnings)

end Index

end HardwareIndex
