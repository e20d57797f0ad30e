import HardwareIndex.Index.Warning

/-!
# Entries of an index

Records by name, with an owner for every address and identifier that some record
lists. A key that several records list belongs to the one inserted last; when
its owner lets go of it, it goes to the first remaining record, in name order,
that lists it. `insert` replaces the record of the same name and reports every
key it takes from another record.
-/

namespace HardwareIndex

/-- Values by object name, in name order. -/
abbrev NameMap (α : Type) := Std.ExtTreeMap ObjectName α

/-- Records with the owners of their keys. -/
structure Entries (R : Type) where
  records : NameMap R
  macOwners : Std.ExtTreeMap Mac ObjectName
  uuidOwners : Std.ExtTreeMap Uuid ObjectName

namespace Entries

variable {R : Type} [Indexed R]

/-- No records. -/
def empty : Entries R := ⟨∅, ∅, ∅⟩

/-- The name of the first record that passes a test. -/
def claimant? (e : Entries R) (lists : R → Bool) : Option ObjectName :=
  (e.records.values.find? lists).map Indexed.name

/-- Whether a record lists an address. -/
def listsMac (mac : Mac) (r : R) : Bool :=
  (Indexed.macs r).contains mac

/-- Whether a record has an identifier. -/
def listsUuid (uuid : Uuid) (r : R) : Bool :=
  Indexed.uuid r == some uuid

/-- Take an address from a record that is gone: it goes to the first record that still
    lists it. -/
def releaseMac (name : ObjectName) (e : Entries R) (mac : Mac) : Entries R :=
  if e.macOwners[mac]? = some name then
    match e.claimant? (listsMac mac) with
    | some heir => { e with macOwners := e.macOwners.insert mac heir }
    | none => { e with macOwners := e.macOwners.erase mac }
  else e

/-- Take an identifier from a record that is gone. -/
def releaseUuid (name : ObjectName) (e : Entries R) (uuid : Uuid) : Entries R :=
  if e.uuidOwners[uuid]? = some name then
    match e.claimant? (listsUuid uuid) with
    | some heir => { e with uuidOwners := e.uuidOwners.insert uuid heir }
    | none => { e with uuidOwners := e.uuidOwners.erase uuid }
  else e

/-- Take all keys from a record that is gone. -/
def release (e : Entries R) (r : R) : Entries R :=
  let e := (Indexed.macs r).foldl (releaseMac (Indexed.name r)) e
  (Indexed.uuid r).elim e (releaseUuid (Indexed.name r) e)

/-- Without the record of a name; its keys are released. -/
def remove (e : Entries R) (name : ObjectName) : Entries R :=
  match e.records[name]? with
  | none => e
  | some old => release { e with records := e.records.erase name } old

/-- Give an address to a record, with a warning if another one had it. -/
def claimMac (name : ObjectName) : Entries R × List Warning → Mac → Entries R × List Warning
  | (e, warnings), mac =>
    let moved := match e.macOwners[mac]? with
      | none => []
      | some previous =>
        if previous = name then [] else [.macMoved (Indexed.kind R) mac previous name]
    ({ e with macOwners := e.macOwners.insert mac name }, warnings ++ moved)

/-- Give an identifier to a record, with a warning if another one had it. -/
def claimUuid (name : ObjectName) : Entries R × List Warning → Uuid → Entries R × List Warning
  | (e, warnings), uuid =>
    let moved := match e.uuidOwners[uuid]? with
      | none => []
      | some previous =>
        if previous = name then [] else [.uuidMoved (Indexed.kind R) uuid previous name]
    ({ e with uuidOwners := e.uuidOwners.insert uuid name }, warnings ++ moved)

/-- Give all its keys to a record. -/
def claim (e : Entries R) (r : R) : Entries R × List Warning :=
  let taken := (Indexed.macs r).foldl (claimMac (Indexed.name r)) (e, [])
  (Indexed.uuid r).elim taken (claimUuid (Indexed.name r) taken)

/-- With a record, which replaces the one of its name. -/
def insert (e : Entries R) (r : R) : Entries R × List Warning :=
  let (claimed, warnings) := (e.remove (Indexed.name r)).claim r
  ({ claimed with records := claimed.records.insert (Indexed.name r) r }, warnings)

/-- With several records, one after the other. -/
def insertAll (e : Entries R) (records : List R) : Entries R × List Warning :=
  records.foldl (fun (e, warnings) r =>
    let (e, more) := e.insert r
    (e, warnings ++ more)) (e, [])

/-- The record that a query for an address finds. -/
def byMac? (e : Entries R) (mac : Mac) : Option R :=
  match Indexed.matching R with
  | .exact => e.macOwners[mac]?.bind fun name => e.records[name]?
  | .byPrefix => e.records.values.find? fun r => (Indexed.prefixes r).any (·.contains mac)

/-- The record that a query for an identifier finds. -/
def byUuid? (e : Entries R) (uuid : Uuid) : Option R :=
  e.uuidOwners[uuid]?.bind fun name => e.records[name]?

/-- The names of all records, in order. -/
def names (e : Entries R) : List ObjectName :=
  e.records.keys

/-- The number of records. -/
def size (e : Entries R) : Nat :=
  e.records.size

end Entries

end HardwareIndex
