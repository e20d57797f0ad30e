/-!
# Kinds of records

Machines, management controllers and machine types each have an index of their
own. A kind is written as one lower-case word and has a path segment under which
its lookups are answered.
-/

namespace HardwareIndex

/-- The kinds of records. -/
inductive RecordKind where
  | machine
  | bmc
  | machineType
  deriving DecidableEq, Repr

namespace RecordKind

/-- The kinds in the order in which they are populated. -/
def all : List RecordKind := [.machine, .bmc, .machineType]

/-- The word for a kind. -/
def text : RecordKind → String
  | .machine => "machine"
  | .bmc => "bmc"
  | .machineType => "machinetype"

instance : ToString RecordKind := ⟨text⟩

/-- The kind that a word stands for. -/
def ofText? (s : String) : Option RecordKind :=
  all.find? fun kind => kind.text == s

/-- The message for a word that stands for no kind. -/
def unknownMessage : String := "Matching variant not found"

/-- The path segment under which lookups of a kind are answered. -/
def lookupPath : RecordKind → String
  | .machine => "info"
  | .bmc => "bmc"
  | .machineType => "type"

theorem ofText?_text (kind : RecordKind) : ofText? kind.text = some kind := by
  cases kind <;> rfl

end RecordKind

end HardwareIndex
