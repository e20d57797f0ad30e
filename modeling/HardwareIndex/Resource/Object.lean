import HardwareIndex.Inventory.PerKind
import HardwareIndex.Resource.Metadata
import HardwareIndex.Resource.Spec
import HardwareIndex.Resource.Status

/-!
# Objects

An object has metadata, a specification and perhaps a status. `Convertible` says
for each kind of specification what records it describes. `Object.toRecord`
validates an object; its errors name the object itself. `Object.observe` keeps of
an object what its controller acts on.
-/

namespace HardwareIndex

/-- An object as it is stored. -/
structure Object (S : Type) where
  metadata : Metadata
  spec : S
  status : Option IndexStatus

namespace RecordKind

/-- The path segment of a collection of objects. -/
def plural : RecordKind → String
  | .machine => "machineinfos"
  | .bmc => "bmcinfos"
  | .machineType => "machinetypes"

/-- What the status of an indexed object says. -/
def okMessage : RecordKind → String
  | .machine => "machine ok"
  | .bmc => "bmc ok"
  | .machineType => "machine type ok"

end RecordKind

/-- Specifications of one kind, with the records they describe. -/
class Convertible (S : Type) (R : outParam Type) extends Indexed R where
  specToJson : S → Json
  specOfJson? : Json → Option S
  convert : ObjectName → S → Except Fault R

instance : Convertible MachineSpec Machine where
  specToJson := MachineSpec.toJson
  specOfJson? := MachineSpec.ofJson?
  convert := MachineSpec.convert

instance : Convertible BmcSpec Bmc where
  specToJson := BmcSpec.toJson
  specOfJson? := BmcSpec.ofJson?
  convert := BmcSpec.convert

instance : Convertible MachineTypeSpec MachineType where
  specToJson := MachineTypeSpec.toJson
  specOfJson? := MachineTypeSpec.ofJson?
  convert := MachineTypeSpec.convert

namespace Object

variable {S R : Type}

/-- The name of an object. -/
def name (o : Object S) : ObjectName :=
  o.metadata.objectName

/-- The record of an object, or what is wrong with it. -/
def toRecord [Convertible S R] (o : Object S) : Except ValidationError R :=
  match Convertible.convert o.name o.spec with
  | .ok r => .ok r
  | .error fault => .error ⟨o.name, fault⟩

/-- The object that a value writes. -/
def ofJson? [Convertible S R] (j : Json) : Option (Object S) :=
  match j with
  | .obj _ => do
    let metadata ← Json.required? Metadata.ofJson? (j.get? "metadata")
    let spec ← Json.required? (Convertible.specOfJson? (S := S) (R := R)) (j.get? "spec")
    let status ← Json.optional? IndexStatus.ofJson? (j.get? "status")
    return ⟨metadata, spec, status⟩
  | _ => none

end Object

/-- What a controller sees of an object: the record it describes, or what is wrong with
    it, in place of its specification. -/
structure Observed (R : Type) where
  metadata : Metadata
  status : Option IndexStatus
  record : Except ValidationError R

/-- What a controller sees of an object. -/
def Object.observe {S R : Type} [Convertible S R] (o : Object S) : Observed R :=
  ⟨o.metadata, o.status, o.toRecord⟩

namespace Observed

/-- The name of an object. -/
def name {R : Type} (o : Observed R) : ObjectName :=
  o.metadata.objectName

/-- A reader of objects of one kind. -/
abbrev Reader (R : Type) := Json → Option (Observed R)

/-- The reader of objects with the given kind of specification. -/
def reader (S : Type) {R : Type} [Convertible S R] : Reader R :=
  fun j => (Object.ofJson? (S := S) (R := R) j).map Object.observe

/-- The reader of the objects of each kind. -/
def readers : PerKind Reader :=
  ⟨reader MachineSpec, reader BmcSpec, reader MachineTypeSpec⟩

end Observed

end HardwareIndex
