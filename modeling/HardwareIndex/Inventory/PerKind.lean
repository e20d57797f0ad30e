import HardwareIndex.Inventory.Record

/-!
# One value per kind

Where there is one of something for each kind of records: an index, a slot, a
controller. `PerKind.Field` selects the value of a kind by its type of records.
-/

namespace HardwareIndex

/-- A value for each kind of records. -/
structure PerKind (F : Type → Type) where
  machines : F Machine
  bmcs : F Bmc
  types : F MachineType

/-- The kinds for which there is a value. -/
class PerKind.Field (R : Type) where
  get : {F : Type → Type} → PerKind F → F R
  modify : {F : Type → Type} → PerKind F → (F R → F R) → PerKind F

instance : PerKind.Field Machine where
  get v := v.machines
  modify v f := { v with machines := f v.machines }

instance : PerKind.Field Bmc where
  get v := v.bmcs
  modify v f := { v with bmcs := f v.bmcs }

instance : PerKind.Field MachineType where
  get v := v.types
  modify v f := { v with types := f v.types }

namespace PerKind

variable {F : Type → Type}

/-- The value of a kind. -/
def get (v : PerKind F) (R : Type) [PerKind.Field R] : F R :=
  PerKind.Field.get v

/-- With the value of a kind changed. -/
def modify (v : PerKind F) (R : Type) [PerKind.Field R] (f : F R → F R) : PerKind F :=
  PerKind.Field.modify v f

end PerKind

end HardwareIndex
