import HardwareIndex.Resource.Object
import HardwareIndex.Proofs.Resource.Conversion

/-!
# Kinds with their records and specifications

What is true of every kind is said once for `kind.Record` and `kind.Spec`. Two
laws make up for what the classes of records leave open: a record has the name of
the object it was made from (`LawfulConvertible`), and a value that is kept for a
kind is the one that was put there (`PerKind.LawfulField`).
-/

namespace HardwareIndex

/-- Conversion gives the record the name of its object. -/
class LawfulConvertible (S : Type) {R : outParam Type} [Convertible S R] : Prop where
  name_of_convert : ∀ {name : ObjectName} {spec : S} {r : R},
    Convertible.convert name spec = .ok r → Indexed.name r = name

/-- The value of a kind is the one that was put there. -/
class PerKind.LawfulField (R : Type) [PerKind.Field R] : Prop where
  get_modify : ∀ {F : Type → Type} (v : PerKind F) (f : F R → F R),
    (v.modify R f).get R = f (v.get R)

instance : LawfulConvertible MachineSpec where
  name_of_convert h := (((MachineSpec.tells_convert _ _).ok_iff _).1 h).name_eq

instance : LawfulConvertible BmcSpec where
  name_of_convert h := (((BmcSpec.tells_convert _ _).ok_iff _).1 h).name_eq

instance : LawfulConvertible MachineTypeSpec where
  name_of_convert h := (((MachineTypeSpec.tells_convert _ _).ok_iff _).1 h).name_eq

instance : PerKind.LawfulField Machine := ⟨fun _ _ => rfl⟩

instance : PerKind.LawfulField Bmc := ⟨fun _ _ => rfl⟩

instance : PerKind.LawfulField MachineType := ⟨fun _ _ => rfl⟩

namespace RecordKind

/-- The records of a kind. -/
@[reducible] def Record : RecordKind → Type
  | .machine => Machine
  | .bmc => Bmc
  | .machineType => MachineType

/-- The specifications of the objects of a kind. -/
@[reducible] def Spec : RecordKind → Type
  | .machine => MachineSpec
  | .bmc => BmcSpec
  | .machineType => MachineTypeSpec

instance : (kind : RecordKind) → Convertible kind.Spec kind.Record
  | .machine => inferInstanceAs (Convertible MachineSpec Machine)
  | .bmc => inferInstanceAs (Convertible BmcSpec Bmc)
  | .machineType => inferInstanceAs (Convertible MachineTypeSpec MachineType)

instance (kind : RecordKind) : Indexed kind.Record :=
  (inferInstance : Convertible kind.Spec kind.Record).toIndexed

instance : (kind : RecordKind) → LawfulConvertible kind.Spec
  | .machine => inferInstanceAs (LawfulConvertible MachineSpec)
  | .bmc => inferInstanceAs (LawfulConvertible BmcSpec)
  | .machineType => inferInstanceAs (LawfulConvertible MachineTypeSpec)

instance : (kind : RecordKind) → PerKind.Field kind.Record
  | .machine => inferInstanceAs (PerKind.Field Machine)
  | .bmc => inferInstanceAs (PerKind.Field Bmc)
  | .machineType => inferInstanceAs (PerKind.Field MachineType)

instance : (kind : RecordKind) → PerKind.LawfulField kind.Record
  | .machine => inferInstanceAs (PerKind.LawfulField Machine)
  | .bmc => inferInstanceAs (PerKind.LawfulField Bmc)
  | .machineType => inferInstanceAs (PerKind.LawfulField MachineType)

@[simp] theorem kind_record (kind : RecordKind) : Indexed.kind kind.Record = kind := by
  cases kind <;> rfl

end RecordKind

namespace Object

variable {S R : Type} [Convertible S R] {o : Object S}

/-- A record has the name of its object. -/
theorem name_of_toRecord [LawfulConvertible S] {r : R} (h : o.toRecord = .ok r) :
    Indexed.name r = o.name := by
  unfold toRecord at h
  split at h <;> cases h
  exact LawfulConvertible.name_of_convert ‹_›

/-- What is wrong with an object is told of that object. -/
theorem object_of_toRecord {e : ValidationError} (h : o.toRecord = .error e) :
    e.object = o.name := by
  unfold toRecord at h
  split at h <;> cases h
  rfl

end Object

/-! ## One value per kind -/

namespace PerKind

variable {F : Type → Type}

/-- The values of each kind, given kind by kind. -/
def ofKind (f : (kind : RecordKind) → F kind.Record) : PerKind F :=
  ⟨f .machine, f .bmc, f .machineType⟩

@[simp] theorem get_ofKind (f : (kind : RecordKind) → F kind.Record) (kind : RecordKind) :
    (ofKind f).get kind.Record = f kind := by
  cases kind <;> rfl

/-- Values that differ from others in one kind are the others with the value of that kind
    changed. -/
theorem ofKind_eq_modify {f g : (kind : RecordKind) → F kind.Record} {kind : RecordKind}
    (others : ∀ kind', kind' ≠ kind → g kind' = f kind') :
    ofKind g = (ofKind f).modify kind.Record fun _ => g kind := by
  cases kind with
  | machine => rw [ofKind, others .bmc nofun, others .machineType nofun]; rfl
  | bmc => rw [ofKind, others .machine nofun, others .machineType nofun]; rfl
  | machineType => rw [ofKind, others .machine nofun, others .bmc nofun]; rfl

/-- A value is changed according to what it was. -/
theorem modify_eq_of_get {v : PerKind F} {kind : RecordKind} {f : F kind.Record → F kind.Record}
    {w : F kind.Record} (h : f (v.get kind.Record) = w) :
    v.modify kind.Record f = v.modify kind.Record fun _ => w := by
  subst h
  cases kind <;> rfl

theorem modify_get (v : PerKind F) (kind : RecordKind) :
    (v.modify kind.Record fun _ => v.get kind.Record) = v := by
  cases kind <;> rfl

end PerKind

end HardwareIndex
