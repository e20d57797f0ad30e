import HardwareIndex.Proofs.Resource.Kinds

/-!
# Validation of objects

An object of any kind has the record that its specification describes, if that is
well-formed. Of another object the first fault of its specification is told, with
the name of the object (`Object.toRecord_accepts_or_tells_first_fault`).
-/

namespace HardwareIndex

namespace RecordKind

/-- The record that a specification describes. -/
def Describes : (kind : RecordKind) → ObjectName → kind.Spec → kind.Record → Prop
  | .machine => MachineSpec.Describes
  | .bmc => BmcSpec.Describes
  | .machineType => MachineTypeSpec.Describes

/-- A specification describes a record. -/
def WellFormed : (kind : RecordKind) → kind.Spec → Prop
  | .machine => MachineSpec.WellFormed
  | .bmc => BmcSpec.WellFormed
  | .machineType => MachineTypeSpec.WellFormed

/-- Everything that is wrong with a specification, in the order in which it is looked for. -/
def faults : (kind : RecordKind) → kind.Spec → List Fault
  | .machine => MachineSpec.faults
  | .bmc => BmcSpec.faults
  | .machineType => MachineTypeSpec.faults

variable {kind : RecordKind}

theorem tells_convert (name : ObjectName) (spec : kind.Spec) :
    Tells (Convertible.convert name spec) (kind.faults spec) (kind.Describes name spec) := by
  cases kind with
  | machine => exact MachineSpec.tells_convert name spec
  | bmc => exact BmcSpec.tells_convert name spec
  | machineType => exact MachineTypeSpec.tells_convert name spec

/-- There is a record for each well-formed specification, and for no other. -/
theorem exists_describes_iff {name : ObjectName} {spec : kind.Spec} :
    (∃ r, kind.Describes name spec r) ↔ kind.WellFormed spec := by
  cases kind with
  | machine => exact MachineSpec.exists_describes_iff
  | bmc => exact BmcSpec.exists_describes_iff
  | machineType => exact MachineTypeSpec.exists_describes_iff

end RecordKind

namespace Object

variable {S R : Type} [Convertible S R] {o : Object S}

theorem toRecord_eq_ok_iff {r : R} :
    o.toRecord = .ok r ↔ Convertible.convert o.name o.spec = .ok r := by
  unfold toRecord
  cases Convertible.convert o.name o.spec <;> simp

theorem toRecord_eq_error_iff {e : ValidationError} :
    o.toRecord = .error e ↔
      e.object = o.name ∧ Convertible.convert o.name o.spec = .error e.fault := by
  obtain ⟨object, fault⟩ := e
  unfold toRecord
  cases Convertible.convert o.name o.spec <;> simp [eq_comm]

/-- An object has a record exactly if it is well-formed, and the record is the one that its
    specification describes. Of an object that is not the first fault is told, with the name of
    the object. An interface needs an address, since no address is written as the empty text, and
    a machine type a prefix. -/
theorem toRecord_accepts_or_tells_first_fault :
    (∀ m, Mac.parse "" ≠ .ok m) ∧
    (∀ o : Object RecordKind.machineType.Spec, o.spec.macPrefixes = [] →
      ∃ e, o.toRecord = .error e ∧ e.object = o.name ∧ e.reason = "prefixes required") ∧
    ∀ (kind : RecordKind) (o : Object kind.Spec),
      ((∃ r, o.toRecord = .ok r) ↔ kind.WellFormed o.spec) ∧
      (∀ r, o.toRecord = .ok r ↔ kind.Describes o.name o.spec r) ∧
      (∀ e, o.toRecord = .error e ↔
        e.object = o.name ∧ (kind.faults o.spec).head? = some e.fault) ∧
      ∀ e, o.toRecord = .error e →
        ((kind.faults o.spec).map Fault.message).head? = some e.reason := by
  have refused {kind : RecordKind} (o : Object kind.Spec) (e : ValidationError) :
      o.toRecord = .error e ↔ e.object = o.name ∧ (kind.faults o.spec).head? = some e.fault := by
    rw [toRecord_eq_error_iff, (RecordKind.tells_convert o.name o.spec).error_iff]
  refine ⟨nofun, ?_, ?_⟩
  · intro o none
    refine ⟨⟨o.name, .prefixesRequired⟩, (refused o _).2 ⟨rfl, ?_⟩, rfl, rfl⟩
    simp [RecordKind.faults, MachineTypeSpec.faults, none]
  intro kind o
  have described (r : kind.Record) : o.toRecord = .ok r ↔ kind.Describes o.name o.spec r := by
    rw [toRecord_eq_ok_iff, (RecordKind.tells_convert o.name o.spec).ok_iff]
  refine ⟨?_, described, refused o, ?_⟩
  · rw [exists_congr described, RecordKind.exists_describes_iff]
  · intro e failed
    obtain ⟨_, first⟩ := (refused o e).1 failed
    rw [List.head?_map, first]
    rfl

/-- An interface is told of before the ones after it and before the identifier. -/
theorem earlier_interface_told_first :
    let o : Object RecordKind.machine.Spec :=
      ⟨⟨some "node-1", some "lab", none, none, none⟩,
        ⟨some "no", [⟨none, "02:00:00:00:00:01", some "10.0.0"⟩, ⟨none, "", none⟩], none⟩, none⟩
    o.toRecord = .error ⟨⟨"lab", "node-1"⟩, .nicIp 0⟩ ∧
      ((RecordKind.machine.faults o.spec).map Fault.message).head? =
        some "nic 0 ip: invalid IP address syntax" := by
  intro o
  obtain ⟨_, _, refused, reason⟩ := toRecord_accepts_or_tells_first_fault.2.2 .machine o
  have failed : o.toRecord = .error ⟨⟨"lab", "node-1"⟩, .nicIp 0⟩ :=
    (refused _).2 ⟨rfl, by decide +kernel⟩
  exact ⟨failed, reason _ failed⟩

end Object

end HardwareIndex
