import HardwareIndex.Resource.Spec
import Mathlib.Data.List.Forall2

/-!
# Conversion of specifications

A specification is converted part by part, and conversion ends at the first part
with a fault. What counts is told without this order first: `Describes` says what
record a specification describes, `WellFormed` which specifications there is one
for, and `faults` lists everything that is wrong with a specification. Conversion
gives the record, or the first of the faults (`Tells`).
-/

namespace HardwareIndex

/-! ## Checks -/

/-- A check gives what it is to make, or the first of all faults there are. -/
structure Tells {ε α : Type} (check : Except ε α) (faults : List ε) (Makes : α → Prop) : Prop where
  ok_iff : ∀ a, check = .ok a ↔ Makes a
  error_iff : ∀ e, check = .error e ↔ faults.head? = some e

namespace Tells

variable {ε α β : Type} {check : Except ε α} {faults faults' : List ε} {Makes : α → Prop}

theorem ok {a : α} (makes : ∀ b, Makes b ↔ b = a) : Tells (.ok a : Except ε α) [] Makes where
  ok_iff := by simp [makes, eq_comm]
  error_iff := by simp

theorem error {e : ε} (makes : ∀ a, ¬Makes a) : Tells (.error e) [e] Makes where
  ok_iff := by simp [makes]
  error_iff := by simp

/-- A check makes something exactly if there is no fault. -/
theorem makes_iff (h : Tells check faults Makes) : (∃ a, Makes a) ↔ faults = [] := by
  simp only [← h.ok_iff, ← List.head?_eq_none_iff]
  cases check with
  | ok a =>
    refine iff_of_true ⟨a, rfl⟩ (Option.eq_none_iff_forall_ne_some.2 ?_)
    intro e first
    cases (h.error_iff e).2 first
  | error e =>
    have first := (h.error_iff e).1 rfl
    simp [first]

theorem congr {Makes' : α → Prop} (h : Tells check faults Makes)
    (same : ∀ a, Makes' a ↔ Makes a) : Tells check faults Makes' where
  ok_iff a := by rw [h.ok_iff, same]
  error_iff := h.error_iff

/-- Of two checks one after the other the first one comes first with its faults. -/
theorem bind {next : α → Except ε β} {Makes' : α → β → Prop} (h : Tells check faults Makes)
    (rest : ∀ a, Makes a → Tells (next a) faults' (Makes' a)) :
    Tells (check >>= next) (faults ++ faults') fun b => ∃ a, Makes a ∧ Makes' a b := by
  cases check with
  | ok a =>
    have makes (b : α) : Makes b ↔ b = a := by rw [← h.ok_iff, Except.ok.injEq, eq_comm]
    have faultless : faults = [] := h.makes_iff.1 ⟨a, (makes a).2 rfl⟩
    rw [faultless, List.nil_append]
    refine (rest a ((makes a).2 rfl)).congr ?_
    simp [makes]
  | error e =>
    have failed (a : α) : ¬Makes a := by
      rw [← h.ok_iff]
      nofun
    have first : faults.head? = some e := (h.error_iff e).1 rfl
    constructor
    · simp [failed, Bind.bind, Except.bind]
    · simp [first, Bind.bind, Except.bind]

theorem bind_pure {f : α → β} (h : Tells check faults Makes) :
    Tells (check >>= fun a => pure (f a)) faults fun b => ∃ a, Makes a ∧ b = f a := by
  have told := h.bind fun a _ => ok (a := f a) fun b => Iff.rfl
  rw [List.append_nil] at told
  exact told

theorem map {f : α → β} (h : Tells check faults Makes) :
    Tells (check.map f) faults fun b => ∃ a, Makes a ∧ b = f a := by
  have told := h.bind_pure (f := f)
  cases check <;> exact told

/-- The parts of a list are checked in their order. -/
theorem traverse (checkFrom : Nat → List α → Except ε (List β)) {checkAt : Nat → α → Except ε β}
    {faultsAt : Nat → α → List ε} {Makes : α → β → Prop}
    (nil : ∀ i, checkFrom i [] = .ok [])
    (cons : ∀ i x xs, checkFrom i (x :: xs) =
      checkAt i x >>= fun y => checkFrom (i + 1) xs >>= fun ys => pure (y :: ys))
    (each : ∀ i x, Tells (checkAt i x) (faultsAt i x) (Makes x)) (i : Nat) (xs : List α) :
    Tells (checkFrom i xs) ((xs.zipIdx i).flatMap fun (x, j) => faultsAt j x)
      (List.Forall₂ Makes xs) := by
  induction xs generalizing i with
  | nil =>
    rw [nil]
    exact ok fun ys => List.forall₂_nil_left_iff
  | cons x xs ih =>
    rw [cons, List.zipIdx_cons, List.flatMap_cons]
    refine ((each i x).bind fun y _ => (ih (i + 1)).bind_pure).congr ?_
    intro ys
    simp only [List.forall₂_cons_left_iff, exists_and_left]

end Tells

theorem exists_forall₂_iff {α β : Type} {R : α → β → Prop} {xs : List α} :
    (∃ ys, List.Forall₂ R xs ys) ↔ ∀ x ∈ xs, ∃ y, R x y := by
  induction xs with
  | nil => simp
  | cons x xs ih =>
    rw [List.forall_mem_cons, ← ih]
    constructor
    · rintro ⟨_, related⟩
      obtain ⟨y, ys, first, others, _⟩ := List.forall₂_cons_left_iff.1 related
      exact ⟨⟨y, first⟩, ys, others⟩
    · rintro ⟨⟨y, first⟩, ys, others⟩
      exact ⟨y :: ys, .cons first others⟩

/-! ## Texts -/

/-- What is kept of a text that may be absent. An empty text counts as absent. -/
inductive Keeps {α : Type} (Reads : String → α → Prop) : Option String → Option α → Prop
  | missing : Keeps Reads none none
  | empty : Keeps Reads (some "") none
  | written {s : String} {a : α} : s ≠ "" → Reads s a → Keeps Reads (some s) (some a)

/-- A text is absent, or empty, or something reads it. -/
def Readable {α : Type} (Reads : String → α → Prop) (text : Option String) : Prop :=
  ∀ s, text = some s → s ≠ "" → ∃ a, Reads s a

/-- What a reader tells of a text it cannot read. -/
def refusal {ε α : Type} (wrap : ε → Fault) : Except ε α → List Fault
  | .ok _ => []
  | .error e => [wrap e]

/-- The faults of a text that may be absent. -/
def faultsIfWritten (faults : String → List Fault) : Option String → List Fault
  | none => []
  | some s => if s = "" then [] else faults s

/-- The fault of a network address. -/
def ipFaults (fault : Fault) (text : String) : List Fault :=
  if (Ip.parse? text).isSome then [] else [fault]

section Texts

variable {ε α : Type} {Reads : String → α → Prop}

@[simp] theorem keeps_none_iff {r : Option α} : Keeps Reads none r ↔ r = none := by
  constructor
  · rintro ⟨⟩
    rfl
  · rintro rfl
    exact .missing

@[simp] theorem keeps_empty_iff {r : Option α} : Keeps Reads (some "") r ↔ r = none := by
  constructor
  · rintro (_ | _ | ⟨written, _⟩)
    · rfl
    · exact absurd rfl written
  · rintro rfl
    exact .empty

theorem keeps_written_iff {s : String} (written : s ≠ "") {r : Option α} :
    Keeps Reads (some s) r ↔ ∃ a, Reads s a ∧ r = some a := by
  constructor
  · rintro (_ | _ | ⟨_, reads⟩)
    · exact absurd rfl written
    · exact ⟨_, reads, rfl⟩
  · rintro ⟨a, reads, rfl⟩
    exact .written written reads

theorem exists_keeps_iff {text : Option String} :
    (∃ r, Keeps Reads text r) ↔ Readable Reads text := by
  cases text with
  | none => simp [Readable]
  | some s =>
    by_cases empty : s = ""
    · subst empty
      simp [Readable]
    · simp [Readable, keeps_written_iff empty, empty]

theorem tells_refusal (wrap : ε → Fault) (read : Except ε α) :
    Tells (read.mapError wrap) (refusal wrap read) fun a => read = .ok a := by
  cases read with
  | ok a => exact .ok fun b => by simp [eq_comm]
  | error e => exact .error nofun

theorem tells_ifWritten {check : String → Except Fault α} {faults : String → List Fault}
    (each : ∀ s, Tells (check s) (faults s) (Reads s)) (text : Option String) :
    Tells
      (match Spec.present? text with
      | none => .ok none
      | some s => (check s).map some)
      (faultsIfWritten faults text) (Keeps Reads text) := by
  cases text with
  | none => exact .ok fun r => keeps_none_iff
  | some s =>
    by_cases empty : s = ""
    · subst empty
      exact .ok fun r => keeps_empty_iff
    · have present : Spec.present? (some s) = some s := by simp [Spec.present?, empty]
      simp only [present, faultsIfWritten, if_neg empty]
      exact (each s).map.congr fun r => keeps_written_iff empty

end Texts

namespace Spec

theorem mac_eq (wrap : ParseError → Fault) (text : String) :
    Spec.mac wrap text = (Mac.parse text).mapError wrap := by
  unfold Spec.mac
  cases Mac.parse text <;> rfl

theorem uuid_eq (text : Option String) :
    Spec.uuid text = match present? text with
      | none => .ok none
      | some s => ((Uuid.parse s).mapError .uuid).map some := by
  unfold Spec.uuid
  cases present? text with
  | none => rfl
  | some s =>
    simp only
    cases Uuid.parse s <;> rfl

theorem ip_eq (fault : Fault) (text : Option String) :
    Spec.ip fault text = match present? text with
      | none => .ok none
      | some s => ((Ip.parse? s).elim (Except.error fault) Except.ok).map some := by
  unfold Spec.ip
  cases present? text with
  | none => rfl
  | some s =>
    simp only
    cases Ip.parse? s <;> rfl

theorem tells_mac (wrap : ParseError → Fault) (text : String) :
    Tells (Spec.mac wrap text) (refusal wrap (Mac.parse text)) fun m => Mac.parse text = .ok m := by
  rw [mac_eq]
  exact tells_refusal wrap _

theorem tells_uuid (text : Option String) :
    Tells (Spec.uuid text) (faultsIfWritten (fun s => refusal .uuid (Uuid.parse s)) text)
      (Keeps (fun s u => Uuid.parse s = .ok u) text) := by
  rw [uuid_eq]
  exact tells_ifWritten (fun s => tells_refusal .uuid _) text

theorem tells_ip (fault : Fault) (text : Option String) :
    Tells (Spec.ip fault text) (faultsIfWritten (ipFaults fault) text)
      (Keeps (fun s ip => Ip.parse? s = some ip) text) := by
  rw [ip_eq]
  refine tells_ifWritten (fun s => ?_) text
  unfold ipFaults
  cases Ip.parse? s with
  | some ip => exact .ok fun b => by simp [eq_comm]
  | none => exact .error nofun

end Spec

/-! ## Interfaces -/

/-- What an interface of a record is made from. -/
structure NicSpec.Describes (nic : NicSpec) (r : Nic) : Prop where
  name_eq : r.name = nic.name
  mac : Mac.parse nic.mac = .ok r.mac
  ip : Keeps (fun s ip => Ip.parse? s = some ip) nic.ip r.ip

/-- The address of an interface can be read, and its network address if there is one. -/
def NicSpec.WellFormed (nic : NicSpec) : Prop :=
  (∃ m, Mac.parse nic.mac = .ok m) ∧ Readable (fun s ip => Ip.parse? s = some ip) nic.ip

/-- The faults of the interface with the given index. -/
def NicSpec.faults (index : Nat) (nic : NicSpec) : List Fault :=
  refusal (.nicAddress index) (Mac.parse nic.mac) ++
    faultsIfWritten (ipFaults (.nicIp index)) nic.ip

theorem NicSpec.tells_convert (index : Nat) (nic : NicSpec) :
    Tells (nic.convert index) (nic.faults index) nic.Describes := by
  refine ((Spec.tells_mac _ nic.mac).bind fun m _ => (Spec.tells_ip _ nic.ip).bind_pure).congr ?_
  intro r
  constructor
  · rintro ⟨name, mac, ip⟩
    exact ⟨_, mac, _, ip, by rw [← name]⟩
  · rintro ⟨m, mac, ip', ip, rfl⟩
    exact ⟨rfl, mac, ip⟩

theorem NicSpec.exists_describes_iff {nic : NicSpec} :
    (∃ r, nic.Describes r) ↔ nic.WellFormed := by
  rw [WellFormed, ← exists_keeps_iff]
  constructor
  · rintro ⟨r, _, mac, ip⟩
    exact ⟨⟨_, mac⟩, _, ip⟩
  · rintro ⟨⟨m, mac⟩, ip', ip⟩
    exact ⟨⟨nic.name, m, ip'⟩, rfl, mac, ip⟩

/-! ## Machines -/

namespace MachineSpec

/-- What a machine is made from: its interfaces are the written ones in their order. -/
structure Describes (name : ObjectName) (spec : MachineSpec) (r : Machine) : Prop where
  name_eq : r.name = name
  nics : List.Forall₂ NicSpec.Describes spec.nics r.nics
  uuid : Keeps (fun s u => Uuid.parse s = .ok u) spec.uuid r.uuid
  values_eq : r.values = spec.values.getD (.obj [])

/-- All interfaces are well-formed, and the identifier can be read if there is one. -/
def WellFormed (spec : MachineSpec) : Prop :=
  (∀ nic ∈ spec.nics, nic.WellFormed) ∧ Readable (fun s u => Uuid.parse s = .ok u) spec.uuid

/-- The faults of the interfaces by their indices, then that of the identifier. -/
def faults (spec : MachineSpec) : List Fault :=
  (spec.nics.zipIdx.flatMap fun (nic, i) => nic.faults i) ++
    faultsIfWritten (fun s => refusal .uuid (Uuid.parse s)) spec.uuid

theorem tells_convert (name : ObjectName) (spec : MachineSpec) :
    Tells (spec.convert name) spec.faults (spec.Describes name) := by
  have nics : Tells (nicsFrom 0 spec.nics)
      (spec.nics.zipIdx.flatMap fun (nic, i) => nic.faults i)
      (List.Forall₂ NicSpec.Describes spec.nics) :=
    .traverse nicsFrom (fun _ => rfl) (fun _ _ _ => rfl) NicSpec.tells_convert 0 spec.nics
  refine (nics.bind fun nics _ => (Spec.tells_uuid spec.uuid).bind_pure).congr ?_
  intro r
  constructor
  · rintro ⟨name_eq, nics, uuid, values_eq⟩
    exact ⟨_, nics, _, uuid, by rw [Spec.values, ← values_eq, ← name_eq]⟩
  · rintro ⟨nics', nics, uuid', uuid, rfl⟩
    exact ⟨rfl, nics, uuid, rfl⟩

theorem exists_describes_iff {name : ObjectName} {spec : MachineSpec} :
    (∃ r, spec.Describes name r) ↔ spec.WellFormed := by
  have nics : (∃ rs, List.Forall₂ NicSpec.Describes spec.nics rs) ↔
      ∀ nic ∈ spec.nics, nic.WellFormed :=
    exists_forall₂_iff.trans (forall₂_congr fun _ _ => NicSpec.exists_describes_iff)
  rw [WellFormed, ← nics, ← exists_keeps_iff]
  constructor
  · rintro ⟨r, _, nics, uuid, _⟩
    exact ⟨⟨_, nics⟩, _, uuid⟩
  · rintro ⟨⟨nics', nics⟩, uuid', uuid⟩
    exact ⟨⟨name, uuid', nics', _⟩, rfl, nics, uuid, rfl⟩

end MachineSpec

/-! ## Management controllers -/

namespace BmcSpec

/-- What a management controller is made from. -/
structure Describes (name : ObjectName) (spec : BmcSpec) (r : Bmc) : Prop where
  name_eq : r.name = name
  mac : Keeps (fun s m => Mac.parse s = .ok m) spec.mac r.mac
  uuid : Keeps (fun s u => Uuid.parse s = .ok u) spec.uuid r.uuid
  ip : Keeps (fun s ip => Ip.parse? s = some ip) spec.ip r.ip
  nic_eq : r.nic = spec.nic
  version_eq : r.version = spec.bmcVersion
  frus_eq : r.frus = spec.frus
  values_eq : r.values = spec.values.getD (.obj [])

/-- The hardware address, the identifier and the network address can be read, as far as there are
    any. -/
def WellFormed (spec : BmcSpec) : Prop :=
  Readable (fun s m => Mac.parse s = .ok m) spec.mac ∧
    Readable (fun s u => Uuid.parse s = .ok u) spec.uuid ∧
    Readable (fun s ip => Ip.parse? s = some ip) spec.ip

/-- The faults of the hardware address, the identifier and the network address. -/
def faults (spec : BmcSpec) : List Fault :=
  faultsIfWritten (fun s => refusal .bmcAddress (Mac.parse s)) spec.mac ++
    (faultsIfWritten (fun s => refusal .uuid (Uuid.parse s)) spec.uuid ++
      faultsIfWritten (ipFaults .bmcIp) spec.ip)

theorem tells_convert (name : ObjectName) (spec : BmcSpec) :
    Tells (spec.convert name) spec.faults (spec.Describes name) := by
  have mac : Tells spec.address
      (faultsIfWritten (fun s => refusal .bmcAddress (Mac.parse s)) spec.mac)
      (Keeps (fun s m => Mac.parse s = .ok m) spec.mac) :=
    tells_ifWritten (fun s => Spec.tells_mac .bmcAddress s) spec.mac
  refine (mac.bind fun mac _ => (Spec.tells_uuid spec.uuid).bind fun uuid _ =>
    (Spec.tells_ip .bmcIp spec.ip).bind_pure).congr ?_
  intro r
  constructor
  · rintro ⟨name_eq, mac, uuid, ip, nic_eq, version_eq, frus_eq, values_eq⟩
    exact ⟨_, mac, _, uuid, _, ip, by
      rw [Spec.values, ← values_eq, ← name_eq, ← nic_eq, ← version_eq, ← frus_eq]⟩
  · rintro ⟨mac', mac, uuid', uuid, ip', ip, rfl⟩
    exact ⟨rfl, mac, uuid, ip, rfl, rfl, rfl, rfl⟩

theorem exists_describes_iff {name : ObjectName} {spec : BmcSpec} :
    (∃ r, spec.Describes name r) ↔ spec.WellFormed := by
  simp only [WellFormed, ← exists_keeps_iff]
  constructor
  · rintro ⟨r, _, mac, uuid, ip, _⟩
    exact ⟨⟨_, mac⟩, ⟨_, uuid⟩, _, ip⟩
  · rintro ⟨⟨mac', mac⟩, ⟨uuid', uuid⟩, ip', ip⟩
    exact ⟨⟨name, uuid', mac', ip', _, _, _, _⟩, rfl, mac, uuid, ip, rfl, rfl, rfl, rfl⟩

end BmcSpec

/-! ## Machine types -/

namespace MachineTypeSpec

/-- What a machine type is made from: its prefixes are the written ones in their order, and
    there is one. -/
structure Describes (name : ObjectName) (spec : MachineTypeSpec)
    (r : MachineType) : Prop where
  name_eq : r.name = name
  manufacturer_eq : r.manufacturer = spec.manufacturer
  model_eq : r.model = spec.model
  prefixes : List.Forall₂ (fun s p => MacPrefix.parse s = .ok p) spec.macPrefixes r.prefixes
  required : spec.macPrefixes ≠ []
  values_eq : r.values = spec.values.getD (.obj [])

/-- All prefixes can be read, and there is one. -/
def WellFormed (spec : MachineTypeSpec) : Prop :=
  (∀ s ∈ spec.macPrefixes, ∃ p, MacPrefix.parse s = .ok p) ∧ spec.macPrefixes ≠ []

/-- The faults of the prefixes by their indices, then that there is none. -/
def faults (spec : MachineTypeSpec) : List Fault :=
  (spec.macPrefixes.zipIdx.flatMap fun (s, i) => refusal (.macPrefix i s) (MacPrefix.parse s)) ++
    if spec.macPrefixes = [] then [.prefixesRequired] else []

theorem tells_prefixesFrom (texts : List String) :
    Tells (prefixesFrom 0 texts)
      (texts.zipIdx.flatMap fun (s, i) => refusal (.macPrefix i s) (MacPrefix.parse s))
      (List.Forall₂ (fun s p => MacPrefix.parse s = .ok p) texts) := by
  have each (i : Nat) (s : String) := tells_refusal (.macPrefix i s) (MacPrefix.parse s)
  refine .traverse prefixesFrom (fun _ => rfl) ?_ each 0 texts
  intro i s rest
  rw [prefixesFrom]
  cases MacPrefix.parse s with
  | error => rfl
  | ok p => cases prefixesFrom (i + 1) rest <;> rfl

theorem tells_convert (name : ObjectName) (spec : MachineTypeSpec) :
    Tells (spec.convert name) spec.faults (spec.Describes name) := by
  have required (ps : List MacPrefix)
      (read : List.Forall₂ (fun s p => MacPrefix.parse s = .ok p) spec.macPrefixes ps) :
      Tells
        (if ps.isEmpty then .error Fault.prefixesRequired
          else pure ⟨name, spec.manufacturer, spec.model, ps, Spec.values spec.values⟩)
        (if spec.macPrefixes = [] then [Fault.prefixesRequired] else [])
        fun r : MachineType => spec.macPrefixes ≠ [] ∧
          r = ⟨name, spec.manufacturer, spec.model, ps, Spec.values spec.values⟩ := by
    have length := read.length_eq
    cases ps with
    | nil =>
      have none : spec.macPrefixes = [] := List.length_eq_zero_iff.1 length
      rw [if_pos none]
      exact .error fun r h => h.1 none
    | cons p ps =>
      have some : spec.macPrefixes ≠ [] := by
        intro none
        simp [none] at length
      rw [if_neg some]
      exact .ok fun r => and_iff_right some
  refine ((tells_prefixesFrom spec.macPrefixes).bind required).congr ?_
  intro r
  constructor
  · rintro ⟨name_eq, manufacturer_eq, model_eq, prefixes, required, values_eq⟩
    exact ⟨_, prefixes, required, by
      rw [Spec.values, ← values_eq, ← name_eq, ← manufacturer_eq, ← model_eq]⟩
  · rintro ⟨ps, prefixes, required, rfl⟩
    exact ⟨rfl, rfl, rfl, prefixes, required, rfl⟩

theorem exists_describes_iff {name : ObjectName} {spec : MachineTypeSpec} :
    (∃ r, spec.Describes name r) ↔ spec.WellFormed := by
  rw [WellFormed, ← exists_forall₂_iff]
  constructor
  · rintro ⟨r, _, _, _, prefixes, required, _⟩
    exact ⟨⟨_, prefixes⟩, required⟩
  · rintro ⟨⟨prefixes', prefixes⟩, required⟩
    exact ⟨⟨name, _, _, prefixes', _⟩, rfl, rfl, rfl, prefixes, required, rfl⟩

end MachineTypeSpec

end HardwareIndex
