import HardwareIndex.Proofs.Address.WrittenForms
import HardwareIndex.Proofs.Json.Records
import HardwareIndex.Proofs.Resource.Kinds

/-!
# Values written and read again

Each type that is written as JSON leaves out, renames and defaults in its own way,
and is also read from forms in which it is never written: arrays of fields, null
for what is missing, addresses in any notation. What is read is written as one of
its forms, from which the same is read again (`JsonType.read_write`). An object
whose specification was written and read again has the same record, or the same
fault.
-/

namespace HardwareIndex

open Json

/-! ## Records without free-form values -/

theorem IndexedState.ofJson?_toJson (s : IndexedState) : ofJson? s.toJson = some s :=
  ofText?_text s

theorem IndexStatus.ofJson?_toJson (s : IndexStatus) : ofJson? s.toJson = some s := by
  have fields : fields? ["state", "message"] s.toJson =
      some [some s.state.toJson, if s.message.isEmpty then none else some (.str s.message)] :=
    fields?_ofPresent rfl (by decide)
  have message : defaulted? "" asString?
      (if s.message.isEmpty then none else some (.str s.message)) = some s.message := by
    by_cases empty : s.message = ""
    · rw [empty]
      rfl
    · rw [if_neg (by simpa using empty)]
      rfl
  simp only [ofJson?, fields, message, defaulted?_some, IndexedState.ofJson?_toJson]
  rfl

theorem FruInfo.ofJson?_toJson (info : FruInfo) : ofJson? info.toJson = some info := by
  have fields : fields? fieldNames info.toJson = some [info.name.map .str, info.kind.map .str,
      info.serial.map .str, info.manufacturer.map .str, info.mfgDate.map .str,
      info.partNumber.map .str, info.version.map .str, info.assetTag.map .str,
      unlessEmpty .str info.extra] :=
    fields?_ofPresent rfl (by decide)
  have extra : defaulted? [] asStrings? (unlessEmpty .str info.extra) = some info.extra :=
    defaulted?_unlessEmpty asStrings?_strings info.extra
  simp [ofJson?, fields, extra]

theorem Fru.ofJson?_toJson (fru : Fru) : ofJson? fru.toJson = some fru := by
  have fields : fields? fieldNames fru.toJson = some [some (.str fru.id),
      fru.description.map .str, fru.chassis.map FruInfo.toJson, fru.board.map FruInfo.toJson,
      fru.product.map FruInfo.toJson] :=
    fields?_ofPresent rfl (by decide)
  have area (info : Option FruInfo) :
      optional? FruInfo.ofJson? (info.map FruInfo.toJson) = some info :=
    optional?_map FruInfo.ofJson?_toJson (fun _ => nofun) info
  simp [ofJson?, fields, area]

theorem NicSpec.ofJson?_toJson (nic : NicSpec) : ofJson? nic.toJson = some nic := by
  have fields : fields? ["name", "mac", "ip"] nic.toJson =
      some [nic.name.map .str, some (.str nic.mac), nic.ip.map .str] :=
    fields?_ofPresent rfl (by decide)
  simp [ofJson?, fields]

theorem Credentials.ofJson?_toJson (c : Credentials) : ofJson? c.toJson = some c := by
  have fields : fields? ["user", "password"] c.toJson =
      some [c.user.map .str, c.password.map .str] :=
    fields?_ofPresent rfl (by decide)
  simp [ofJson?, fields]

/-! ## Specifications -/

theorem MachineSpec.ofJson?_toJson {spec : MachineSpec}
    (values : optional? any? spec.values = some spec.values) :
    ofJson? spec.toJson = some spec := by
  have fields : fields? ["uuid", "nics", "values"] spec.toJson =
      some [spec.uuid.map .str, unlessEmpty NicSpec.toJson spec.nics, spec.values] :=
    fields?_ofPresent rfl (by decide)
  have nics : defaulted? [] (list? NicSpec.ofJson?) (unlessEmpty NicSpec.toJson spec.nics) =
      some spec.nics :=
    defaulted?_unlessEmpty (list?_map NicSpec.ofJson?_toJson) spec.nics
  simp [ofJson?, fields, nics, values]

theorem BmcSpec.ofJson?_toJson {spec : BmcSpec}
    (values : optional? any? spec.values = some spec.values) :
    ofJson? spec.toJson = some spec := by
  have fields : fields? fieldNames spec.toJson = some [spec.uuid.map .str,
      spec.bmcVersion.map .str, spec.nic.map .str, spec.ip.map .str, spec.mac.map .str,
      spec.credentials.map Credentials.toJson, unlessEmpty Fru.toJson spec.frus, spec.values] :=
    fields?_ofPresent rfl (by decide)
  have credentials : optional? Credentials.ofJson? (spec.credentials.map Credentials.toJson) =
      some spec.credentials :=
    optional?_map Credentials.ofJson?_toJson (fun _ => nofun) spec.credentials
  have frus : defaulted? [] (list? Fru.ofJson?) (unlessEmpty Fru.toJson spec.frus) =
      some spec.frus :=
    defaulted?_unlessEmpty (list?_map Fru.ofJson?_toJson) spec.frus
  simp [ofJson?, fields, credentials, frus, values]

theorem MachineTypeSpec.ofJson?_toJson {spec : MachineTypeSpec}
    (values : optional? any? spec.values = some spec.values) :
    ofJson? spec.toJson = some spec := by
  have fields : fields? ["manufacturer", "type", "macPrefixes", "values"] spec.toJson =
      some [some (.str spec.manufacturer), some (.str spec.model),
        some (strings spec.macPrefixes), spec.values] :=
    fields?_ofPresent rfl (by decide)
  simp [ofJson?, fields, values]

theorem MachineSpec.readValues_of_ofJson? {j : Json} {spec : MachineSpec}
    (h : ofJson? j = some spec) : optional? any? spec.values = some spec.values := by
  unfold ofJson? at h
  split at h
  · simp only [Option.bind_eq_bind, Option.bind_eq_some_iff] at h
    obtain ⟨_, _, _, _, values, found, made⟩ := h
    cases made
    exact optional?_any?_again found
  · cases h

theorem BmcSpec.readValues_of_ofJson? {j : Json} {spec : BmcSpec}
    (h : ofJson? j = some spec) : optional? any? spec.values = some spec.values := by
  unfold ofJson? at h
  split at h
  · simp only [Option.bind_eq_bind, Option.bind_eq_some_iff] at h
    obtain ⟨_, _, _, _, _, _, _, _, _, _, _, _, _, _, values, found, made⟩ := h
    cases made
    exact optional?_any?_again found
  · cases h

theorem MachineTypeSpec.readValues_of_ofJson? {j : Json} {spec : MachineTypeSpec}
    (h : ofJson? j = some spec) : optional? any? spec.values = some spec.values := by
  unfold ofJson? at h
  split at h
  · simp only [Option.bind_eq_bind, Option.bind_eq_some_iff] at h
    obtain ⟨_, _, _, _, _, _, values, found, made⟩ := h
    cases made
    exact optional?_any?_again found
  · cases h

/-! ## All types -/

/-- The types that are written as JSON and read from it. -/
inductive JsonType where
  | objectName
  | mac
  | macPrefix
  | fru
  | fruInfo
  | nic
  | credentials
  | machineSpec
  | bmcSpec
  | machineTypeSpec
  | status
  | state
  deriving DecidableEq, Repr

namespace JsonType

/-- The values of a type. -/
@[reducible] def Value : JsonType → Type
  | objectName => ObjectName
  | mac => Mac
  | macPrefix => MacPrefix
  | fru => Fru
  | fruInfo => FruInfo
  | nic => NicSpec
  | credentials => Credentials
  | machineSpec => MachineSpec
  | bmcSpec => BmcSpec
  | machineTypeSpec => MachineTypeSpec
  | status => IndexStatus
  | state => IndexedState

/-- The value of a type that is read from JSON. -/
def read : (type : JsonType) → Json → Option type.Value
  | objectName => ObjectName.ofJson?
  | mac => Mac.ofJson?
  | macPrefix => MacPrefix.ofJson?
  | fru => Fru.ofJson?
  | fruInfo => FruInfo.ofJson?
  | nic => NicSpec.ofJson?
  | credentials => Credentials.ofJson?
  | machineSpec => MachineSpec.ofJson?
  | bmcSpec => BmcSpec.ofJson?
  | machineTypeSpec => MachineTypeSpec.ofJson?
  | status => IndexStatus.ofJson?
  | state => IndexedState.ofJson?

/-- What is written of a value of a type. -/
def write : (type : JsonType) → type.Value → Json
  | objectName => ObjectName.toJson
  | mac => Mac.toJson
  | macPrefix => MacPrefix.toJson
  | fru => Fru.toJson
  | fruInfo => FruInfo.toJson
  | nic => NicSpec.toJson
  | credentials => Credentials.toJson
  | machineSpec => MachineSpec.toJson
  | bmcSpec => BmcSpec.toJson
  | machineTypeSpec => MachineTypeSpec.toJson
  | status => IndexStatus.toJson
  | state => IndexedState.toJson

/-- What is written of what is read. -/
def rewrite (type : JsonType) (j : Json) : Option Json :=
  (type.read j).map type.write

/-- What is read is read again from what is written of it. -/
theorem read_write {type : JsonType} {j : Json} {x : type.Value} (h : type.read j = some x) :
    type.read (type.write x) = some x := by
  cases type with
  | objectName => exact ObjectName.ofJson?_toJson x
  | mac =>
    obtain ⟨_, _, parsed⟩ := (ofJson?_eq_some_iff_parse fun _ => rfl).1 h
    exact (Mac.Obtainable.parsed parsed).readsBack.ofJson?_toJson
  | macPrefix =>
    obtain ⟨_, _, parsed⟩ := (ofJson?_eq_some_iff_parse fun _ => rfl).1 h
    exact (MacPrefix.readsBack_of_parsed parsed).ofJson?_toJson
  | fru => exact Fru.ofJson?_toJson x
  | fruInfo => exact FruInfo.ofJson?_toJson x
  | nic => exact NicSpec.ofJson?_toJson x
  | credentials => exact Credentials.ofJson?_toJson x
  | machineSpec => exact MachineSpec.ofJson?_toJson (MachineSpec.readValues_of_ofJson? h)
  | bmcSpec => exact BmcSpec.ofJson?_toJson (BmcSpec.readValues_of_ofJson? h)
  | machineTypeSpec =>
    exact MachineTypeSpec.ofJson?_toJson (MachineTypeSpec.readValues_of_ofJson? h)
  | status => exact IndexStatus.ofJson?_toJson x
  | state => exact IndexedState.ofJson?_toJson x

theorem specOfJson?_specToJson {kind : RecordKind} {j : Json} {spec : kind.Spec}
    (h : Convertible.specOfJson? j = some spec) :
    Convertible.specOfJson? (Convertible.specToJson spec) = some spec := by
  cases kind with
  | machine => exact @read_write .machineSpec _ _ h
  | bmc => exact @read_write .bmcSpec _ _ h
  | machineType => exact @read_write .machineTypeSpec _ _ h

/-- Whatever JSON a value of one of the types is read from, the same value is read from what is
    written of it. So what is written of what is read stays as it is when it is read and written
    once more. An object of any kind whose specification was read has the same record, or the same
    fault, after the specification was written and read again. -/
theorem read_again_as_written :
    (∀ (type : JsonType) (j : Json) (x : type.Value), type.read j = some x →
      type.read (type.write x) = some x) ∧
    (∀ (type : JsonType) (j j' : Json), type.rewrite j = some j' → type.rewrite j' = some j') ∧
    ∀ (kind : RecordKind) (j : Json) (o : Object kind.Spec),
      Convertible.specOfJson? j = some o.spec →
      ∃ spec : kind.Spec, Convertible.specOfJson? (Convertible.specToJson o.spec) = some spec ∧
        ({ o with spec } : Object kind.Spec).toRecord = o.toRecord := by
  refine ⟨fun type j x => read_write, ?_, ?_⟩
  · intro type j j' written
    obtain ⟨x, found, rfl⟩ := Option.map_eq_some_iff.1 written
    rw [rewrite, read_write found, Option.map_some]
  · intro kind j o found
    exact ⟨o.spec, specOfJson?_specToJson found, rfl⟩

/-- A management controller that is read from arrays of fields, with a unit that has an area of
    which little is known, and with fields that are null, left out or empty. -/
theorem positional_controller_read_again :
    let j : Json := .arr [.null, .str "2.61", .null, .null, .str "", .arr [],
      .arr [.arr [.str "0", .null, .obj [("extra", .arr []), ("mfgDate", .str "2020")]]]]
    let area : FruInfo := ⟨none, none, none, none, some "2020", none, none, none, []⟩
    let spec : BmcSpec := ⟨none, some "2.61", none, none, some "", some ⟨none, none⟩,
      [⟨"0", none, some area, none, none⟩], none⟩
    bmcSpec.read j = some spec ∧ bmcSpec.read (bmcSpec.write spec) = some spec := by
  intro j area spec
  have found : bmcSpec.read j = some spec := rfl
  exact ⟨found, read_again_as_written.1 bmcSpec j spec found⟩

end JsonType

end HardwareIndex
