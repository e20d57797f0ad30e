import HardwareIndex.Json.Basic

/-!
# Resource definitions

The manifests that register the three kinds of objects with a cluster: names,
columns of listings, and the schema of an object. `Definition.manifest` lays a
definition out as the cluster expects it, with the members of every object in
alphabetical order.
-/

namespace HardwareIndex

namespace Schema

/-- A text, perhaps with a description and perhaps null. -/
def text (description : Option String) (nullable : Bool) : Json :=
  Json.ofPresent [
    ("description", description.map .str),
    ("nullable", if nullable then some (.bool true) else none),
    ("type", some (.str "string"))]

/-- A text that may be absent. -/
def optionalText : Json :=
  text none true

/-- A text that has to be there. -/
def requiredText : Json :=
  text none false

/-- A list. -/
def list (description : Option String) (items : Json) : Json :=
  Json.ofPresent [
    ("description", description.map .str),
    ("items", some items),
    ("type", some (.str "array"))]

/-- An object with the given properties, in alphabetical order. -/
def object (description : Option String) (nullable : Bool) (properties : List (String × Json))
    (required : List String) (title : Option String) : Json :=
  Json.ofPresent [
    ("description", description.map .str),
    ("nullable", if nullable then some (.bool true) else none),
    ("properties", some (.obj properties)),
    ("required", if required.isEmpty then none else some (Json.strings required)),
    ("title", title.map .str),
    ("type", some (.str "object"))]

/-- Free-form values. -/
def freeForm : Json :=
  .obj [("type", .str "object"), ("x-kubernetes-preserve-unknown-fields", .bool true)]

/-- The status of an indexed object. -/
def status : Json :=
  object (some "Outcome of the last conversion of a resource into an index record.") true
    [("message", requiredText),
      ("state", .obj [
        ("default", .str "Ok"),
        ("enum", Json.strings ["Ok", "Invalid"]),
        ("type", .str "string")])]
    [] none

/-- An interface of a machine. -/
def nic : Json :=
  object (some "A network interface of the machine.") false
    [("ip", optionalText), ("mac", requiredText), ("name", optionalText)]
    ["mac"] none

/-- Inventory data of one area. -/
def fruInfo : Json :=
  object (some "Inventory data of one FRU area.") true
    [("assetTag", optionalText),
      ("extra", list none requiredText),
      ("manufacturer", optionalText),
      ("mfgDate", optionalText),
      ("name", optionalText),
      ("partNumber", optionalText),
      ("serial", optionalText),
      ("type", optionalText),
      ("version", optionalText)]
    [] none

/-- A replaceable unit. -/
def fru : Json :=
  object (some "Field replaceable unit reported by a BMC.") false
    [("board", fruInfo),
      ("chassis", fruInfo),
      ("description", optionalText),
      ("id", requiredText),
      ("product", fruInfo)]
    ["id"] none

/-- Login data of a management controller. -/
def credentials : Json :=
  object none true [("password", optionalText), ("user", optionalText)] [] none

end Schema

/-- A column of a listing. -/
structure Column where
  name : String
  type : String
  path : String

/-- A kind of objects as it is registered with a cluster. -/
structure Definition where
  kind : String
  plural : String
  singular : String
  shortName : String
  columns : List Column
  spec : Json

namespace Definition

/-- The group of all definitions. -/
def group : String := "machindex.io"

/-- The version of all definitions. -/
def version : String := "v1alpha1"

/-- Machines. -/
def machineInfo : Definition where
  kind := "MachineInfo"
  plural := "machineinfos"
  singular := "machineinfo"
  shortName := "mi"
  columns := [
    ⟨"UUID", "string", ".spec.uuid"⟩,
    ⟨"State", "string", ".status.state"⟩,
    ⟨"Age", "date", ".metadata.creationTimestamp"⟩]
  spec := Schema.object
    (some ("MachineInfo records how a machine is recognised on the network.\n\nMACs, UUID and IPs " ++
      "are kept as strings and validated when the object is indexed, so a malformed entry marks " ++
      "the object `Invalid` instead of failing to deserialize."))
    false
    [("nics", Schema.list none Schema.nic),
      ("uuid", Schema.text (some "System UUID as reported by the firmware.") true),
      ("values", Schema.freeForm)]
    [] none

/-- Management controllers. -/
def bmcInfo : Definition where
  kind := "BmcInfo"
  plural := "bmcinfos"
  singular := "bmcinfo"
  shortName := "bmci"
  columns := [
    ⟨"UUID", "string", ".spec.uuid"⟩,
    ⟨"MAC", "string", ".spec.mac"⟩,
    ⟨"State", "string", ".status.state"⟩]
  spec := Schema.object none false
    [("bmcVersion", Schema.optionalText),
      ("credentials", Schema.credentials),
      ("frus", Schema.list none Schema.fru),
      ("ip", Schema.optionalText),
      ("mac", Schema.optionalText),
      ("nic", Schema.text (some "Host NIC the controller shares, if not dedicated.") true),
      ("uuid", Schema.optionalText),
      ("values", Schema.freeForm)]
    [] none

/-- Machine types. -/
def machineType : Definition where
  kind := "MachineType"
  plural := "machinetypes"
  singular := "machinetype"
  shortName := "macht"
  columns := [
    ⟨"Manufacturer", "string", ".spec.manufacturer"⟩,
    ⟨"Type", "string", ".spec.type"⟩,
    ⟨"State", "string", ".status.state"⟩]
  spec := Schema.object none false
    [("macPrefixes",
        Schema.list (some "Prefixes in `<mac>/<bits>` notation, checked in order.") Schema.requiredText),
      ("manufacturer", Schema.requiredText),
      ("type", Schema.text (some "Model name.") false),
      ("values", Schema.freeForm)]
    ["macPrefixes", "manufacturer", "type"] none

/-- The definitions in the order in which they are printed. -/
def all : List Definition := [machineInfo, bmcInfo, machineType]

/-- The definition of the given kind. -/
def ofKind? (kind : String) : Option Definition :=
  all.find? fun d => d.kind == kind

/-- The schema of a whole object. -/
def schema (d : Definition) : Json :=
  Schema.object (some s!"Auto-generated derived type for {d.kind}Spec via `CustomResource`") false
    [("spec", d.spec), ("status", Schema.status)]
    ["spec"] (some d.kind)

/-- A column in a manifest. -/
def columnJson (c : Column) : Json :=
  .obj [("jsonPath", .str c.path), ("name", .str c.name), ("type", .str c.type)]

/-- The names in a manifest. -/
def namesJson (d : Definition) : Json :=
  .obj [
    ("categories", .arr []),
    ("kind", .str d.kind),
    ("plural", .str d.plural),
    ("shortNames", Json.strings [d.shortName]),
    ("singular", .str d.singular)]

/-- The only version in a manifest. -/
def versionJson (d : Definition) : Json :=
  .obj [
    ("additionalPrinterColumns", .arr (d.columns.map columnJson)),
    ("name", .str version),
    ("schema", .obj [("openAPIV3Schema", d.schema)]),
    ("served", .bool true),
    ("storage", .bool true),
    ("subresources", .obj [("status", .obj [])])]

/-- The manifest of a definition. -/
def manifest (d : Definition) : Json :=
  .obj [
    ("apiVersion", .str "apiextensions.k8s.io/v1"),
    ("kind", .str "CustomResourceDefinition"),
    ("metadata", .obj [("name", .str s!"{d.plural}.{group}")]),
    ("spec", .obj [
      ("group", .str group),
      ("names", d.namesJson),
      ("scope", .str "Namespaced"),
      ("versions", .arr [d.versionJson])])]

end Definition

end HardwareIndex
