import HardwareIndex.Address.Ip
import HardwareIndex.Address.MacPrefix
import HardwareIndex.Address.Uuid
import HardwareIndex.Inventory.Kind
import HardwareIndex.Inventory.Name

/-!
# Records

What the indices hold: machines, their management controllers and machine types.
A record has a name and is found under its addresses and its identifier, or, for
a machine type, under every address in one of its prefixes. `Indexed` gives an
index this view of a record.
-/

namespace HardwareIndex

/-- A network interface of a machine. -/
structure Nic where
  name : Option String
  mac : Mac
  ip : Option Ip
  deriving DecidableEq

/-- A machine, found by the addresses of its interfaces or its identifier. -/
structure Machine where
  name : ObjectName
  uuid : Option Uuid
  nics : List Nic
  values : Json

/-- Inventory data of one area of a replaceable unit. -/
structure FruInfo where
  name : Option String
  kind : Option String
  serial : Option String
  manufacturer : Option String
  mfgDate : Option String
  partNumber : Option String
  version : Option String
  assetTag : Option String
  extra : List String
  deriving DecidableEq, Repr

/-- A field replaceable unit that a management controller reports. -/
structure Fru where
  id : String
  description : Option String
  chassis : Option FruInfo
  board : Option FruInfo
  product : Option FruInfo
  deriving DecidableEq, Repr

/-- A management controller, found by its own address or its identifier. -/
structure Bmc where
  name : ObjectName
  uuid : Option Uuid
  mac : Option Mac
  ip : Option Ip
  nic : Option String
  version : Option String
  frus : List Fru
  values : Json

/-- A type of machines, which are recognised by their address prefixes. -/
structure MachineType where
  name : ObjectName
  manufacturer : String
  model : String
  prefixes : List MacPrefix
  values : Json

/-- How an index answers a query for an address. -/
inductive MacMatching where
  /-- The record that owns the address. -/
  | exact
  /-- The first record with a prefix that contains the address. -/
  | byPrefix
  deriving DecidableEq, Repr

/-- What an index needs to know of a record. -/
class Indexed (R : Type) where
  kind : RecordKind
  matching : MacMatching
  name : R → ObjectName
  macs : R → List Mac
  uuid : R → Option Uuid
  prefixes : R → List MacPrefix
  toJson : R → Json

namespace FruInfo

/-- The names of the fields in declaration order. -/
def fieldNames : List String :=
  ["name", "type", "serial", "manufacturer", "mfgDate", "partNumber", "version", "assetTag", "extra"]

/-- Inventory data in JSON, without what is absent. -/
def toJson (info : FruInfo) : Json :=
  Json.ofPresent [
    ("name", info.name.map .str),
    ("type", info.kind.map .str),
    ("serial", info.serial.map .str),
    ("manufacturer", info.manufacturer.map .str),
    ("mfgDate", info.mfgDate.map .str),
    ("partNumber", info.partNumber.map .str),
    ("version", info.version.map .str),
    ("assetTag", info.assetTag.map .str),
    ("extra", Json.unlessEmpty .str info.extra)]

/-- The inventory data that a value writes. -/
def ofJson? (j : Json) : Option FruInfo :=
  match Json.fields? fieldNames j with
  | some [name, kind, serial, manufacturer, mfgDate, partNumber, version, assetTag, extra] => do
    let name ← Json.optional? Json.asString? name
    let kind ← Json.optional? Json.asString? kind
    let serial ← Json.optional? Json.asString? serial
    let manufacturer ← Json.optional? Json.asString? manufacturer
    let mfgDate ← Json.optional? Json.asString? mfgDate
    let partNumber ← Json.optional? Json.asString? partNumber
    let version ← Json.optional? Json.asString? version
    let assetTag ← Json.optional? Json.asString? assetTag
    let extra ← Json.defaulted? [] Json.asStrings? extra
    return ⟨name, kind, serial, manufacturer, mfgDate, partNumber, version, assetTag, extra⟩
  | _ => none

end FruInfo

namespace Fru

/-- The names of the fields in declaration order. -/
def fieldNames : List String :=
  ["id", "description", "chassis", "board", "product"]

/-- A replaceable unit in JSON, without what is absent. -/
def toJson (fru : Fru) : Json :=
  Json.ofPresent [
    ("id", some (.str fru.id)),
    ("description", fru.description.map .str),
    ("chassis", fru.chassis.map FruInfo.toJson),
    ("board", fru.board.map FruInfo.toJson),
    ("product", fru.product.map FruInfo.toJson)]

/-- The replaceable unit that a value writes. -/
def ofJson? (j : Json) : Option Fru :=
  match Json.fields? fieldNames j with
  | some [id, description, chassis, board, product] => do
    let id ← Json.required? Json.asString? id
    let description ← Json.optional? Json.asString? description
    let chassis ← Json.optional? FruInfo.ofJson? chassis
    let board ← Json.optional? FruInfo.ofJson? board
    let product ← Json.optional? FruInfo.ofJson? product
    return ⟨id, description, chassis, board, product⟩
  | _ => none

end Fru

/-- An address in JSON. -/
def Mac.toJson (m : Mac) : Json :=
  .str m.text

/-- The address that a value writes. -/
def Mac.ofJson? (j : Json) : Option Mac :=
  j.asString?.bind fun s => (Mac.parse s).toOption

/-- A prefix in JSON. -/
def MacPrefix.toJson (p : MacPrefix) : Json :=
  .str p.text

/-- The prefix that a value writes. -/
def MacPrefix.ofJson? (j : Json) : Option MacPrefix :=
  j.asString?.bind fun s => (MacPrefix.parse s).toOption

/-- An identifier in JSON. -/
def Uuid.toJson (u : Uuid) : Json :=
  .str u.text

/-- A network address in JSON. -/
def Ip.toJson (ip : Ip) : Json :=
  .str ip.text

/-- An interface in JSON. -/
def Nic.toJson (nic : Nic) : Json :=
  .obj [
    ("name", Json.ofOption .str nic.name),
    ("mac", nic.mac.toJson),
    ("ip", Json.ofOption Ip.toJson nic.ip)]

/-- A machine in JSON. -/
def Machine.toJson (m : Machine) : Json :=
  .obj [
    ("name", m.name.toJson),
    ("uuid", Json.ofOption Uuid.toJson m.uuid),
    ("nics", .arr (m.nics.map Nic.toJson)),
    ("values", m.values)]

/-- A management controller in JSON. -/
def Bmc.toJson (b : Bmc) : Json :=
  .obj [
    ("name", b.name.toJson),
    ("uuid", Json.ofOption Uuid.toJson b.uuid),
    ("mac", Json.ofOption Mac.toJson b.mac),
    ("ip", Json.ofOption Ip.toJson b.ip),
    ("nic", Json.ofOption .str b.nic),
    ("version", Json.ofOption .str b.version),
    ("frus", .arr (b.frus.map Fru.toJson)),
    ("values", b.values)]

/-- A machine type in JSON. -/
def MachineType.toJson (t : MachineType) : Json :=
  .obj [
    ("name", t.name.toJson),
    ("manufacturer", .str t.manufacturer),
    ("model", .str t.model),
    ("prefixes", .arr (t.prefixes.map MacPrefix.toJson)),
    ("values", t.values)]

instance : Indexed Machine where
  kind := .machine
  matching := .exact
  name m := m.name
  macs m := m.nics.map Nic.mac
  uuid m := m.uuid
  prefixes _ := []
  toJson := Machine.toJson

instance : Indexed Bmc where
  kind := .bmc
  matching := .exact
  name b := b.name
  macs b := b.mac.toList
  uuid b := b.uuid
  prefixes _ := []
  toJson := Bmc.toJson

instance : Indexed MachineType where
  kind := .machineType
  matching := .byPrefix
  name t := t.name
  macs _ := []
  uuid _ := none
  prefixes t := t.prefixes
  toJson := MachineType.toJson

end HardwareIndex
