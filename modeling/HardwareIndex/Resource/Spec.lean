import HardwareIndex.Resource.Fault

/-!
# Specifications of objects

What the objects of each kind hold as it was written, before validation: texts
for addresses, identifiers and prefixes. `toJson` leaves out what is absent, and
`ofJson?` reads what `toJson` writes and more. `convert` validates a
specification and reports the first fault.
-/

namespace HardwareIndex

/-- An interface as written. -/
structure NicSpec where
  name : Option String
  mac : String
  ip : Option String
  deriving DecidableEq, Repr

/-- A machine as written. -/
structure MachineSpec where
  uuid : Option String
  nics : List NicSpec
  values : Option Json

/-- How to log in to a management controller. -/
structure Credentials where
  user : Option String
  password : Option String
  deriving DecidableEq, Repr

/-- A management controller as written. -/
structure BmcSpec where
  uuid : Option String
  bmcVersion : Option String
  nic : Option String
  ip : Option String
  mac : Option String
  credentials : Option Credentials
  frus : List Fru
  values : Option Json

/-- A machine type as written. -/
structure MachineTypeSpec where
  manufacturer : String
  model : String
  macPrefixes : List String
  values : Option Json

namespace Spec

/-- A text that counts as absent when it is empty. -/
def present? (text : Option String) : Option String :=
  text.filter fun s => !s.isEmpty

/-- An identifier that may be absent. -/
def uuid (text : Option String) : Except Fault (Option Uuid) :=
  match present? text with
  | none => .ok none
  | some s =>
    match Uuid.parse s with
    | .ok u => .ok (some u)
    | .error fault => .error (.uuid fault)

/-- A network address that may be absent. -/
def ip (fault : Fault) (text : Option String) : Except Fault (Option Ip) :=
  match present? text with
  | none => .ok none
  | some s =>
    match Ip.parse? s with
    | some ip => .ok (some ip)
    | none => .error fault

/-- A hardware address. -/
def mac (wrap : ParseError → Fault) (text : String) : Except Fault Mac :=
  match Mac.parse text with
  | .ok m => .ok m
  | .error fault => .error (wrap fault)

/-- Free-form values; absent ones are the empty object. -/
def values (values : Option Json) : Json :=
  values.getD (.obj [])

end Spec

namespace NicSpec

/-- An interface in JSON. -/
def toJson (nic : NicSpec) : Json :=
  Json.ofPresent [
    ("name", nic.name.map .str),
    ("mac", some (.str nic.mac)),
    ("ip", nic.ip.map .str)]

/-- The interface that a value writes. -/
def ofJson? (j : Json) : Option NicSpec :=
  match Json.fields? ["name", "mac", "ip"] j with
  | some [name, mac, ip] => do
    let name ← Json.optional? Json.asString? name
    let mac ← Json.required? Json.asString? mac
    let ip ← Json.optional? Json.asString? ip
    return ⟨name, mac, ip⟩
  | _ => none

/-- The interface with the given index. -/
def convert (index : Nat) (nic : NicSpec) : Except Fault Nic := do
  let mac ← Spec.mac (.nicAddress index) nic.mac
  let ip ← Spec.ip (.nicIp index) nic.ip
  return ⟨nic.name, mac, ip⟩

end NicSpec

namespace MachineSpec

/-- A machine in JSON. -/
def toJson (spec : MachineSpec) : Json :=
  Json.ofPresent [
    ("uuid", spec.uuid.map .str),
    ("nics", Json.unlessEmpty NicSpec.toJson spec.nics),
    ("values", spec.values)]

/-- The machine that a value writes. -/
def ofJson? (j : Json) : Option MachineSpec :=
  match Json.fields? ["uuid", "nics", "values"] j with
  | some [uuid, nics, values] => do
    let uuid ← Json.optional? Json.asString? uuid
    let nics ← Json.defaulted? [] (Json.list? NicSpec.ofJson?) nics
    let values ← Json.optional? Json.any? values
    return ⟨uuid, nics, values⟩
  | _ => none

/-- The interfaces from the given index on. -/
def nicsFrom (index : Nat) : List NicSpec → Except Fault (List Nic)
  | [] => .ok []
  | nic :: rest => do
    let first ← nic.convert index
    let others ← nicsFrom (index + 1) rest
    return first :: others

/-- The record of a machine: its interfaces are checked first, then its identifier. -/
def convert (name : ObjectName) (spec : MachineSpec) : Except Fault Machine := do
  let nics ← nicsFrom 0 spec.nics
  let uuid ← Spec.uuid spec.uuid
  return ⟨name, uuid, nics, Spec.values spec.values⟩

end MachineSpec

namespace Credentials

/-- Credentials in JSON. -/
def toJson (c : Credentials) : Json :=
  Json.ofPresent [("user", c.user.map .str), ("password", c.password.map .str)]

/-- The credentials that a value writes. -/
def ofJson? (j : Json) : Option Credentials :=
  match Json.fields? ["user", "password"] j with
  | some [user, password] => do
    let user ← Json.optional? Json.asString? user
    let password ← Json.optional? Json.asString? password
    return ⟨user, password⟩
  | _ => none

end Credentials

namespace BmcSpec

/-- The names of the fields in declaration order. -/
def fieldNames : List String :=
  ["uuid", "bmcVersion", "nic", "ip", "mac", "credentials", "frus", "values"]

/-- A management controller in JSON. -/
def toJson (spec : BmcSpec) : Json :=
  Json.ofPresent [
    ("uuid", spec.uuid.map .str),
    ("bmcVersion", spec.bmcVersion.map .str),
    ("nic", spec.nic.map .str),
    ("ip", spec.ip.map .str),
    ("mac", spec.mac.map .str),
    ("credentials", spec.credentials.map Credentials.toJson),
    ("frus", Json.unlessEmpty Fru.toJson spec.frus),
    ("values", spec.values)]

/-- The management controller that a value writes. -/
def ofJson? (j : Json) : Option BmcSpec :=
  match Json.fields? fieldNames j with
  | some [uuid, bmcVersion, nic, ip, mac, credentials, frus, values] => do
    let uuid ← Json.optional? Json.asString? uuid
    let bmcVersion ← Json.optional? Json.asString? bmcVersion
    let nic ← Json.optional? Json.asString? nic
    let ip ← Json.optional? Json.asString? ip
    let mac ← Json.optional? Json.asString? mac
    let credentials ← Json.optional? Credentials.ofJson? credentials
    let frus ← Json.defaulted? [] (Json.list? Fru.ofJson?) frus
    let values ← Json.optional? Json.any? values
    return ⟨uuid, bmcVersion, nic, ip, mac, credentials, frus, values⟩
  | _ => none

/-- The hardware address, which may be absent. -/
def address (spec : BmcSpec) : Except Fault (Option Mac) :=
  match Spec.present? spec.mac with
  | none => .ok none
  | some text => (Spec.mac .bmcAddress text).map some

/-- The record of a management controller: its hardware address is checked first, then
    its identifier, then its network address. -/
def convert (name : ObjectName) (spec : BmcSpec) : Except Fault Bmc := do
  let mac ← spec.address
  let uuid ← Spec.uuid spec.uuid
  let ip ← Spec.ip .bmcIp spec.ip
  return ⟨name, uuid, mac, ip, spec.nic, spec.bmcVersion, spec.frus, Spec.values spec.values⟩

end BmcSpec

namespace MachineTypeSpec

/-- A machine type in JSON. -/
def toJson (spec : MachineTypeSpec) : Json :=
  Json.ofPresent [
    ("manufacturer", some (.str spec.manufacturer)),
    ("type", some (.str spec.model)),
    ("macPrefixes", some (Json.strings spec.macPrefixes)),
    ("values", spec.values)]

/-- The machine type that a value writes. -/
def ofJson? (j : Json) : Option MachineTypeSpec :=
  match Json.fields? ["manufacturer", "type", "macPrefixes", "values"] j with
  | some [manufacturer, model, macPrefixes, values] => do
    let manufacturer ← Json.required? Json.asString? manufacturer
    let model ← Json.required? Json.asString? model
    let macPrefixes ← Json.required? Json.asStrings? macPrefixes
    let values ← Json.optional? Json.any? values
    return ⟨manufacturer, model, macPrefixes, values⟩
  | _ => none

/-- The prefixes from the given index on. -/
def prefixesFrom (index : Nat) : List String → Except Fault (List MacPrefix)
  | [] => .ok []
  | text :: rest =>
    match MacPrefix.parse text with
    | .error fault => .error (.macPrefix index text fault)
    | .ok first => (prefixesFrom (index + 1) rest).map (first :: ·)

/-- The record of a machine type: each prefix is checked, and there has to be one. -/
def convert (name : ObjectName) (spec : MachineTypeSpec) : Except Fault MachineType := do
  let prefixes ← prefixesFrom 0 spec.macPrefixes
  if prefixes.isEmpty then .error .prefixesRequired
  else return ⟨name, spec.manufacturer, spec.model, prefixes, Spec.values spec.values⟩

end MachineTypeSpec

end HardwareIndex
