import HardwareIndex.Inventory.Record

/-!
# Faults of objects

Why an object cannot be converted into a record. Each fault says which field of
the object is wrong; a `ValidationError` adds the name of the object.
-/

namespace HardwareIndex

/-- What is wrong with the content of an object. -/
inductive Fault where
  | nicAddress (index : Nat) (fault : ParseError)
  | nicIp (index : Nat)
  | bmcAddress (fault : ParseError)
  | bmcIp
  | uuid (fault : UuidError)
  | macPrefix (index : Nat) (written : String) (fault : ParseError)
  | prefixesRequired
  deriving DecidableEq, Repr

/-- The wording of a fault. -/
def Fault.message : Fault → String
  | .nicAddress index fault => s!"nic {index}: {fault.message}"
  | .nicIp index => s!"nic {index} ip: {Ip.faultMessage}"
  | .bmcAddress fault => s!"mac: {fault.message}"
  | .bmcIp => s!"ip ip: {Ip.faultMessage}"
  | .uuid fault => s!"uuid: {fault.message}"
  | .macPrefix index written fault => s!"invalid prefix ({index}) {written}: {fault.message}"
  | .prefixesRequired => "prefixes required"

/-- An object that cannot be converted, with the reason. -/
structure ValidationError where
  object : ObjectName
  fault : Fault
  deriving DecidableEq, Repr

namespace ValidationError

/-- The reason in words. -/
def reason (e : ValidationError) : String :=
  e.fault.message

/-- The object and the reason in words. -/
def message (e : ValidationError) : String :=
  s!"invalid {e.object}: {e.reason}"

end ValidationError

end HardwareIndex
