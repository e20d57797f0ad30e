import HardwareIndex.Inventory.Name
import HardwareIndex.Resource.Timestamp

/-!
# Object metadata

The part of an object that names it and says how far its life has come: the
finalizers that hold it, and whether it is being deleted. Metadata is an object
in JSON, never an array; members that do not matter here have to be of their
type all the same.
-/

namespace HardwareIndex

/-- The metadata of an object. -/
structure Metadata where
  name : Option String
  space : Option String
  generateName : Option String
  finalizers : Option (List String)
  deletionTimestamp : Option String
  deriving DecidableEq, Repr

namespace Metadata

/-- The name of the object; one that is yet to be named goes by the beginning of its
    name. -/
def objectName (m : Metadata) : ObjectName where
  space := m.space.getD ""
  name := (m.name.orElse fun _ => m.generateName).getD ""

/-- The finalizers, none if they are absent. -/
def finalizerList (m : Metadata) : List String :=
  m.finalizers.getD []

/-- Whether the object is being deleted. -/
def isDeleting (m : Metadata) : Bool :=
  m.deletionTimestamp.isSome

/-- A timestamp. -/
def timestamp? (j : Json) : Option String :=
  j.asString?.filter Timestamp.isValid

/-- A mapping of names to texts. -/
def textMap? : Json → Option (List (String × String))
  | .obj members => members.mapM fun (name, value) => value.asString?.map (name, ·)
  | _ => none

/-- An integer of 64 bits. -/
def int64? (j : Json) : Option Int :=
  j.asInt?.filter fun n => -0x8000000000000000 ≤ n && n < 0x8000000000000000

/-- Whether those of the named members that are there are of a type. -/
def allValid (read : Json → Option α) (names : List String) (j : Json) : Bool :=
  names.all fun name => (Json.optional? read (j.get? name)).isSome

/-- A value that is an object with members of their types. -/
def checked? (isValid : Json → Bool) (j : Json) : Option Unit :=
  match j with
  | .obj _ => if isValid j then some () else none
  | _ => none

/-- A reference to an owner. -/
def owner? : Json → Option Unit :=
  checked? fun j =>
    allValid Json.asString? ["apiVersion", "kind", "name", "uid"] j &&
      allValid Json.asBool? ["blockOwnerDeletion", "controller"] j

/-- What a manager has set, and when. -/
def managed? : Json → Option Unit :=
  checked? fun j =>
    allValid Json.asString? ["apiVersion", "fieldsType", "manager", "operation", "subresource"] j &&
      allValid timestamp? ["time"] j

/-- Whether the members that are not kept are of their types. -/
def othersValid (j : Json) : Bool :=
  allValid Json.asString? ["resourceVersion", "selfLink", "uid"] j &&
    allValid textMap? ["annotations", "labels"] j &&
    allValid int64? ["deletionGracePeriodSeconds", "generation"] j &&
    allValid (Json.list? owner?) ["ownerReferences"] j &&
    allValid (Json.list? managed?) ["managedFields"] j &&
    allValid timestamp? ["creationTimestamp"] j

/-- The metadata that a value writes. -/
def ofJson? (j : Json) : Option Metadata :=
  match j with
  | .obj _ => do
    let name ← Json.optional? Json.asString? (j.get? "name")
    let space ← Json.optional? Json.asString? (j.get? "namespace")
    let generateName ← Json.optional? Json.asString? (j.get? "generateName")
    let finalizers ← Json.optional? Json.asStrings? (j.get? "finalizers")
    let deletionTimestamp ← Json.optional? timestamp? (j.get? "deletionTimestamp")
    if othersValid j then return ⟨name, space, generateName, finalizers, deletionTimestamp⟩ else none
  | _ => none

end Metadata

end HardwareIndex
