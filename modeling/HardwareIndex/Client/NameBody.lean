import HardwareIndex.Inventory.Name
import HardwareIndex.Json.Skipping

/-!
# Names in bodies of replies

A body names an object by its namespace and its name: as members of an object, each
once and in any order, or as the two items of an array. An object may have other
members, which are skipped.
-/

namespace HardwareIndex.Client

namespace NameBody

open Json.Reader

/-- A string, after blanks. -/
def text? (cs : List Char) : Step String :=
  (Text.dropChar? '"' (skip cs)).bind utf8?

/-- Whether a member is a field of a name. -/
def isField (key : String) : Bool :=
  key == "namespace" || key == "name"

/-- The fields after a member, which is either one of them that was not read before or skipped. -/
def member? (fields : List (String × String)) (cs : List Char) :
    Option (List (String × String) × List Char) := do
  let (key, cs) ← text? cs
  let cs ← Text.dropChar? ':' (skip cs)
  if isField key then
    if (fields.lookup key).isSome then none
    else do
      let (value, cs) ← text? cs
      return ((key, value) :: fields, cs)
  else
    let cs ← skipValue? (2 * cs.length + 2) cs
    return (fields, cs)

/-- The name that fields make up. -/
def ofFields? (fields : List (String × String)) : Option ObjectName := do
  return ⟨← fields.lookup "namespace", ← fields.lookup "name"⟩

/-- The rest of an object from a member on; some fields have been read. -/
def members? : Nat → List (String × String) → List Char → Step ObjectName
  | 0, _, _ => none
  | fuel + 1, fields, cs =>
    match member? fields cs with
    | none => none
    | some (fields, cs) =>
      match skip cs with
      | ',' :: cs => members? fuel fields cs
      | '\x7d' :: cs => (ofFields? fields).map (·, cs)
      | _ => none

/-- The rest of an array. -/
def items? (cs : List Char) : Option (ObjectName × List Char) := do
  let (space, cs) ← text? cs
  let cs ← Text.dropChar? ',' (skip cs)
  let (name, cs) ← text? cs
  let cs ← Text.dropChar? ']' (skip cs)
  return (⟨space, name⟩, cs)

/-- A name at the front, after blanks. -/
def name? (cs : List Char) : Step ObjectName :=
  match skip cs with
  | '\x7b' :: cs => members? cs.length [] cs
  | '[' :: cs => items? cs
  | _ => none

end NameBody

/-- The name that makes up a body. -/
def nameOfBody? (body : List UInt8) : Option ObjectName :=
  match NameBody.name? (body.map Text.Utf8.charOf) with
  | some (name, rest) => if (Json.Reader.skip rest).isEmpty then some name else none
  | none => none

end HardwareIndex.Client
