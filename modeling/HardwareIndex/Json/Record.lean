import HardwareIndex.Json.Basic

/-!
# Records in JSON

How a record with named fields is read from a value: from an object, whose other
members are ignored, or from an array with the fields in declaration order,
which may be cut short but not be too long. A field that is not there is an
error where it is required and takes its default otherwise.
-/

namespace HardwareIndex.Json

/-- The values of the named fields, each with nothing where it is missing. -/
def fields? (names : List String) : Json → Option (List (Option Json))
  | .obj members => some (names.map (member? members))
  | .arr items =>
    if items.length ≤ names.length then
      some (items.map some ++ List.replicate (names.length - items.length) none)
    else none
  | _ => none

/-- A field that has to be there. -/
def required? (read : Json → Option α) (field : Option Json) : Option α :=
  field.bind read

/-- A field that may be missing or null. -/
def optional? (read : Json → Option α) : Option Json → Option (Option α)
  | none => some none
  | some .null => some none
  | some value => (read value).map some

/-- A field that may be missing but not null. -/
def defaulted? (default : α) (read : Json → Option α) : Option Json → Option α
  | none => some default
  | some value => read value

/-- An array of values. -/
def list? (read : Json → Option α) : Json → Option (List α)
  | .arr items => items.mapM read
  | _ => none

/-- Any value as it is. -/
def any? (value : Json) : Option Json :=
  some value

/-- A list that is left out when it is empty. -/
def unlessEmpty (write : α → Json) (items : List α) : Option Json :=
  if items.isEmpty then none else some (.arr (items.map write))

/-- A choice without content: its name as a string, or an object that maps its name to
    null. -/
def choice? (read : String → Option α) : Json → Option α
  | .str name => read name
  | .obj [(name, .null)] => read name
  | _ => none

end HardwareIndex.Json
