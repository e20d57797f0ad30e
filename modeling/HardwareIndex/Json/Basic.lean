/-!
# JSON values

Values of the data format in which objects are stored and exchanged. Numbers are
integers of any size; a number with a fraction or an exponent is kept as it was
written. The members of an object keep their order, and no two have one name:
`Json.setMember` replaces a member where it stands.
-/

namespace HardwareIndex

/-- A JSON value. -/
inductive Json where
  | null
  | bool (b : Bool)
  | int (n : Int)
  | decimal (written : String)
  | str (s : String)
  | arr (items : List Json)
  | obj (members : List (String × Json))
  deriving Repr, Inhabited

namespace Json

/-- The member of the given name. -/
def member? (members : List (String × Json)) (name : String) : Option Json :=
  members.lookup name

/-- Members with one set: replaced where it stands, or added at the end. -/
def setMember (name : String) (value : Json) : List (String × Json) → List (String × Json)
  | [] => [(name, value)]
  | (n, v) :: rest => if n = name then (n, value) :: rest else (n, v) :: setMember name value rest

/-- The member of the given name, if the value is an object that has it. -/
def get? (name : String) : Json → Option Json
  | .obj members => member? members name
  | _ => none

/-- The text of a string. -/
def asString? : Json → Option String
  | .str s => some s
  | _ => none

/-- A number that is no integer has no value here. -/
def asInt? : Json → Option Int
  | .int n => some n
  | _ => none

/-- The truth value. -/
def asBool? : Json → Option Bool
  | .bool b => some b
  | _ => none

/-- The items of an array. -/
def asArray? : Json → Option (List Json)
  | .arr items => some items
  | _ => none

/-- The items of an array of strings. -/
def asStrings? (j : Json) : Option (List String) :=
  j.asArray?.bind fun items => items.mapM asString?

/-- Whether a value is null. -/
def isNull : Json → Bool
  | .null => true
  | _ => false

/-- The value of an option, null if there is none. -/
def ofOption (f : α → Json) : Option α → Json
  | none => .null
  | some a => f a

/-- An array of strings. -/
def strings (texts : List String) : Json :=
  .arr (texts.map .str)

/-- A natural number. -/
def nat (n : Nat) : Json :=
  .int n

/-- An object with the members that are present. -/
def ofPresent (members : List (String × Option Json)) : Json :=
  .obj (members.filterMap fun (name, value) => value.map (name, ·))

theorem member?_cons (name other : String) (value : Json) (rest : List (String × Json)) :
    member? ((name, value) :: rest) other =
      if other = name then some value else member? rest other := by
  grind [member?]

/-- There is no member of a name that no member has. -/
theorem member?_eq_none {members : List (String × Json)} {name : String}
    (absent : name ∉ members.map Prod.fst) : member? members name = none := by
  induction members with
  | nil => rfl
  | cons m rest ih =>
    rw [List.map_cons, List.mem_cons, not_or] at absent
    rw [member?_cons, if_neg absent.1, ih absent.2]

theorem member?_setMember (name other : String) (value : Json) (members : List (String × Json)) :
    member? (setMember name value members) other =
      if other = name then some value else member? members other := by
  induction members with
  | nil => grind [setMember, member?]
  | cons m rest ih =>
    obtain ⟨n, v⟩ := m
    simp only [member?] at ih
    grind [setMember, member?]

end Json

end HardwareIndex
