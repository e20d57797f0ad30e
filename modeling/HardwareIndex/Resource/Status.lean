import HardwareIndex.Json.Record

/-!
# Status of indexed objects

The outcome of the last conversion of an object into a record, as it is kept on
the object itself. An empty message is left out when it is written, and a
missing state is `Ok`.
-/

namespace HardwareIndex

/-- Whether an object is in the index. -/
inductive IndexedState where
  | ok
  | invalid
  deriving DecidableEq, Repr

namespace IndexedState

/-- The states. -/
def all : List IndexedState := [.ok, .invalid]

/-- The word for a state. -/
def text : IndexedState → String
  | .ok => "Ok"
  | .invalid => "Invalid"

/-- The state that a word stands for. -/
def ofText? (s : String) : Option IndexedState :=
  all.find? fun state => state.text == s

/-- A state in JSON. -/
def toJson (s : IndexedState) : Json :=
  .str s.text

/-- The state that a value writes. -/
def ofJson? (j : Json) : Option IndexedState :=
  Json.choice? ofText? j

theorem ofText?_text (s : IndexedState) : ofText? s.text = some s := by
  cases s <;> rfl

end IndexedState

/-- The outcome of a conversion. -/
structure IndexStatus where
  state : IndexedState
  message : String
  deriving DecidableEq, Repr

namespace IndexStatus

/-- A status in JSON. -/
def toJson (s : IndexStatus) : Json :=
  Json.ofPresent [
    ("state", some s.state.toJson),
    ("message", if s.message.isEmpty then none else some (.str s.message))]

/-- The status that a value writes. -/
def ofJson? (j : Json) : Option IndexStatus :=
  match Json.fields? ["state", "message"] j with
  | some [state, message] => do
    let state ← Json.defaulted? IndexedState.ok IndexedState.ofJson? state
    let message ← Json.defaulted? "" Json.asString? message
    return ⟨state, message⟩
  | _ => none

end IndexStatus

end HardwareIndex
