import Std.Data.ExtTreeMap
import HardwareIndex.Json.Printer
import HardwareIndex.Json.Record

/-!
# Object names

An object is named by its namespace and its name within it. Names are ordered by
namespace, then by name. In JSON a name is an object of two strings; as the body
of an answer it has the namespace first.
-/

namespace HardwareIndex

/-- The name of an object: its namespace and its name there. -/
structure ObjectName where
  space : String
  name : String
  deriving DecidableEq, Repr

namespace ObjectName

/-- The name as messages show it. -/
def text (n : ObjectName) : String :=
  n.space ++ "/" ++ n.name

instance : ToString ObjectName := ⟨text⟩

instance : Ord ObjectName := ⟨compareLex (compareOn space) (compareOn name)⟩

instance : Std.TransOrd ObjectName :=
  inferInstanceAs (Std.TransCmp (compareLex _ _))

instance : Std.LawfulEqOrd ObjectName where
  compare_self := Std.ReflCmp.compare_self
  eq_of_compare {a b} h := by
    have h : compareLex (compareOn space) (compareOn name) a b = .eq := h
    rw [compareLex_eq_eq] at h
    obtain ⟨hs, hn⟩ := h
    have hs : a.space = b.space := Std.LawfulEqCmp.eq_of_compare hs
    have hn : a.name = b.name := Std.LawfulEqCmp.eq_of_compare hn
    obtain ⟨s, n⟩ := a
    obtain ⟨s', n'⟩ := b
    have hs : s = s' := hs
    have hn : n = n' := hn
    rw [hs, hn]

/-- A name in JSON. -/
def toJson (n : ObjectName) : Json :=
  .obj [("namespace", .str n.space), ("name", .str n.name)]

/-- The name that a value writes. -/
def ofJson? (j : Json) : Option ObjectName :=
  match Json.fields? ["namespace", "name"] j with
  | some [space, name] => do
    let space ← Json.required? Json.asString? space
    let name ← Json.required? Json.asString? name
    return ⟨space, name⟩
  | _ => none

/-- The text of an answer that holds a name. -/
def body (n : ObjectName) : String :=
  n.toJson.compact

theorem ofJson?_toJson (n : ObjectName) : ofJson? n.toJson = some n := rfl

end ObjectName

end HardwareIndex
