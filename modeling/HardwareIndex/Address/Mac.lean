import Std.Data.ExtTreeMap
import HardwareIndex.Text.Hex

/-!
# Hardware addresses

An address has six, eight or twenty octets. It is stored in a buffer of twenty
octets with the number of significant ones; octets past that number are zero, so
equality of addresses is equality of their significant octets. Addresses are
written in lower-case colon notation and ordered by their octets.
-/

namespace HardwareIndex

/-- Octets in the widest address. -/
def Mac.maxLen : Nat := 20

/-- The supported numbers of octets. -/
def Mac.isWidth (n : Nat) : Bool :=
  n == 6 || n == 8 || n == Mac.maxLen

/-- A hardware address. -/
structure Mac where
  octets : Vector UInt8 Mac.maxLen
  len : Nat
  deriving DecidableEq

namespace Mac

/-- A buffer that starts with the given octets and is zero beyond them. -/
def buffer (bytes : List UInt8) : Vector UInt8 maxLen :=
  Vector.ofFn fun i => bytes.getD i.val 0

/-- The address with the given octets, if their number is supported. -/
def ofBytes? (bytes : List UInt8) : Option Mac :=
  if isWidth bytes.length then some ⟨buffer bytes, bytes.length⟩ else none

/-- The address of six octets. -/
def ofEui48 (bytes : Vector UInt8 6) : Mac :=
  ⟨buffer bytes.toList, 6⟩

/-- The address of eight octets. -/
def ofEui64 (bytes : Vector UInt8 8) : Mac :=
  ⟨buffer bytes.toList, 8⟩

/-- The significant octets. -/
def bytes (m : Mac) : List UInt8 :=
  m.octets.toList.take m.len

/-- Whether an address has no significant octet. -/
def isEmpty (m : Mac) : Bool :=
  m.len == 0

/-- Octets in colon notation. -/
def colonText (bytes : List UInt8) : List Char :=
  List.intercalate [':'] (bytes.map Text.Hex.octetText)

/-- The colon notation of an address. -/
def text (m : Mac) : String :=
  String.ofList (colonText m.bytes)

/-- An address as diagnostics show it. -/
def debugText (m : Mac) : String :=
  "Mac(" ++ m.text ++ ")"

instance : ToString Mac := ⟨text⟩

/-- Addresses are compared octet by octet, then by width. -/
def order : Mac → Mac → Ordering :=
  compareLex (compareOn fun m => m.octets.toList) (compareOn len)

instance : Ord Mac := ⟨order⟩

instance : Std.TransOrd Mac :=
  inferInstanceAs (Std.TransCmp (compareLex _ _))

instance : Std.LawfulEqOrd Mac where
  compare_self := Std.ReflCmp.compare_self
  eq_of_compare {a b} h := by
    have h : compareLex (compareOn fun m : Mac => m.octets.toList) (compareOn len) a b = .eq := h
    rw [compareLex_eq_eq] at h
    obtain ⟨ho, hl⟩ := h
    have ho : a.octets.toList = b.octets.toList := Std.LawfulEqCmp.eq_of_compare ho
    have hl : a.len = b.len := Std.LawfulEqCmp.eq_of_compare hl
    obtain ⟨octets, len⟩ := a
    obtain ⟨octets', len'⟩ := b
    have ho : octets = octets' := Vector.toList_inj.1 ho
    have hl : len = len' := hl
    rw [ho, hl]

end Mac

end HardwareIndex
