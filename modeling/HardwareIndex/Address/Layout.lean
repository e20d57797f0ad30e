import HardwareIndex.Address.ParseError
import HardwareIndex.Address.Mac
import HardwareIndex.Text.Utf8

/-!
# Layout of written addresses

A written address is a row of digit groups of equal width with one separator
between them. Its length and its first separator determine where each digit
stands; the layout holds that geometry. `Layout.of?` finds it, `Layout.read?`
reads the octets at the positions it gives, and `Mac.parse` and `readOctets?`
put the two together.

Colon and hyphen notation have two digits to a group and up to twenty groups, so
that a partial address can be written too. Dot notation has four digits to a
group and is for complete addresses only.
-/

namespace HardwareIndex

/-- Where the digits and separators of a written address stand. -/
structure Layout where
  /-- Positions from one group to the next, the separator included. -/
  stride : Nat
  /-- Octets to a group. -/
  perGroup : Nat
  /-- Number of groups. -/
  groups : Nat
  separator : UInt8
  deriving DecidableEq, Repr

namespace Layout

/-- The code of a colon. -/
def colon : UInt8 := 58

/-- The code of a hyphen. -/
def hyphen : UInt8 := 45

/-- The code of a dot. -/
def dot : UInt8 := 46

/-- Number of octets written. -/
def count (l : Layout) : Nat :=
  l.groups * l.perGroup

/-- Position of the high digit of octet `i`; the low digit follows it. -/
def digitPos (l : Layout) (i : Nat) : Nat :=
  l.stride * (i / l.perGroup) + 2 * (i % l.perGroup)

/-- Position of the separator after group `g`. -/
def separatorPos (l : Layout) (g : Nat) : Nat :=
  l.stride * g + (l.stride - 1)

/-- The layout of a text of the given octets. -/
def of? (text : List UInt8) : Option Layout :=
  if text.length < 2 then none
  else if text.length = 2 ∨ text[2]? = some colon ∨ text[2]? = some hyphen then
    let groups := (text.length + 1) / 3
    if (text.length + 1) % 3 ≠ 0 ∨ Mac.maxLen < groups then none
    else some ⟨3, 1, groups, text[2]?.getD colon⟩
  else if text[4]? = some dot then
    let groups := (text.length + 1) / 5
    if (text.length + 1) % 5 ≠ 0 ∨ ¬ Mac.isWidth (2 * groups) then none
    else some ⟨5, 2, groups, dot⟩
  else none

/-- Octet `i` of the text, if two digits stand at its position. -/
def octet? (l : Layout) (text : List UInt8) (i : Nat) : Option UInt8 :=
  match text[l.digitPos i]?, text[l.digitPos i + 1]? with
  | some high, some low => Text.Hex.octet? high low
  | _, _ => none

/-- Whether the separator stands after every group but the last. -/
def separated (l : Layout) (text : List UInt8) : Bool :=
  (List.range (l.groups - 1)).all fun g => text[l.separatorPos g]? == some l.separator

/-- The octets that a text of this layout writes. -/
def read? (l : Layout) (text : List UInt8) : Option (List UInt8) :=
  if l.separated text then (List.range l.count).mapM (l.octet? text) else none

end Layout

/-- The octets of a complete or partial address. -/
def readOctets? (text : String) : Option (List UInt8) :=
  (Layout.of? (Text.Utf8.bytes text)).bind fun l => l.read? (Text.Utf8.bytes text)

/-- The address a text writes, which has to be complete. -/
def Mac.parse (text : String) : Except ParseError Mac :=
  match (readOctets? text).bind ofBytes? with
  | some mac => .ok mac
  | none => .error (.invalidMac text)

end HardwareIndex
