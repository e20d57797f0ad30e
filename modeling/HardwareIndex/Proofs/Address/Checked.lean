import HardwareIndex.Address.MacPrefix

/-!
# Reading addresses with every access checked

Octets of a text are read at indices that are computed from its length, and stored
in a buffer of twenty; prefixes are compared under masks that are made by shifts.
Here this is done step by step, with each index, difference and shift checked
where it is used: a computation halts at the first one that is out of bounds.
Refusing a text is no such fault, but a computation ends there too.

The text is gone through in pieces of one group with its separator. Only the last
piece has none.
-/

namespace HardwareIndex

/-- Why a computation ends without a value. -/
inductive Halt where
  /-- The text writes no octets. -/
  | refused
  /-- There is no item at an index. -/
  | index (i size : Nat)
  /-- More is taken away than there is. -/
  | difference (a b : Nat)
  /-- All bits of an octet are shifted out of it. -/
  | shift (amount : Nat)
  deriving DecidableEq, Repr

/-- A computation with every access checked. -/
abbrev Checked := Except Halt

namespace Checked

variable {α β : Type}

/-! ## Single steps -/

/-- A value that there has to be, or else the text is refused. -/
def accept : Option α → Checked α
  | some a => .ok a
  | none => .error .refused

/-- What a computation gives, which is nothing if it refused the text. -/
def attempt : Checked α → Checked (Option α)
  | .ok a => .ok (some a)
  | .error .refused => .ok none
  | .error halt => .error halt

/-- The item at an index. -/
def item (items : List α) (i : Nat) : Checked α :=
  match items[i]? with
  | some a => .ok a
  | none => .error (.index i items.length)

/-- A buffer with one octet set. -/
def put {n : Nat} (buffer : Vector UInt8 n) (i : Nat) (octet : UInt8) :
    Checked (Vector UInt8 n) :=
  if inside : i < n then .ok (buffer.set i octet) else .error (.index i n)

/-- A difference. -/
def minus (a b : Nat) : Checked Nat :=
  if b ≤ a then .ok (a - b) else .error (.difference a b)

/-- An octet shifted to the left. -/
def shiftLeft (octet : UInt8) (amount : Nat) : Checked UInt8 :=
  if amount < 8 then .ok (octet <<< UInt8.ofNat amount) else .error (.shift amount)

@[simp] theorem ok_bind (a : α) (f : α → Checked β) : (Except.ok a >>= f) = f a := rfl

@[simp] theorem error_bind (halt : Halt) (f : α → Checked β) :
    (Except.error halt >>= f) = .error halt := rfl

@[simp] theorem pure_eq_ok (a : α) : (pure a : Checked α) = .ok a := rfl

@[simp] theorem accept_some (a : α) : accept (some a) = .ok a := rfl

@[simp] theorem accept_none : accept (none : Option α) = .error .refused := rfl

@[simp] theorem attempt_accept (value : Option α) : attempt (accept value) = .ok value := by
  cases value <;> rfl

theorem item_eq {items : List α} {i : Nat} {a : α} (there : items[i]? = some a) :
    item items i = .ok a := by
  rw [item, there]

theorem minus_eq {a b : Nat} (enough : b ≤ a) : minus a b = .ok (a - b) := if_pos enough

theorem shiftLeft_eq (octet : UInt8) {amount : Nat} (some_left : amount < 8) :
    shiftLeft octet amount = .ok (octet <<< UInt8.ofNat amount) := if_pos some_left

/-! ## Octets of a text -/

/-- The octet that two digits write, the high one shifted to its place. -/
def hexOctet (high low : UInt8) : Checked UInt8 := do
  let h ← accept (Text.Hex.value? high.toNat)
  let shifted ← shiftLeft (UInt8.ofNat h) 4
  let l ← accept (Text.Hex.value? low.toNat)
  return shifted ||| UInt8.ofNat l

/-- Pieces of a size, the last of which may be shorter. -/
def chunks (size : Nat) : List α → List (List α)
  | [] => []
  | first :: rest =>
    (first :: rest.take (size - 1)) :: chunks size (rest.drop (size - 1))
termination_by items => items.length
decreasing_by
  rw [List.length_drop, List.length_cons]
  omega

/-- Where octets are stored. -/
abbrev Buffer := Vector UInt8 Mac.maxLen

/-- Store octet `k` of a group, the first of which goes to an index. -/
def storeOctet (group : List UInt8) (index : Nat) (buffer : Buffer) (k : Nat) :
    Checked Buffer := do
  let high ← item group (2 * k)
  let low ← item group (2 * k + 1)
  put buffer (index + k) (← hexOctet high low)

/-- Store the octets of group `i`, and check the separator if there is one. -/
def storeGroup (perGroup : Nat) (separator : UInt8) (buffer : Buffer) :
    List UInt8 × Nat → Checked Buffer
  | (group, i) => do
    let buffer ← (List.range perGroup).foldlM (storeOctet group (perGroup * i)) buffer
    if group.length = 2 * perGroup + 1 then
      if (← item group (2 * perGroup)) = separator then return buffer else .error .refused
    else return buffer

/-- Store the octets of a text, group by group. -/
def storeGroups (perGroup : Nat) (separator : UInt8) (text : List UInt8) : Checked Buffer :=
  (chunks (2 * perGroup + 1) text).zipIdx.foldlM (storeGroup perGroup separator) (Mac.buffer [])

/-- Whether a text begins with a group of two digits. -/
def showsPairs (text : List UInt8) : Checked Bool := do
  if text.length = 2 then return true
  else
    let third ← item text 2
    return third == Layout.colon || third == Layout.hyphen

/-- Whether a text begins with a group of four digits. -/
def showsDots (text : List UInt8) : Checked Bool := do
  if 4 < text.length then return (← item text 4) == Layout.dot else return false

/-- The separator of groups of two digits; a single group has none and goes for one of colons. -/
def pairSeparator (text : List UInt8) : Checked UInt8 :=
  if 2 < text.length then item text 2 else .ok Layout.colon

/-- The octets of groups of two digits, with their number. -/
def readPairs (text : List UInt8) : Checked (Buffer × Nat) := do
  if (text.length + 1) % 3 ≠ 0 ∨ Mac.maxLen < (text.length + 1) / 3 then .error .refused
  else return (← storeGroups 1 (← pairSeparator text) text, (text.length + 1) / 3)

/-- The octets of groups of four digits, with their number. -/
def readDots (text : List UInt8) : Checked (Buffer × Nat) := do
  if (text.length + 1) % 5 ≠ 0 ∨ ¬Mac.isWidth (2 * (text.length + 1) / 5) then .error .refused
  else return (← storeGroups 2 Layout.dot text, 2 * (text.length + 1) / 5)

/-- The octets of a text, with their number. -/
def readOctets (text : List UInt8) : Checked (Buffer × Nat) := do
  if text.length < 2 then .error .refused
  else if ← showsPairs text then readPairs text
  else if ← showsDots text then readDots text
  else .error .refused

/-- The address that a text writes, or its fault. -/
def mac (text : String) : Checked (Except ParseError Mac) := do
  match ← attempt (readOctets (Text.Utf8.bytes text)) with
  | some (octets, n) =>
    if Mac.isWidth n then return .ok ⟨octets, n⟩ else return .error (.invalidMac text)
  | none => return .error (.invalidMac text)

/-! ## Prefixes -/

/-- The mask of an octet whose low `dropped` bits do not count. -/
def lowMask (dropped : Nat) : Checked UInt8 :=
  shiftLeft 0xFF dropped

/-- The mask of octet `index` in a prefix of `bits` bits. -/
def octetMask (bits index : Nat) : Checked UInt8 := do
  if 8 * index + 8 ≤ bits then return 0xFF
  else if bits ≤ 8 * index then return 0
  else lowMask (← minus 8 (← minus bits (8 * index)))

/-- Octets under their masks. -/
def masked (bits : Nat) (octets : Buffer) : Checked Buffer := do
  let masks ← (List.range Mac.maxLen).mapM (octetMask bits)
  return octets.mapFinIdx fun i octet _ => octet &&& masks.getD i 0

/-- The prefix that a text writes, or its fault. -/
def macPrefix (text : String) : Checked (Except ParseError MacPrefix) := do
  match MacPrefix.splitLast text.toList with
  | none => return .error (.missingPrefixLength text)
  | some (before, after) =>
    match ← attempt (readOctets (Text.Utf8.bytes (String.ofList before))) with
    | none => return .error (.invalidMac (String.ofList before))
    | some (octets, _) =>
      match (Text.Decimal.unsigned? 255 after).filter (· ≤ MacPrefix.maxBits) with
      | none => return .error (.invalidPrefixLength (String.ofList after))
      | some bits =>
        return .ok ⟨⟨← masked bits octets, MacPrefix.width bits⟩, bits⟩

/-- Whether two addresses agree in octet `i`. -/
def agreeAt (a b : Mac) (i : Nat) : Checked Bool := do
  return (← item a.octets.toList i) == (← item b.octets.toList i)

/-- Whether two addresses agree in octet `i` but for its low `dropped` bits. -/
def agreeAbove (a b : Mac) (i dropped : Nat) : Checked Bool := do
  let mask ← lowMask dropped
  return (← item a.octets.toList i) &&& mask == (← item b.octets.toList i) &&& mask

/-- Whether an address is in a range. -/
def contains (p : MacPrefix) (m : Mac) : Checked Bool := do
  if 8 * m.len < p.bits then return false
  else if !(← (List.range (p.bits / 8)).allM (agreeAt p.address m)) then return false
  else if p.bits % 8 = 0 then return true
  else agreeAbove p.address m (p.bits / 8) (← minus 8 (p.bits % 8))

end Checked

end HardwareIndex
