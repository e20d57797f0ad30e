import HardwareIndex.Text.Decimal
import HardwareIndex.Text.Hex
import HardwareIndex.Text.Reading

/-!
# Network addresses

Addresses of version 4 and 6. Version 4 is four decimal octets of at most three
digits without leading zeros. Version 6 is eight groups of one to four
hexadecimal digits; one `::` stands for at least one group of zeros, and the
last two groups may be written as a version 4 address. Writing is in lower case
with the longest run of at least two zero groups, the first of equals, as `::`.
-/

namespace HardwareIndex

/-- A network address. -/
inductive Ip where
  | v4 (octets : Vector UInt8 4)
  | v6 (groups : Vector UInt16 8)
  deriving DecidableEq

namespace Ip

/-- The wording for every text that is no address. -/
def faultMessage : String := "invalid IP address syntax"

/-- The longest run of digits at the front, with what follows it. -/
def digitRun (isDigit : Char → Bool) (cs : List Char) : List Char × List Char :=
  (cs.takeWhile isDigit, cs.dropWhile isDigit)

/-- A decimal octet at the front. -/
def readOctet? (cs : List Char) : Option (UInt8 × List Char) :=
  let (digits, rest) := digitRun Text.Decimal.isDigit cs
  let n := Text.Decimal.value digits
  if digits.isEmpty || 3 < digits.length || 255 < n || (digits.head? == some '0' && 1 < digits.length)
  then none
  else some (UInt8.ofNat n, rest)

/-- A version 4 address at the front. -/
def readV4? (cs : List Char) : Option (Vector UInt8 4 × List Char) := do
  let (a, cs) ← readOctet? cs
  let cs ← Text.dropChar? '.' cs
  let (b, cs) ← readOctet? cs
  let cs ← Text.dropChar? '.' cs
  let (c, cs) ← readOctet? cs
  let cs ← Text.dropChar? '.' cs
  let (d, cs) ← readOctet? cs
  return (#v[a, b, c, d], cs)

/-- A group of hexadecimal digits at the front. -/
def readGroup? (cs : List Char) : Option (UInt16 × List Char) :=
  let (digits, rest) := digitRun (fun c => (Text.Hex.value? c.toNat).isSome) cs
  if digits.isEmpty || 4 < digits.length then none
  else (Text.Hex.number? digits).map fun n => (UInt16.ofNat n, rest)

/-- The group of two octets. -/
def groupOf (high low : UInt8) : UInt16 :=
  UInt16.ofNat (256 * high.toNat + low.toNat)

/-- The two groups that a version 4 address stands for. -/
def v4Groups (octets : Vector UInt8 4) : List UInt16 :=
  [groupOf octets[0] octets[1], groupOf octets[2] octets[3]]

/-- What stands after the separator that precedes every group but the first. -/
def afterSeparator? (isFirst : Bool) (cs : List Char) : Option (List Char) :=
  if isFirst then some cs else Text.dropChar? ':' cs

/-- Up to `room` groups at the front, the last two perhaps as a version 4 address;
    tells whether they were. -/
def readGroups (isFirst : Bool) : Nat → List Char → List UInt16 × Bool × List Char
  | 0, cs => ([], false, cs)
  | room + 1, cs =>
    let here := afterSeparator? isFirst cs
    match if room = 0 then none else here.bind readV4? with
    | some (octets, rest) => (v4Groups octets, true, rest)
    | none =>
      match here.bind readGroup? with
      | none => ([], false, cs)
      | some (g, rest) =>
        let (groups, dotted, rest) := readGroups false room rest
        (g :: groups, dotted, rest)

/-- The address of eight groups. -/
def ofGroups? (groups : List UInt16) : Option (Vector UInt16 8) :=
  if h : groups.length = 8 then some ⟨groups.toArray, by simpa using h⟩ else none

/-- A version 6 address at the front. -/
def readV6? (cs : List Char) : Option (Vector UInt16 8 × List Char) :=
  let (front, dotted, rest) := readGroups true 8 cs
  if front.length = 8 then (ofGroups? front).map (·, rest)
  else if dotted then none
  else do
    let rest ← Text.dropPrefix? [':', ':'] rest
    let (back, _, rest) := readGroups true (7 - front.length) rest
    let zeros := List.replicate (8 - front.length - back.length) 0
    let groups ← ofGroups? (front ++ zeros ++ back)
    return (groups, rest)

/-- The address a text writes. -/
def parse? (s : String) : Option Ip :=
  match (readV4? s.toList).map fun (octets, rest) => (Ip.v4 octets, rest) with
  | some (ip, rest) => if rest.isEmpty then some ip else none
  | none =>
    match readV6? s.toList with
    | some (groups, []) => some (.v6 groups)
    | _ => none

/-- A version 4 address as written. -/
def v4Text (octets : Vector UInt8 4) : String :=
  String.intercalate "." (octets.toList.map fun b => toString b.toNat)

/-- Start and length of the longest run of zeros, the first of equals. -/
def longestZeros (groups : List UInt16) : Nat × Nat :=
  let rec go : List UInt16 → Nat → Nat × Nat → Nat × Nat → Nat × Nat
    | [], _, _, best => best
    | g :: rest, i, (start, len), best =>
      if g = 0 then
        let here := if len = 0 then (i, 1) else (start, len + 1)
        go rest (i + 1) here (if best.2 < here.2 then here else best)
      else go rest (i + 1) (0, 0) best
  go groups 0 (0, 0) (0, 0)

/-- Groups separated by colons. -/
def groupsText (groups : List UInt16) : String :=
  String.intercalate ":" (groups.map fun g => Text.Hex.text g.toNat)

/-- Groups with their longest run of zeros, of at least two, written as `::`. -/
def compressed (groups : List UInt16) : String :=
  let (start, len) := longestZeros groups
  if len < 2 then groupsText groups
  else groupsText (groups.take start) ++ "::" ++ groupsText (groups.drop (start + len))

/-- A version 6 address as written; addresses that stand for one of version 4 keep it
    readable. -/
def v6Text (groups : Vector UInt16 8) : String :=
  match groups.toList with
  | [0, 0, 0, 0, 0, 0xFFFF, high, low] =>
    "::ffff:" ++ v4Text #v[(high >>> 8).toUInt8, high.toUInt8, (low >>> 8).toUInt8, low.toUInt8]
  | list => compressed list

/-- An address as written. -/
def text : Ip → String
  | .v4 octets => v4Text octets
  | .v6 groups => v6Text groups

instance : ToString Ip := ⟨text⟩

end Ip

end HardwareIndex
