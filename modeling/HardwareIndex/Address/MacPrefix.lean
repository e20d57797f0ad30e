import HardwareIndex.Address.Layout
import HardwareIndex.Text.Decimal

/-!
# Address prefixes

A prefix is an address with a number of significant leading bits. Bits past that
number are zero in the stored address, and the stored address has the smallest
supported width that holds the significant bits, so two prefixes of the same
range are equal however they were written.

`MacPrefix.parse` reads `address/bits`, where the address may be partial.
`MacPrefix.contains` compares an address with a prefix octet by octet, along the
plan `Scan.ofBits` makes.
-/

namespace HardwareIndex

/-- An address range: all addresses that share the leading bits of one. -/
structure MacPrefix where
  address : Mac
  bits : Nat
  deriving DecidableEq

/-- Which octets decide whether an address is in a range: a number of whole ones,
    then perhaps a last one that is compared under a mask. -/
structure Scan where
  whole : Nat
  /-- Index of the masked octet with the number of low bits that do not count. -/
  masked : Option (Nat × Nat)
  deriving DecidableEq, Repr

/-- The plan for a number of significant bits. -/
def Scan.ofBits (bits : Nat) : Scan where
  whole := bits / 8
  masked := if bits % 8 = 0 then none else some (bits / 8, 8 - bits % 8)

namespace MacPrefix

/-- Largest number of significant bits. -/
def maxBits : Nat := 8 * Mac.maxLen

/-- The mask of an octet whose low `dropped` bits do not count. -/
def lowMask (dropped : Nat) : UInt8 :=
  0xFF <<< UInt8.ofNat dropped

/-- The mask of octet `index` in a prefix of `bits` bits. -/
def octetMask (bits index : Nat) : UInt8 :=
  if 8 * index + 8 ≤ bits then 0xFF
  else if bits ≤ 8 * index then 0
  else lowMask (8 - (bits - 8 * index))

/-- The smallest supported width that holds `bits` bits. -/
def width (bits : Nat) : Nat :=
  if bits ≤ 48 then 6 else if bits ≤ 64 then 8 else Mac.maxLen

/-- The range of the given leading octets and number of bits. -/
def ofOctets (octets : List UInt8) (bits : Nat) : MacPrefix where
  address := ⟨(Mac.buffer octets).mapFinIdx fun i octet _ => octet &&& octetMask bits i, width bits⟩
  bits := bits

/-- The parts before and after the last slash. -/
def splitLast : List Char → Option (List Char × List Char)
  | [] => none
  | c :: rest =>
    match splitLast rest with
    | some (before, after) => some (c :: before, after)
    | none => if c = '/' then some ([], rest) else none

/-- The prefix a text writes. Of several faults the first counts: no slash, then the
    address, then the number of bits. -/
def parse (text : String) : Except ParseError MacPrefix :=
  match splitLast text.toList with
  | none => .error (.missingPrefixLength text)
  | some (before, after) =>
    match readOctets? (String.ofList before) with
    | none => .error (.invalidMac (String.ofList before))
    | some octets =>
      match (Text.Decimal.unsigned? 255 after).filter (· ≤ maxBits) with
      | none => .error (.invalidPrefixLength (String.ofList after))
      | some bits => .ok (ofOctets octets bits)

/-- Whether two addresses agree in octet `i`. -/
def agreeAt (a b : Mac) (i : Nat) : Bool :=
  a.octets[i]? == b.octets[i]?

/-- Whether two addresses agree in octet `i` but for its low `dropped` bits. -/
def agreeAbove (a b : Mac) (i dropped : Nat) : Bool :=
  a.octets[i]?.map (· &&& lowMask dropped) == b.octets[i]?.map (· &&& lowMask dropped)

/-- Whether an address is in the range. -/
def contains (p : MacPrefix) (m : Mac) : Bool :=
  let scan := Scan.ofBits p.bits
  decide (p.bits ≤ 8 * m.len) &&
    (List.range scan.whole).all (agreeAt p.address m) &&
    scan.masked.all fun (i, dropped) => agreeAbove p.address m i dropped

/-- A prefix as written. -/
def text (p : MacPrefix) : String :=
  p.address.text ++ "/" ++ toString p.bits

/-- A prefix as diagnostics show it. -/
def debugText (p : MacPrefix) : String :=
  "MacPrefix(" ++ p.text ++ ")"

instance : ToString MacPrefix := ⟨text⟩

end MacPrefix

end HardwareIndex
