import Std.Data.ExtTreeMap
import HardwareIndex.Text.Hex
import HardwareIndex.Text.Reading
import HardwareIndex.Text.Utf8

/-!
# Universally unique identifiers

An identifier is 128 bits. It is read from 32 hexadecimal digits, from the
hyphenated form 8-4-4-4-12, and from the hyphenated form in braces or after
`urn:uuid:`; it is written hyphenated in lower case. `Uuid.parse` either reads
a text or names the fault, which `Uuid.faultOf` finds by a scan of its own.
-/

namespace HardwareIndex

/-- A universally unique identifier. -/
structure Uuid where
  bits : BitVec 128
  deriving DecidableEq

/-- Why a text is no identifier. Lengths and positions count UTF-8 octets. -/
inductive UuidError where
  | length (found : Nat)
  | character (found : Char) (index : Nat)
  | groupCount (found : Nat)
  | groupLength (group expected found : Nat)
  deriving DecidableEq, Repr

/-- The wording of a fault. -/
def UuidError.message : UuidError → String
  | .length found => s!"invalid length: found {found}"
  | .character found index => "invalid character: found `" ++ String.singleton found ++ s!"` at {index}"
  | .groupCount found => s!"invalid group count: expected 5, found {found}"
  | .groupLength group expected found =>
    s!"invalid group length in group {group}: expected {expected}, found {found}"

namespace Uuid

instance : Ord Uuid := ⟨compareOn fun u => u.bits.toNat⟩

instance : Std.TransOrd Uuid :=
  inferInstanceAs (Std.TransCmp (compareOn _))

instance : Std.LawfulEqOrd Uuid where
  compare_self := Std.ReflCmp.compare_self
  eq_of_compare {a b} h := by
    have h : compare a.bits.toNat b.bits.toNat = .eq := h
    have h := Std.LawfulEqCmp.eq_of_compare h
    obtain ⟨x⟩ := a
    obtain ⟨y⟩ := b
    have h : x = y := BitVec.eq_of_toNat_eq h
    rw [h]

/-- Number of digits in each group of the hyphenated form. -/
def groupSizes : List Nat := [8, 4, 4, 4, 12]

/-- Digits cut into groups of the given sizes. -/
def group : List Nat → List Char → List (List Char)
  | [], _ => []
  | n :: sizes, cs => cs.take n :: group sizes (cs.drop n)

/-- The hyphenated form. -/
def text (u : Uuid) : String :=
  String.ofList (List.intercalate ['-'] (group groupSizes (Text.Hex.fixed 32 u.bits.toNat)))

instance : ToString Uuid := ⟨text⟩

/-- The identifier of 32 digits. -/
def ofDigits? (digits : List Char) : Option Uuid :=
  if digits.length = 32 then (Text.Hex.number? digits).map fun n => ⟨BitVec.ofNat 128 n⟩ else none

/-- Groups of digits between hyphens. -/
def splitHyphens (cs : List Char) : List (List Char) :=
  cs.splitOn '-'

/-- The identifier of the hyphenated form. -/
def ofHyphenated? (cs : List Char) : Option Uuid :=
  if (splitHyphens cs).map List.length = groupSizes then ofDigits? (splitHyphens cs).flatten else none

/-- What stands in the braces of a text that is in braces. -/
def inBraces? : List Char → Option (List Char)
  | '\x7b' :: rest => if rest.getLast? = some '\x7d' then some rest.dropLast else none
  | _ => none

/-- What follows `urn:uuid:`, in any case. -/
def afterUrn? (cs : List Char) : Option (List Char) :=
  (Text.dropPrefix? "urn:uuid:".toList (Text.lowerAsciiAll cs)).map fun _ => cs.drop 9

/-- Number of UTF-8 octets. -/
def size (cs : List Char) : Nat :=
  cs.foldl (fun n c => n + Text.Utf8.size c) 0

/-- The part of a text that has to be in hyphenated form, if its length and ends
    commit it to that form. -/
def hyphenatedPart? (cs : List Char) : Option (List Char) :=
  match size cs with
  | 36 => some cs
  | 38 => inBraces? cs
  | 45 => afterUrn? cs
  | _ => none

/-- Scan the characters between the given offsets: either the first one that is
    neither a digit nor a hyphen, or the offsets of the hyphens. -/
def scan (cs : List Char) (start : Nat) : Except UuidError (List Nat) :=
  let rec go : List Char → Nat → List Nat → Except UuidError (List Nat)
    | [], _, hyphens => .ok hyphens.reverse
    | c :: rest, offset, hyphens =>
      if c = '-' then go rest (offset + 1) (offset :: hyphens)
      else if (Text.Hex.value? c.toNat).isSome then go rest (offset + 1) hyphens
      else .error (.character c (start + offset))
  go cs 0 []

/-- The first group whose end is not where it belongs, given the offsets of four hyphens. -/
def groupFault (total : Nat) : List Nat → UuidError
  | [a, b, c, d] =>
    if a ≠ 8 then .groupLength 0 8 a
    else if b ≠ 13 then .groupLength 1 4 (b - 9)
    else if c ≠ 18 then .groupLength 2 4 (c - 14)
    else if d ≠ 23 then .groupLength 3 4 (d - 19)
    else .groupLength 4 12 (total - 24)
  | hyphens => .groupCount (hyphens.length + 1)

/-- The fault of a text that is no identifier. A text without hyphens that is not
    committed to a hyphenated form has the wrong length. -/
def faultOf (text : List Char) : UuidError :=
  let committed := hyphenatedPart? text
  let cs := committed.getD text
  let total := size cs
  if total = 0 ∨ 45 < total then .length total
  else
    let (bounds, start, plain) :=
      match committed, inBraces? cs, afterUrn? cs with
      | some _, _, _ => (cs, 0, false)
      | none, some inner, _ => (inner, 1, false)
      | none, none, some rest => (rest, 9, false)
      | none, none, none => (cs, 0, true)
    match scan bounds start with
    | .error fault => fault
    | .ok hyphens => if plain && hyphens.isEmpty then .length total else groupFault total hyphens

/-- The identifier that a text writes, if it writes one. -/
def read? (cs : List Char) : Option Uuid :=
  if size cs = 32 then ofDigits? cs else (hyphenatedPart? cs).bind ofHyphenated?

/-- The identifier that a text writes. -/
def parse (s : String) : Except UuidError Uuid :=
  match read? s.toList with
  | some u => .ok u
  | none => .error (faultOf s.toList)

end Uuid

end HardwareIndex
