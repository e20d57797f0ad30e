/-!
# UTF-8 octets of a text

Lengths and offsets in messages count UTF-8 octets, and form values are decoded
from octets that need not be valid UTF-8. A maximal invalid piece is read as one
U+FFFD.
-/

namespace HardwareIndex.Text.Utf8

/-- The UTF-8 octets of a list of characters. -/
def encode (cs : List Char) : List UInt8 :=
  cs.flatMap String.utf8EncodeChar

/-- The UTF-8 octets of a string. -/
def bytes (s : String) : List UInt8 :=
  encode s.toList

/-- The character whose code an octet is. -/
def charOf (b : UInt8) : Char :=
  Char.ofNat b.toNat

/-- The octets a character takes. -/
def size (c : Char) : Nat :=
  c.utf8Size

/-- What stands in for octets that are no UTF-8. -/
def replacement : Char := '\uFFFD'

/-- Number of tails a leading octet announces, with the range its first tail is in. -/
def announced? (b : UInt8) : Option (Nat × UInt8 × UInt8) :=
  if 0xC2 ≤ b && b ≤ 0xDF then some (1, 0x80, 0xBF)
  else if b == 0xE0 then some (2, 0xA0, 0xBF)
  else if b == 0xED then some (2, 0x80, 0x9F)
  else if 0xE1 ≤ b && b ≤ 0xEF then some (2, 0x80, 0xBF)
  else if b == 0xF0 then some (3, 0x90, 0xBF)
  else if 0xF1 ≤ b && b ≤ 0xF3 then some (3, 0x80, 0xBF)
  else if b == 0xF4 then some (3, 0x80, 0x8F)
  else none

/-- The value bits that a leading octet contributes. -/
def leadBits (b : UInt8) (tails : Nat) : Nat :=
  match tails with
  | 1 => b.toNat % 32
  | 2 => b.toNat % 16
  | _ => b.toNat % 8

/-- Decoder state: the character under way, if any, and the characters read so far
    in reverse. -/
structure Decoder where
  owed : Nat
  low : UInt8
  high : UInt8
  value : Nat
  read : List Char

namespace Decoder

/-- Nothing read, between characters. -/
def start : Decoder := ⟨0, 0x80, 0xBF, 0, []⟩

/-- Take an octet that starts a character. -/
def lead (d : Decoder) (b : UInt8) : Decoder :=
  if b < 0x80 then { d with owed := 0, read := Char.ofNat b.toNat :: d.read }
  else match announced? b with
    | some (tails, low, high) => { d with owed := tails, low, high, value := leadBits b tails }
    | none => { d with owed := 0, read := replacement :: d.read }

/-- Take one octet. An octet that does not continue the character under way ends it
    as a replacement and starts afresh. -/
def step (d : Decoder) (b : UInt8) : Decoder :=
  match d.owed with
  | 0 => d.lead b
  | owed + 1 =>
    if d.low ≤ b && b ≤ d.high then
      let value := 64 * d.value + b.toNat % 64
      if owed = 0 then { start with read := Char.ofNat value :: d.read }
      else { d with owed, low := 0x80, high := 0xBF, value }
    else lead { start with read := replacement :: d.read } b

/-- The characters read when the octets end here. -/
def finish (d : Decoder) : List Char :=
  (if d.owed = 0 then d.read else replacement :: d.read).reverse

end Decoder

/-- The text of octets, with U+FFFD for each maximal piece that is no UTF-8. -/
def decodeLossy (octets : List UInt8) : List Char :=
  (octets.foldl Decoder.step Decoder.start).finish

/-- The text of octets that are UTF-8. -/
def decode? (octets : List UInt8) : Option (List Char) :=
  let cs := decodeLossy octets
  if encode cs = octets then some cs else none

end HardwareIndex.Text.Utf8
