import HardwareIndex.Http.Form

/-!
# Percent-encoding

Octets that may not stand in a part of an address are written as `%` and two
digits. Each part has a set of its own of octets that are written so; octets
outside ASCII always are.
-/

namespace HardwareIndex

/-- The parts of an address that differ in what they may hold. -/
inductive PercentSet where
  | control
  | fragment
  | query
  | webQuery
  | path
  | userInfo
  deriving DecidableEq, Repr

namespace PercentCoding

/-- The characters that may not stand in a part for themselves. -/
def excluded : PercentSet → String
  | .control => ""
  | .fragment => " \"<>\x60"
  | .query => " \"#<>"
  | .webQuery => " \"#<>'"
  | .path => " \"<>\x60#?\x7b\x7d"
  | .userInfo => " \"<>\x60#?\x7b\x7d/:;=@[\\]^|"

/-- Whether an octet is written as `%` and two digits. -/
def isEncoded (set : PercentSet) (b : UInt8) : Bool :=
  b < 0x20 || 0x7F ≤ b || (excluded set).toList.contains (Char.ofNat b.toNat)

/-- A text as it stands in a part. -/
def encode (set : PercentSet) (cs : List Char) : String :=
  String.ofList ((Text.Utf8.encode cs).flatMap fun b =>
    if isEncoded set b then Form.percentOctet b else [Char.ofNat b.toNat])

/-- Octets with each `%` and its two digits read as one octet. -/
def decode (octets : List UInt8) : List UInt8 :=
  Form.percentDecode octets

end PercentCoding

end HardwareIndex
