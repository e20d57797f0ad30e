import HardwareIndex.Text.Hex
import HardwareIndex.Text.Utf8

/-!
# Form values

Named values as a query string carries them: pairs joined by `&`, a name and its
value by `=`, a space as a plus, and octets that may not stand for themselves as
`%` with two digits. `Form.encode` writes pairs and `Form.decode` reads any
query string; a `%` without two digits stands for itself.
-/

namespace HardwareIndex.Form

/-- Whether an octet stands for itself. -/
def isPlain (b : UInt8) : Bool :=
  (0x30 ≤ b && b ≤ 0x39) || (0x41 ≤ b && b ≤ 0x5A) || (0x61 ≤ b && b ≤ 0x7A) ||
    b == 0x2A || b == 0x2D || b == 0x2E || b == 0x5F

/-- An octet as `%` and two digits. -/
def percentOctet (b : UInt8) : List Char :=
  ['%', Text.Hex.upperDigit (b.toNat / 16), Text.Hex.upperDigit (b.toNat % 16)]

/-- An octet as it stands in a form value. -/
def encodeOctet (b : UInt8) : List Char :=
  if b == 0x20 then ['+']
  else if isPlain b then [Char.ofNat b.toNat]
  else percentOctet b

/-- A text as it stands in a query string. -/
def encodeText (s : String) : String :=
  String.ofList ((Text.Utf8.bytes s).flatMap encodeOctet)

/-- A query string of the given pairs. -/
def encode (pairs : List (String × String)) : String :=
  String.intercalate "&" (pairs.map fun (name, value) => encodeText name ++ "=" ++ encodeText value)

/-- Octets with each `%` and its two digits read as one octet. -/
def percentDecode : List UInt8 → List UInt8
  | 0x25 :: high :: low :: rest =>
    match Text.Hex.octet? high low with
    | some b => b :: percentDecode rest
    | none => 0x25 :: percentDecode (high :: low :: rest)
  | b :: rest => b :: percentDecode rest
  | [] => []

/-- The text that the octets of a name or a value stand for. -/
def decodeText (octets : List UInt8) : String :=
  let spaced := octets.map fun b => if b == 0x2B then 0x20 else b
  String.ofList (Text.Utf8.decodeLossy (percentDecode spaced))

/-- The name and the value of one piece; without `=` the value is empty. -/
def decodePair (piece : List UInt8) : String × String :=
  (decodeText (piece.takeWhile (· != 0x3D)), decodeText ((piece.dropWhile (· != 0x3D)).drop 1))

/-- The pairs of a query string. -/
def decode (query : String) : List (String × String) :=
  (((Text.Utf8.bytes query).splitOn 0x26).filter fun piece => !piece.isEmpty).map decodePair

end HardwareIndex.Form
