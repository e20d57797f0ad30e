import HardwareIndex.Address.Ip
import HardwareIndex.Text.Utf8
import HardwareIndex.Url.Domain.Basic
import HardwareIndex.Url.Encoding

/-!
# Hosts

The host of an address: a name, or a numeric address of version 4, or one of
version 6 in brackets. Names of the web are written in lower-case ASCII, and one
whose last label is a number has to be a version 4 address, whose parts may be
decimal, octal or hexadecimal. Hosts of other schemes are kept as they are.
-/

namespace HardwareIndex

/-- Why a text is no address of a resource. -/
inductive UrlError where
  | emptyHost
  | domainName
  | port
  | ipv4
  | ipv6
  | hostCharacter
  | relativeWithoutBase
  | relativeToRootless
  deriving DecidableEq, Repr

/-- The wording of a fault. -/
def UrlError.message : UrlError → String
  | .emptyHost => "empty host"
  | .domainName => "invalid international domain name"
  | .port => "invalid port number"
  | .ipv4 => "invalid IPv4 address"
  | .ipv6 => "invalid IPv6 address"
  | .hostCharacter => "invalid domain character"
  | .relativeWithoutBase => "relative URL without a base"
  | .relativeToRootless => "relative URL with a cannot-be-a-base base"

/-- The host of an address. -/
inductive UrlHost where
  | named (name : String)
  | v4 (octets : Vector UInt8 4)
  | v6 (groups : Vector UInt16 8)
  deriving DecidableEq

namespace UrlHost

/-- A host as written. -/
def text : UrlHost → String
  | .named name => name
  | .v4 octets => Ip.v4Text octets
  | .v6 groups => "[" ++ Ip.compressed groups.toList ++ "]"

/-- Whether a host is the empty name. -/
def isEmpty : UrlHost → Bool
  | .named name => name.isEmpty
  | _ => false

/-- The version 6 address in brackets, if the text starts with one. -/
def bracketed? (cs : List Char) : Option (Except UrlError UrlHost) :=
  match cs with
  | '[' :: rest =>
    some (if rest.getLast? = some ']' then
      match Ip.readV6? rest.dropLast with
      | some (groups, []) => .ok (.v6 groups)
      | _ => .error .ipv6
    else .error .ipv6)
  | _ => none

/-- The digits of a part of a version 4 address, with their base. -/
def partDigits (part : List Char) : Nat × List Char :=
  match part with
  | '0' :: 'x' :: rest => (16, rest)
  | '0' :: 'X' :: rest => (16, rest)
  | '0' :: c :: rest => (8, c :: rest)
  | _ => (10, part)

/-- The value of a part of a version 4 address; nothing after a base is zero. -/
def partValue? (part : List Char) : Option Nat :=
  if part.isEmpty then none
  else
    let (base, digits) := partDigits part
    digits.foldlM (fun n c =>
      match Text.Hex.value? c.toNat with
      | some d => if d < base then some (base * n + d) else none
      | none => none) 0

/-- The labels of a name; a dot at its end does not count. -/
def labels (name : List Char) : List (List Char) :=
  let parts := name.splitOn '.'
  if parts.getLast? = some [] then parts.dropLast else parts

/-- Whether the last label of a name is a number. -/
def endsInNumber (name : List Char) : Bool :=
  match (labels name).getLast? with
  | none => false
  | some last =>
    (!last.isEmpty && last.all Text.Decimal.isDigit) || (partValue? last).isSome

/-- The octets of a number, the most significant first. -/
def octets4 (n : Nat) : Vector UInt8 4 :=
  #v[UInt8.ofNat (n / 0x1000000), UInt8.ofNat (n / 0x10000), UInt8.ofNat (n / 0x100), UInt8.ofNat n]

/-- The version 4 address of a name: up to four parts, of which the last fills what the
    others leave. -/
def v4? (name : List Char) : Option UrlHost := do
  let parts := labels name
  let numbers ← parts.mapM partValue?
  let last ← numbers.getLast?
  let front := numbers.dropLast
  if parts.length ≤ 4 ∧ front.all (· ≤ 255) ∧ last < Nat.pow 256 (4 - front.length) then
    let high := front.zipIdx.foldl (fun high (n, i) => high + n * Nat.pow 256 (3 - i)) 0
    return .v4 (octets4 (high + last))
  else none

/-- The host of a web address. -/
def parseWeb (cs : List Char) : Except UrlError UrlHost :=
  match bracketed? cs with
  | some host => host
  | none =>
    let octets := PercentCoding.decode (Text.Utf8.encode cs)
    match Domain.toAscii? (Text.Utf8.decodeLossy octets) with
    | none => .error .domainName
    | some [] => .error .emptyHost
    | some name =>
      if endsInNumber name then ((v4? name).map .ok).getD (.error .ipv4)
      else .ok (.named (String.ofList name))

/-- Whether a character may not stand in a host of any scheme. -/
def isForbidden (c : Char) : Bool :=
  "\x00\t\n\r #/:<>?@[\\]^|".toList.contains c

/-- The host of an address of some other scheme. -/
def parseOther (cs : List Char) : Except UrlError UrlHost :=
  match bracketed? cs with
  | some host => host
  | none =>
    if cs.any isForbidden then .error .hostCharacter
    else .ok (.named (PercentCoding.encode .control cs))

end UrlHost

end HardwareIndex
