import HardwareIndex.Address.Ip

/-!
# Socket addresses

A network address with a port, as `a.b.c.d:port` or `[address]:port`; the second
form may name a numeric zone after the address.
-/

namespace HardwareIndex

/-- A network address with a port. -/
inductive SocketAddress where
  | v4 (octets : Vector UInt8 4) (port : Nat)
  | v6 (groups : Vector UInt16 8) (zone port : Nat)
  deriving DecidableEq

namespace SocketAddress

/-- A decimal number of at most `max` at the front. -/
def readNumber? (max : Nat) (cs : List Char) : Option (Nat × List Char) :=
  let (digits, rest) := Ip.digitRun Text.Decimal.isDigit cs
  (Text.Decimal.digits? digits).bind fun n => if n ≤ max then some (n, rest) else none

/-- A colon and a port that end the text. -/
def readPort? (cs : List Char) : Option Nat :=
  match (Text.dropChar? ':' cs).bind (readNumber? 65535) with
  | some (port, []) => some port
  | _ => none

/-- The zone at the front; zero if none is named. -/
def readZone (cs : List Char) : Nat × List Char :=
  ((Text.dropChar? '%' cs).bind (readNumber? 0xFFFFFFFF)).getD (0, cs)

/-- The socket address a text writes. -/
def parse? (s : String) : Option SocketAddress :=
  match Ip.readV4? s.toList with
  | some (octets, rest) => (readPort? rest).map (.v4 octets ·)
  | none => do
    let rest ← Text.dropChar? '[' s.toList
    let (groups, rest) ← Ip.readV6? rest
    let (zone, rest) := readZone rest
    let rest ← Text.dropChar? ']' rest
    let port ← readPort? rest
    return .v6 groups zone port

/-- Whether a port can be opened at an address where no interface is up: at any address
    of version 4, written either way, and at all addresses of version 6 together. -/
def isBindable : SocketAddress → Bool
  | .v4 _ _ => true
  | .v6 groups _ _ =>
    groups.all (· == 0) || (groups.toList.take 5).all (· == 0) && groups[5] == 0xFFFF

/-- A socket address as written. -/
def text : SocketAddress → String
  | .v4 octets port => s!"{Ip.v4Text octets}:{port}"
  | .v6 groups zone port =>
    if zone = 0 then s!"[{Ip.v6Text groups}]:{port}" else s!"[{Ip.v6Text groups}%{zone}]:{port}"

end SocketAddress

end HardwareIndex
