/-!
# Decimal numbers in texts

Unsigned numbers as options, prefix lengths and ports write them: ASCII digits
with an optional leading plus, leading zeros allowed, bounded by a maximum.
-/

namespace HardwareIndex.Text.Decimal

/-- Whether a character is an ASCII digit. -/
def isDigit (c : Char) : Bool :=
  '0' ≤ c && c ≤ '9'

/-- The value of a run of digits, most significant first. -/
def value (digits : List Char) : Nat :=
  digits.foldl (fun n c => 10 * n + (c.toNat - 48)) 0

/-- A nonempty run of digits. -/
def digits? (cs : List Char) : Option Nat :=
  if cs.isEmpty || !cs.all isDigit then none else some (value cs)

/-- A number of at most `max`: digits after an optional plus. -/
def unsigned? (max : Nat) (cs : List Char) : Option Nat :=
  let n? := match cs with
    | '+' :: rest => digits? rest
    | _ => digits? cs
  n?.filter (· ≤ max)

/-- Largest number of 64 bits. -/
def max64 : Nat := 0xFFFFFFFFFFFFFFFF

/-- The digits of a number, padded with zeros on the left. -/
def padded (width n : Nat) : String :=
  let digits := Nat.toDigits 10 n
  String.ofList (List.replicate (width - digits.length) '0' ++ digits)

end HardwareIndex.Text.Decimal
