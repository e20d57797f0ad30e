/-!
# Hexadecimal digits

Values and spellings of hexadecimal digits and octets. Reading accepts either
letter case and ASCII digits only; writing is always lower case.
-/

namespace HardwareIndex.Text.Hex

/-- The value of the hexadecimal digit with the given code, in either case. -/
def value? (code : Nat) : Option Nat :=
  if 48 ≤ code ∧ code ≤ 57 then some (code - 48)
  else if 97 ≤ code ∧ code ≤ 102 then some (code - 87)
  else if 65 ≤ code ∧ code ≤ 70 then some (code - 55)
  else none

/-- The lower-case digit of a value below sixteen. -/
def digit (n : Nat) : Char :=
  if n < 10 then Char.ofNat (48 + n) else Char.ofNat (87 + n)

/-- The upper-case digit of a value below sixteen. -/
def upperDigit (n : Nat) : Char :=
  if n < 10 then Char.ofNat (48 + n) else Char.ofNat (55 + n)

/-- The octet written by two digits, the high one first. -/
def octet? (high low : UInt8) : Option UInt8 :=
  match value? high.toNat, value? low.toNat with
  | some h, some l => some (UInt8.ofNat (16 * h + l))
  | _, _ => none

/-- The two lower-case digits of an octet. -/
def octetText (b : UInt8) : List Char :=
  [digit (b.toNat / 16), digit (b.toNat % 16)]

/-- The number that a run of digits writes. -/
def number? (digits : List Char) : Option Nat :=
  digits.foldlM (fun n c => (value? c.toNat).map (16 * n + ·)) 0

/-- The lower-case digits of a number in a fixed number of places. -/
def fixed (places n : Nat) : List Char :=
  (List.range places).map fun i => digit (n / Nat.pow 16 (places - 1 - i) % 16)

/-- The lower-case digits of a number, without padding. -/
def text (n : Nat) : String :=
  String.ofList (Nat.toDigits 16 n)

theorem value?_lt {code v : Nat} (h : value? code = some v) : v < 16 := by
  grind [value?]

theorem value?_digit : ∀ n < 16, value? (digit n).toNat = some n := by
  decide

theorem value?_upperDigit : ∀ n < 16, value? (upperDigit n).toNat = some n := by
  decide

end HardwareIndex.Text.Hex
