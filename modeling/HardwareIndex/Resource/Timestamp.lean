import HardwareIndex.Text.Blank
import HardwareIndex.Text.Decimal
import HardwareIndex.Text.Reading

/-!
# Timestamps

Whether a text is a date and time with an offset from universal time. The
written form is `2024-01-01T00:00:00Z`; blanks around the numbers, a blank or
lower-case letter in place of `T`, a fraction of a second and numeric offsets are
accepted too. Only the existence of the moment matters: the date has to be one,
and the moment may not leave the range of years when it is given in universal
time.
-/

namespace HardwareIndex.Timestamp

/-- What follows the blanks at the front. -/
def skip (cs : List Char) : List Char :=
  cs.dropWhile Text.isBlank

/-- A number of at most `places` digits at the front, after blanks. -/
def number? (places : Nat) (cs : List Char) : Option (Nat × List Char) :=
  let cs := skip cs
  let digits := (cs.take places).takeWhile Text.Decimal.isDigit
  (Text.Decimal.digits? digits).map (·, cs.drop digits.length)

/-- A number in a range. -/
def within? (places low high : Nat) (cs : List Char) : Option (Nat × List Char) :=
  (number? places cs).filter fun (n, _) => low ≤ n && n ≤ high

/-- The first and the last year. -/
def minYear : Int := -262143
def maxYear : Int := 262142

/-- A year, which has four digits unless it has a sign. -/
def year? (cs : List Char) : Option (Int × List Char) :=
  match skip cs with
  | '-' :: rest => signed? rest fun n => -n
  | '+' :: rest => signed? rest fun n => n
  | cs => (number? 4 cs).map fun (n, rest) => ((n : Int), rest)
where
  /-- A year after its sign. -/
  signed? (cs : List Char) (sign : Int → Int) : Option (Int × List Char) :=
    let digits := cs.takeWhile Text.Decimal.isDigit
    (Text.Decimal.digits? digits).bind fun n =>
      if minYear ≤ sign n ∧ sign n ≤ maxYear then some (sign n, cs.drop digits.length) else none

/-- A separator, which may follow blanks. -/
def separator? (c : Char) (cs : List Char) : Option (List Char) :=
  Text.dropChar? c (skip cs)

/-- Whether a year has a leap day. -/
def isLeap (year : Int) : Bool :=
  year % 4 == 0 && (year % 100 != 0 || year % 400 == 0)

/-- Number of days in a month. -/
def daysIn (year : Int) (month : Nat) : Nat :=
  if month = 2 then (if isLeap year then 29 else 28)
  else if month = 4 ∨ month = 6 ∨ month = 9 ∨ month = 11 then 30 else 31

/-- A date by its year, month and day. -/
structure Date where
  year : Int
  month : Nat
  day : Nat
  deriving DecidableEq, Repr

/-- The first and the last date. -/
def Date.first : Date := ⟨minYear, 1, 1⟩
def Date.last : Date := ⟨maxYear, 12, 31⟩

/-- Seconds of a day. -/
def daySeconds : Int := 86400

/-- A date that exists. -/
def date? (cs : List Char) : Option (Date × List Char) := do
  let (year, cs) ← year? cs
  let cs ← separator? '-' cs
  let (month, cs) ← within? 2 1 12 cs
  let cs ← separator? '-' cs
  let (day, cs) ← within? 2 1 (daysIn year month) cs
  return (⟨year, month, day⟩, cs)

/-- What follows a fraction of a second, if one stands at the front. -/
def fraction? : List Char → Option (List Char)
  | '.' :: cs =>
    if (cs.head?.map Text.Decimal.isDigit).getD false then some (cs.dropWhile Text.Decimal.isDigit)
    else none
  | cs => some cs

/-- A time of day in seconds; a leap second belongs to the one before it. -/
def time? (cs : List Char) : Option (Int × List Char) := do
  let (hours, cs) ← within? 2 0 23 cs
  let cs ← separator? ':' cs
  let (minutes, cs) ← within? 2 0 59 cs
  let cs ← separator? ':' cs
  let (seconds, cs) ← within? 2 0 60 cs
  let cs ← fraction? cs
  return (3600 * hours + 60 * minutes + min seconds 59, cs)

/-- Two digits at the front. -/
def twoDigits? : List Char → Option (Nat × List Char)
  | a :: b :: rest => (Text.Decimal.digits? [a, b]).map (·, rest)
  | _ => none

/-- An offset from universal time in seconds. -/
def offset? (cs : List Char) : Option (Int × List Char) :=
  match cs with
  | 'Z' :: rest => some (0, rest)
  | 'z' :: rest => some (0, rest)
  | sign :: rest =>
    if Text.lowerAsciiAll (cs.take 3) = ['u', 't', 'c'] then some (0, cs.drop 3)
    else if sign = '+' ∨ sign = '-' ∨ sign = '\u2212' then do
      let (hours, rest) ← twoDigits? rest
      let (minutes, rest) ← twoDigits? (rest.dropWhile fun c => c == ':' || Text.isBlank c)
      let seconds : Int := 3600 * hours + 60 * minutes
      if hours < 24 ∧ minutes < 60 then some (if sign = '+' then seconds else -seconds, rest) else none
    else none
  | [] => none

/-- Whether a time in universal seconds, counted from the start of a date, stays in range. -/
def isInRange (date : Date) (seconds : Int) : Bool :=
  (date != .first || 0 ≤ seconds) && (date != .last || seconds < daySeconds)

/-- Whether a text writes a moment. -/
def isValid (s : String) : Bool :=
  let moment : Option (Date × Int × List Char) := do
    let (date, cs) ← date? s.toList
    let cs ← match cs with
      | 'T' :: cs => some cs
      | 't' :: cs => some cs
      | ' ' :: cs => some cs
      | _ => none
    let (time, cs) ← time? cs
    let (offset, cs) ← offset? (skip cs)
    return (date, time - offset, cs)
  moment.any fun (date, seconds, cs) => isInRange date seconds && (skip cs).isEmpty

end HardwareIndex.Timestamp
