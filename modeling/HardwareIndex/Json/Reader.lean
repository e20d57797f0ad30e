import HardwareIndex.Json.Basic
import HardwareIndex.Text.Decimal
import HardwareIndex.Text.Hex
import HardwareIndex.Text.Reading

/-!
# Reading JSON

`Json.read?` reads one value that makes up a whole text but for blanks around
it. It is strict: no trailing comma, no raw control character in a string, no
escape of a lone surrogate, no leading zero, at most 127 levels of nesting. Of
members with one name the last counts; `Json.readRaw?` keeps them all.
-/

namespace HardwareIndex.Json

namespace Reader

/-- A value read, with what follows it. -/
abbrev Step (α : Type) := Option (α × List Char)

/-- Blanks between tokens. -/
def isBlank (c : Char) : Bool :=
  c == ' ' || c == '\t' || c == '\n' || c == '\r'

/-- What follows the blanks at the front. -/
def skip (cs : List Char) : List Char :=
  cs.dropWhile isBlank

/-- The unit that four digits write. -/
def unit? : List Char → Step Nat
  | a :: b :: c :: d :: rest => (Text.Hex.number? [a, b, c, d]).map (·, rest)
  | _ => none

/-- The character after `\u`: one unit, or a high surrogate and a low one. -/
def unicode? (cs : List Char) : Option (Char × List Char) := do
  let (high, cs) ← unit? cs
  if 0xD800 ≤ high ∧ high < 0xDC00 then do
    let cs ← Text.dropPrefix? ['\\', 'u'] cs
    let (low, cs) ← unit? cs
    if 0xDC00 ≤ low ∧ low < 0xE000 then
      some (Char.ofNat (0x10000 + 0x400 * (high - 0xD800) + (low - 0xDC00)), cs)
    else none
  else if 0xDC00 ≤ high ∧ high < 0xE000 then none
  else some (Char.ofNat high, cs)

/-- The character after a backslash. -/
def escaped? : List Char → Step Char
  | '"' :: cs => some ('"', cs)
  | '\\' :: cs => some ('\\', cs)
  | '/' :: cs => some ('/', cs)
  | 'b' :: cs => some ('\x08', cs)
  | 'f' :: cs => some ('\x0c', cs)
  | 'n' :: cs => some ('\n', cs)
  | 'r' :: cs => some ('\r', cs)
  | 't' :: cs => some ('\t', cs)
  | 'u' :: cs => unicode? cs
  | _ => none

/-- The rest of a string after its opening quote; the characters read so far are in
    reverse. -/
def string? : Nat → List Char → List Char → Step String
  | 0, _, _ => none
  | fuel + 1, read, cs =>
    match cs with
    | [] => none
    | '"' :: cs => some (String.ofList read.reverse, cs)
    | '\\' :: cs =>
      match escaped? cs with
      | some (c, cs) => string? fuel (c :: read) cs
      | none => none
    | c :: cs => if c.toNat < 32 then none else string? fuel (c :: read) cs

/-- The digits at the front, at least one. -/
def digits? (cs : List Char) : Step (List Char) :=
  let run := cs.takeWhile Text.Decimal.isDigit
  if run.isEmpty then none else some (run, cs.dropWhile Text.Decimal.isDigit)

/-- The digits before the point, without a leading zero. -/
def whole? (cs : List Char) : Step (List Char) :=
  match cs with
  | '0' :: rest => some (['0'], rest)
  | _ => digits? cs

/-- A fraction, if one follows. -/
def fraction? : List Char → Step (List Char)
  | '.' :: cs => (digits? cs).map fun (run, cs) => ('.' :: run, cs)
  | cs => some ([], cs)

/-- An exponent, if one follows. -/
def exponent? : List Char → Step (List Char)
  | c :: cs =>
    if c = 'e' ∨ c = 'E' then
      match cs with
      | '+' :: rest => (digits? rest).map fun (run, cs) => (c :: '+' :: run, cs)
      | '-' :: rest => (digits? rest).map fun (run, cs) => (c :: '-' :: run, cs)
      | _ => (digits? cs).map fun (run, cs) => (c :: run, cs)
    else some ([], c :: cs)
  | [] => some ([], [])

/-- The number after its sign. -/
def magnitude? (negative : Bool) (cs : List Char) : Option (Json × List Char) := do
  let (whole, cs) ← whole? cs
  let (fraction, cs) ← fraction? cs
  let (exponent, cs) ← exponent? cs
  let n := Text.Decimal.value whole
  let sign := if negative then ['-'] else []
  if fraction.isEmpty && exponent.isEmpty && !(negative && n == 0) then
    return (.int (if negative then -n else n), cs)
  else return (.decimal (String.ofList (sign ++ whole ++ fraction ++ exponent)), cs)

/-- A number at the front. -/
def number? (cs : List Char) : Step Json :=
  match cs with
  | '-' :: rest => magnitude? true rest
  | _ => magnitude? false cs

mutual

/-- A value at the front, after blanks, with the given levels of nesting left. -/
def value? : Nat → Nat → List Char → Step Json
  | 0, _, _ => none
  | fuel + 1, levels, cs =>
    match skip cs with
    | 'n' :: cs => (Text.dropPrefix? "ull".toList cs).map (Json.null, ·)
    | 't' :: cs => (Text.dropPrefix? "rue".toList cs).map (Json.bool true, ·)
    | 'f' :: cs => (Text.dropPrefix? "alse".toList cs).map (Json.bool false, ·)
    | '"' :: cs => (string? fuel [] cs).map fun (s, cs) => (Json.str s, cs)
    | '[' :: cs =>
      match levels, skip cs with
      | 0, _ => none
      | _ + 1, ']' :: cs => some (Json.arr [], cs)
      | levels + 1, cs => items? fuel levels [] cs
    | '\x7b' :: cs =>
      match levels, skip cs with
      | 0, _ => none
      | _ + 1, '\x7d' :: cs => some (Json.obj [], cs)
      | levels + 1, cs => members? fuel levels [] cs
    | cs => number? cs

/-- The rest of an array from an item on; the items read so far are in reverse. -/
def items? : Nat → Nat → List Json → List Char → Step Json
  | 0, _, _, _ => none
  | fuel + 1, levels, read, cs =>
    match value? fuel levels cs with
    | none => none
    | some (item, cs) =>
      match skip cs with
      | ',' :: cs => items? fuel levels (item :: read) cs
      | ']' :: cs => some (Json.arr (item :: read).reverse, cs)
      | _ => none

/-- The rest of an object from a member on; the members read so far are in reverse. -/
def members? : Nat → Nat → List (String × Json) → List Char → Step Json
  | 0, _, _, _ => none
  | fuel + 1, levels, read, cs =>
    match skip cs with
    | '"' :: cs =>
      match string? fuel [] cs with
      | none => none
      | some (name, cs) =>
        match Text.dropChar? ':' (skip cs) with
        | none => none
        | some cs =>
          match value? fuel levels cs with
          | none => none
          | some (value, cs) =>
            match skip cs with
            | ',' :: cs => members? fuel levels ((name, value) :: read) cs
            | '\x7d' :: cs => some (Json.obj ((name, value) :: read).reverse, cs)
            | _ => none
    | _ => none

end

/-- Deepest nesting of arrays and objects. -/
def maxLevels : Nat := 127

end Reader

mutual

/-- A value in which no object has two members of one name: the last one counts. -/
def distinct : Json → Json
  | .arr items => .arr (distinctItems items)
  | .obj members => .obj (distinctMembers [] members)
  | value => value

/-- Array items with distinct members. -/
def distinctItems : List Json → List Json
  | [] => []
  | item :: rest => item.distinct :: distinctItems rest

/-- Members added to distinct ones. -/
def distinctMembers (kept : List (String × Json)) : List (String × Json) → List (String × Json)
  | [] => kept
  | (name, value) :: rest => distinctMembers (setMember name value.distinct kept) rest

end

/-- The value that makes up a text, with every member it writes. -/
def readRaw? (text : String) : Option Json :=
  let cs := text.toList
  match Reader.value? (2 * cs.length + 2) Reader.maxLevels cs with
  | some (value, rest) => if (Reader.skip rest).isEmpty then some value else none
  | none => none

/-- The value that makes up a text. -/
def read? (text : String) : Option Json :=
  (readRaw? text).map distinct

end HardwareIndex.Json
