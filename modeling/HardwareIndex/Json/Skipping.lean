import HardwareIndex.Json.Reader
import HardwareIndex.Text.Utf8

/-!
# Skipping JSON

A value that nobody asks for is skipped where it stands. It has to be JSON, but no
text is made of its strings, so they may hold any octets and escapes of lone
surrogates; and arrays and objects may be nested to any depth. Octets are read as
the characters whose codes they are. A string that somebody asks for has to be
UTF-8, and its escapes have to write characters.
-/

namespace HardwareIndex.Json.Reader

mutual

/-- What follows a string after its opening quote. -/
def skipString? : List Char → Option (List Char)
  | [] => none
  | '"' :: cs => some cs
  | '\\' :: cs => skipEscape? cs
  | c :: cs => if c.toNat < 32 then none else skipString? cs

/-- What follows a string after a backslash in it. -/
def skipEscape? : List Char → Option (List Char)
  | [] => none
  | 'u' :: cs => skipDigits? 3 cs
  | c :: cs => if "\"\\/bfnrt".toList.contains c then skipString? cs else none

/-- What follows a string before a digit of an escape, with some more digits to come. -/
def skipDigits? : Nat → List Char → Option (List Char)
  | _, [] => none
  | more, c :: cs =>
    if (Text.Hex.value? c.toNat).isNone then none
    else match more with
      | 0 => skipString? cs
      | more + 1 => skipDigits? more cs

end

/-- What values stand in. -/
inductive Frame where
  | array
  | object

/-- The bracket that closes a frame. -/
def Frame.closing : Frame → Char
  | .array => ']'
  | .object => '\x7d'

/-- What follows a frame that closes, after blanks. -/
def close? (frame : Frame) (cs : List Char) : Option (List Char) :=
  Text.dropChar? frame.closing (skip cs)

/-- What follows the name of a member, where values have one. -/
def skipName? : Frame → List Char → Option (List Char)
  | .array, cs => some cs
  | .object, cs => do
    let cs ← Text.dropChar? '"' (skip cs)
    let cs ← skipString? cs
    Text.dropChar? ':' (skip cs)

mutual

/-- What follows a value, after blanks. -/
def skipValue? : Nat → List Char → Option (List Char)
  | 0, _ => none
  | fuel + 1, cs =>
    match skip cs with
    | 'n' :: cs => Text.dropPrefix? "ull".toList cs
    | 't' :: cs => Text.dropPrefix? "rue".toList cs
    | 'f' :: cs => Text.dropPrefix? "alse".toList cs
    | '"' :: cs => skipString? cs
    | '[' :: cs => (close? .array cs).or (skipValues? fuel .array cs)
    | '\x7b' :: cs => (close? .object cs).or (skipValues? fuel .object cs)
    | cs => (number? cs).map Prod.snd

/-- What follows a frame from a value in it on. -/
def skipValues? : Nat → Frame → List Char → Option (List Char)
  | 0, _, _ => none
  | fuel + 1, frame, cs =>
    match (skipName? frame cs).bind (skipValue? fuel) with
    | none => none
    | some cs =>
      match skip cs with
      | ',' :: cs => skipValues? fuel frame cs
      | cs => close? frame cs

end

/-- A string of UTF-8 after its opening quote. -/
def utf8? (cs : List Char) : Option (String × List Char) := do
  let rest ← skipString? cs
  let octets := (cs.take (cs.length - rest.length)).map fun c => UInt8.ofNat c.toNat
  let written ← Text.Utf8.decode? octets
  let (text, _) ← string? written.length [] written
  return (text, rest)

end HardwareIndex.Json.Reader
