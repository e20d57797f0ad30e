import HardwareIndex.Text.Canonical.CombiningClass
import HardwareIndex.Text.Direction
import HardwareIndex.Text.Joining

/-!
# Labels of host names

The parts of a host name between its dots. A label begins with no mark, holds a
joiner only where it changes how letters are drawn, and, in a name with
characters written from right to left, mixes directions only so far that its
parts keep their order on a line.
-/

namespace HardwareIndex.Domain

/-- Keeps letters apart that would join. -/
def nonJoiner : Char := '\u200C'

/-- Joins what stands beside it. -/
def joiner : Char := '\u200D'

/-- Whether letters that would join stand on both sides of a place; what stands before it
    is given from the place backwards. -/
def joinsAcross (before after : List Char) : Bool :=
  (before.dropWhile Text.isTransparent).head?.any Text.joinsNext &&
    (after.dropWhile Text.isTransparent).head?.any Text.joinsPrevious

/-- Whether every joiner follows a mark that silences a vowel, or keeps letters apart. -/
def usesJoiners (before : List Char) : List Char → Bool
  | [] => true
  | c :: rest =>
    let follows := before.head?.any Text.isVirama
    let isUsed := if c = joiner then follows
      else if c = nonJoiner then follows || joinsAcross before rest
      else true
    isUsed && usesJoiners (c :: before) rest

/-- Whether a character makes a name one in which directions matter. -/
def isRightward (c : Char) : Bool :=
  [Text.Direction.right, .arabicNumber].contains (.of c)

/-- Whether the characters of a label keep their order on a line: it begins with a letter
    and ends with a letter or digit, marks not counting, one from left to right holds
    nothing of the other direction, and one from right to left has digits of one kind. -/
def isDirected (label : List Char) : Bool :=
  match label.map Text.Direction.of with
  | [] => true
  | first :: rest =>
    let body := rest.reverse.dropWhile (· == .nonspacing)
    match first with
    | .left =>
      body.head?.all ([.left, .europeanNumber].contains ·) &&
        body.all fun d => d != .right && d != .arabicNumber
    | .right =>
      body.head?.all ([.right, .europeanNumber, .arabicNumber].contains ·) &&
        !body.contains .left && !(body.contains .europeanNumber && body.contains .arabicNumber)
    | _ => false

/-- Whether a character separates parts of an address, or is a control or a blank. -/
def isDenied (c : Char) : Bool :=
  c.toNat ≤ 32 || c.toNat = 127 || "%#/:<>?@[\\]^|".toList.contains c

/-- Whether a label may stand in a name. -/
def isLabel (label : List Char) : Bool :=
  !label.any isDenied && !label.head?.any Text.isMark && usesJoiners [] label

end HardwareIndex.Domain
