import HardwareIndex.Text.Canonical.Basic
import HardwareIndex.Url.Domain.Label
import HardwareIndex.Url.Domain.Mapping
import HardwareIndex.Url.Punycode

/-!
# Host names

A host name is brought into its canonical spelling, cut into labels at dots, and
written in ASCII. A label that is written in ASCII already is read back, to see
that it stands for a label that may be written so.
-/

namespace HardwareIndex.Domain

/-- The canonical spelling of a text in a name. -/
def spelled? (cs : List Char) : Option (List Char) :=
  (cs.mapM spelling?).map fun spellings => Text.canonical spellings.flatten

/-- Whether a text is spelled canonically, and holds nothing that leaves no trace. -/
def isSpelled (cs : List Char) : Bool :=
  cs.all (fun c => spelling? c == some [c]) && Text.canonical cs == cs

/-- Longest text of an encoded label, and longest label to encode. -/
def maxEncoded : Nat := 2000
def maxDecoded : Nat := 1000

/-- The label that a label in canonical spelling stands for. -/
def decoded? (label : List Char) : Option (List Char) :=
  if Punycode.mark.isPrefixOf label then
    let text := label.drop Punycode.mark.length
    if label.getLast? = some '-' || maxEncoded < text.length || !text.all Punycode.isAscii then none
    else (Punycode.decode? text).filter isSpelled
  else some label

/-- Whether the labels of a name may stand together. -/
def isName (labels : List (List Char)) : Bool :=
  labels.all isLabel && (!labels.any (·.any isRightward) || labels.all isDirected)

/-- A name in ASCII, in small letters. -/
def toAscii? (name : List Char) : Option (List Char) := do
  let labels := (← spelled? name).splitOn '.'
  let shown ← labels.mapM decoded?
  if isName shown && labels.all (fun l => l.all Punycode.isAscii || l.length ≤ maxDecoded) then
    some (List.intercalate ['.'] (labels.map Punycode.encode))
  else none

end HardwareIndex.Domain
