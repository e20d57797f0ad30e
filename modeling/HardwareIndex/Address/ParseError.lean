import HardwareIndex.Text.Quoted

/-!
# Faults of written addresses

What is wrong with the text of an address or of an address prefix, with the part
of the text that is at fault.
-/

namespace HardwareIndex

/-- Why a text is no address or no address prefix. -/
inductive ParseError where
  | invalidMac (input : String)
  | missingPrefixLength (input : String)
  | invalidPrefixLength (input : String)
  deriving DecidableEq, Repr

/-- The wording of a fault. -/
def ParseError.message : ParseError → String
  | .invalidMac input => "invalid MAC address " ++ Text.quote input
  | .missingPrefixLength input => Text.quote input ++ " is no MAC prefix"
  | .invalidPrefixLength input => "invalid prefix length " ++ Text.quote input

end HardwareIndex
