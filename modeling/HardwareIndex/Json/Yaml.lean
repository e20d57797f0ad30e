import HardwareIndex.Json.Printer
import HardwareIndex.Text.Reading

/-!
# Writing values as YAML

The block form of a value: a member to a line, lists at the level of the member
that holds them, texts plain where they read back as themselves, texts of
several lines as literal blocks, and other texts between quotes.
-/

namespace HardwareIndex.Yaml

/-- Characters that cannot start a plain text. -/
def indicators : List Char :=
  "-?:,[]\x7b\x7d#&*!|>'\"%@\x60".toList

/-- Words that do not read back as texts. -/
def reserved : List String :=
  ["", "~", "null", "Null", "NULL", "true", "True", "TRUE", "false", "False", "FALSE",
    "y", "Y", "yes", "Yes", "YES", "n", "N", "no", "No", "NO", "on", "On", "ON", "off", "Off", "OFF"]

/-- Whether a text looks like a number. -/
def looksNumeric (cs : List Char) : Bool :=
  let isSign (c : Char) := c == '+' || c == '-' || c == '.'
  (cs.dropWhile isSign).head?.any Char.isDigit

/-- Whether a colon or a number sign in a text would end it. -/
def breaksOff : List Char → Bool
  | [] => false
  | [':'] => true
  | ':' :: ' ' :: _ => true
  | ' ' :: '#' :: _ => true
  | _ :: rest => breaksOff rest

/-- Whether a text reads back as itself without quotes. -/
def isPlain (s : String) : Bool :=
  let cs := s.toList
  !reserved.contains s && !looksNumeric cs && !breaksOff cs &&
    !cs.head?.any indicators.contains && cs.head? != some ' ' && cs.getLast? != some ' ' &&
    cs.all fun c => 32 ≤ c.toNat && c.toNat != 127

/-- A text between single quotes, which stand twice inside. -/
def quoted (s : String) : String :=
  String.ofList ('\'' :: s.toList.flatMap (fun c => if c = '\'' then [c, c] else [c]) ++ ['\''])

/-- Whether a text can be a literal block: lines that end and hold nothing unusual. -/
def isBlock (s : String) : Bool :=
  let cs := s.toList
  cs.contains '\n' && cs.head? != some ' ' && cs.head? != some '\n' && cs.getLast? != some '\n' &&
    cs.all fun c => c = '\n' || (32 ≤ c.toNat && c.toNat != 127)

/-- Blanks at the front of a line. -/
def indent (level : Nat) : String :=
  String.ofList (List.replicate level ' ')

/-- The lines of a literal block at a level; empty lines have no blanks. -/
def blockLines (level : Nat) (s : String) : List String :=
  (s.splitOn "\n").map fun line => if line.isEmpty then "" else indent level ++ line

/-- A text on one line. -/
def inline (s : String) : String :=
  if isPlain s then s
  else if s.toList.all fun c => 32 ≤ c.toNat && c.toNat != 127 then quoted s
  else Json.stringText s

/-- The text of a value that takes one line. -/
def scalar? : Json → Option String
  | .str s => if isBlock s then none else some (inline s)
  | .arr [] => some "[]"
  | .obj [] => some "\x7b\x7d"
  | .arr _ => none
  | .obj _ => none
  | value => some value.compact

/-- Lines with a mark before the first, whose own blanks it replaces. -/
def markFirst (level : Nat) (mark : String) : List String → List String
  | [] => []
  | line :: rest => (indent level ++ mark ++ String.ofList (line.toList.drop (level + mark.length))) :: rest

mutual

/-- The lines of a value at a level. -/
def lines (level : Nat) : Json → List String
  | .arr items => itemLines level items
  | .obj members => memberLines level members
  | .str s => blockLines level s
  | value => [indent level ++ value.compact]

/-- The lines of list items at a level. -/
def itemLines (level : Nat) : List Json → List String
  | [] => []
  | item :: rest =>
    let here := match scalar? item with
      | some text => [indent level ++ "- " ++ text]
      | none => markFirst level "- " (lines (level + 2) item)
    here ++ itemLines level rest

/-- The lines of members at a level. -/
def memberLines (level : Nat) : List (String × Json) → List String
  | [] => []
  | (name, value) :: rest =>
    let start := indent level ++ inline name ++ ":"
    let here := match scalar? value, value with
      | some text, _ => [start ++ " " ++ text]
      | none, .arr items => start :: itemLines level items
      | none, .str s => (start ++ " |-") :: blockLines (level + 2) s
      | none, value => start :: lines (level + 2) value
    here ++ memberLines level rest

end

/-- A value as a document. -/
def document (value : Json) : String :=
  let all := match scalar? value with
    | some text => [text]
    | none => lines 0 value
  String.join (all.map (· ++ "\n"))

end HardwareIndex.Yaml
