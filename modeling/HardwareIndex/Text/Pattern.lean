import HardwareIndex.Text.Alphanumeric
import HardwareIndex.Text.Hex

/-!
# Patterns

The grammar of the patterns that a text may be compared with: letters that stand
for themselves, classes of characters in brackets, escapes, groups, choices and
repetitions. `Pattern.check` says whether a text is a pattern that can be matched
in one pass, and if not, why. Counts in braces are never complete here, because
where patterns are written the first closing brace ends them.
-/

namespace HardwareIndex.Text.Pattern

/-- Why a text is no pattern. -/
inductive Fault where
  | unreadable
  /-- It asks where words of any script begin or end. -/
  | wordEdge
  deriving DecidableEq, Repr

/-- What an escape stands for. -/
inductive Escape where
  | letter (code : Nat)
  /-- A class of characters, perhaps of those that another one lacks. -/
  | letters (isComplement : Bool)
  /-- The characters of a category. -/
  | category
  | textEdge
  | wordEdge
  deriving DecidableEq, Repr

/-- A character by its code in a fixed number of hexadecimal digits. -/
def coded? (places : Nat) (cs : List Char) : Option (Escape × List Char) :=
  let digits := cs.take places
  match Hex.number? digits with
  | some n => if digits.length = places ∧ n.isValidChar then some (.letter n, cs.drop places) else none
  | none => none

/-- The escape after a backslash. -/
def escape? : List Char → Option (Escape × List Char)
  | [] => none
  | 'x' :: rest => coded? 2 rest
  | 'u' :: rest => coded? 4 rest
  | 'U' :: rest => coded? 8 rest
  | c :: rest =>
    if "pP".toList.contains c then
      match rest with
      | name :: rest => if "clmnpszCLMNPSZ".toList.contains name then some (.category, rest) else none
      | [] => none
    else if "dsw".toList.contains c then some (.letters false, rest)
    else if "DSW".toList.contains c then some (.letters true, rest)
    else if "afnrtv".toList.contains c then some (.letter c.toNat, rest)
    else if "Az".toList.contains c then some (.textEdge, rest)
    else if "bB<>".toList.contains c then some (.wordEdge, rest)
    else if c.toNat < 128 && !c.isAlphanum then some (.letter c.toNat, rest)
    else none

/-- The names of classes that are written between colons. -/
def classNames : List String := ["alnum", "alpha", "ascii", "blank", "cntrl", "digit", "graph",
  "lower", "print", "punct", "space", "upper", "word", "xdigit"]

/-- What follows a class that is written between colons, after its opening bracket. -/
def namedClass? (cs : List Char) : Option (List Char) :=
  match cs with
  | ':' :: rest =>
    let rest := if rest.head? = some '^' then rest.drop 1 else rest
    let name := rest.takeWhile (· != ':')
    match rest.drop name.length with
    | ':' :: ']' :: rest => if classNames.contains (String.ofList name) then some rest else none
    | _ => none
  | _ => none

/-- What follows the start of a class: a complement mark, hyphens, and a closing bracket
    that comes first all stand for themselves. Octets have no complement that is text. -/
def openClass? (isText : Bool) (cs : List Char) : Option (List Char) :=
  let isComplement := cs.head? = some '^'
  let inner := if isComplement then cs.drop 1 else cs
  let rest := inner.dropWhile (· == '-')
  if isComplement && !isText then none
  else match rest with
    | ']' :: after => if rest.length = inner.length then some after else some rest
    | _ => some rest

/-- A member of a class, with its code if it is one character. -/
def member? : List Char → Option (Option Nat × List Char)
  | [] => none
  | '\\' :: rest =>
    match escape? rest with
    | some (.letter n, rest) => some (some n, rest)
    | some (.letters _, rest) => some (none, rest)
    | some (.category, rest) => some (none, rest)
    | _ => none
  | c :: rest => some (some c.toNat, rest)

/-- A member or a range of characters in ascending order. -/
def members? (cs : List Char) : Option (List Char) := do
  let (first, rest) ← member? cs
  match rest with
  | '-' :: ']' :: _ => some rest
  | '-' :: '-' :: _ => some rest
  | '-' :: after =>
    let (last, rest) ← member? after
    if (← first) ≤ (← last) then some rest else none
  | _ => some rest

/-- What follows the brackets of which `depth` are still open. -/
def closeClass? (isText : Bool) : (fuel depth : Nat) → List Char → Option (List Char)
  | 0, _, _ => none
  | _, _, [] => none
  | fuel + 1, depth, '[' :: rest =>
    match namedClass? rest with
    | some rest => closeClass? isText fuel depth rest
    | none => (openClass? isText rest).bind (closeClass? isText fuel (depth + 1))
  | fuel + 1, depth, ']' :: rest =>
    if depth = 1 then some rest else closeClass? isText fuel (depth - 1) rest
  | fuel + 1, depth, '&' :: '&' :: rest => closeClass? isText fuel depth rest
  | fuel + 1, depth, '-' :: '-' :: rest => closeClass? isText fuel depth rest
  | fuel + 1, depth, '~' :: '~' :: rest => closeClass? isText fuel depth rest
  | fuel + 1, depth, cs => (members? cs).bind (closeClass? isText fuel depth)

/-- What follows a class, after its opening bracket. -/
def class? (isText : Bool) (cs : List Char) : Option (List Char) :=
  (openClass? isText cs).bind (closeClass? isText (cs.length + 1) 1)

/-- How far a pattern has been read. -/
structure Scan where
  /-- For every open group, whether what surrounds it is about text. -/
  outer : List Bool := []
  /-- Whether characters are meant, and not octets. -/
  isText : Bool := true
  /-- Whether something stands before that can be repeated. -/
  hasItem : Bool := false
  /-- Names of groups so far. -/
  names : List (List Char) := []
  hasWordEdge : Bool := false

namespace Scan

/-- After one item that can be repeated. -/
def item (s : Scan) : Scan :=
  { s with hasItem := true }

/-- After the start of a group. -/
def enter (s : Scan) (isText : Bool) : Scan :=
  { s with outer := s.isText :: s.outer, isText, hasItem := false }

/-- The group with a name that has not been used. -/
def named? (s : Scan) (cs : List Char) : Option (Scan × List Char) :=
  let name := cs.takeWhile (· != '>')
  let isFirst (c : Char) := c == '_' || (isAlphanumeric c && !c.isDigit)
  let isNext (c : Char) := isAlphanumeric c || "_.[]".toList.contains c
  match cs.drop name.length with
  | '>' :: rest =>
    if name.head?.any isFirst && name.all isNext && !s.names.contains name then
      some ({ s.enter s.isText with names := name :: s.names }, rest)
    else none
  | _ => none

/-- The switches at the start of a group, each at most once, some perhaps after a hyphen
    that turns them off. They hold for the group, or without a colon for what follows. -/
def switches? (s : Scan) (cs : List Char) : Option (Scan × List Char) :=
  let flags := cs.takeWhile fun c => c != ':' && c != ')'
  let off := (flags.dropWhile (· != '-')).drop 1
  let isSound := flags.all ("imsUuRx-".toList.contains ·) && flags.eraseDups == flags &&
    flags.getLast? != some '-'
  let isText := if flags.contains 'u' then !off.contains 'u' else s.isText
  if !isSound then none
  else match cs.drop flags.length with
    | ':' :: rest => some (s.enter isText, rest)
    | ')' :: rest => if flags.isEmpty then none else some ({ s with isText, hasItem := false }, rest)
    | _ => none

/-- The start of a group, after its opening parenthesis. -/
def group? (s : Scan) (cs : List Char) : Option (Scan × List Char) :=
  match cs with
  | '?' :: 'P' :: '<' :: rest => s.named? rest
  | '?' :: '<' :: '!' :: _ => none
  | '?' :: '<' :: rest => s.named? rest
  | '?' :: rest => s.switches? rest
  | _ => some (s.enter s.isText, cs)

/-- An escape outside of a class. -/
def escaped? (s : Scan) (cs : List Char) : Option (Scan × List Char) :=
  match escape? cs with
  | some (.letters isComplement, rest) => if isComplement && !s.isText then none else some (s.item, rest)
  | some (.category, rest) => if s.isText then some (s.item, rest) else none
  | some (.wordEdge, rest) => some ({ s.item with hasWordEdge := s.hasWordEdge || s.isText }, rest)
  | some (_, rest) => some (s.item, rest)
  | none => none

/-- Read one item or mark at the front. -/
def step? (s : Scan) : List Char → Option (Scan × List Char)
  | [] => none
  | '(' :: rest => s.group? rest
  | ')' :: rest =>
    match s.outer with
    | [] => none
    | isText :: outer => some ({ s.item with outer, isText }, rest)
  | '|' :: rest => some ({ s with hasItem := false }, rest)
  | '[' :: rest => (class? s.isText rest).map (s.item, ·)
  | '\\' :: rest => s.escaped? rest
  | '\x7b' :: _ => none
  | '.' :: rest => if s.isText then some (s.item, rest) else none
  | c :: rest =>
    if "*+?".toList.contains c then
      if s.hasItem then some (s, if rest.head? = some '?' then rest.drop 1 else rest) else none
    else some (s.item, rest)

/-- Read all of a pattern. -/
def run? : (fuel : Nat) → Scan → List Char → Option Scan
  | _, s, [] => if s.outer.isEmpty then some s else none
  | 0, _, _ => none
  | fuel + 1, s, cs => (s.step? cs).bind fun (s, rest) => run? fuel s rest

end Scan

/-- Whether a text is a pattern, and if not, why. -/
def check (cs : List Char) : Except Fault Unit :=
  match Scan.run? cs.length {} cs with
  | none => .error .unreadable
  | some s => if s.hasWordEdge then .error .wordEdge else .ok ()

end HardwareIndex.Text.Pattern
