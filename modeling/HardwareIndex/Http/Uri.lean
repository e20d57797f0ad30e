import HardwareIndex.Text.Reading
import HardwareIndex.Text.Utf8

/-!
# Request targets

The target of a request: a path with perhaps a query, the same after a scheme
and an authority, an authority alone, or an asterisk. A fragment is dropped.
`Target.parse?` accepts what a server accepts, which is more than a browser
sends; it keeps the path and the query as they were written.
-/

namespace HardwareIndex

/-- What a request asks for. -/
structure Target where
  path : String
  query : Option String
  deriving DecidableEq, Repr

namespace Target

/-- Longest target, in octets. -/
def maxSize : Nat := 65534

/-- Longest scheme, in octets. -/
def maxScheme : Nat := 64

/-- Most colons in an authority. -/
def maxColons : Nat := 8

/-- Whether the code of a character is in one of some ranges. -/
def inRanges (ranges : List (Nat × Nat)) (c : Char) : Bool :=
  ranges.any fun (first, last) => first ≤ c.toNat && c.toNat ≤ last

/-- Whether a character may stand in a path. -/
def isPathChar (c : Char) : Bool :=
  inRanges [(0x21, 0x22), (0x24, 0x3B), (0x3D, 0x3D), (0x40, 0x5F), (0x61, 0x7E)] c || 0x80 ≤ c.toNat

/-- Whether a character may stand in a query. -/
def isQueryChar (c : Char) : Bool :=
  inRanges [(0x21, 0x21), (0x24, 0x3B), (0x3D, 0x3D), (0x3F, 0x7E)] c || 0x80 ≤ c.toNat

/-- Whether a character is an ASCII letter or digit. -/
def isAlphanumeric (c : Char) : Bool :=
  inRanges [(0x30, 0x39), (0x41, 0x5A), (0x61, 0x7A)] c

/-- Whether a character may stand in a scheme. -/
def isSchemeChar (c : Char) : Bool :=
  isAlphanumeric c || "+-.~".toList.contains c

/-- Whether a character may stand in an authority. -/
def isAuthorityChar (c : Char) : Bool :=
  isAlphanumeric c || "!$%&'()*+,-.:;=@[]_~".toList.contains c

/-- Whether a character ends an authority. -/
def endsAuthority (c : Char) : Bool :=
  c == '/' || c == '?' || c == '#'

/-- The query at the front, which a fragment may follow. -/
def query? (cs : List Char) : Option String :=
  let query := cs.takeWhile (· != '#')
  if query.all isQueryChar then some (String.ofList query) else none

/-- The path at the front, with the query if one follows; an empty path is the root. -/
def pathAndQuery? (cs : List Char) : Option Target :=
  let path := cs.takeWhile fun c => c != '?' && c != '#'
  let shown := if path.isEmpty then "/" else String.ofList path
  if !path.all isPathChar then none
  else match cs.drop path.length with
    | '?' :: rest => (query? rest).map fun query => ⟨shown, some query⟩
    | _ => some ⟨shown, none⟩

/-- A character of a path begins neither a query nor a fragment. -/
theorem ne_of_isPathChar {c : Char} (h : Target.isPathChar c = true) :
    c ≠ '?' ∧ c ≠ '#' := by
  constructor <;> rintro rfl <;> revert h <;> decide

/-- A text of characters of a path is read as a path alone. -/
theorem pathAndQuery?_eq_some {text : String} (some_char : text ≠ "")
    (chars : ∀ c ∈ text.toList, isPathChar c = true) :
    pathAndQuery? text.toList = some ⟨text, none⟩ := by
  have kept : text.toList.takeWhile (fun c => c != '?' && c != '#') = text.toList := by
    have each : ∀ c ∈ text.toList, (c != '?' && c != '#') = true := fun c hc => by
      simp [ne_of_isPathChar (chars c hc)]
    simpa using @List.takeWhile_append_of_pos _ _ _ [] each
  simp only [pathAndQuery?, kept]
  simpa using ⟨chars, fun h => absurd h some_char⟩

/-- What has been seen of an authority. -/
structure Scan where
  colons : Nat := 0
  opened : Bool := false
  closed : Bool := false
  percent : Bool := false

/-- Take one character of an authority. User information before an at sign and an
    address in brackets may hold colons and percent signs. -/
def Scan.step? (s : Scan) (c : Char) : Option Scan :=
  match c with
  | ':' => if s.colons < maxColons then some { s with colons := s.colons + 1 } else none
  | '[' => if s.percent || s.opened then none else some { s with opened := true }
  | ']' =>
    if !s.opened || s.closed then none
    else some { s with closed := true, colons := 0, percent := false }
  | '@' => some { s with colons := 0, percent := false }
  | '%' => some { s with percent := true }
  | _ => if isAuthorityChar c then some s else none

/-- Whether a text is an authority. -/
def isAuthority (cs : List Char) : Bool :=
  match cs.foldlM Scan.step? {} with
  | none => false
  | some s => s.opened == s.closed && s.colons ≤ 1 && !s.percent && cs.getLast? != some '@'

/-- Whether there is a scheme before `://`, and what follows it; nothing if the scheme
    is too long. -/
def scheme? (cs : List Char) : Option (Bool × List Char) :=
  let scheme := cs.takeWhile isSchemeChar
  match cs.drop scheme.length with
  | ':' :: '/' :: '/' :: rest => if scheme.length ≤ maxScheme then some (true, rest) else none
  | _ => some (false, cs)

/-- The target with an authority: alone, or after a scheme and with a path. -/
def absolute? (cs : List Char) : Option Target := do
  let (schemed, rest) ← scheme? cs
  let authority := rest.takeWhile fun c => !endsAuthority c
  let after := rest.drop authority.length
  if !isAuthority authority then none
  else if schemed then
    if authority.isEmpty then none else pathAndQuery? after
  else if after.isEmpty then some ⟨"", none⟩ else none

/-- The target that a text writes. -/
def parse? (text : String) : Option Target :=
  if text.utf8ByteSize > maxSize then none
  else match text.toList with
    | [] => none
    | ['*'] => some ⟨"*", none⟩
    | '/' :: rest => pathAndQuery? ('/' :: rest)
    | cs => absolute? cs

end Target

end HardwareIndex
