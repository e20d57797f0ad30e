import HardwareIndex.Text.Reading
import HardwareIndex.Url.Encoding

/-!
# Paths

The path of an address is a list of segments, or for some schemes a text that no
relative address can be joined to. A segment of dots stands for the segment it is
in or for the one above. A segment that names a drive stays when the one above it
is asked for, and the first segment of a file may name a drive in place of a host.
-/

namespace HardwareIndex

/-- The path of an address. -/
inductive UrlPath where
  /-- A text without structure. -/
  | rootless (text : String)
  | segments (list : List String)
  deriving DecidableEq, Repr

/-- How addresses of a scheme are read. -/
inductive SchemeKind where
  | file
  /-- An address of the web, with the port its scheme implies. -/
  | web (port : Nat)
  | other
  deriving DecidableEq, Repr

namespace SchemeKind

/-- The kind of a scheme. -/
def of (scheme : String) : SchemeKind :=
  if scheme == "http" || scheme == "ws" then .web 80
  else if scheme == "https" || scheme == "wss" then .web 443
  else if scheme == "ftp" then .web 21
  else if scheme == "file" then .file
  else .other

/-- Whether a backslash separates like a slash. -/
def isSpecial : SchemeKind → Bool
  | .other => false
  | _ => true

/-- Whether a character separates segments. -/
def isSlash (kind : SchemeKind) (c : Char) : Bool :=
  c == '/' || (kind.isSpecial && c == '\\')

end SchemeKind

namespace UrlPath

/-- A path as written. -/
def text : UrlPath → String
  | .rootless text => text
  | .segments list => String.join (list.map ("/" ++ ·))

/-- Whether a character within an address does not count. -/
def isBreak (c : Char) : Bool :=
  c == '\t' || c == '\n' || c == '\r'

/-- Characters without those that do not count. -/
def unbroken (cs : List Char) : List Char :=
  cs.filter (!isBreak ·)

/-- Whether a segment stands for the one it is in. -/
def isSingleDot (segment : List Char) : Bool :=
  [".", "%2e"].contains (String.ofList (Text.lowerAsciiAll segment))

/-- Whether a segment stands for the one above. -/
def isDoubleDot (segment : List Char) : Bool :=
  ["..", ".%2e", "%2e.", "%2e%2e"].contains (String.ofList (Text.lowerAsciiAll segment))

/-- Whether a segment is a letter with a colon or a bar. -/
def isDrive (segment : List Char) : Bool :=
  match segment with
  | [letter, mark] => letter.isAlpha && (mark == ':' || mark == '|')
  | _ => false

/-- Segments read so far. -/
structure Route where
  done : List String := []
  /-- Whether the first one names a drive in place of a host. -/
  isLocal : Bool := false

namespace Route

/-- Without the last segment, unless it names a drive. -/
def up (r : Route) : Route :=
  if (r.done.getLast?.map String.toList).any isDrive then r else { r with done := r.done.dropLast }

/-- With one more segment, as written. -/
def push (r : Route) (segment : List Char) : Route :=
  { r with done := r.done ++ [PercentCoding.encode .path segment] }

/-- A drive that a break parts from what follows it in its segment. -/
def partedDrive? (written : List Char) : Option (Char × List Char) :=
  let (front, rest) := (written.takeWhile (· != ':'), written.dropWhile (· != ':'))
  match unbroken front, rest with
  | [letter], _ :: c :: rest =>
    let rest := unbroken rest
    if letter.isAlpha && isBreak c && !rest.isEmpty then some (letter, rest) else none
  | _, _ => none

/-- With the first segment of a file: a drive is followed by a colon, and what a break
    parts from it is a segment of its own. -/
def openFile (written : List Char) : Route :=
  match partedDrive? written with
  | some (letter, rest) => Route.push { done := [String.ofList [letter, ':']] } rest
  | none =>
    match unbroken written with
    | [letter, mark] =>
      if isDrive [letter, mark] then ⟨[String.ofList [letter, ':']], true⟩
      else push {} [letter, mark]
    | segment => push {} segment

/-- With one more written segment, which a slash follows unless it is the last. -/
def add (kind : SchemeKind) (r : Route) (written : List Char) (isLast : Bool) : Route :=
  let slash (r : Route) : Route := if isLast then r.push [] else r
  let segment := unbroken written
  let isOpening := kind = .file ∧ r.done = []
  if isOpening ∧ (partedDrive? written).isSome then openFile written
  else if isDoubleDot segment then slash r.up
  else if isSingleDot segment then slash r
  else if isOpening then openFile written
  else r.push segment

/-- With all of some written segments. -/
def addAll (kind : SchemeKind) (r : Route) : List (List Char) → Route
  | [] => r
  | written :: rest => addAll kind (r.add kind written rest.isEmpty) rest

/-- The segments of a path; a file begins with none that is empty. -/
def segments (kind : SchemeKind) (r : Route) : List String :=
  match kind with
  | .file =>
    let trimmed := r.done.dropWhile String.isEmpty
    if trimmed.isEmpty then [""] else trimmed
  | _ => r.done

end Route

/-- The route that a path takes, read after its first slash. -/
def route (kind : SchemeKind) (cs : List Char) : Route :=
  Route.addAll kind {} (cs.splitOnP kind.isSlash)

/-- The segments of a path, read after its first slash. -/
def rooted (kind : SchemeKind) (cs : List Char) : List String :=
  (route kind cs).segments kind

/-- The segments of a path that ends with an empty one; a path that has to be given its
    end is read anew with it. -/
def closed (kind : SchemeKind) (list : List String) : List String :=
  if list.getLast? = some "" then list
  else (Route.addAll kind {} ((list ++ [""]).map String.toList)).segments kind

end UrlPath

end HardwareIndex
