import HardwareIndex.Url.Basic

/-!
# Reading addresses

`Url.parse` reads an address and brings it into its normal form. Blanks around
the text and line breaks in it do not count. What stands before a host may be
written in more than one way: addresses of the web take any number of slashes of
either kind, files may name a drive instead of a host.
-/

namespace HardwareIndex.Url

/-- The text without control characters and blanks around it. -/
def trimmed (s : String) : List Char :=
  let isOuter (c : Char) := c.toNat ≤ 32
  ((s.toList.dropWhile isOuter).reverse.dropWhile isOuter).reverse

/-- Whether a character may stand in a scheme after its first letter. -/
def isSchemeChar (c : Char) : Bool :=
  c.isAlphanum || c == '+' || c == '-' || c == '.'

/-- The scheme in lower case, with what follows its colon. -/
def scheme? (cs : List Char) : Option (String × List Char) :=
  let scheme := cs.takeWhile isSchemeChar
  match cs.head?, cs.drop scheme.length with
  | some first, ':' :: rest =>
    if first.isAlpha then some (String.ofList (Text.lowerAsciiAll scheme), rest) else none
  | _, _ => none

/-- Whether a character ends the part before the path. -/
def endsAuthority (kind : SchemeKind) (c : Char) : Bool :=
  kind.isSlash c || c == '?' || c == '#'

/-- Characters up to the first that passes a test, and the rest with it. -/
def cutAt (ends : Char → Bool) (cs : List Char) : List Char × List Char :=
  (cs.takeWhile fun c => !ends c, cs.dropWhile fun c => !ends c)

/-- Query and fragment at the front. -/
def queryAndFragment (kind : SchemeKind) (cs : List Char) : Option String × Option String :=
  let set := if kind.isSpecial then PercentSet.webQuery else .query
  let (query, rest) := match cs with
    | '?' :: cs =>
      let (query, rest) := cutAt (· == '#') cs
      (some (PercentCoding.encode set query), rest)
    | _ => (none, cs)
  (query, match rest with
    | '#' :: cs => some (PercentCoding.encode .fragment cs)
    | _ => none)

/-- The path that follows an authority: one of the web is never empty. -/
def pathAfterHost (kind : SchemeKind) (cs : List Char) : List String :=
  match cs with
  | [] => if kind.isSpecial then [""] else []
  | c :: rest => UrlPath.rooted kind (if kind.isSlash c then rest else c :: rest)

/-- The parts before and after the last at sign. -/
def splitUser (cs : List Char) : Option (List Char × List Char) :=
  if cs.contains '@' then
    let host := (cs.reverse.takeWhile (· != '@')).reverse
    some (cs.take (cs.length - host.length - 1), host)
  else none

/-- A user and, if one is given that is not empty, a password. -/
def userInfo (cs : List Char) : String × Option String :=
  let (user, rest) := cutAt (· == ':') cs
  let password := rest.drop 1
  (PercentCoding.encode .userInfo user,
    if password.isEmpty then none else some (PercentCoding.encode .userInfo password))

/-- The host at the front of an authority, up to a colon outside brackets. -/
def cutHost (isInside : Bool) : List Char → List Char × List Char
  | [] => ([], [])
  | c :: rest =>
    if c = ':' ∧ !isInside then ([], c :: rest)
    else
      let isInside := if c = '[' then true else if c = ']' then false else isInside
      let (host, rest) := cutHost isInside rest
      (c :: host, rest)

/-- A port of at most five significant digits, with what follows it. -/
def port? (kind : SchemeKind) (cs : List Char) : Except UrlError (Option Nat × List Char) :=
  let (digits, rest) := cutAt (!Text.Decimal.isDigit ·) cs
  let port := Text.Decimal.value digits
  if 65535 < port || rest.head?.any (· != '\\') then .error .port
  else if digits.isEmpty || kind == .web port then .ok (none, rest)
  else .ok (some port, rest)

/-- The host of an address of a scheme that has no files. -/
def host? (kind : SchemeKind) (cs : List Char) : Except UrlError UrlHost :=
  if kind.isSpecial then (if cs.isEmpty then .error .emptyHost else UrlHost.parseWeb cs)
  else UrlHost.parseOther cs

/-- The address after a scheme and two slashes. -/
def withAuthority (scheme : String) (kind : SchemeKind) (cs : List Char) : Except UrlError Url := do
  let (authority, after) := cutAt (endsAuthority kind) cs
  let (info, hostAndPort) := (splitUser authority).getD ([], authority)
  if authority.head? = some '@' && info.isEmpty && hostAndPort.isEmpty && !after.isEmpty then
    throw .emptyHost
  let (user, password) := userInfo info
  let (written, rest) := cutHost false hostAndPort
  let host ← host? kind written
  if host.isEmpty && !rest.isEmpty then throw .emptyHost
  let (port, rest) ← match rest with
    | ':' :: cs => port? kind cs
    | _ => .ok (none, rest)
  if host.isEmpty && (!user.isEmpty || password.isSome) then throw .emptyHost
  let (path, tail) := cutAt (fun c => c == '?' || c == '#') (rest ++ after)
  let (query, fragment) := queryAndFragment kind tail
  return ⟨scheme, user, password, some host, port, .segments (pathAfterHost kind path), query, fragment⟩

/-- Written characters without breaks at the front. -/
def skipBreaks (cs : List Char) : List Char :=
  cs.dropWhile UrlPath.isBreak

/-- What follows a slash at the front. -/
def afterSlash? (cs : List Char) : Option (List Char) :=
  match skipBreaks cs with
  | c :: rest => if SchemeKind.isSlash .file c then some rest else none
  | [] => none

/-- The host of a file with the written path after it. Without a host, or with a local
    one or a drive in its place, the path is all that follows the two slashes, else what
    follows one more. -/
def fileHost (cs : List Char) : Except UrlError (UrlHost × List Char) := do
  let (written, rest) := cutAt (endsAuthority .file) cs
  let written := UrlPath.unbroken written
  let none := UrlHost.named ""
  if UrlPath.isDrive written then return (none, cs)
  if written.isEmpty then return (none, rest)
  let host ← UrlHost.parseWeb written
  return if host = .named "localhost" then (none, rest) else (host, (afterSlash? rest).getD rest)

/-- The address of a file after its scheme; breaks in it are left in place. -/
def file (cs : List Char) : Except UrlError Url := do
  let (host, cs) ← match afterSlash? cs with
    | none => .ok (.named "", cs)
    | some cs =>
      match afterSlash? cs with
      | none => .ok (.named "", cs)
      | some cs => fileHost cs
  let (path, tail) := cutAt (fun c => c == '?' || c == '#') cs
  let (query, fragment) := queryAndFragment .file (UrlPath.unbroken tail)
  let route := UrlPath.route .file path
  let host := if route.isLocal then .named "" else host
  return ⟨"file", "", none, some host, none, .segments (route.segments .file), query, fragment⟩

/-- The address after a scheme of no special kind. -/
def other (scheme : String) (cs : List Char) : Except UrlError Url :=
  match cs with
  | '/' :: '/' :: rest => withAuthority scheme .other rest
  | _ =>
    let (written, tail) := cutAt (fun c => c == '?' || c == '#') cs
    let (query, fragment) := queryAndFragment .other tail
    let path := match written with
      | '/' :: rest => UrlPath.segments (UrlPath.rooted .other rest)
      | _ => .rootless (PercentCoding.encode .control written)
    .ok ⟨scheme, "", none, none, none, path, query, fragment⟩

/-- The address that a text writes. -/
def parse (s : String) : Except UrlError Url :=
  let written := trimmed s
  match scheme? (UrlPath.unbroken written) with
  | none => .error .relativeWithoutBase
  | some (scheme, rest) =>
    match SchemeKind.of scheme with
    | .file => file ((written.dropWhile (· != ':')).drop 1)
    | .web port => withAuthority scheme (.web port) (rest.dropWhile (SchemeKind.isSlash (.web port)))
    | .other => other scheme rest

end HardwareIndex.Url
