import HardwareIndex.Http.Form
import HardwareIndex.Http.Status
import HardwareIndex.Index.Basic
import HardwareIndex.Observe.Metrics

/-!
# Lookups

A query names any number of addresses and identifiers. The records found under
them have to agree on one name, which is the answer. Keys that cannot be read
and keys that nothing is known of do not count. A lookup never waits: it is
refused until the index is published and ready.
-/

namespace HardwareIndex

/-- An answer to a request. -/
structure Answer where
  status : StatusCode
  contentType : Option String
  body : String
  deriving DecidableEq, Repr

namespace Answer

/-- The content type of plain texts. -/
def plainType : String := "text/plain; charset=utf-8"

/-- An answer without content. -/
def empty (status : StatusCode) : Answer := ⟨status, none, ""⟩

/-- A plain text. -/
def text (status : StatusCode) (body : String) : Answer := ⟨status, some plainType, body⟩

/-- A value. -/
def json (body : String) : Answer := ⟨.ok, some "application/json", body⟩

end Answer

/-- The keys that a query names, in its order. -/
structure LookupQuery where
  macs : List String
  uuids : List String
  deriving DecidableEq, Repr

namespace LookupQuery

/-- The values of one name. -/
def valuesOf (name : String) (pairs : List (String × String)) : List String :=
  (pairs.filter fun pair => pair.1 == name).map Prod.snd

/-- The keys of a query string. -/
def parse (query : Option String) : LookupQuery :=
  let pairs := Form.decode (query.getD "")
  ⟨valuesOf "mac" pairs, valuesOf "uuid" pairs⟩

end LookupQuery

namespace Lookup

variable {R : Type} [Indexed R]

/-- The records found under the keys of a query: addresses first. -/
def hits (entries : Entries R) (query : LookupQuery) : List R :=
  let macs := query.macs.filterMap fun text => (Mac.parse text).toOption.bind entries.byMac?
  let uuids := query.uuids.filterMap fun text => (Uuid.parse text).toOption.bind entries.byUuid?
  macs ++ uuids

/-- What the hits amount to: nothing, one name, or several. -/
inductive Verdict where
  | nothing
  | one (name : ObjectName)
  | several
  deriving DecidableEq, Repr

/-- The verdict on hits. -/
def verdict (hits : List R) : Verdict :=
  match hits with
  | [] => .nothing
  | first :: rest =>
    if rest.all fun hit => Indexed.name hit == Indexed.name first then .one (Indexed.name first)
    else .several

/-- The index, if it may be asked. -/
def usable? (index : Option (Index R)) : Option (Index R) :=
  index.filter Index.isReady

/-- Answer a lookup on what is published. -/
def answer (index : Option (Index R)) (query : Option String) :
    Answer × LookupResult × List Warning :=
  match usable? index with
  | none => (.empty .notAcceptable, .notReady, [.lookupTooEarly (Indexed.kind R)])
  | some index =>
    let keys := LookupQuery.parse query
    match verdict (hits index.entries keys) with
    | .nothing => (.empty .notFound, .notFound, [])
    | .one name => (.json name.body, .found, [])
    | .several =>
      (.empty .badRequest, .ambiguous, [.lookupAmbiguous (Indexed.kind R) keys.macs keys.uuids])

end Lookup

end HardwareIndex
