import HardwareIndex.Client.Resolver
import HardwareIndex.Proofs.Client.NameBody
import HardwareIndex.Proofs.Http.Form
import HardwareIndex.Proofs.Resource.Kinds
import HardwareIndex.Service.Router

/-!
# What a service answers to a client

The lookup of a kind, reached through its route with the keys of a client's
request, amounts to what the index knows of each key on its own: nothing, the one
name on which the keys that are known agree, or several names. The client judges
the reply accordingly.
-/

namespace HardwareIndex

/-! ## Keys on their own -/

namespace Entries

variable {R : Type} [Indexed R]

/-- The record under a written key. -/
def byText? (e : Entries R) (key : WrittenKey) : Option R :=
  match key.space with
  | .mac => (Mac.parse key.text).toOption.bind e.byMac?
  | .uuid => (Uuid.parse key.text).toOption.bind e.byUuid?

/-- The name of the record under a written key. -/
def nameOf? (e : Entries R) (key : WrittenKey) : Option ObjectName :=
  (e.byText? key).map Indexed.name

/-- The empty text writes no key. -/
theorem byText?_empty (e : Entries R) (space : KeySpace) : e.byText? ⟨space, ""⟩ = none := by
  cases space <;> rfl

end Entries

/-- Values that are added to an address come after its own. -/
theorem Url.decode_addPairs (base : Url) (pairs : List (String × String)) :
    Form.decode ((base.addPairs pairs).query.getD "") =
      Form.decode (base.query.getD "") ++ pairs := by
  rw [addPairs, Option.getD_some]
  split
  · rename_i empty
    rw [String.isEmpty_iff.1 empty, Form.decode_encode]
    rfl
  · rw [Form.decode_append, Form.decode_encode]

namespace LookupQuery

/-- The keys of a request are those of its address and those that are added. -/
theorem parse_addPairs (base : Url) (pairs : List (String × String)) :
    parse (base.addPairs pairs).query =
      ⟨(parse base.query).macs ++ valuesOf "mac" pairs,
        (parse base.query).uuids ++ valuesOf "uuid" pairs⟩ := by
  simp [parse, base.decode_addPairs pairs, valuesOf]

theorem valuesOf_pairs (mac uuid : Option String) :
    valuesOf "mac" (Client.pairs mac uuid) = mac.toList ∧
      valuesOf "uuid" (Client.pairs mac uuid) = uuid.toList := by
  cases mac <;> cases uuid <;> simp [valuesOf, Client.pairs]

end LookupQuery

namespace Lookup

variable {R : Type} [Indexed R]

/-- What is known of two keys, either of which may be missing. -/
def Verdict.ofNames : Option ObjectName → Option ObjectName → Verdict
  | none, none => .nothing
  | some name, none => .one name
  | none, some name => .one name
  | some name, some other => if other = name then .one name else .several

theorem verdict_hits (e : Entries R) (mac uuid : Option String) :
    verdict (hits e ⟨mac.toList, uuid.toList⟩) =
      .ofNames (mac.bind fun text => e.nameOf? ⟨.mac, text⟩)
        (uuid.bind fun text => e.nameOf? ⟨.uuid, text⟩) := by
  have hit : ∀ (key : Option String) (space : KeySpace),
      (key.toList.filterMap fun text => e.byText? ⟨space, text⟩) =
        (key.bind fun text => e.byText? ⟨space, text⟩).toList := by
    intro key space
    cases key with
    | none => rfl
    | some text => cases found : e.byText? ⟨space, text⟩ <;> simp [found]
  have both : hits e ⟨mac.toList, uuid.toList⟩ =
      (mac.bind fun text => e.byText? ⟨.mac, text⟩).toList ++
        (uuid.bind fun text => e.byText? ⟨.uuid, text⟩).toList := by
    rw [← hit, ← hit]
    rfl
  have named : ∀ (key : Option String) (space : KeySpace),
      (key.bind fun text => e.nameOf? ⟨space, text⟩) =
        (key.bind fun text => e.byText? ⟨space, text⟩).map Indexed.name := by
    intro key space
    cases key <;> rfl
  rw [both, named, named]
  cases mac.bind fun text => e.byText? ⟨.mac, text⟩ <;>
    cases uuid.bind fun text => e.byText? ⟨.uuid, text⟩ <;>
    simp [verdict, Verdict.ofNames]

namespace Verdict

/-- The reply that tells a verdict. -/
def reply : Verdict → ServerReply
  | .nothing => .ofText .notFound ""
  | .one name => .ofText .ok name.body
  | .several => .ofText .badRequest ""

/-- The answer that tells a verdict. -/
def answer : Verdict → Answer
  | .nothing => .empty .notFound
  | .one name => .json name.body
  | .several => .empty .badRequest

/-- The result under which a verdict is counted. -/
def counted : Verdict → LookupResult
  | .nothing => .notFound
  | .one _ => .found
  | .several => .ambiguous

/-- What a client makes of a verdict. -/
def result : Verdict → Except ClientError ObjectName
  | .nothing => .error .notFound
  | .one name => .ok name
  | .several => .error (.status .badRequest)

theorem judge_reply (v : Verdict) : Client.judge v.reply = v.result := by
  cases v with
  | nothing => rfl
  | one name =>
    rw [reply, Client.judge, Client.nameOfBody?_ofText]
    rfl
  | several => rfl

/-- One name is told exactly if it is known of one key and nothing else of the other. -/
theorem result_ofNames_eq_ok {a b : Option ObjectName} {name : ObjectName} :
    (ofNames a b).result = .ok name ↔
      (a = some name ∨ a = none) ∧ (b = some name ∨ b = none) ∧
        (a = some name ∨ b = some name) := by
  cases a with
  | none => cases b <;> simp [ofNames, result]
  | some first =>
    cases b with
    | none => simp [ofNames, result]
    | some second =>
      by_cases same : second = first
      · subst same
        simp [ofNames, result]
      · simp only [ofNames, if_neg same, result, Option.some.injEq, reduceCtorEq, or_false,
          false_iff]
        rintro ⟨rfl, rfl, _⟩
        exact same rfl

end Verdict

end Lookup

/-! ## The service -/

theorem Route.ofPath?_path (route : Route) : Route.ofPath? route.path = some route := by
  cases route with
  | health => decide
  | ready => decide
  | metrics => decide
  | lookup kind => cases kind <;> decide

namespace Service

variable {s : Service} {kind : RecordKind}

/-- The reply to a request for a lookup with the given query string. -/
def reply (s : Service) (kind : RecordKind) (query : Option String) : ServerReply :=
  let answer := (s.handle .get ⟨(Route.lookup kind).path, query⟩).2.1
  .ofText answer.status answer.body

theorem lookup_eq (s : Service) (kind : RecordKind) (query : Option String) :
    s.lookup kind query = Lookup.answer (s.slots.get kind.Record).value query := by
  cases kind <;> rfl

/-- A ready index tells the verdict on the keys of the query, and it is counted. -/
theorem handle_lookup {index : Index kind.Record}
    (published : (s.slots.get kind.Record).value = some index) (ready : index.isReady = true)
    (query : Option String) :
    let verdict := Lookup.verdict (Lookup.hits index.entries (LookupQuery.parse query))
    (s.handle .get ⟨(Route.lookup kind).path, query⟩).2.1 = verdict.answer ∧
      (s.handle .get ⟨(Route.lookup kind).path, query⟩).1 =
        { s with metrics := s.metrics.add (.lookups kind verdict.counted) 1 } := by
  have usable : Lookup.usable? (some index) = some index := Option.filter_eq_some_iff.2 ⟨rfl, ready⟩
  simp only [handle, Route.ofPath?_path, follow, lookup_eq, published, Lookup.answer, usable]
  cases Lookup.verdict (Lookup.hits index.entries (LookupQuery.parse query)) <;> exact ⟨rfl, rfl⟩

/-- A ready index replies with the verdict on the keys of the query. -/
theorem reply_eq {index : Index kind.Record}
    (published : (s.slots.get kind.Record).value = some index) (ready : index.isReady = true)
    (query : Option String) : s.reply kind query =
      (Lookup.verdict (Lookup.hits index.entries (LookupQuery.parse query))).reply := by
  rw [reply, (handle_lookup published ready query).1]
  cases Lookup.verdict (Lookup.hits index.entries (LookupQuery.parse query)) <;> rfl

end Service

/-- The requests of a client reach the lookup of a kind, and its replies the client; the client's
    own address names no key. -/
structure Transport.Serves (send : Transport) (base : Url) (s : Service) (kind : RecordKind) :
    Prop where
  keyless : LookupQuery.parse base.query = ⟨[], []⟩
  delivers : ∀ query, send { base with query } = .ok (s.reply kind query)

/-- The transport that takes every request to the lookup of a kind. -/
def Transport.toService (s : Service) (kind : RecordKind) : Transport :=
  fun url => .ok (s.reply kind url.query)

theorem Transport.serves_toService {base : Url} (keyless : LookupQuery.parse base.query = ⟨[], []⟩)
    (s : Service) (kind : RecordKind) : (toService s kind).Serves base s kind :=
  ⟨keyless, fun _ => rfl⟩

/-- The address of a client that was made for a kind names no key. -/
theorem Client.keyless_of_forKind {server : Url} {kind : RecordKind} {capacity : Nat} {c : Client}
    (made : Client.forKind server kind capacity = .ok c) :
    LookupQuery.parse c.base.query = ⟨[], []⟩ := by
  obtain ⟨scheme, user, password, host, port, path, query, fragment⟩ := server
  cases path with
  | rootless text => cases made
  | segments list =>
    cases made
    rfl

namespace Service

variable {s : Service} {kind : RecordKind} {index : Index kind.Record} {base : Url}

/-- The reply to a client's request is the verdict on its keys, each on its own. -/
theorem reply_requestUrl (keyless : LookupQuery.parse base.query = ⟨[], []⟩)
    (published : (s.slots.get kind.Record).value = some index) (ready : index.isReady = true)
    (mac uuid : Option String) : s.reply kind (Client.requestUrl base mac uuid).query =
      (Lookup.Verdict.ofNames (mac.bind fun text => index.entries.nameOf? ⟨.mac, text⟩)
        (uuid.bind fun text => index.entries.nameOf? ⟨.uuid, text⟩)).reply := by
  rw [reply_eq published ready, Client.requestUrl, LookupQuery.parse_addPairs, keyless,
    (LookupQuery.valuesOf_pairs mac uuid).1, (LookupQuery.valuesOf_pairs mac uuid).2,
    List.nil_append, List.nil_append, Lookup.verdict_hits]

end Service

end HardwareIndex
