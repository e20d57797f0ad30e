import Mathlib.Data.Set.Subsingleton
import HardwareIndex.Proofs.Observe.Metrics
import HardwareIndex.Proofs.Service.Lookup

/-!
# How a lookup ends

A lookup ends in one of three ways, and the set of the names that its parameters
find decides in which: there is none, one or more than one. So neither the order
of the parameters nor how often one is repeated has a part in it, and a parameter
that finds nothing can come and go.
-/

namespace HardwareIndex

/-! ## What is found -/

namespace Entries

variable {R : Type} [Indexed R]

/-- A parameter finds a name if its value is an address or an identifier, as its own name says,
    under which there is the record of that name. -/
inductive Finds (e : Entries R) : String × String → ObjectName → Prop
  | mac {text : String} {mac : Mac} {r : R} :
    Mac.parse text = .ok mac → e.byMac? mac = some r → Finds e ("mac", text) (Indexed.name r)
  | uuid {text : String} {uuid : Uuid} {r : R} :
    Uuid.parse text = .ok uuid → e.byUuid? uuid = some r → Finds e ("uuid", text) (Indexed.name r)

/-- The names of the records that the parameters of a query string find. -/
def found (e : Entries R) (query : Option String) : Set ObjectName :=
  {name | ∃ parameter ∈ Form.decode (query.getD ""), e.Finds parameter name}

theorem found_intercalate (e : Entries R) (parts : List String) :
    e.found (some ("&".intercalate parts)) =
      {name | ∃ part ∈ parts, name ∈ e.found (some part)} := by
  ext name
  simp only [found, Option.getD_some, Form.decode_intercalate, List.mem_flatMap, Set.mem_ofPred_eq]
  constructor
  · rintro ⟨parameter, ⟨part, member, written⟩, finds⟩
    exact ⟨part, member, parameter, written, finds⟩
  · rintro ⟨part, member, parameter, written, finds⟩
    exact ⟨parameter, ⟨part, member, written⟩, finds⟩

/-- What finds nothing does not count. -/
theorem found_congr {e : Entries R} {query query' : Option String}
    (same : ∀ parameter, (∃ name, e.Finds parameter name) →
      (parameter ∈ Form.decode (query.getD "") ↔ parameter ∈ Form.decode (query'.getD ""))) :
    e.found query = e.found query' := by
  ext name
  apply exists_congr
  intro parameter
  constructor
  · rintro ⟨written, finds⟩
    exact ⟨(same parameter ⟨name, finds⟩).1 written, finds⟩
  · rintro ⟨written, finds⟩
    exact ⟨(same parameter ⟨name, finds⟩).2 written, finds⟩

theorem found_intercalate_congr {e : Entries R} {parts parts' : List String}
    (same : ∀ part, (e.found (some part)).Nonempty → (part ∈ parts ↔ part ∈ parts')) :
    e.found (some ("&".intercalate parts)) = e.found (some ("&".intercalate parts')) := by
  rw [found_intercalate, found_intercalate]
  ext name
  apply exists_congr
  intro part
  constructor
  · rintro ⟨member, finds⟩
    exact ⟨(same part ⟨name, finds⟩).1 member, finds⟩
  · rintro ⟨member, finds⟩
    exact ⟨(same part ⟨name, finds⟩).2 member, finds⟩

end Entries

namespace Lookup

variable {R : Type} [Indexed R] {e : Entries R}

theorem mem_valuesOf {name text : String} {pairs : List (String × String)} :
    text ∈ LookupQuery.valuesOf name pairs ↔ (name, text) ∈ pairs := by
  simp [LookupQuery.valuesOf]

omit [Indexed R] in
/-- The hits under some written keys are the records under those that can be read. -/
theorem mem_filterMap_iff {K ε : Type} {read : String → Except ε K} {find? : K → Option R}
    {texts : List String} {r : R} :
    (r ∈ texts.filterMap fun text => (read text).toOption.bind find?) ↔
      ∃ text ∈ texts, ∃ key, read text = .ok key ∧ find? key = some r := by
  rw [List.mem_filterMap]
  apply exists_congr
  intro text
  apply and_congr_right
  intro _
  cases read text <;> simp [Except.toOption]

/-- The names of some hits. -/
def namesOf (hits : List R) : Set ObjectName :=
  {name | ∃ r ∈ hits, Indexed.name r = name}

theorem mem_namesOf {hits : List R} {name : ObjectName} :
    name ∈ namesOf hits ↔ name ∈ hits.map Indexed.name :=
  List.mem_map.symm

/-- The hits have the names that are found. -/
theorem namesOf_hits (e : Entries R) (query : Option String) :
    namesOf (hits e (LookupQuery.parse query)) = e.found query := by
  ext name
  constructor
  · rintro ⟨r, hit, rfl⟩
    rcases List.mem_append.1 hit with hit | hit
    · obtain ⟨text, written, mac, read, known⟩ := mem_filterMap_iff.1 hit
      exact ⟨("mac", text), mem_valuesOf.1 written, .mac read known⟩
    · obtain ⟨text, written, uuid, read, known⟩ := mem_filterMap_iff.1 hit
      exact ⟨("uuid", text), mem_valuesOf.1 written, .uuid read known⟩
  · rintro ⟨parameter, written, finds⟩
    cases finds with
    | mac read known =>
      have hit := mem_filterMap_iff.2 ⟨_, mem_valuesOf.2 written, _, read, known⟩
      exact ⟨_, List.mem_append_left _ hit, rfl⟩
    | uuid read known =>
      have hit := mem_filterMap_iff.2 ⟨_, mem_valuesOf.2 written, _, read, known⟩
      exact ⟨_, List.mem_append_right _ hit, rfl⟩

theorem verdict_of_empty {hits : List R} (empty : namesOf hits = ∅) : verdict hits = .nothing := by
  cases hits with
  | nil => rfl
  | cons first rest =>
    have member : Indexed.name first ∈ namesOf (first :: rest) :=
      ⟨first, List.mem_cons_self, rfl⟩
    rw [empty] at member
    cases member

theorem verdict_of_singleton {hits : List R} {name : ObjectName} (one : namesOf hits = {name}) :
    verdict hits = .one name := by
  have named (r : R) (member : r ∈ hits) : Indexed.name r = name := by
    have inside : Indexed.name r ∈ namesOf hits := ⟨r, member, rfl⟩
    rwa [one] at inside
  cases hits with
  | nil =>
    have member : name ∈ namesOf ([] : List R) := one ▸ Set.mem_singleton name
    obtain ⟨r, member, _⟩ := member
    cases member
  | cons first rest =>
    have same := named first List.mem_cons_self
    have agree : (rest.all fun hit => Indexed.name hit == Indexed.name first) = true := by
      rw [List.all_eq_true]
      intro r member
      rw [beq_iff_eq, same, named r (List.mem_cons_of_mem _ member)]
    rw [verdict, if_pos agree, same]

theorem verdict_of_nontrivial {hits : List R} (several : (namesOf hits).Nontrivial) :
    verdict hits = .several := by
  obtain ⟨name, ⟨r, member, rfl⟩, _, ⟨r', member', rfl⟩, different⟩ := several
  cases hits with
  | nil => cases member
  | cons first rest =>
    have disagree : ¬(rest.all fun hit => Indexed.name hit == Indexed.name first) = true := by
      intro agree
      have named (hit : R) (member : hit ∈ first :: rest) :
          Indexed.name hit = Indexed.name first := by
        rcases List.mem_cons.1 member with rfl | later
        · rfl
        · exact beq_iff_eq.1 (List.all_eq_true.1 agree hit later)
      exact different ((named r member).trans (named r' member').symm)
    rw [verdict, if_neg disagree]

/-- The names decide the verdict. -/
theorem verdict_congr {hits hits' : List R} (same : namesOf hits = namesOf hits') :
    verdict hits = verdict hits' := by
  rcases (namesOf hits).eq_empty_or_nonempty with empty | nonempty
  · rw [verdict_of_empty empty, verdict_of_empty (same ▸ empty)]
  rcases nonempty.exists_eq_singleton_or_nontrivial with ⟨name, one⟩ | several
  · rw [verdict_of_singleton one, verdict_of_singleton (same ▸ one)]
  · rw [verdict_of_nontrivial several, verdict_of_nontrivial (same ▸ several)]

end Lookup

/-! ## The service -/

namespace Service

variable {s : Service} {kind : RecordKind} {index : Index kind.Record}

/-- A request for a lookup with the given query string. -/
def request (kind : RecordKind) (query : Option String) : Target :=
  ⟨(Route.lookup kind).path, query⟩

/-- A lookup ends with an answer and is counted once under a result. Nothing else changes. -/
structure Ends (s : Service) (kind : RecordKind) (query : Option String) (answer : Answer)
    (result : LookupResult) : Prop where
  answered : (s.handle .get (request kind query)).2.1 = answer
  counted : ∀ sample : Sample, (s.handle .get (request kind query)).1.metrics.count sample =
    s.metrics.count sample + if sample = .lookups kind result then 1 else 0
  kept : (s.handle .get (request kind query)).1 =
    { s with metrics := (s.handle .get (request kind query)).1.metrics }

theorem ends_of_verdict (published : (s.slots.get kind.Record).value = some index)
    (ready : index.isReady = true) {query : Option String} {verdict : Lookup.Verdict}
    (told : Lookup.verdict (Lookup.hits index.entries (LookupQuery.parse query)) = verdict) :
    s.Ends kind query verdict.answer verdict.counted := by
  obtain ⟨answered, after⟩ := handle_lookup published ready query
  rw [told] at answered after
  refine ⟨answered, ?_, ?_⟩
  · intro sample
    rw [request, after]
    exact Metrics.count_add ..
  · rw [request, after]

/-- Query strings that find the same names get the same answer and leave the same behind. -/
theorem handle_congr (published : (s.slots.get kind.Record).value = some index)
    (ready : index.isReady = true) {query query' : Option String}
    (same : index.entries.found query = index.entries.found query') :
    (s.handle .get (request kind query)).2.1 = (s.handle .get (request kind query')).2.1 ∧
      (s.handle .get (request kind query)).1 = (s.handle .get (request kind query')).1 := by
  have verdicts : Lookup.verdict (Lookup.hits index.entries (LookupQuery.parse query)) =
      Lookup.verdict (Lookup.hits index.entries (LookupQuery.parse query')) := by
    apply Lookup.verdict_congr
    rw [Lookup.namesOf_hits, Lookup.namesOf_hits, same]
  obtain ⟨answered, after⟩ := handle_lookup published ready query
  obtain ⟨answered', after'⟩ := handle_lookup published ready query'
  rw [request, request, answered, answered', after, after', verdicts]
  exact ⟨rfl, rfl⟩

/-- A lookup on a ready index of any kind, whatever the query string, ends with "not found" if its
    parameters find no name, with that name if they find one, and with "bad request" if they find
    two or more, and it is counted once under that result. So two query strings end alike if they
    have the same parameters among those that find something; and so do two that are joined from
    parts, if they have the same parts among those that find something, in whatever order and
    however often. -/
theorem lookup_ends (published : (s.slots.get kind.Record).value = some index)
    (ready : index.isReady = true) :
    let e := index.entries
    let alike (query query' : Option String) : Prop :=
      (s.handle .get (request kind query)).2.1 = (s.handle .get (request kind query')).2.1 ∧
        (s.handle .get (request kind query)).1 = (s.handle .get (request kind query')).1
    (∀ query : Option String,
      (e.found query = ∅ → s.Ends kind query (.empty .notFound) .notFound) ∧
      (∀ name : ObjectName, e.found query = {name} →
        s.Ends kind query (.json name.body) .found ∧
          Client.nameOfBody? (Text.Utf8.bytes name.body) = some name) ∧
      ((e.found query).Nontrivial → s.Ends kind query (.empty .badRequest) .ambiguous)) ∧
    (∀ query query' : Option String,
      (∀ parameter, (∃ name, e.Finds parameter name) →
        (parameter ∈ Form.decode (query.getD "") ↔ parameter ∈ Form.decode (query'.getD ""))) →
      alike query query') ∧
    ∀ parts parts' : List String,
      (∀ part, (e.found (some part)).Nonempty → (part ∈ parts ↔ part ∈ parts')) →
      alike (some ("&".intercalate parts)) (some ("&".intercalate parts')) := by
  intro e alike
  refine ⟨?_, ?_, ?_⟩
  · intro query
    rw [← Lookup.namesOf_hits]
    refine ⟨?_, ?_, ?_⟩
    · intro empty
      exact ends_of_verdict published ready (Lookup.verdict_of_empty empty)
    · intro name one
      exact ⟨ends_of_verdict published ready (Lookup.verdict_of_singleton one),
        Client.nameOfBody?_body name⟩
    · intro several
      exact ends_of_verdict published ready (Lookup.verdict_of_nontrivial several)
  · intro query query' same
    exact handle_congr published ready (Entries.found_congr same)
  · intro parts parts' same
    exact handle_congr published ready (Entries.found_intercalate_congr same)

/-- Two keys, one of them escaped, end as they do in the other order, one of them again, with an
    address that cannot be read and an identifier of no record among them; and as they do with
    nothing escaped. -/
theorem repeated_keys_end_alike :
    let mac : Mac := ⟨Mac.buffer [0x00, 0xDE, 0x11, 0x64, 0x00, 0xA1], 6⟩
    let uuid : Uuid := ⟨0x5f1c9bb00b1e4a4e9a8e2f3a61d0c1a7⟩
    let machine : Machine := ⟨⟨"lab", "a"⟩, some uuid, [⟨none, mac, none⟩], .null⟩
    let index := (Index.new.setup (.ok [.ok machine])).1
    let s : Service := ⟨⟨⟨some index, 0⟩, .empty, .empty⟩, .empty, .disabled⟩
    let address := "mac=00%3Ade%3a11%3A64%3A00%3Aa1"
    let identifier := "uuid=5f1c9bb0-0b1e-4a4e-9a8e-2f3a61d0c1a7"
    let unknown := "uuid=00000000-0000-0000-0000-000000000000"
    let answer (parts : List String) :=
      (s.handle .get (request .machine (some ("&".intercalate parts)))).2.1
    s.Ends .machine (some ("&".intercalate [address, identifier]))
        (.json (ObjectName.body ⟨"lab", "a"⟩)) .found ∧
      answer ["mac=zz", identifier, unknown, address, identifier] = answer [address, identifier] ∧
      answer ["mac=00:de:11:64:00:a1", identifier] = answer [address, identifier] := by
  intro mac uuid machine index s address identifier unknown answer
  have ready : index.isReady = true := by decide +kernel
  have found (query : String) (names : List ObjectName)
      (hits :
        (Lookup.hits index.entries (LookupQuery.parse (some query))).map Indexed.name = names) :
      index.entries.found (some query) = {name | name ∈ names} := by
    ext name
    rw [← Lookup.namesOf_hits, Lookup.mem_namesOf, hits]
    rfl
  have one : index.entries.found (some ("&".intercalate [address, identifier])) =
      {⟨"lab", "a"⟩} := by
    rw [found _ [⟨"lab", "a"⟩, ⟨"lab", "a"⟩] (by decide +kernel)]
    ext name
    simp
  have nothing (query : String)
      (hits : (Lookup.hits index.entries (LookupQuery.parse (some query))).map Indexed.name = []) :
      ¬(index.entries.found (some query)).Nonempty := by
    rw [found query [] hits]
    rintro ⟨name, member⟩
    cases member
  obtain ⟨ends, decoded, joined⟩ := @lookup_ends s .machine index rfl ready
  refine ⟨((ends _).2.1 ⟨"lab", "a"⟩ one).1, (joined _ _ ?_).1, (decoded _ _ ?_).1⟩
  · intro part finds
    have readable : part ≠ "mac=zz" := by
      rintro rfl
      exact nothing _ (by decide +kernel) finds
    have known : part ≠ unknown := by
      rintro rfl
      exact nothing _ (by decide +kernel) finds
    simp only [List.mem_cons, List.not_mem_nil, or_false, readable, known, false_or]
    tauto
  · intro parameter _
    have same : Form.decode ("&".intercalate ["mac=00:de:11:64:00:a1", identifier]) =
        Form.decode ("&".intercalate [address, identifier]) := by
      decide +kernel
    rw [Option.getD_some, Option.getD_some, same]

end Service

end HardwareIndex
