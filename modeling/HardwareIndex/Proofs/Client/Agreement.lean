import HardwareIndex.Proofs.Client.Served
import HardwareIndex.Proofs.Index.Integrity

/-!
# Agreement of resolvers

An index that is held here and one that is reached through a client and a service
answer alike, call after call, whatever the client has cached and evicted in the
meantime. Calls that give one key alone leave only names in the cache that the
index itself knows for these keys, and the name of a record leads to that record.
-/

namespace HardwareIndex

open Std

namespace Entries

variable {R : Type} [Indexed R] {e : Entries R}

/-- A record that is found for an address stands under its own name. -/
theorem Consistent.held_of_byMac? (h : e.Consistent) {mac : Mac} {r : R}
    (found : e.byMac? mac = some r) : e.records[Indexed.name r]? = some r := by
  cases matching : Indexed.matching R with
  | exact => exact ((h.byMac?_exact matching mac).2 r found).1
  | byPrefix =>
    rw [byMac?, matching] at found
    obtain ⟨name, held⟩ := NameMap.mem_values.1 (List.mem_of_find?_eq_some found)
    exact (h.named held).symm ▸ held

theorem Consistent.held_of_byText? (h : e.Consistent) {key : WrittenKey} {r : R}
    (found : e.byText? key = some r) : e.records[Indexed.name r]? = some r := by
  obtain ⟨space, text⟩ := key
  cases space with
  | mac =>
    obtain ⟨mac, _, found⟩ := Option.bind_eq_some_iff.1 found
    exact h.held_of_byMac? found
  | uuid =>
    obtain ⟨uuid, _, found⟩ := Option.bind_eq_some_iff.1 found
    exact ((h.byUuid?_spec uuid).2 r found).1

end Entries

/-- A ready index without other callers finds what stands under a written key. -/
theorem Session.resolve_of_ready {R : Type} [Indexed R] {s : Session R}
    (ready : s.index.isReady = true) (idle : s.calls = []) (id : Nat) (key : WrittenKey) :
    s.resolve id key = .returned (.found (s.index.entries.byText? key)) := by
  obtain ⟨space, text⟩ := key
  cases space with
  | mac =>
    simp only [resolve, WrittenKey.query?, Entries.byText?]
    cases (Mac.parse text).toOption with
    | none => rfl
    | some mac =>
      simp only [Option.map_some, Session.step_ask_of_ready ready idle]
      rfl
  | uuid =>
    simp only [resolve, WrittenKey.query?, Entries.byText?]
    cases (Uuid.parse text).toOption with
    | none => rfl
    | some uuid =>
      simp only [Option.map_some, Session.step_ask_of_ready ready idle]
      rfl

/-- A setup from a store that answers at once leaves what that store lists. -/
theorem Run.entries_of_listing {R : Type} [Indexed R] {l : Listing R}
    (ready : (Run.of [.setup (.atOnce (.ok l))]).session.index.isReady = true) :
    (Run.of [.setup (.atOnce (.ok l))]).session.index.entries =
      (Entries.empty.insertAll l.valid).1 := by
  have effect := (Run.reached ([] : List (Step R))).effect (.setup (.atOnce (.ok l)))
  cases effect with
  | quiet same _ _ => cases same.symm.trans ready
  | publishes id source listed place _ lists _ _ entries _ =>
    match id with
    | 0 =>
      cases place
      cases lists
      exact entries

/-- A store has, under the name of each record, an object that is converted to that record. -/
def ObjectReader.Backs {S R : Type} [Convertible S R] (store : ObjectReader S)
    (entries : Entries R) : Prop :=
  ∀ (name : ObjectName) (r : R), entries.records[name]? = some r →
    ∃ o : Object S, store name = .ok (some o) ∧ o.toRecord = .ok r

namespace RemoteIndex

section

variable {S R : Type} [Convertible S R]

theorem resolve_eq (remote : RemoteIndex S) (send : Transport) (key : WrittenKey) :
    remote.resolve send key =
      ({ remote with
          client := (remote.client.resolve send key.alone.mac key.alone.uuid).1 },
        remote.ofResolved (remote.client.resolve send key.alone.mac key.alone.uuid).2.result) := by
  obtain ⟨space, text⟩ := key
  cases space <;> rfl

/-- The name of a record leads to the record. -/
theorem byName_of_backs {remote : RemoteIndex S} {entries : Entries R}
    (backs : remote.store.Backs entries) {name : ObjectName} {r : R}
    (held : entries.records[name]? = some r) : remote.byName name = .ok (some r) := by
  obtain ⟨o, stored, converted⟩ := backs name r held
  simp only [byName, stored, converted]

end

variable {kind : RecordKind} {send : Transport} {base : Url} {s : Service}
  {index : Index kind.Record} {remote : RemoteIndex kind.Spec} {capacity : Nat}

theorem ofResolved_of_name (consistent : index.entries.Consistent)
    (backs : remote.store.Backs index.entries) {key : WrittenKey} {name : ObjectName}
    (known : index.entries.nameOf? key = some name) :
    remote.ofResolved (.ok name) = .ok (index.entries.byText? key) := by
  obtain ⟨r, found, rfl⟩ := Option.map_eq_some_iff.1 known
  rw [found]
  exact byName_of_backs backs (consistent.held_of_byText? found)

/-- A call on one key finds what the index finds, and leaves nothing else in the cache. -/
theorem resolve_of_serving (h : Serving send base s index) (consistent : index.entries.Consistent)
    (backs : remote.store.Backs index.entries)
    (keeps : remote.client.Keeps base capacity fun key name =>
      index.entries.nameOf? key = some name) (key : WrittenKey) :
    (remote.resolve send key).2 = .ok (index.entries.byText? key) ∧
      (remote.resolve send key).1.client.Keeps base capacity fun key name =>
        index.entries.nameOf? key = some name := by
  have ended := h.answers_alone keeps.base key
  rw [resolve_eq]
  constructor
  · show remote.ofResolved _ = _
    generalize (remote.client.resolve send key.alone.mac key.alone.uuid).2.result = result
      at ended ⊢
    cases ended with
    | cached name _ owned =>
      exact ofResolved_of_name consistent backs (keeps.cache.knows key name owned)
    | told name known => exact ofResolved_of_name consistent backs known
    | unknown e unknown which =>
      rw [Option.map_eq_none_iff.1 unknown]
      rcases which with rfl | rfl <;> rfl
  · refine keeps.resolve ?_
    rintro name - told given gives
    obtain ⟨rfl, _⟩ := Client.gives_alone.1 gives
    rw [told] at ended
    cases ended with
    | cached _ _ owned => exact keeps.cache.knows given name owned
    | told _ known => exact known

theorem answers_eq (h : Serving send base s index) (consistent : index.entries.Consistent)
    (backs : remote.store.Backs index.entries)
    (keeps : remote.client.Keeps base capacity fun key name =>
      index.entries.nameOf? key = some name) (keys : List WrittenKey) :
    remote.answers send keys = keys.map fun key => .ok (index.entries.byText? key) := by
  induction keys generalizing remote with
  | nil => rfl
  | cons key keys ih =>
    obtain ⟨answer, kept⟩ := resolve_of_serving h consistent backs keeps key
    have backs' : (remote.resolve send key).1.store.Backs index.entries := by
      rw [resolve_eq]
      exact backs
    show (remote.resolve send key).2 :: (remote.resolve send key).1.answers send keys = _
    rw [answer, ih backs' kept, List.map_cons]

/-- Let a ready index of any kind stay as it is, be served, and be backed by a store. Whatever keys
    are asked for through a client of any capacity, one after the other, each answer is the one
    that the index itself gives. -/
theorem answers_as_session (steps : List (Step kind.Record)) {store : ObjectReader kind.Spec}
    (published : (s.slots.get kind.Record).value = some (Run.of steps).session.index)
    (ready : (Run.of steps).session.index.isReady = true) (serves : send.Serves base s kind)
    (backs : store.Backs (Run.of steps).session.index.entries) (capacity : Nat)
    (keys : List WrittenKey) (id : Nat) :
    List.Forall₂ (fun key answer => ∃ found : Option kind.Record, answer = .ok found ∧
        (Run.of steps).session.resolve id key = .returned (.found found))
      keys ((⟨Client.new base capacity, store⟩ : RemoteIndex kind.Spec).answers send keys) := by
  have h : Serving send base s (Run.of steps).session.index := ⟨published, ready, serves⟩
  have reached := Run.reached steps
  have idle := reached.coherent.calls_eq_nil reached.rest ready
  rw [answers_eq h (Run.consistent steps) backs (Client.keeps_new base capacity _),
    List.forall₂_map_right_iff, List.forall₂_same]
  rintro key -
  exact ⟨_, rfl, Session.resolve_of_ready ready idle id key⟩

/-- A machine is found by its address here and through a client, also when the address is written
    in another way; the empty text finds nothing. -/
theorem machine_found_alike :
    let object : Object MachineSpec := ⟨⟨some "node-1", some "lab", none, none, none⟩,
      ⟨none, [⟨none, "00:de:11:64:00:a1", none⟩], none⟩, none⟩
    let machine : Machine := ⟨⟨"lab", "node-1"⟩, none,
      [⟨none, ⟨Mac.buffer [0x00, 0xDE, 0x11, 0x64, 0x00, 0xA1], 6⟩, none⟩], .obj []⟩
    let session := (Run.of [.setup (.atOnce (.ok [.ok machine]))]).session
    let s := ((Service.new .plain).publish Machine session.index).1
    let base : Url :=
      ⟨"http", "", none, some (.named "index"), some 8080, .segments ["info"], none, none⟩
    let send : Transport := fun url => .ok (s.reply .machine url.query)
    let remote : RemoteIndex MachineSpec :=
      ⟨Client.new base 1, .ofMap (MemoryStore.ofObjects [object])⟩
    let keys : List WrittenKey :=
      [⟨.mac, "00:de:11:64:00:a1"⟩, ⟨.uuid, ""⟩, ⟨.mac, "00-DE-11-64-00-A1"⟩]
    List.Forall₂ (fun key answer => ∃ found : Option Machine, answer = .ok found ∧
      session.resolve 1 key = .returned (.found found)) keys (remote.answers send keys) := by
  intro object machine session s base send remote keys
  have ready : session.index.isReady = true := by decide +kernel
  have backs : ObjectReader.Backs (S := MachineSpec) remote.store session.index.entries := by
    intro name r held
    rw [Run.entries_of_listing ready, Entries.insertAll_records] at held
    by_cases named : Indexed.name machine = name
    · have same : r = machine := by
        simpa [Listing.valid, Except.toOption, named, eq_comm] using held
      subst same
      subst named
      exact ⟨object, congrArg Except.ok ExtTreeMap.getElem?_insert_self, rfl⟩
    · simp [Listing.valid, Except.toOption, named, Entries.empty] at held
  exact @answers_as_session .machine send base s [.setup (.atOnce (.ok [.ok machine]))] _ rfl ready
    ⟨rfl, fun _ => rfl⟩ backs 1 keys 1

end RemoteIndex

end HardwareIndex
