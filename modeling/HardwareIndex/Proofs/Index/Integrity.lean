import HardwareIndex.Proofs.Index.Consistency
import HardwareIndex.Proofs.Index.Runs

/-!
# Integrity of an index

The entries of an index are consistent after any run: whatever is set, deleted
and listed, and whichever setups fail or are cancelled, records stand under their
names and keys belong to records that list them. On a ready index a query for a
key therefore finds a record exactly if one lists the key.
-/

namespace HardwareIndex

variable {R : Type} [Indexed R]

theorem Step.consistent_applyTo {entries : Entries R} (h : entries.Consistent) (what : Step R) :
    (what.applyTo entries).Consistent := by
  cases what with
  | set record => exact h.insert record
  | delete name => exact h.remove name
  | _ => exact h

/-- However a step changes the entries, they stay consistent. -/
theorem StepEffect.consistent {steps : List (Step R)} {s : Session R} {what : Step R}
    (effect : StepEffect steps s what) (h : s.index.entries.Consistent) :
    (s.after steps.length what).index.entries.Consistent := by
  have changed := what.consistent_applyTo h
  cases effect with
  | quiet _ entries _ =>
    rw [entries]
    exact changed
  | publishes id source l _ _ _ _ _ entries _ =>
    rw [entries]
    exact changed.insertAll l.valid

theorem Run.consistent (steps : List (Step R)) :
    (Run.of steps).session.index.entries.Consistent := by
  induction steps using List.reverseRecOn with
  | nil => exact Entries.consistent_empty
  | append_singleton steps what ih =>
    rw [of_append_singleton]
    exact ((reached steps).effect what).consistent ih

/-- Nobody waits for the answer of a ready index. -/
theorem Session.step_ask_of_ready {s : Session R} (ready : s.index.isReady = true)
    (idle : s.calls = []) (id : Nat) (query : Query) :
    s.step id (.ask query) = (s, .returned (answer s.index query), [], []) := by
  obtain ⟨index, lock, calls⟩ := s
  subst idle
  have goes : turn? (⟨index, lock, [(id, .waiting query)]⟩ : Session R) =
      some ⟨⟨index, lock, []⟩, [(id, answer index query)], []⟩ := by
    have ready' : index.isReady = true := ready
    simp [turn?, turnAmong?, advance?, ready', Progress.left, Progress.returned]
  have stops : turn? (⟨index, lock, []⟩ : Session R) = none := rfl
  have settled := settle_of_turn?_eq_some goes
  rw [settle_of_turn?_eq_none stops] at settled
  simp [step, enter, settled, reply, ownWarnings]

/-- After any run every record stands under its own name, a key has an owner exactly if an
    indexed record lists it, and the owner is such a record. Once the index is ready, a query for
    an address that is matched exactly, or for an identifier, finds a record exactly if one lists
    the key, and one that lists it. -/
theorem Run.keys_agree (steps : List (Step R)) :
    let session := (Run.of steps).session
    let entries := session.index.entries
    (∀ (name : ObjectName) (r : R), entries.records[name]? = some r → Indexed.name r = name) ∧
    (∀ mac : Mac, mac ∈ entries.macOwners ↔
      ∃ (name : ObjectName) (r : R), entries.records[name]? = some r ∧ mac ∈ Indexed.macs r) ∧
    (∀ (mac : Mac) (name : ObjectName), entries.macOwners[mac]? = some name →
      ∃ r, entries.records[name]? = some r ∧ mac ∈ Indexed.macs r) ∧
    (∀ uuid : Uuid, uuid ∈ entries.uuidOwners ↔
      ∃ (name : ObjectName) (r : R), entries.records[name]? = some r ∧ Indexed.uuid r = some uuid) ∧
    (∀ (uuid : Uuid) (name : ObjectName), entries.uuidOwners[uuid]? = some name →
      ∃ r, entries.records[name]? = some r ∧ Indexed.uuid r = some uuid) ∧
    (session.index.isReady = true → Indexed.matching R = .exact → ∀ mac : Mac, ∃ found : Option R,
      (session.step steps.length (.ask (.byMac mac))).2.1 = .returned (.found found) ∧
      (found.isSome ↔
        ∃ (name : ObjectName) (r : R), entries.records[name]? = some r ∧ mac ∈ Indexed.macs r) ∧
      ∀ r, found = some r → entries.records[Indexed.name r]? = some r ∧ mac ∈ Indexed.macs r) ∧
    (session.index.isReady = true → ∀ uuid : Uuid, ∃ found : Option R,
      (session.step steps.length (.ask (.byUuid uuid))).2.1 = .returned (.found found) ∧
      (found.isSome ↔ ∃ (name : ObjectName) (r : R),
        entries.records[name]? = some r ∧ Indexed.uuid r = some uuid) ∧
      ∀ r, found = some r →
        entries.records[Indexed.name r]? = some r ∧ Indexed.uuid r = some uuid) := by
  intro session entries
  have consistent : entries.Consistent := consistent steps
  have reached := reached steps
  refine ⟨fun name r => consistent.named, fun mac => consistent.mem_macOwners_iff, ?_,
    fun uuid => consistent.mem_uuidOwners_iff, ?_, ?_, ?_⟩
  · intro mac name owner
    simpa only [Entries.listsMac_iff] using consistent.macs.listed owner
  · intro uuid name owner
    simpa only [Entries.listsUuid_iff] using consistent.uuids.listed owner
  · intro ready exactly mac
    have idle := reached.coherent.calls_eq_nil reached.rest ready
    refine ⟨entries.byMac? mac, ?_, consistent.byMac?_exact exactly mac⟩
    rw [Session.step_ask_of_ready ready idle]
    rfl
  · intro ready uuid
    have idle := reached.coherent.calls_eq_nil reached.rest ready
    refine ⟨entries.byUuid? uuid, ?_, consistent.byUuid?_spec uuid⟩
    rw [Session.step_ask_of_ready ready idle]
    rfl

/-- A machine that is listed is found by the address of its interface. -/
theorem Run.finds_listed_address :
    let mac : Mac := ⟨Mac.buffer [0x00, 0xDE, 0x11, 0x64, 0x00, 0xA1], 6⟩
    let machine : Machine := ⟨⟨"lab", "a"⟩, none, [⟨none, mac, none⟩], .null⟩
    let session := (Run.of [.setup (.atOnce (.ok [.ok machine]))]).session
    ∃ found, (session.step 1 (.ask (.byMac mac))).2.1 = .returned (.found found) ∧
      found.isSome = true := by
  intro mac machine session
  have ready : session.index.isReady = true := by decide +kernel
  have lists : session.index.entries.records[machine.name]?.any (Entries.listsMac mac) = true := by
    decide +kernel
  obtain ⟨r, held, listsMac⟩ := (Option.any_eq_true _ _).1 lists
  obtain ⟨_, _, _, _, _, byMac, _⟩ := keys_agree [.setup (.atOnce (.ok [.ok machine]))]
  obtain ⟨found, reply, listed, _⟩ := byMac ready rfl mac
  exact ⟨found, reply, listed.2 ⟨machine.name, r, held, Entries.listsMac_iff.1 listsMac⟩⟩

end HardwareIndex
