import HardwareIndex.Proofs.Index.Consistency
import HardwareIndex.Proofs.Index.Runs

/-!
# Updates along a run

Records are set and deleted in any phase of an index, also while a setup lists
its store. The listing of that setup was fixed before, and its records are
inserted after such updates: under a name that the listing holds, it wins over
every update made before the setup is done. Under any other name, and with every
update made later, the last write is what the index holds. The main statement
tells what stands under each name at any time after the publication.
-/

namespace HardwareIndex

open Std

variable {R : Type} [Indexed R]

/-! ## Writes -/

namespace Step

/-- The name that a step writes to, with what it leaves there. -/
def write? : Step R → Option (ObjectName × Option R)
  | .set record => some (Indexed.name record, some record)
  | .delete name => some (name, none)
  | _ => none

/-- What the last of some steps that write to a name leaves there. -/
def lastWrite? (steps : List (Step R)) (name : ObjectName) : Option (Option R) :=
  ((steps.filterMap write?).filter (·.1 == name)).getLast?.map Prod.snd

theorem lastWrite?_append (steps more : List (Step R)) (name : ObjectName) :
    lastWrite? (steps ++ more) name = (lastWrite? more name).or (lastWrite? steps name) := by
  simp only [lastWrite?, List.filterMap_append, List.filter_append, List.getLast?_append]
  cases ((more.filterMap write?).filter (·.1 == name)).getLast? <;> rfl

theorem lastWrite?_singleton (what : Step R) (name : ObjectName) :
    lastWrite? [what] name = (what.write?.filter (·.1 == name)).map Prod.snd := by
  cases written : what.write? with
  | none => simp [lastWrite?, written]
  | some write =>
    by_cases same : write.1 == name <;> simp [lastWrite?, written, same, Option.filter]

/-- A step changes what stands under the name that it writes to, and nothing else. -/
theorem getElem?_applyTo (what : Step R) (entries : Entries R) (name : ObjectName) :
    (what.applyTo entries).records[name]? =
      (lastWrite? [what] name).getD entries.records[name]? := by
  rw [lastWrite?_singleton]
  cases what with
  | set record =>
    by_cases same : Indexed.name record = name
    · simp [applyTo, write?, same, Option.filter]
    · simp [applyTo, write?, same, Option.filter, ExtTreeMap.getElem?_insert,
        ExtTreeMap.getElem?_erase]
  | delete other =>
    by_cases same : other = name
    · simp [applyTo, write?, same, Option.filter]
    · simp [applyTo, write?, same, Option.filter, ExtTreeMap.getElem?_erase]
  | _ => rfl

end Step

/-- The last valid object of a name in a listing. -/
def Listing.last? (l : Listing R) (name : ObjectName) : Option R :=
  (l.valid.filter fun r => Indexed.name r = name).getLast?

/-- The step in which a setup reports that it has indexed something itself makes the index
    ready. -/
theorem StepEffect.becomes_ready {steps : List (Step R)} {s : Session R} {what : Step R}
    (effect : StepEffect steps s what) {id : Nat} {outcome : Outcome R}
    (finished : (id, outcome) ∈ s.finished steps.length what) (isFresh : outcome.isFresh = true) :
    s.index.isReady = false ∧ (s.after steps.length what).index.isReady = true := by
  cases effect with
  | quiet _ _ stale =>
    have member : (id, outcome) ∈ (s.finished steps.length what).filter (·.2.isFresh) :=
      List.mem_filter.2 ⟨finished, isFresh⟩
    rw [stale] at member
    cases member
  | publishes _ _ _ _ _ _ unready ready _ _ => exact ⟨unready, ready⟩

namespace Run

variable {steps : List (Step R)}

/-! ## Before and after the publication -/

/-- A step that publishes nothing leaves under a name what the steps so far have written last. -/
theorem getElem?_of_quiet {what : Step R} {held : Option R} {name : ObjectName}
    (entries : ((of steps).session.after steps.length what).index.entries =
      what.applyTo (of steps).session.index.entries)
    (before : (of steps).session.index.entries.records[name]? = held) :
    (of (steps ++ [what])).session.index.entries.records[name]? =
      (Step.lastWrite? [what] name).getD held := by
  rw [of_append_singleton, next, entries, Step.getElem?_applyTo, before]

/-- Until the index is ready it holds what was written last. -/
theorem getElem?_of_unready (unready : (of steps).session.index.isReady = false)
    (name : ObjectName) : (of steps).session.index.entries.records[name]? =
      (Step.lastWrite? steps name).getD none := by
  induction steps using List.reverseRecOn with
  | nil => rfl
  | append_singleton steps what ih =>
    have still : ((of steps).session.after steps.length what).index.isReady = false := by
      rw [of_append_singleton] at unready
      exact unready
    have effect := (reached steps).effect what
    cases effect with
    | quiet same entries _ =>
      rw [getElem?_of_quiet entries (ih (same.symm.trans still)), Step.lastWrite?_append]
      cases Step.lastWrite? [what] name <;> rfl
    | publishes _ _ _ _ _ _ _ ready _ _ => cases still.symm.trans ready

/-- From then on it holds what was written last, or what it held when it became ready. -/
theorem getElem?_append_of_ready (ready : (of steps).session.index.isReady = true)
    (later : List (Step R)) (name : ObjectName) :
    (of (steps ++ later)).session.index.entries.records[name]? =
      (Step.lastWrite? later name).getD (of steps).session.index.entries.records[name]? := by
  induction later using List.reverseRecOn with
  | nil => rw [List.append_nil]; rfl
  | append_singleton later what ih =>
    have ready' := isReady_append ready later
    rw [← List.append_assoc]
    cases (reached (steps ++ later)).effect what with
    | quiet _ entries _ =>
      rw [getElem?_of_quiet entries ih, Step.lastWrite?_append]
      cases Step.lastWrite? [what] name <;> rfl
    | publishes _ _ _ _ _ _ unready _ _ _ => cases unready.symm.trans ready'

/-- The publication puts the listing above all that was written before. -/
theorem getElem?_of_publication {what : Step R} {l : Listing R}
    (unready : (of steps).session.index.isReady = false)
    (entries : ((of steps).session.after steps.length what).index.entries =
      ((what.applyTo (of steps).session.index.entries).insertAll l.valid).1)
    (name : ObjectName) :
    (of (steps ++ [what])).session.index.entries.records[name]? =
      (l.last? name).or ((Step.lastWrite? (steps ++ [what]) name).getD none) := by
  rw [of_append_singleton, next, entries, Entries.insertAll_records, Step.getElem?_applyTo,
    getElem?_of_unready unready, Step.lastWrite?_append, Listing.last?]
  cases Step.lastWrite? [what] name <;> rfl

/-! ## Updates and the listing -/

/-- Let a setup publish its listing in a step. At that time and after any later steps, each name
    holds what was last written to it later; if nothing was, the last valid object of that name
    in the listing; if there is none, what was last written to it before. So the last update of a
    name before the publication, whether or not the setup was listing when it was made, is kept
    exactly if the listing ends on it or has no valid object of that name. -/
theorem records_after_publication (steps : List (Step R)) (what : Step R) (id : Nat)
    (outcome : Outcome R) (finished : (id, outcome) ∈ (of steps).session.finished steps.length what)
    (isFresh : outcome.isFresh = true) :
    let entries (later : List (Step R)) :=
      (of (steps ++ [what] ++ later)).session.index.entries
    (of (steps ++ [what])).session.index.isReady = true ∧
    ∃ (source : Source R) (l : Listing R), (steps ++ [what])[id]? = some (.setup source) ∧
      source.listing? = some l ∧
      (∀ (later : List (Step R)) (name : ObjectName), (entries later).records[name]? =
        (Step.lastWrite? later name).getD
          ((l.last? name).or ((Step.lastWrite? (steps ++ [what]) name).getD none))) ∧
      ∀ (name : ObjectName) (update : Option R),
        Step.lastWrite? (steps ++ [what]) name = some update →
        ((entries []).records[name]? = update ↔
          ∀ r, l.last? name = some r → update = some r) := by
  intro entries
  have effect := (reached steps).effect what
  obtain ⟨unready, ready⟩ := effect.becomes_ready finished isFresh
  obtain ⟨source, l, place, _, listing, changed⟩ := effect.exists_listing_of_fresh finished isFresh
  have ready : (of (steps ++ [what])).session.index.isReady = true := by
    rwa [of_append_singleton]
  have published := getElem?_of_publication unready changed
  refine ⟨ready, source, l, place, listing, ?_, ?_⟩
  · intro later name
    rw [← published name]
    exact getElem?_append_of_ready ready later name
  · intro name update written
    simp only [entries, List.append_nil]
    rw [published name, written, Option.getD_some]
    cases l.last? name with
    | none => simp
    | some r => simp [eq_comm]

/-- A machine that is set while a setup lists another one is indexed as it was set. -/
theorem unlisted_update_kept :
    let listed : Machine := ⟨⟨"lab", "node-1"⟩, none, [], .null⟩
    let other : Machine := ⟨⟨"lab", "node-2"⟩, none, [], .null⟩
    let steps : List (Step Machine) := [.setup (.gated [.ok listed] none), .set other]
    ∃ outcome, (0, outcome) ∈ (of steps).session.finished 2 (.release 0 true) ∧
      outcome.isFresh = true ∧
      (of (steps ++ [.release 0 true])).session.index.entries.records[other.name]? =
        some other := by
  intro listed other steps
  have done : ((of steps).session.finished 2 (.release 0 true)).any
      (fun call => call.1 == 0 && call.2.isFresh) = true := by
    decide +kernel
  obtain ⟨⟨id, outcome⟩, finished, fresh⟩ := List.any_eq_true.1 done
  simp only [Bool.and_eq_true, beq_iff_eq] at fresh
  obtain ⟨rfl, isFresh⟩ := fresh
  obtain ⟨_, source, l, place, listing, _, kept⟩ :=
    records_after_publication steps (.release 0 true) 0 outcome finished isFresh
  cases place
  cases listing
  have written : Step.lastWrite? (steps ++ [.release 0 true]) other.name = some (some other) := rfl
  have unlisted : Listing.last? [.ok listed] other.name = none := rfl
  refine ⟨outcome, finished, isFresh, (kept other.name (some other) written).2 ?_⟩
  intro r last
  cases unlisted.symm.trans last

/-- A machine is set with another address, or deleted, while a setup lists it as it was. Once the
    setup is done, it is indexed as it was. -/
theorem updates_lost_to_listing :
    let name : ObjectName := ⟨"lab", "node-1"⟩
    let mac (last : UInt8) : Mac := ⟨Mac.buffer [0x00, 0xDE, 0x11, 0x64, 0x00, last], 6⟩
    let machine (last : UInt8) : Machine := ⟨name, none, [⟨none, mac last, none⟩], .null⟩
    let begun : List (Step Machine) := [.setup (.gated [.ok (machine 1)] none)]
    let replaced := of (begun ++ [.set (machine 2), .release 0 true])
    let deleted := of (begun ++ [.delete name, .release 0 true])
    (of begun).session.lock.holder = some 0 ∧ (of begun).session.index.phase = .initializing ∧
    (replaced.returned.map fun call => (call.1, call.2.isFresh)) = [(0, true)] ∧
    replaced.session.index.phase = .ready ∧
    (replaced.session.index.entries.records[name]?.map Indexed.macs) = some [mac 1] ∧
    (replaced.session.index.entries.byMac? (mac 2)).isNone = true ∧
    (deleted.returned.map fun call => (call.1, call.2.isFresh)) = [(0, true)] ∧
    deleted.session.index.phase = .ready ∧
    (deleted.session.index.entries.records[name]?.map Indexed.macs) = some [mac 1] := by
  decide +kernel

end Run

end HardwareIndex
