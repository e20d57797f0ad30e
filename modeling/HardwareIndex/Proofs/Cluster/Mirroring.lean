import Mathlib.Data.List.Induction
import HardwareIndex.Cluster.Reconcile
import HardwareIndex.Proofs.Index.Consistency
import HardwareIndex.Proofs.Observe.Metrics
import HardwareIndex.Proofs.Resource.Kinds

/-!
# Mirroring objects in an index

What a controller does for the objects it is told of keeps its index a mirror of
the cluster: a name is indexed with what the last event that touched it says, and
the number of records is measured after each event. What one event does to the
records of an index is told by one equation; the law of whole runs follows from
it by induction from the end.
-/

namespace HardwareIndex

open Std

/-- What a controller is told of an object. -/
inductive ObjectEvent (S : Type) where
  /-- It is to be in the index. -/
  | apply (o : Object S)
  /-- It is to go from the index. -/
  | cleanup (o : Object S)

namespace ObjectEvent

variable {S R : Type}

/-- The name of the object of an event. -/
def name : ObjectEvent S → ObjectName
  | .apply o => o.name
  | .cleanup o => o.name

/-- The record that an event leaves in the index: that of a valid object that is applied. -/
def record? [Convertible S R] : ObjectEvent S → Option R
  | .apply o => o.toRecord.toOption
  | .cleanup _ => none

end ObjectEvent

namespace Site

variable {S R : Type} [Convertible S R] [PerKind.Field R]

/-- The site after an event. -/
def afterEvent (s : Site) : ObjectEvent S → Site
  | .apply o => (s.apply o.observe).1
  | .cleanup o => s.cleanup o.observe

/-- The site after several events. -/
def afterEvents (s : Site) (events : List (ObjectEvent S)) : Site :=
  events.foldl afterEvent s

end Site

namespace Index

variable {R : Type} [Indexed R]

/-- A valid object is set under the name of its record, and an invalid one is taken out. -/
theorem getElem?_receive (index : Index R) (name : ObjectName) {o : Except ValidationError R}
    {owner : ObjectName} (valid : ∀ r, o = .ok r → Indexed.name r = owner)
    (invalid : ∀ e, o = .error e → e.object = owner) :
    (index.receive o).1.entries.records[name]? =
      if name = owner then o.toOption else index.entries.records[name]? := by
  cases o with
  | ok r =>
    obtain rfl := valid r rfl
    simp only [receive, Index.set, Entries.insert_records, ExtTreeMap.getElem?_insert,
      ExtTreeMap.getElem?_erase, Std.compare_eq_iff_eq, @eq_comm _ name]
    split <;> rfl
  | error e =>
    obtain rfl := invalid e rfl
    simp only [receive, Index.delete, Entries.remove_records, ExtTreeMap.getElem?_erase,
      Std.compare_eq_iff_eq, @eq_comm _ name]
    split <;> rfl

end Index

namespace Site

variable {S R : Type} [Convertible S R] [PerKind.Field R] [PerKind.LawfulField R]

/-! ## One event -/

theorem indices_apply (s : Site) (o : Observed R) :
    (s.apply o).1.indices.get R = ((s.indices.get R).receive o.record).1 := by
  unfold apply measured
  cases o.record <;> exact PerKind.LawfulField.get_modify ..

theorem indices_cleanup (s : Site) (o : Observed R) :
    (s.cleanup o).indices.get R = (s.indices.get R).delete o.name :=
  PerKind.LawfulField.get_modify ..

/-- An event decides what is indexed under the name of its object, and nothing else. -/
theorem getElem?_afterEvent [LawfulConvertible S] (s : Site) (event : ObjectEvent S)
    (name : ObjectName) :
    ((s.afterEvent event).indices.get R).entries.records[name]? =
      if name = event.name then event.record?
      else (s.indices.get R).entries.records[name]? := by
  cases event with
  | apply o =>
    rw [afterEvent, indices_apply]
    exact Index.getElem?_receive _ _ (fun _ => Object.name_of_toRecord)
      fun _ => Object.object_of_toRecord
  | cleanup o =>
    rw [afterEvent, indices_cleanup, Index.delete, Entries.remove_records,
      ExtTreeMap.getElem?_erase]
    by_cases same : name = o.name
    · simp [same, ObjectEvent.name, ObjectEvent.record?, Observed.name, Object.observe, Object.name]
    · have other : o.observe.name ≠ name := Ne.symm same
      simp [ObjectEvent.name, same, other]

omit [PerKind.LawfulField R] in
/-- The number of records is measured after each event. -/
theorem records_afterEvent (s : Site) (event : ObjectEvent S) :
    (s.afterEvent event).metrics.get? (.records (Indexed.kind R)) =
      some ((s.afterEvent event).indices.get R).entries.size := by
  cases event <;> exact Metrics.get?_set_self ..

/-! ## Runs -/

/-- What is indexed under a name is decided by the last event that touched it. -/
theorem getElem?_afterEvents [LawfulConvertible S] (s : Site) (events : List (ObjectEvent S))
    (name : ObjectName) :
    ((s.afterEvents events).indices.get R).entries.records[name]? =
      match (events.filter (·.name == name)).getLast? with
      | some event => event.record?
      | none => (s.indices.get R).entries.records[name]? := by
  induction events using List.reverseRecOn with
  | nil => rfl
  | append_singleton events event ih =>
    have after : s.afterEvents (events ++ [event]) = (s.afterEvents events).afterEvent event := by
      simp [afterEvents]
    rw [after, getElem?_afterEvent, List.filter_append]
    by_cases touched : name = event.name
    · simp [touched]
    · have other : event.name ≠ name := Ne.symm touched
      simp [touched, other, ih]

end Site

/-- After any events of one kind at any site, each name that an event touched is indexed with the
    record that the object of the last such event converts to, if that event applied it and it is
    valid, and with nothing otherwise; a name that no event touched keeps its record. To apply an
    object tells the status that it is indexed, and its record has its name, exactly if it is
    valid; otherwise the status that it is invalid, for the reason why. After each event the number
    of records that is measured is the number there is. -/
theorem Site.mirrors_last_events (kind : RecordKind) (s : Site)
    (events : List (ObjectEvent kind.Spec)) :
    let entries (s : Site) := (s.indices.get kind.Record).entries
    let left := s.afterEvents events
    (∀ name : ObjectName, (entries left).records[name]? =
      match (events.filter (·.name == name)).getLast? with
      | some (.apply o) => o.toRecord.toOption
      | some (.cleanup _) => none
      | none => (entries s).records[name]?) ∧
    (∀ o : Object kind.Spec,
      let status := (left.apply o.observe).2
      match o.toRecord with
      | .ok r => Indexed.name r = o.name ∧ status = ⟨.ok, kind.okMessage⟩
      | .error e => e.object = o.name ∧ status = ⟨.invalid, e.reason⟩) ∧
    ∀ event : ObjectEvent kind.Spec,
      (left.afterEvent event).metrics.get? (.records kind) =
        some (entries (left.afterEvent event)).size := by
  intro entries left
  refine ⟨?_, ?_, ?_⟩
  · intro name
    refine (getElem?_afterEvents s events name).trans ?_
    cases (events.filter (·.name == name)).getLast? with
    | none => rfl
    | some event => cases event <;> rfl
  · intro o status
    have told : status = .ofRecord o.toRecord := left.status_apply o.observe
    rw [told]
    cases converted : o.toRecord with
    | ok r =>
      refine ⟨Object.name_of_toRecord converted, ?_⟩
      rw [IndexStatus.ofRecord, IndexStatus.indexed, RecordKind.kind_record]
    | error e => exact ⟨Object.object_of_toRecord converted, rfl⟩
  · intro event
    simpa using records_afterEvent left event

end HardwareIndex
