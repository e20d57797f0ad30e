import HardwareIndex.Proofs.Client.Agreement
import HardwareIndex.Proofs.Service.Deployment

/-!
# Availability

A slot keeps the first index that is published in it, and an index that is ready
stays ready. So whether a lookup is refused depends on one index of its kind, and
once it is not refused it never is again; the readiness probe tells of all three
kinds at once. A lookup that is not refused asks an index on which nobody waits,
now and whenever it comes to ask.
-/

namespace HardwareIndex

/-! ## Requests to a service -/

theorem Lookup.usable?_eq_none_iff {R : Type} [Indexed R] {index : Option (Index R)} :
    usable? index = none ↔ ∀ i, index = some i → i.isReady = false := by
  cases index <;> simp [usable?, Option.filter_eq_none_iff]

namespace Service

/-- A lookup is refused exactly if there is no index that may be asked. -/
theorem status_lookup (s : Service) (method : Method) (kind : RecordKind)
    (query : Option String) :
    (s.handle method ⟨(Route.lookup kind).path, query⟩).2.1.status = .notAcceptable ↔
      method ≠ .other ∧ Lookup.usable? (s.slots.get kind.Record).value = none := by
  have answered : (Lookup.answer (s.slots.get kind.Record).value query).1.status = .notAcceptable ↔
      Lookup.usable? (s.slots.get kind.Record).value = none := by
    rw [Lookup.answer]
    cases Lookup.usable? (s.slots.get kind.Record).value with
    | none => simp [Answer.empty]
    | some index =>
      cases verdict : Lookup.verdict (Lookup.hits index.entries (LookupQuery.parse query)) <;>
        simp [verdict, Answer.empty, Answer.json, StatusCode.notFound, StatusCode.ok,
          StatusCode.badRequest, StatusCode.notAcceptable]
  rw [← answered, ← lookup_eq]
  unfold handle
  cases method with
  | get => simp [Route.ofPath?_path, follow]
  | head => simp [Route.ofPath?_path, follow]
  | other =>
    simp [Route.ofPath?_path, Answer.empty, StatusCode.methodNotAllowed, StatusCode.notAcceptable]

/-- The probe tells whether the service is ready. -/
theorem status_ready (s : Service) (query : Option String) :
    (s.handle .get ⟨Route.ready.path, query⟩).2.1.status = .ok ↔ s.isReady = true := by
  simp only [handle, Route.ofPath?_path, follow]
  cases s.isReady <;> simp [Answer.text, Answer.empty, StatusCode.ok, StatusCode.serviceUnavailable]

/-- The service is ready if there is an index of each kind that may be asked. -/
theorem isReady_iff (s : Service) :
    s.isReady = true ↔
      ∀ kind : RecordKind, Lookup.usable? (s.slots.get kind.Record).value ≠ none := by
  have usable {R : Type} [Indexed R] (slot : Slot (Index R)) :
      slotReady slot = true ↔ Lookup.usable? slot.value ≠ none := by
    cases value : slot.value <;> simp [slotReady, Lookup.usable?, value]
  simp only [isReady, Bool.and_eq_true, usable]
  constructor
  · rintro ⟨⟨machines, bmcs⟩, types⟩ kind
    cases kind with
    | machine => exact machines
    | bmc => exact bmcs
    | machineType => exact types
  · intro all
    exact ⟨⟨all .machine, all .bmc⟩, all .machineType⟩

end Service

/-! ## Events one by one -/

/-- The index that an event publishes in the slot of a kind. -/
def DeploymentEvent.published? (kind : RecordKind) : DeploymentEvent → Option Nat
  | .publish kind' id => if kind' = kind then some id else none
  | _ => none

namespace Deployment

theorem value_withSlot {d : Deployment} {kind' : RecordKind} {slot : Slot Nat}
    (same : slot.value = (d.slots kind').value) (kind : RecordKind) :
    ((d.withSlot kind' slot).slots kind).value = (d.slots kind).value := by
  rw [slots_withSlot]
  split
  · rename_i here
    rw [here, same]
  · rfl

/-- An empty slot takes what an event publishes; a full one keeps what it has. -/
theorem value_next (d : Deployment) (event : DeploymentEvent) (kind : RecordKind) :
    ((d.next event).slots kind).value = (d.slots kind).value.or (event.published? kind) := by
  cases event with
  | act | request => simp [next, DeploymentEvent.published?]
  | subscribe kind' =>
    have kept : (d.slots kind').subscribe.value = (d.slots kind').value := rfl
    exact (value_withSlot kept kind).trans Option.or_none.symm
  | clone kind' subscriber =>
    have kept := (d.slots kind').value_clone subscriber
    exact (value_withSlot kept kind).trans Option.or_none.symm
  | publish kind' id =>
    have taken := Slot.publish_value (d.slots kind') id
    change ((d.withSlot kind' ((d.slots kind').publish id).1).slots kind).value = _
    rw [slots_withSlot, DeploymentEvent.published?]
    by_cases same : kind = kind'
    · subst same
      rw [if_pos rfl, if_pos rfl, taken]
      cases (d.slots kind).value <;> rfl
    · rw [if_neg same, if_neg (Ne.symm same), Option.or_none]

/-- What an event publishes is accepted by an empty slot only. -/
theorem accepted_next (d : Deployment) (event : DeploymentEvent) (kind : RecordKind) :
    (d.next event).accepted kind = d.accepted kind ++
      if (d.slots kind).value.isSome then [] else (event.published? kind).toList := by
  cases event with
  | act | request | subscribe | clone => simp [next, withSlot, DeploymentEvent.published?]
  | publish kind' id =>
    by_cases same : kind = kind'
    · subst same
      cases held : (d.slots kind).value <;>
        simp [next, DeploymentEvent.published?, Slot.publish_snd, held]
    · simp [next, withSlot, DeploymentEvent.published?, same, Ne.symm same]

/-- An event takes steps on an index or leaves it as it is. -/
theorem steps_next (d : Deployment) (event : DeploymentEvent) (kind : RecordKind) (id : Nat) :
    ∃ more, (d.next event).steps kind id = d.steps kind id ++ more := by
  cases event with
  | publish | request | subscribe | clone => exact ⟨[], (List.append_nil _).symm⟩
  | act kind' id' what =>
    by_cases same : kind = kind'
    · subst same
      by_cases same : id = id'
      · subst same
        exact ⟨[what], by simp [next]⟩
      · exact ⟨[], by simp [next, same]⟩
    · exact ⟨[], by simp [next, same]⟩

/-! ## Runs -/

/-- The first index that is published in the slot of a kind. -/
def first? (kind : RecordKind) (events : List DeploymentEvent) : Option Nat :=
  events.findSome? (DeploymentEvent.published? kind)

theorem first?_append {kind : RecordKind} {events : List DeploymentEvent} {id : Nat}
    (first : first? kind events = some id) (later : List DeploymentEvent) :
    first? kind (events ++ later) = some id := by
  rw [first?, List.findSome?_append]
  rw [first?] at first
  rw [first]
  rfl

variable {scrape : Scrape}

/-- A slot holds the first index that was published in it, and accepted no other. -/
theorem slot_after (events : List DeploymentEvent) (kind : RecordKind) :
    ((after scrape events).slots kind).value = first? kind events ∧
      (after scrape events).accepted kind = (first? kind events).toList := by
  induction events using List.reverseRecOn with
  | nil => exact ⟨rfl, rfl⟩
  | append_singleton events event ih =>
    obtain ⟨value, accepted⟩ := ih
    have last : first? kind (events ++ [event]) =
        (first? kind events).or (event.published? kind) := by
      rw [first?, List.findSome?_append]
      cases published : event.published? kind <;> simp [first?, published]
    rw [after_append_singleton, value_next, accepted_next, value, accepted, last]
    cases first? kind events <;> simp

theorem steps_after_append (scrape : Scrape) (events later : List DeploymentEvent)
    (kind : RecordKind) (id : Nat) :
    ∃ more, (after scrape (events ++ later)).steps kind id =
      (after scrape events).steps kind id ++ more := by
  induction later using List.reverseRecOn with
  | nil => exact ⟨[], by rw [List.append_nil, List.append_nil]⟩
  | append_singleton later event ih =>
    obtain ⟨more, steps⟩ := ih
    obtain ⟨more', steps'⟩ := (after scrape (events ++ later)).steps_next event kind id
    refine ⟨more ++ more', ?_⟩
    rw [← List.append_assoc, after_append_singleton, steps', steps, List.append_assoc]

/-- An index that is ready stays ready. -/
theorem isReady_after_append {events : List DeploymentEvent} {kind : RecordKind} {id : Nat}
    (ready : ((after scrape events).index kind id).isReady = true)
    (later : List DeploymentEvent) :
    ((after scrape (events ++ later)).index kind id).isReady = true := by
  obtain ⟨more, steps⟩ := steps_after_append scrape events later kind id
  rw [index, session, steps]
  exact Run.isReady_append ready more

/-- Nobody waits for the answer of an index that is ready. -/
theorem resolve_of_ready {events : List DeploymentEvent} {kind : RecordKind} {id : Nat}
    (ready : ((after scrape events).index kind id).isReady = true) (call : Nat) (key : WrittenKey) :
    ((after scrape events).session kind id).resolve call key =
      .returned (.found (((after scrape events).index kind id).entries.byText? key)) := by
  have reached := Run.reached ((after scrape events).steps kind id)
  exact Session.resolve_of_ready ready (reached.coherent.calls_eq_nil reached.rest ready) call key

/-- There is an index that a lookup may ask unless nothing is published or the first that was is
    not ready. -/
theorem usable?_after (events : List DeploymentEvent) (kind : RecordKind) :
    Lookup.usable? ((after scrape events).service.slots.get kind.Record).value = none ↔
      ∀ id, first? kind events = some id →
        ((after scrape events).index kind id).isReady = false := by
  rw [Lookup.usable?_eq_none_iff, slots_get, Slot.map, (slot_after events kind).1]
  cases first? kind events <;> simp

/-! ## What requests tell -/

/-- A lookup is refused for want of an index that is ready. -/
def Refuses (d : Deployment) (method : Method) (kind : RecordKind) (query : Option String) : Prop :=
  (d.answer method ⟨(Route.lookup kind).path, query⟩).status = .notAcceptable

/-- The readiness probe succeeds. -/
def TellsReady (d : Deployment) (query : Option String) : Prop :=
  (d.answer .get ⟨Route.ready.path, query⟩).status = .ok

theorem refuses_after_iff {events : List DeploymentEvent} {method : Method} {kind : RecordKind}
    {query : Option String} : (after scrape events).Refuses method kind query ↔
      method ≠ .other ∧ ∀ id, first? kind events = some id →
        ((after scrape events).index kind id).isReady = false := by
  rw [← usable?_after]
  exact Service.status_lookup ..

theorem tellsReady_after_iff {events : List DeploymentEvent} {query : Option String} :
    (after scrape events).TellsReady query ↔ ∀ kind : RecordKind,
      ∃ id, first? kind events = some id ∧
        ((after scrape events).index kind id).isReady = true := by
  refine (Service.status_ready ..).trans ?_
  simp only [Service.isReady_iff, ne_eq, usable?_after]
  refine forall_congr' fun kind => ?_
  cases first? kind events <;> simp

/-- A probe that has succeeded once succeeds ever after, and no lookup is refused any more. -/
theorem tellsReady_append {events : List DeploymentEvent} {query : Option String}
    (ready : (after scrape events).TellsReady query) (later : List DeploymentEvent) :
    (∀ query' : Option String, (after scrape (events ++ later)).TellsReady query') ∧
      ∀ (method : Method) (kind : RecordKind) (query' : Option String),
        ¬(after scrape (events ++ later)).Refuses method kind query' := by
  have still : ∀ kind : RecordKind, ∃ id, first? kind (events ++ later) = some id ∧
      ((after scrape (events ++ later)).index kind id).isReady = true := by
    intro kind
    obtain ⟨id, first, ready⟩ := tellsReady_after_iff.1 ready kind
    exact ⟨id, first?_append first later, isReady_after_append ready later⟩
  refine ⟨fun _ => tellsReady_after_iff.2 still, ?_⟩
  intro method kind query' refused
  obtain ⟨id, first, isReady⟩ := still kind
  cases isReady.symm.trans ((refuses_after_iff.1 refused).2 id first)

/-- After any events, a lookup is refused exactly if nothing has been published in the slot of its
    kind, or the first index that was is not ready. If it is not refused, that index replies to
    each key at once, at that time and at any later one. The probe tells that the service is ready
    exactly if no lookup would be refused; once it has, it does so ever after, and no lookup is
    refused any more. At most one publication in each slot is accepted, the first one, and each
    subscriber there is sees its index from then on. -/
theorem readiness_stays (scrape : Scrape) (events : List DeploymentEvent) :
    let d := after scrape events
    let left (later : List DeploymentEvent) := after scrape (events ++ later)
    (∀ (method : Method) (kind : RecordKind) (query : Option String),
      (d.Refuses method kind query ↔ method ≠ .other ∧
        ∀ id, first? kind events = some id → (d.index kind id).isReady = false) ∧
      (method ≠ .other → ¬d.Refuses method kind query → ∃ id, first? kind events = some id ∧
        ∀ (later : List DeploymentEvent) (call : Nat) (key : WrittenKey),
          ((left later).session kind id).resolve call key =
            .returned (.found (((left later).index kind id).entries.byText? key)))) ∧
    (∀ query : Option String, d.TellsReady query ↔
      ∀ (kind : RecordKind) (query' : Option String), ¬d.Refuses .get kind query') ∧
    (∀ query : Option String, d.TellsReady query → ∀ later : List DeploymentEvent,
      (∀ query' : Option String, (left later).TellsReady query') ∧
        ∀ (method : Method) (kind : RecordKind) (query' : Option String),
          ¬(left later).Refuses method kind query') ∧
    ∀ kind : RecordKind, d.accepted kind = (first? kind events).toList ∧
      ∀ id, first? kind events = some id → ∀ (later : List DeploymentEvent) (subscriber : Nat),
        subscriber < ((left later).slots kind).subscribers →
        ((left later).slots kind).seenBy subscriber = some id := by
  intro d left
  refine ⟨?_, ?_, fun _ => tellsReady_append, ?_⟩
  · intro method kind query
    refine ⟨refuses_after_iff, ?_⟩
    intro known unrefused
    rw [refuses_after_iff] at unrefused
    simp only [known, ne_eq, not_false_eq_true, true_and, not_forall] at unrefused
    obtain ⟨id, first, ready⟩ := unrefused
    rw [Bool.not_eq_false] at ready
    exact ⟨id, first, fun later => resolve_of_ready (isReady_after_append ready later)⟩
  · intro query
    rw [tellsReady_after_iff]
    simp [d, refuses_after_iff]
  · intro kind
    refine ⟨(slot_after events kind).2, ?_⟩
    intro id first later subscriber subscribed
    rw [Slot.seenBy, if_pos subscribed, (slot_after _ kind).1, first?_append first later]

/-- An index of each kind is published and set up. After that neither the publication of another
    index nor another setup makes the probe fail. -/
theorem ready_after_publications :
    let published (kind : RecordKind) : List DeploymentEvent :=
      [.subscribe kind, .publish kind 0, .act kind 0 (.setup (.atOnce (.ok [])))]
    let events := published .machine ++ published .bmc ++ published .machineType
    let later : List DeploymentEvent :=
      [.publish .machine 1, .act .machine 0 (.setup (.atOnce (.error .refused)))]
    (after .disabled events).TellsReady none ∧ (after .disabled (events ++ later)).TellsReady none ∧
      ((after .disabled (events ++ later)).slots .machine).seenBy 0 = some 0 := by
  intro published events later
  have ready : (after .disabled events).TellsReady none := by
    refine tellsReady_after_iff.2 fun kind => ⟨0, ?_, ?_⟩
    · cases kind <;> rfl
    · cases kind <;> decide +kernel
  obtain ⟨_, _, stays, slots⟩ := readiness_stays .disabled events
  exact ⟨ready, (stays none ready later).1 none,
    (slots .machine).2 0 rfl later 0 (by decide +kernel)⟩

end Deployment

end HardwareIndex
