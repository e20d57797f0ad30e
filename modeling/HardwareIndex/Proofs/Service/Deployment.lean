import Mathlib.Logic.Function.Basic
import HardwareIndex.Index.Run
import HardwareIndex.Proofs.Resource.Kinds
import HardwareIndex.Service.Router

/-!
# Deployments

A service together with all that changes what it answers: indices of each kind
that callers act on, the slots that they are published in, and those who
subscribe to the slots. Indices go by numbers, so that one that was published is
the same one that callers act on later, and publishing it again is told from
publishing another one. `Deployment.service` is the service as it sees all this;
each event does to it what one of its own operations does
(`Deployment.service_next`).
-/

namespace HardwareIndex

namespace Slot

variable {α β : Type}

/-- A slot with its value seen as something else. -/
def map (f : α → β) (s : Slot α) : Slot β := ⟨s.value.map f, s.subscribers⟩

theorem publish_map (f : α → β) (s : Slot α) (a : α) :
    (s.map f).publish (f a) = ((s.publish a).1.map f, (s.publish a).2) := by
  obtain ⟨value, subscribers⟩ := s
  cases value <;> rfl

theorem clone_map (f : α → β) (s : Slot α) (id : Nat) :
    (s.map f).clone id = (s.clone id).map f := by
  unfold clone
  by_cases known : id < s.subscribers <;> simp [map, subscribe, known]

theorem value_clone (s : Slot α) (id : Nat) : (s.clone id).value = s.value := by
  unfold clone
  split <;> rfl

end Slot

namespace Service

/-- Whatever route is followed, nothing changes but what is counted. -/
theorem follow_fst (s : Service) (route : Route) (query : Option String) :
    (s.follow route query).1 = { s with metrics := (s.follow route query).1.metrics } := by
  cases route <;> rfl

theorem handle_fst (s : Service) (method : Method) (target : Target) :
    (s.handle method target).1 = { s with metrics := (s.handle method target).1.metrics } := by
  unfold handle
  split
  · rfl
  · rfl
  · exact s.follow_fst _ _
  · exact s.follow_fst _ _

end Service

/-- What happens in a deployment. -/
inductive DeploymentEvent where
  /-- Somebody sets up, asks, or changes an index. -/
  | act (kind : RecordKind) (id : Nat) (what : Step kind.Record)
  /-- An index is published in the slot of its kind. -/
  | publish (kind : RecordKind) (id : Nat)
  | subscribe (kind : RecordKind)
  | clone (kind : RecordKind) (subscriber : Nat)
  | request (method : Method) (target : Target)

/-- A service with the indices it may be given. -/
structure Deployment where
  /-- The steps taken on each index since it was new. -/
  steps : (kind : RecordKind) → Nat → List (Step kind.Record)
  /-- The slots, each with the number of the published index. -/
  slots : RecordKind → Slot Nat
  /-- The publications that took effect. -/
  accepted : RecordKind → List Nat
  metrics : Metrics
  scrape : Scrape

namespace Deployment

/-- New indices, none of them published. -/
def new (scrape : Scrape) : Deployment :=
  ⟨fun _ _ => [], fun _ => .empty, fun _ => [], .empty, scrape⟩

/-- The session of an index. -/
def session (d : Deployment) (kind : RecordKind) (id : Nat) : Session kind.Record :=
  (Run.of (d.steps kind id)).session

/-- An index. -/
def index (d : Deployment) (kind : RecordKind) (id : Nat) : Index kind.Record :=
  (d.session kind id).index

/-- The service as it sees the published indices. -/
def service (d : Deployment) : Service where
  slots := PerKind.ofKind fun kind => (d.slots kind).map (d.index kind)
  metrics := d.metrics
  scrape := d.scrape

/-- The answer to a request. -/
def answer (d : Deployment) (method : Method) (target : Target) : Answer :=
  (d.service.handle method target).2.1

/-- With the slot of a kind changed. -/
def withSlot (d : Deployment) (kind : RecordKind) (slot : Slot Nat) : Deployment :=
  { d with slots := Function.update d.slots kind slot }

/-- The deployment after an event. -/
def next (d : Deployment) : DeploymentEvent → Deployment
  | .act kind id what =>
    let steps := Function.update (d.steps kind) id (d.steps kind id ++ [what])
    { d with steps := Function.update d.steps kind steps }
  | .publish kind id =>
    let (slot, done) := (d.slots kind).publish id
    let accepted := d.accepted kind ++ if done then [id] else []
    { d.withSlot kind slot with accepted := Function.update d.accepted kind accepted }
  | .subscribe kind => d.withSlot kind (d.slots kind).subscribe
  | .clone kind subscriber => d.withSlot kind ((d.slots kind).clone subscriber)
  | .request method target => { d with metrics := (d.service.handle method target).1.metrics }

/-- The deployment after some events. -/
def after (scrape : Scrape) (events : List DeploymentEvent) : Deployment :=
  events.foldl next (new scrape)

theorem after_append_singleton (scrape : Scrape) (events : List DeploymentEvent)
    (event : DeploymentEvent) :
    after scrape (events ++ [event]) = (after scrape events).next event := by
  simp [after]

/-! ## The service's own operations -/

theorem slots_withSlot (d : Deployment) (kind kind' : RecordKind) (slot : Slot Nat) :
    (d.withSlot kind' slot).slots kind = if kind = kind' then slot else d.slots kind :=
  Function.update_apply ..

/-- The service sees a deployment like another one but for what its slot of one kind holds. -/
theorem slots_service_eq_modify {d d' : Deployment} {kind : RecordKind}
    (others : ∀ kind', kind' ≠ kind →
      (d'.slots kind').map (d'.index kind') = (d.slots kind').map (d.index kind')) :
    d'.service.slots = d.service.slots.modify kind.Record fun _ =>
      (d'.slots kind).map (d'.index kind) :=
  PerKind.ofKind_eq_modify (F := fun R => Slot (Index R))
    (f := fun kind => (d.slots kind).map (d.index kind))
    (g := fun kind => (d'.slots kind).map (d'.index kind)) others

theorem service_withSlot (d : Deployment) (kind : RecordKind) (slot : Slot Nat) :
    (d.withSlot kind slot).service = { d.service with
      slots := d.service.slots.modify kind.Record fun _ => slot.map (d.index kind) } := by
  have seen : (d.withSlot kind slot).service.slots =
      d.service.slots.modify kind.Record fun _ =>
        ((d.withSlot kind slot).slots kind).map (d.index kind) := by
    refine slots_service_eq_modify fun kind' other => ?_
    rw [slots_withSlot, if_neg other]
    rfl
  rw [slots_withSlot, if_pos rfl] at seen
  rw [← seen]
  rfl

theorem slots_get (d : Deployment) (kind : RecordKind) :
    d.service.slots.get kind.Record = (d.slots kind).map (d.index kind) :=
  PerKind.get_ofKind (F := fun R => Slot (Index R)) (fun kind => (d.slots kind).map (d.index kind))
    kind

theorem index_act_of_ne (d : Deployment) {kind kind' : RecordKind} {id id' : Nat}
    (what : Step kind.Record) (other : kind' ≠ kind ∨ id' ≠ id) :
    (d.next (.act kind id what)).index kind' id' = d.index kind' id' := by
  have kept : (d.next (.act kind id what)).steps kind' id' = d.steps kind' id' := by
    by_cases same : kind' = kind
    · subst same
      have other : id' ≠ id := other.resolve_left (fun other => other rfl)
      simp [next, other]
    · simp [next, same]
  simp only [index, session, kept]

/-- A step on an index changes that index only. -/
theorem service_act (d : Deployment) (kind : RecordKind) (id : Nat) (what : Step kind.Record) :
    (d.next (.act kind id what)).service =
      if (d.slots kind).value = some id then
        d.service.modify kind.Record fun _ => (d.next (.act kind id what)).index kind id
      else d.service := by
  let stepped := d.next (.act kind id what)
  have others : ∀ kind', kind' ≠ kind →
      (d.slots kind').map (stepped.index kind') = (d.slots kind').map (d.index kind') := by
    intro kind' other
    have kept : stepped.index kind' = d.index kind' :=
      funext fun _ => d.index_act_of_ne what (Or.inl other)
    rw [kept]
  have seen : stepped.service.slots = d.service.slots.modify kind.Record fun _ =>
      (d.slots kind).map (stepped.index kind) := slots_service_eq_modify others
  have service : stepped.service = { d.service with slots := stepped.service.slots } := rfl
  rw [service, seen]
  by_cases published : (d.slots kind).value = some id
  · have changed : (d.service.slots.modify kind.Record fun slot =>
          slot.modify fun _ => stepped.index kind id) =
        d.service.slots.modify kind.Record fun _ => (d.slots kind).map (stepped.index kind) := by
      refine PerKind.modify_eq_of_get ?_
      simp [slots_get, Slot.modify, Slot.map, published]
    rw [if_pos published, Service.modify, changed]
  · have kept : (d.slots kind).map (stepped.index kind) = d.service.slots.get kind.Record := by
      have values : (d.slots kind).value.map (stepped.index kind) =
          (d.slots kind).value.map (d.index kind) := by
        refine Option.map_congr fun id' holds => d.index_act_of_ne what (Or.inr ?_)
        rintro rfl
        exact published holds
      rw [slots_get, Slot.map, values]
      rfl
    rw [if_neg published, kept, PerKind.modify_get]

/-- Each event does to the service what one of the service's own operations does. -/
theorem service_next (d : Deployment) (event : DeploymentEvent) :
    (d.next event).service =
      match event with
      | .act kind id _ =>
        if (d.slots kind).value = some id then
          d.service.modify kind.Record fun _ => (d.next event).index kind id
        else d.service
      | .publish kind id => (d.service.publish kind.Record (d.index kind id)).1
      | .subscribe kind =>
        { d.service with slots := d.service.slots.modify kind.Record Slot.subscribe }
      | .clone kind subscriber =>
        { d.service with slots := d.service.slots.modify kind.Record (·.clone subscriber) }
      | .request method target => (d.service.handle method target).1 := by
  cases event with
  | act kind id what => exact d.service_act kind id what
  | publish kind id =>
    have published := Slot.publish_map (d.index kind) (d.slots kind) id
    refine (d.service_withSlot kind ((d.slots kind).publish id).1).trans ?_
    simp only [Service.publish, slots_get, published]
  | subscribe kind =>
    have seen : d.service.slots.modify kind.Record Slot.subscribe =
        d.service.slots.modify kind.Record fun _ => (d.slots kind).subscribe.map (d.index kind) :=
      PerKind.modify_eq_of_get (by rw [slots_get]; rfl)
    simp only [seen]
    exact d.service_withSlot kind (d.slots kind).subscribe
  | clone kind subscriber =>
    have seen : d.service.slots.modify kind.Record (·.clone subscriber) =
        d.service.slots.modify kind.Record fun _ =>
          ((d.slots kind).clone subscriber).map (d.index kind) :=
      PerKind.modify_eq_of_get (by rw [slots_get, Slot.clone_map])
    simp only [seen]
    exact d.service_withSlot kind ((d.slots kind).clone subscriber)
  | request method target => exact (d.service.handle_fst method target).symm

end Deployment

end HardwareIndex
