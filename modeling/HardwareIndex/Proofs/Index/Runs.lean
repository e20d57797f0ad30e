import Mathlib.Data.List.Induction
import HardwareIndex.Proofs.Index.Steps

/-!
# What holds along a run

After any steps the session is coherent and at rest, its pending calls were
started by the steps of their numbers, and no call has returned twice or is
pending after it has returned. What one more step does to the entries and to the
calls follows from what settling does.
-/

namespace HardwareIndex

variable {R : Type} [Indexed R]

/-- What a step does to the entries beside its own change: nothing, or one setup publishes the
    listing of its store. -/
inductive StepEffect (steps : List (Step R)) (s : Session R) (what : Step R) : Prop
  | quiet : (s.after steps.length what).index.isReady = s.index.isReady →
      (s.after steps.length what).index.entries = what.applyTo s.index.entries →
      (s.finished steps.length what).filter (·.2.isFresh) = [] → StepEffect steps s what
  | publishes (id : Nat) (source : Source R) (l : Listing R) :
      (steps ++ [what])[id]? = some (.setup source) → what ≠ .cancel id →
      source.listing? = some l → s.index.isReady = false →
      (s.after steps.length what).index.isReady = true →
      (s.after steps.length what).index.entries =
        ((what.applyTo s.index.entries).insertAll l.valid).1 →
      (s.finished steps.length what).filter (·.2.isFresh) =
        [(id, .report ⟨l.valid.length, l.invalid, false⟩)] → StepEffect steps s what

namespace StepEffect

variable {steps : List (Step R)} {s : Session R} {what : Step R}

/-- An index that is ready stays ready. -/
theorem isReady_of_isReady (effect : StepEffect steps s what) (ready : s.index.isReady = true) :
    (s.after steps.length what).index.isReady = true := by
  cases effect with
  | quiet same _ _ => exact same.trans ready
  | publishes _ _ _ _ _ _ _ ready' _ _ => exact ready'

/-- Where no setup reports that it has indexed something itself, only the step's own change
    touches the entries. -/
theorem entries_of_stale (effect : StepEffect steps s what)
    (stale : (s.finished steps.length what).any (·.2.isFresh) = false) :
    (s.after steps.length what).index.entries = what.applyTo s.index.entries := by
  cases effect with
  | quiet _ entries _ => exact entries
  | publishes id source l _ _ _ _ _ _ fresh =>
    have none : (s.finished steps.length what).filter (·.2.isFresh) = [] := by
      simpa using stale
    cases none.symm.trans fresh

/-- Where a setup reports that it has indexed something itself, its listing has been inserted
    and nothing else. -/
theorem exists_listing_of_fresh (effect : StepEffect steps s what) {id : Nat} {outcome : Outcome R}
    (finished : (id, outcome) ∈ s.finished steps.length what) (isFresh : outcome.isFresh = true) :
    ∃ (source : Source R) (l : Listing R), (steps ++ [what])[id]? = some (.setup source) ∧
      what ≠ .cancel id ∧ source.listing? = some l ∧
      (s.after steps.length what).index.entries =
        ((what.applyTo s.index.entries).insertAll l.valid).1 := by
  have member : (id, outcome) ∈ (s.finished steps.length what).filter (·.2.isFresh) :=
    List.mem_filter.2 ⟨finished, isFresh⟩
  cases effect with
  | quiet _ _ stale =>
    rw [stale] at member
    cases member
  | publishes id' source l place kept listing _ _ entries fresh =>
    rw [fresh] at member
    cases List.mem_singleton.1 member
    exact ⟨source, l, place, kept, listing, entries⟩

end StepEffect

namespace Run

/-- What holds of a run after some steps. -/
structure Reached (steps : List (Step R)) (run : Run R) : Prop where
  coherent : run.session.Coherent
  rest : run.session.AtRest
  started : run.session.Started steps
  past : ∀ call ∈ run.returned, call.1 < steps.length
  distinct : (run.returned.map Prod.fst ++ run.session.pending).Nodup

namespace Reached

variable {steps : List (Step R)} {run : Run R}

theorem start : Reached ([] : List (Step R)) Run.start := by
  refine ⟨⟨?_, FairLock.tight_free, ?_, ?_, ?_⟩, ?_, ?_, ?_, ?_⟩ <;>
    simp [Run.start, Session.new, Session.pending, Session.AtRest, Session.Started, FairLock.free,
      FairLock.members]

/-- The next call has a number above all pending ones. -/
theorem fresh (h : Reached steps run) : ∀ other ∈ run.session.pending, other < steps.length := by
  intro other pending
  obtain ⟨⟨n, stage⟩, member, rfl⟩ := List.mem_map.1 pending
  obtain ⟨what, place, _⟩ := h.started n stage member
  exact (List.getElem?_eq_some_iff.1 place).1

theorem finished_perm (h : Reached steps run) (what : Step R) :
    (run.session.finished steps.length what).Perm
      (run.session.enter steps.length what).settle.returned :=
  Session.finished_perm h.coherent h.fresh what

/-- The calls that finish in a step and those left pending were pending when it settled. -/
theorem ledger (h : Reached steps run) (what : Step R) :
    ((run.session.finished steps.length what).map Prod.fst ++
      (run.session.after steps.length what).pending).Perm
      (run.session.enter steps.length what).pending :=
  (((h.finished_perm what).map Prod.fst).append_right _).trans
    (Session.settle_returned_append_pending _)

theorem next (h : Reached steps run) (what : Step R) :
    Reached (steps ++ [what]) (run.next steps.length what) := by
  have coherent := h.coherent.enter h.fresh what
  have ledger := h.ledger what
  refine ⟨coherent.settle, Session.settle_atRest _, (h.started.enter what).settle, ?_, ?_⟩
  · intro call returned
    rw [List.length_append, List.length_singleton]
    rcases List.mem_append.1 returned with old | new
    · have below := h.past call old
      omega
    · have pending := ledger.subset (List.mem_append_left _ (List.mem_map.2 ⟨call, new, rfl⟩))
      rcases Session.mem_pending_enter.1 pending with ⟨earlier, _⟩ | ⟨own, _⟩
      · have below := h.fresh call.1 earlier
        omega
      · omega
  · have apart := h.distinct
    rw [Run.next, List.map_append, List.append_assoc, (ledger.append_left _).nodup_iff]
    rw [List.nodup_append] at apart ⊢
    refine ⟨apart.1, coherent.unique, ?_⟩
    rintro n returned m pending rfl
    rcases Session.mem_pending_enter.1 pending with ⟨earlier, _⟩ | ⟨own, _⟩
    · exact apart.2.2 n returned n earlier rfl
    · obtain ⟨call, member, rfl⟩ := List.mem_map.1 returned
      have below := h.past call member
      omega

theorem effect (h : Reached steps run) (what : Step R) : StepEffect steps run.session what := by
  have returned := (h.finished_perm what).filter fun call => call.2.isFresh
  have ready := Session.enter_isReady run.session steps.length what
  have entries := Session.enter_entries run.session steps.length what
  cases Session.settle_effect (h.coherent.enter h.fresh what) with
  | quiet ready' entries' stale =>
    refine .quiet (ready'.trans ready) (entries'.trans entries) ?_
    have none :
        (run.session.enter steps.length what).settle.returned.filter (·.2.isFresh) = [] := by
      simpa using stale
    rw [none] at returned
    exact returned.eq_nil
  | publishes id stage source l member setup arrived unready ready' entries' fresh =>
    obtain ⟨what', place, started⟩ := h.started.enter what id stage member
    cases started with
    | setup source₀ source' stage setup' same =>
      cases setup.symm.trans setup'
      have kept : what ≠ .cancel id := by
        rintro rfl
        have pending := Session.mem_pending_enter.1 (List.mem_map.2 ⟨_, member, rfl⟩)
        rcases pending with ⟨_, other⟩ | ⟨_, call⟩
        · exact other rfl
        · cases call
      have listing := same.symm.trans (Source.listing?_of_arrived? arrived)
      refine .publishes id source₀ l place kept listing (ready.symm.trans unready) ready'
        (entries'.trans (by rw [entries])) ?_
      rw [fresh] at returned
      exact List.perm_singleton.1 returned
    | late source => cases setup
    | ask query => cases setup

end Reached

theorem reached (steps : List (Step R)) : Reached steps (Run.of steps) := by
  induction steps using List.reverseRecOn with
  | nil => exact Reached.start
  | append_singleton steps what ih =>
    rw [of_append_singleton]
    exact ih.next what

/-- An index that is ready stays ready. -/
theorem isReady_append {steps : List (Step R)} (ready : (of steps).session.index.isReady = true)
    (later : List (Step R)) :
    (of (steps ++ later)).session.index.isReady = true := by
  induction later using List.reverseRecOn with
  | nil => rwa [List.append_nil]
  | append_singleton later what ih =>
    rw [← List.append_assoc, of_append_singleton]
    exact ((reached _).effect what).isReady_of_isReady ih

end Run

end HardwareIndex
