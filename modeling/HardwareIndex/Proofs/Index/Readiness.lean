import HardwareIndex.Proofs.Index.Answers

/-!
# Readiness

An index becomes ready once, when one setup publishes its listing, and stays so.
Until then whoever asks waits; in the step in which it becomes ready every
pending call returns, and whoever asked is answered from the entries that this
step leaves behind. Until then, too, if a setup is pending, exactly one setup
lists its store and all others stand behind it.
-/

namespace HardwareIndex

variable {R : Type} [Indexed R]

namespace Run.Reached

variable {steps : List (Step R)} {run : Run R}

/-- Whoever finishes a query is answered from the entries of a ready index. -/
theorem answered (h : Reached steps run) {what : Step R} {id : Nat} {outcome : Outcome R}
    {query : Query} (finished : (id, outcome) ∈ run.session.finished steps.length what)
    (asked : (steps ++ [what])[id]? = some (.ask query)) :
    (run.session.after steps.length what).index.isReady = true ∧
      outcome = Session.answer (run.session.after steps.length what).index query := by
  have coherent := h.coherent.enter h.fresh what
  obtain ⟨stage, member, answers⟩ :=
    Session.settle_answers coherent (id, outcome) ((h.finished_perm what).subset finished)
  obtain ⟨what', place, started⟩ := h.started.enter what id stage member
  cases asked.symm.trans place
  cases started with
  | ask => exact answers query rfl

/-- When the index is ready after a step, all pending calls have finished in it, each once. -/
theorem count_finished (h : Reached steps run) {what : Step R}
    (ready : (run.session.after steps.length what).index.isReady = true) {id : Nat}
    (called : id ∈ run.session.pending ∨ (id = steps.length ∧ what.isCall = true))
    (kept : what ≠ .cancel id) :
    ((run.session.finished steps.length what).map Prod.fst).count id = 1 := by
  have next := h.next what
  have idle : (run.session.after steps.length what).pending = [] := by
    have none := next.coherent.calls_eq_nil next.rest ready
    exact List.map_eq_nil_iff.2 none
  have ledger := h.ledger what
  rw [idle, List.append_nil] at ledger
  have member : id ∈ (run.session.enter steps.length what).pending := by
    apply Session.mem_pending_enter.2
    rcases called with pending | own
    · exact Or.inl ⟨pending, kept⟩
    · exact Or.inr own
  rw [ledger.count_eq]
  exact List.count_eq_one_of_mem (h.coherent.enter h.fresh what).unique member

end Run.Reached

/-- A setup that publishes its listing leaves the last record of each name in it. -/
theorem Entries.insertAll_last (e : Entries R) {records : List R} {r : R} (listed : r ∈ records) :
    (e.insertAll records).1.records[Indexed.name r]? =
      (records.filter fun r' => Indexed.name r' = Indexed.name r).getLast? := by
  rw [insertAll_records]
  have member : r ∈ records.filter fun r' => Indexed.name r' = Indexed.name r := by
    simp [listed]
  cases last : (records.filter fun r' => Indexed.name r' = Indexed.name r).getLast? with
  | none => simp [List.getLast?_eq_none_iff.1 last] at member
  | some last => rfl

namespace Run

/-- Calls that ask return only once the index is ready; in the step in which it becomes ready
    every pending call returns exactly once, and none is pending thereafter; and whoever asked gets
    the one answer that the entries at the end of that step have for the query. The step that makes
    the index ready leaves there the last record of each name in the listing that it publishes. -/
theorem waits_for_readiness (steps : List (Step R)) (what : Step R) :
    let before := (Run.of steps).session
    let after := (Run.of (steps ++ [what])).session
    let done := before.finished steps.length what
    (Run.of (steps ++ [what])).returned = (Run.of steps).returned ++ done ∧
    ((Run.of (steps ++ [what])).returned.map Prod.fst).Nodup ∧
    (∀ (id : Nat) (outcome : Outcome R) (query : Query), (id, outcome) ∈ done →
      (steps ++ [what])[id]? = some (.ask query) →
      after.index.isReady = true ∧ after.index.entries.Answers query outcome) ∧
    (after.index.isReady = true → after.calls = []) ∧
    (after.index.isReady = true → ∀ id : Nat,
      id ∈ before.pending ∨ (id = steps.length ∧ what.isCall = true) → what ≠ .cancel id →
      (done.map Prod.fst).count id = 1) ∧
    (before.index.isReady = false → after.index.isReady = true →
      ∃ (id : Nat) (source : Source R) (l : Listing R),
        (steps ++ [what])[id]? = some (.setup source) ∧ source.listing? = some l ∧
        (id, .report ⟨l.valid.length, l.invalid, false⟩) ∈ done ∧
        ∀ r ∈ l.valid, after.index.entries.records[Indexed.name r]? =
          (l.valid.filter fun r' => Indexed.name r' = Indexed.name r).getLast?) := by
  have reached := reached steps
  have next := reached.next what
  simp only [of_append_singleton]
  refine ⟨rfl, (List.nodup_append.1 next.distinct).1, ?_, ?_, ?_, ?_⟩
  · intro id outcome query finished asked
    obtain ⟨ready, rfl⟩ := reached.answered finished asked
    have consistent := consistent (steps ++ [what])
    rw [of_append_singleton] at consistent
    exact ⟨ready, consistent.answers query⟩
  · intro ready
    exact next.coherent.calls_eq_nil next.rest ready
  · intro ready id called kept
    exact reached.count_finished ready called kept
  · intro unready ready
    cases reached.effect what with
    | quiet same _ _ =>
      have still := ready.symm.trans (same.trans unready)
      cases still
    | publishes id source l place _ listing _ _ entries fresh =>
      refine ⟨id, source, l, place, listing, ?_, ?_⟩
      · apply List.mem_of_mem_filter (p := fun call => call.2.isFresh)
        rw [fresh]
        exact List.mem_singleton_self _
      · intro r listed
        have last := (what.applyTo (Run.of steps).session.index.entries).insertAll_last listed
        rw [← entries] at last
        exact last

/-- A reader waits for an address, and another one for a name that is listed twice. When the gate
    of the setup is opened, both find the record of that name that was listed last. -/
theorem readers_return_with_gate :
    let name : ObjectName := ⟨"lab", "node-1"⟩
    let mac : Mac := ⟨Mac.buffer [0x00, 0xDE, 0x11, 0x64, 0x00, 0x01], 6⟩
    let first : Machine := ⟨name, none, [], .null⟩
    let last : Machine := ⟨name, none, [⟨none, mac, none⟩], .null⟩
    let steps : List (Step Machine) :=
      [.ask (.byMac mac), .ask (.byName name), .setup (.gated [.ok first, .ok last] none)]
    let done := (Run.of steps).session.finished steps.length (.release 2 true)
    (Run.of steps).returned = [] ∧
    (0, .found (some last)) ∈ done ∧ (1, .found (some last)) ∈ done ∧
      ∀ id < 2, (done.map Prod.fst).count id = 1 := by
  intro name mac first last steps done
  let after := (Run.of (steps ++ [.release 2 true])).session
  have unready : (Run.of steps).session.index.isReady = false := by decide +kernel
  have ready : after.index.isReady = true := by decide +kernel
  have pending : ∀ id < 2, id ∈ (Run.of steps).session.pending := by decide +kernel
  obtain ⟨_, _, answers, _, once, published⟩ := waits_for_readiness steps (.release 2 true)
  have count (id : Nat) (below : id < 2) : (done.map Prod.fst).count id = 1 :=
    once ready id (Or.inl (pending id below)) (by rintro ⟨⟩)
  have held : after.index.entries.records[name]? = some last := by
    obtain ⟨id, source, l, place, listing, _, held⟩ := published unready ready
    have setup : source = .gated [.ok first, .ok last] none := by
      simpa [steps] using List.mem_of_getElem? place
    subst setup
    cases listing
    exact held last (List.mem_cons_of_mem first (List.mem_singleton_self last))
  have owner : after.index.entries.macOwners[mac]? = some name := by decide +kernel
  have returned (id : Nat) (below : id < 2) : ∃ outcome, (id, outcome) ∈ done := by
    have member : id ∈ done.map Prod.fst := List.count_pos_iff.1 (by rw [count id below]; decide)
    obtain ⟨⟨_, outcome⟩, returned, rfl⟩ := List.mem_map.1 member
    exact ⟨outcome, returned⟩
  have answered (id : Nat) (below : id < 2) {query : Query} {outcome : Outcome Machine}
      (asked : (steps ++ [.release 2 true])[id]? = some (.ask query))
      (answer : after.index.entries.Answers query outcome) : (id, outcome) ∈ done := by
    obtain ⟨outcome', finished⟩ := returned id below
    rwa [answer.unique (answers id outcome' query finished asked).2]
  refine ⟨List.isEmpty_iff.1 (by decide +kernel), ?_, ?_, count⟩
  · have lists : mac ∈ Indexed.macs last := List.mem_singleton_self mac
    exact answered 0 (by decide) rfl (.owned mac (some last) rfl ⟨owner, held, lists⟩)
  · have answer := Entries.Answers.name (e := after.index.entries) name
    rw [held] at answer
    exact answered 1 (by decide) rfl answer

/-! ## One setup -/

/-- An index is ready exactly after the one setup that has indexed something itself. -/
theorem countP_isFresh (steps : List (Step R)) :
    (Run.of steps).returned.countP (·.2.isFresh) =
      if (Run.of steps).session.index.isReady then 1 else 0 := by
  induction steps using List.reverseRecOn with
  | nil => rfl
  | append_singleton steps what ih =>
    rw [of_append_singleton, next, List.countP_append, ih,
      List.countP_eq_length_filter (l := Session.finished _ _ _)]
    cases (reached steps).effect what with
    | quiet ready _ stale => rw [stale, ready, List.length_nil, Nat.add_zero]
    | publishes id source l _ _ _ unready ready _ fresh =>
      rw [fresh, unready, ready]
      rfl

/-- At most one setup ever reports that it has indexed something itself, and the index is ready
    exactly from then on. Beside the sets and deletes only that setup changes the entries, so a
    setup that fails or is cancelled never does. While a setup is pending, exactly one lists its
    store, the index is initializing, and all others stand behind it in the order in which they
    came; otherwise the lock is free. -/
theorem one_setup_publishes (steps : List (Step R)) :
    let run := Run.of steps
    let s := run.session
    run.returned.countP (·.2.isFresh) ≤ 1 ∧
    s.index.isReady = run.returned.any (·.2.isFresh) ∧
    (∀ what : Step R,
      let after := (Run.of (steps ++ [what])).session
      let done := s.finished steps.length what
      (s.index.isReady = true → after.index.isReady = true) ∧
      (done.any (·.2.isFresh) = false →
        after.index.entries = what.applyTo s.index.entries) ∧
      ∀ (id : Nat) (outcome : Outcome R), (id, outcome) ∈ done → outcome.isFresh = true →
        ∃ (source : Source R) (l : Listing R), (steps ++ [what])[id]? = some (.setup source) ∧
          what ≠ .cancel id ∧ source.listing? = some l ∧
          after.index.entries = ((what.applyTo s.index.entries).insertAll l.valid).1) ∧
    s.AtRest ∧
    (∀ (id : Nat) (stage : CallStage R) (source : Source R), (id, stage) ∈ s.calls →
      stage.source? = some source →
      ∃ (lister : Nat) (listed : Source R), (lister, .listing listed) ∈ s.calls ∧
        s.lock.holder = some lister ∧ listed.arrived? = none ∧ s.index.phase = .initializing ∧
        ∀ (other : Nat) (stage' : CallStage R) (source' : Source R), (other, stage') ∈ s.calls →
          stage'.source? = some source' → other ≠ lister →
          stage' = .queued source' ∧ other ∈ s.lock.row ∧ lister < other) ∧
    ((∀ (id : Nat) (stage : CallStage R), (id, stage) ∈ s.calls → stage.source? = none) →
      s.lock = .free) := by
  have reached := reached steps
  have count := countP_isFresh steps
  refine ⟨?_, ?_, ?_, reached.rest, ?_, ?_⟩
  · rw [count]
    split <;> simp
  · rw [Bool.eq_iff_iff, List.any_eq_true, ← List.countP_pos_iff, count]
    split <;> simp_all
  · intro what
    have effect := reached.effect what
    simp only [of_append_singleton]
    refine ⟨effect.isReady_of_isReady, effect.entries_of_stale, ?_⟩
    intro id outcome finished isFresh
    exact effect.exists_listing_of_fresh finished isFresh
  · intro id stage source pending setup
    exact reached.coherent.one_lists reached.rest pending setup
  · intro none
    exact reached.coherent.lock_free none

/-- Of two setups whose stores are gated one lists its store. -/
theorem one_of_two_setups_lists :
    let steps : List (Step Machine) := [.setup (.gated [] none), .setup (.gated [] none)]
    ∃ lister listed, (lister, .listing listed) ∈ (Run.of steps).session.calls ∧
      (Run.of steps).session.index.phase = .initializing := by
  intro steps
  have pending : (Run.of steps).session.calls.any (fun call => call.2.source?.isSome) = true := by
    decide +kernel
  obtain ⟨⟨id, stage⟩, member, setup⟩ := List.any_eq_true.1 pending
  obtain ⟨source, setup⟩ := Option.isSome_iff_exists.1 setup
  obtain ⟨_, _, _, _, one, _⟩ := one_setup_publishes steps
  obtain ⟨lister, listed, lists, _, _, phase, _⟩ := one id stage source member setup
  exact ⟨lister, listed, lists, phase⟩

end Run

end HardwareIndex
