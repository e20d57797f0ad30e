import HardwareIndex.Proofs.Index.Conflicts

/-!
# What a step tells

The warnings of a step come from the step itself, if it sets a record, or from
the calls that it lets advance: stores that cannot be listed, and one setup that
publishes its listing and tells what it skips and which keys have moved. A ready
index tells nothing but of the records that are set.
-/

namespace HardwareIndex

/-- The warnings of stores that could not be listed. -/
def listingsFailed (kind : RecordKind) (failed : List StoreError) : List Warning :=
  failed.map fun e => .listingFailed kind e.message

namespace Session

variable {R : Type} [Indexed R]

/-- What turns tell: of stores that could not be listed and, if a setup publishes its listing, of
    the objects that it skips and the records that it inserts. -/
inductive Telling (s : Session R) (turn : Turn R) : Prop
  | quiet (failed : List StoreError) : (∀ call ∈ turn.returned, call.2.isFresh = false) →
      turn.warnings = listingsFailed (Indexed.kind R) failed → Telling s turn
  | publishes (failed : List StoreError) (id : Nat) (stage : CallStage R) (source : Source R)
      (l : Listing R) : (id, stage) ∈ s.calls → stage.source? = some source →
      source.arrived? = some (.ok l) → (id, .report (s.index.populate l).2.1) ∈ turn.returned →
      turn.warnings = listingsFailed (Indexed.kind R) failed ++ (s.index.populate l).2.2 →
      Telling s turn

/-- A ready index tells nothing. -/
theorem warnings_of_ready {s : Session R} (h : s.Coherent) (ready : s.index.isReady = true) :
    s.settle.warnings = [] := by
  refine settle_induction (motive := fun s turn => s.Coherent → s.index.isReady = true →
    turn.warnings = []) ?_ ?_ s h ready
  · intro s _ _ _
    rfl
  · intro s turn turns ih h ready
    have ih := ih (h.turn turns)
    obtain ⟨before, id, stage, rest, a, calls, advances⟩ := turns
    have member : (id, stage) ∈ s.calls := by simp [calls]
    cases advances with
    | already source held _ => exact ih ready
    | begins source held unready => cases ready.symm.trans unready
    | publishes source l arrived => cases ready.symm.trans (h.unready_of_listing member)
    | fails source e arrived => cases ready.symm.trans (h.unready_of_listing member)
    | answers query _ => exact ih ready

/-- After a turn that publishes nothing the rest tells what it would have told before. -/
theorem Telling.of_turns {s : Session R} {turn : Turn R} (turns : Turns s turn)
    (failed : List StoreError) (stale : ∀ call ∈ turn.returned, call.2.isFresh = false)
    (entries : turn.session.index.entries = s.index.entries)
    (told : turn.warnings = listingsFailed (Indexed.kind R) failed)
    (rest : Telling turn.session turn.session.settle) :
    Telling s ⟨turn.session.settle.session, turn.returned ++ turn.session.settle.returned,
      turn.warnings ++ turn.session.settle.warnings⟩ := by
  have both (failed' : List StoreError) : listingsFailed (Indexed.kind R) (failed ++ failed') =
      turn.warnings ++ listingsFailed (Indexed.kind R) failed' := by
    rw [told]
    exact List.map_append
  cases rest with
  | quiet failed' stale' told' =>
    refine .quiet (failed ++ failed') ?_ ?_
    · intro call returned
      rcases List.mem_append.1 returned with early | late
      · exact stale call early
      · exact stale' call late
    · rw [both, told']
  | publishes failed' id stage' source l member' setup arrived returned told' =>
    obtain ⟨stage, member, same⟩ := turns.kept member'
    have setup₀ : stage.source? = some source := by
      rcases same with rfl | ⟨_, rfl, rfl⟩ <;> exact setup
    have inserted : turn.session.index.populate l = s.index.populate l := by
      simp only [Index.populate, entries]
    refine .publishes (failed ++ failed') id stage source l member setup₀ arrived
      (List.mem_append_right _ (inserted ▸ returned)) ?_
    rw [both, told', inserted, List.append_assoc]

theorem settle_telling {s : Session R} (h : s.Coherent) : Telling s s.settle := by
  refine settle_induction (motive := fun s turn => s.Coherent → Telling s turn) ?_ ?_ s h
  · intro s _ _
    exact .quiet [] (by simp) rfl
  · intro s turn turns ih h
    have coherent := h.turn turns
    have later := fun failed stale entries told =>
      Telling.of_turns turns failed stale entries told (ih coherent)
    obtain ⟨before, id, stage, rest, a, calls, advances⟩ := turns
    have member : (id, stage) ∈ s.calls := by simp [calls]
    cases advances with
    | already source held ready =>
      apply later [] _ rfl rfl
      simp [Progress.returned, Outcome.isFresh, SetupReport.already]
    | begins source held unready =>
      apply later [] _ rfl rfl
      simp [Progress.returned]
    | publishes source l arrived =>
      have silent := warnings_of_ready coherent rfl
      refine .publishes [] id _ source l member rfl arrived ?_ ?_
      · simp [Progress.returned]
      · rw [silent, List.append_nil]
        rfl
    | fails source e arrived =>
      apply later [e] _ rfl rfl
      simp [Progress.returned, Outcome.isFresh]
    | answers query ready =>
      apply later [] _ rfl rfl
      simp [Progress.returned, isFresh_answer]

end Session

namespace Run

variable {R : Type} [Indexed R]

omit [Indexed R] in
/-- What has come for a setup is what its step was going to list. -/
theorem listing_of_arrived {s : Session R} {steps : List (Step R)} (started : s.Started steps)
    {id : Nat} {stage : CallStage R} {source source₀ : Source R} {l : Listing R}
    (member : (id, stage) ∈ s.calls) (setup : stage.source? = some source)
    (arrived : source.arrived? = some (.ok l)) (place : steps[id]? = some (.setup source₀)) :
    source₀.listing? = some l := by
  obtain ⟨what, place', by_⟩ := started id stage member
  cases place.symm.trans place'
  cases by_ with
  | setup _ source' _ setup' same =>
    cases setup.symm.trans setup'
    rw [← same]
    exact Source.listing?_of_arrived? arrived
  | late => cases setup

/-- An update of an index finishes no call. -/
theorem finished_update (steps : List (Step R)) (u : Update R) :
    (of steps).session.finished steps.length u.toStep = [] := by
  have settled := Session.settle_enter_update (reached steps).rest steps.length u
  have none : ((of steps).session.enter steps.length u.toStep).settle.returned = [] := by
    rw [settled]
  have finished := (reached steps).finished_perm u.toStep
  rw [none] at finished
  exact finished.eq_nil

/-- A step that is no update changes no entries by itself. -/
theorem applyTo_of_not_update {what : Step R} (update : ∀ u : Update R, what ≠ u.toStep)
    (e : Entries R) : what.applyTo e = e := by
  cases what with
  | set record => exact absurd rfl (update (.set record))
  | delete name => exact absurd rfl (update (.delete name))
  | _ => rfl

/-- Setting a record tells what its insertion tells. -/
theorem warnings_set (steps : List (Step R)) (r : R) :
    ((of steps).session.step steps.length (.set r)).2.2.2 =
      ((of steps).session.index.entries.insert r).2 := by
  have settled := Session.settle_enter_update (reached steps).rest steps.length (.set r)
  change _ ++ ((of steps).session.enter steps.length (Update.set r).toStep).settle.warnings = _
  rw [settled, List.append_nil]
  rfl

/-- Any other step tells what the turns of calls tell. -/
theorem warnings_of_ne_set (steps : List (Step R)) {what : Step R}
    (other : ∀ r : R, what ≠ .set r) :
    ((of steps).session.step steps.length what).2.2.2 =
      ((of steps).session.enter steps.length what).settle.warnings := by
  cases what with
  | set record => exact absurd rfl (other record)
  | _ => rfl

/-- The step in which a setup publishes its listing tells of the records that are inserted. -/
theorem tells_of_publication {steps : List (Step R)} {what : Step R} {id : Nat}
    {outcome : Outcome R} (finished : (id, outcome) ∈ (of steps).session.finished steps.length what)
    (isFresh : outcome.isFresh = true) :
    let before := (of steps).session.index.entries
    ∃ (source : Source R) (l : Listing R) (failed : List StoreError) (moved : List Warning),
      (steps ++ [what])[id]? = some (.setup source) ∧ source.listing? = some l ∧
      (of (steps ++ [what])).session.index.entries = (before.insertAll l.valid).1 ∧
      before.TellsAll l.valid moved ∧
      ((of steps).session.step steps.length what).2.2.2 =
        listingsFailed (Indexed.kind R) failed ++
          (l.invalid.map (.invalidSkipped (Indexed.kind R)) ++ moved) := by
  intro before
  let done := (of steps).session.finished steps.length what
  have reached : Reached steps (of steps) := reached steps
  have update (u : Update R) : what ≠ u.toStep := by
    rintro rfl
    rw [finished_update steps u] at finished
    cases finished
  have still := applyTo_of_not_update update before
  have member : (id, outcome) ∈ done.filter (·.2.isFresh) := List.mem_filter.2 ⟨finished, isFresh⟩
  cases reached.effect what with
  | quiet _ _ stale =>
    rw [show done.filter (·.2.isFresh) = [] from stale] at member
    cases member
  | publishes id' source l place _ listing _ _ entries fresh =>
    -- No other call reports in this step that it has indexed something.
    have only {call : Nat × Outcome R} (member : call ∈ done.filter (·.2.isFresh)) :
        call.1 = id' := by
      rw [show done.filter (·.2.isFresh) = _ from fresh] at member
      exact congrArg Prod.fst (List.mem_singleton.1 member)
    obtain rfl : id = id' := only member
    rw [still] at entries
    cases Session.settle_telling (reached.coherent.enter reached.fresh what) with
    | quiet failed stale _ =>
      cases isFresh.symm.trans (stale _ ((reached.finished_perm what).mem_iff.1 finished))
    | publishes failed id' stage source' l' pending setup arrived returned told =>
      have returned := (reached.finished_perm what).mem_iff.2 returned
      obtain rfl : id' = id := only (List.mem_filter.2 ⟨returned, rfl⟩)
      have listing' := listing_of_arrived (reached.started.enter what) pending setup arrived place
      cases listing.symm.trans listing'
      have inserted : ((of steps).session.enter steps.length what).index.entries = before := by
        rw [Session.enter_entries]
        exact still
      refine ⟨source, l, failed, (before.insertAll l.valid).2, place, listing, ?_,
        (consistent steps).tellsAll_insertAll l.valid, ?_⟩
      · rw [of_append_singleton]
        exact entries
      · rw [warnings_of_ne_set steps fun r => update (.set r), told, Index.populate, inserted]

/-- Set a record after any run: of exactly those of its keys that a record of another name lists
    it is told that they have moved, each once, the addresses in the order in which they are first
    listed and after them the identifier, with the record from which each is taken. A setup that
    publishes its listing tells, after the stores that failed before it and the objects that it
    skips, the same of each record that it inserts, on the entries to which that one comes. No
    other step tells of keys. -/
theorem tells_of_moved_keys (steps : List (Step R)) :
    let s := (of steps).session
    let before := s.index.entries
    let warnings (what : Step R) := (s.step steps.length what).2.2.2
    let done (what : Step R) := s.finished steps.length what
    (∀ r : R, before.Tells r (warnings (.set r))) ∧
    (∀ (what : Step R) (id : Nat) (outcome : Outcome R), (id, outcome) ∈ done what →
      outcome.isFresh = true → ∃ (source : Source R) (l : Listing R) (failed : List StoreError)
        (moved : List Warning), (steps ++ [what])[id]? = some (.setup source) ∧
        source.listing? = some l ∧
        (of (steps ++ [what])).session.index.entries = (before.insertAll l.valid).1 ∧
        before.TellsAll l.valid moved ∧
        warnings what = listingsFailed (Indexed.kind R) failed ++
          (l.invalid.map (.invalidSkipped (Indexed.kind R)) ++ moved)) ∧
    ∀ what : Step R, (∀ r : R, what ≠ .set r) → (done what).any (·.2.isFresh) = false →
      ∃ failed : List StoreError, warnings what = listingsFailed (Indexed.kind R) failed := by
  intro s before warnings done
  have reached : Reached steps (of steps) := reached steps
  refine ⟨?_, fun _ _ _ => tells_of_publication, ?_⟩
  · intro r
    have told : warnings (.set r) = (before.insert r).2 := warnings_set steps r
    rw [told]
    exact (consistent steps).tells_insert r
  · intro what other stale
    have told : warnings what = (s.enter steps.length what).settle.warnings :=
      warnings_of_ne_set steps other
    rw [told]
    cases Session.settle_telling (reached.coherent.enter reached.fresh what) with
    | quiet failed _ told => exact ⟨failed, told⟩
    | publishes failed id stage source l _ _ _ returned _ =>
      have finished := (reached.finished_perm what).mem_iff.2 returned
      have fresh := List.any_eq_false.1 stale _ finished
      exact absurd rfl fresh

/-- A setup inserts a machine that lists an address of another one twice, and tells of it once. -/
theorem moved_key_told_once :
    let mac : Mac := ⟨Mac.buffer [0x00, 0xDE, 0x11, 0x64, 0x00, 0x01], 6⟩
    let machine (name : String) (macs : List Mac) : Machine :=
      ⟨⟨"lab", name⟩, none, macs.map fun mac => ⟨none, mac, none⟩, .null⟩
    let session := (of [.set (machine "a" [mac])]).session
    let setup : Step Machine := .setup (.atOnce (.ok [.ok (machine "b" [mac, mac])]))
    let warnings := (session.step 1 setup).2.2.2
    (∃ failed moved, session.index.entries.TellsAll [machine "b" [mac, mac]] moved ∧
      warnings = listingsFailed .machine failed ++ moved) ∧
    warnings.map Warning.text = ["MAC moved to another record " ++
      "kind=machine mac=00:de:11:64:00:01 previous=lab/a object=lab/b"] := by
  intro mac machine session setup warnings
  have done : (session.finished 1 setup).any (fun call => call.2.isFresh) = true := by
    decide +kernel
  obtain ⟨⟨id, outcome⟩, finished, isFresh⟩ := List.any_eq_true.1 done
  have place : id = 1 := by
    have only : ((session.finished 1 setup).all fun call => call.1 == 1) = true := by decide +kernel
    simpa using List.all_eq_true.1 only _ finished
  subst place
  obtain ⟨_, tells, _⟩ := tells_of_moved_keys [.set (machine "a" [mac])]
  obtain ⟨source, l, failed, moved, placed, listing, _, told, warned⟩ :=
    tells setup 1 outcome finished isFresh
  obtain rfl := Step.setup.inj (Option.some.inj placed)
  cases listing
  exact ⟨⟨failed, moved, told, warned⟩, by decide +kernel⟩

end Run

end HardwareIndex
