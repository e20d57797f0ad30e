import HardwareIndex.Proofs.Index.Coherence

/-!
# What settling does

Settling returns calls and keeps the others, none twice and none lost. It
changes the entries in one way only: a setup whose listing has come inserts it
and makes the index ready. That happens at most once, since nobody lists on a
ready index; whoever is answered is answered from the entries at the end.
-/

namespace HardwareIndex

/-- A setup reports what it has indexed itself. -/
def Outcome.isFresh {R : Type} : Outcome R → Bool
  | .report r => !r.alreadyInitialized
  | _ => false

namespace Session

variable {R : Type} [Indexed R]

/-- Answers depend on the entries alone. -/
theorem answer_congr {index index' : Index R} (same : index.entries = index'.entries)
    (query : Query) : answer index query = answer index' query := by
  cases query <;> simp only [answer, same]

theorem isFresh_answer (index : Index R) (query : Query) :
    (answer index query).isFresh = false := by
  cases query <;> rfl

/-! ## Calls -/

/-- A turn returns a call or keeps it. -/
theorem Turns.returned_append_pending {s : Session R} {turn : Turn R} (turns : Turns s turn) :
    (turn.returned.map Prod.fst ++ turn.session.pending).Perm s.pending := by
  obtain ⟨before, id, stage, rest, a, calls, _⟩ := turns
  have placed : (before ++ (id, stage) :: rest).Perm ((id, stage) :: (before ++ rest)) :=
    List.perm_middle
  cases progress : a.progress with
  | standsAt stage' =>
    simp only [Progress.returned, Progress.left, pending, calls, List.map_nil, List.nil_append,
      List.singleton_append, List.map_append, List.map_cons]
    exact .refl _
  | returns outcome =>
    simpa [Progress.returned, Progress.left, pending, calls] using (placed.map Prod.fst).symm

theorem settle_returned_append_pending (s : Session R) :
    (s.settle.returned.map Prod.fst ++ s.settle.session.pending).Perm s.pending := by
  refine settle_induction (motive := fun s turn =>
    (turn.returned.map Prod.fst ++ turn.session.pending).Perm s.pending) ?_ ?_ s
  · intro s _
    exact .refl _
  · intro s turn turns ih
    rw [List.map_append, List.append_assoc]
    exact (ih.append_left _).trans turns.returned_append_pending

/-- A call that a turn keeps stands where it stood, or has begun to list. -/
theorem Turns.kept {s : Session R} {turn : Turn R} (turns : Turns s turn) {id : Nat}
    {stage' : CallStage R} (member : (id, stage') ∈ turn.session.calls) :
    ∃ stage, (id, stage) ∈ s.calls ∧
      (stage = stage' ∨ ∃ source, stage = .queued source ∧ stage' = .listing source) := by
  obtain ⟨before, mover, stage, rest, a, calls, advances⟩ := turns
  rcases List.mem_append.1 member with early | late
  · exact ⟨stage', by simp [calls, early], Or.inl rfl⟩
  · rcases List.mem_append.1 late with moved | later
    · cases advances with
      | begins source held unready =>
        cases List.mem_singleton.1 moved
        exact ⟨.queued source, by simp [calls], Or.inr ⟨source, rfl, rfl⟩⟩
      | already => cases moved
      | publishes => cases moved
      | fails => cases moved
      | answers => cases moved
    · exact ⟨stage', by simp [calls, later], Or.inl rfl⟩

theorem settle_kept (s : Session R) : ∀ (id : Nat) (stage' : CallStage R),
    (id, stage') ∈ s.settle.session.calls → ∃ stage, (id, stage) ∈ s.calls ∧
      (stage = stage' ∨ ∃ source, stage = .queued source ∧ stage' = .listing source) := by
  refine settle_induction (motive := fun s turn => ∀ (id : Nat) (stage' : CallStage R),
    (id, stage') ∈ turn.session.calls → ∃ stage, (id, stage) ∈ s.calls ∧
      (stage = stage' ∨ ∃ source, stage = .queued source ∧ stage' = .listing source)) ?_ ?_ s
  · intro s _ id stage' member
    exact ⟨stage', member, Or.inl rfl⟩
  · intro s turn turns ih id stage' member
    obtain ⟨stage₁, member₁, same | ⟨source, rfl, rfl⟩⟩ := ih id stage' member
    · subst same
      exact turns.kept member₁
    · obtain ⟨stage, member, same | ⟨source', _, listing⟩⟩ := turns.kept member₁
      · exact ⟨stage, member, Or.inr ⟨source, same, rfl⟩⟩
      · cases listing

/-! ## Entries -/

/-- What turns do to the entries: nothing, or one setup publishes its listing. -/
inductive Effect (s : Session R) (turn : Turn R) : Prop
  | quiet : turn.session.index.isReady = s.index.isReady →
      turn.session.index.entries = s.index.entries →
      (∀ call ∈ turn.returned, call.2.isFresh = false) → Effect s turn
  | publishes (id : Nat) (stage : CallStage R) (source : Source R) (l : Listing R) :
      (id, stage) ∈ s.calls → stage.source? = some source → source.arrived? = some (.ok l) →
      s.index.isReady = false → turn.session.index.isReady = true →
      turn.session.index.entries = (s.index.entries.insertAll l.valid).1 →
      turn.returned.filter (·.2.isFresh) =
        [(id, .report ⟨l.valid.length, l.invalid, false⟩)] → Effect s turn

omit [Indexed R] in
/-- Who lists does so on an index that is not ready. -/
theorem Coherent.unready_of_listing {s : Session R} (h : s.Coherent) {id : Nat}
    {source : Source R} (listing : (id, .listing source) ∈ s.calls) : s.index.isReady = false := by
  have phase := (h.lists id source listing).2
  simp [Index.isReady, phase]

theorem effect_of_turns {s : Session R} (h : s.Coherent) {turn : Turn R} (turns : Turns s turn) :
    Effect s turn := by
  obtain ⟨before, id, stage, rest, a, calls, advances⟩ := turns
  have member : (id, stage) ∈ s.calls := by simp [calls]
  cases advances with
  | already source held ready =>
    refine .quiet rfl rfl ?_
    intro call returned
    cases List.mem_singleton.1 returned
    rfl
  | begins source held unready =>
    refine .quiet ?_ rfl ?_
    · rw [unready]
      rfl
    · intro call returned
      cases returned
  | publishes source l arrived =>
    exact .publishes id _ source l member rfl arrived (h.unready_of_listing member) rfl rfl rfl
  | fails source e arrived =>
    refine .quiet ?_ rfl ?_
    · rw [h.unready_of_listing member]
      rfl
    · intro call returned
      cases List.mem_singleton.1 returned
      rfl
  | answers query ready =>
    refine .quiet rfl rfl ?_
    intro call returned
    cases List.mem_singleton.1 returned
    exact isFresh_answer s.index query

theorem settle_effect {s : Session R} (h : s.Coherent) : Effect s s.settle := by
  refine settle_induction (motive := fun s turn => s.Coherent → Effect s turn) ?_ ?_ s h
  · intro s _ _
    exact .quiet rfl rfl (by simp)
  · intro s turn turns ih h
    have first := effect_of_turns h turns
    have second := ih (h.turn turns)
    cases first with
    | quiet ready entries stale =>
      have none : turn.returned.filter (·.2.isFresh) = [] := by simpa using stale
      cases second with
      | quiet ready' entries' stale' =>
        refine .quiet (ready'.trans ready) (entries'.trans entries) ?_
        intro call returned
        rcases List.mem_append.1 returned with early | late
        · exact stale call early
        · exact stale' call late
      | publishes id stage' source l member' setup arrived unready ready' entries' fresh =>
        obtain ⟨stage, member, same⟩ := turns.kept member'
        have setup₀ : stage.source? = some source := by
          rcases same with rfl | ⟨_, rfl, rfl⟩ <;> exact setup
        refine .publishes id stage source l member setup₀ arrived (ready.symm.trans unready) ready'
          (by rw [entries', entries]) ?_
        rw [List.filter_append, none, fresh, List.nil_append]
    | publishes id stage source l member setup arrived unready ready entries fresh =>
      cases second with
      | quiet ready' entries' stale' =>
        have none : turn.session.settle.returned.filter (·.2.isFresh) = [] := by simpa using stale'
        refine .publishes id stage source l member setup arrived unready (ready'.trans ready)
          (entries'.trans entries) ?_
        rw [List.filter_append, none, fresh, List.append_nil]
      | publishes id' stage' source' l' member' setup' arrived' unready' ready' entries' fresh' =>
        -- A second one would have listed on an index that is ready.
        exact absurd (ready.symm.trans unready') (by simp)

/-- A ready index is left alone. -/
theorem settle_of_ready {s : Session R} (h : s.Coherent) (ready : s.index.isReady = true) :
    s.settle.session.index.isReady = true ∧ s.settle.session.index.entries = s.index.entries := by
  cases settle_effect h with
  | quiet same entries _ => exact ⟨same.trans ready, entries⟩
  | publishes id stage source l member setup arrived unready =>
    exact absurd (ready.symm.trans unready) (by simp)

/-! ## Answers -/

/-- Whoever returns was pending; if it waited, it is answered from the entries at the end. -/
theorem settle_answers {s : Session R} (h : s.Coherent) : ∀ call ∈ s.settle.returned,
    ∃ stage, (call.1, stage) ∈ s.calls ∧ ∀ query, stage = .waiting query →
      s.settle.session.index.isReady = true ∧ call.2 = answer s.settle.session.index query := by
  refine settle_induction (motive := fun s turn => s.Coherent → ∀ call ∈ turn.returned,
    ∃ stage, (call.1, stage) ∈ s.calls ∧ ∀ query, stage = .waiting query →
      turn.session.index.isReady = true ∧ call.2 = answer turn.session.index query) ?_ ?_ s h
  · intro s _ _ call returned
    cases returned
  · intro s turn turns ih h call returned
    have coherent := h.turn turns
    rcases List.mem_append.1 returned with now | later
    · obtain ⟨before, id, stage, rest, a, calls, advances⟩ := turns
      have member : (id, stage) ∈ s.calls := by simp [calls]
      cases advances with
      | begins source held unready => cases now
      | already source held ready =>
        cases List.mem_singleton.1 now
        exact ⟨_, member, nofun⟩
      | publishes source l arrived =>
        cases List.mem_singleton.1 now
        exact ⟨_, member, nofun⟩
      | fails source e arrived =>
        cases List.mem_singleton.1 now
        exact ⟨_, member, nofun⟩
      | answers query ready =>
        cases List.mem_singleton.1 now
        refine ⟨_, member, ?_⟩
        rintro _ ⟨⟩
        obtain ⟨still, entries⟩ := settle_of_ready coherent ready
        exact ⟨still, answer_congr entries.symm query⟩
    · obtain ⟨stage', member', answered⟩ := ih coherent call later
      obtain ⟨stage, member, same⟩ := turns.kept member'
      refine ⟨stage, member, ?_⟩
      intro query waiting
      rcases same with rfl | ⟨source, rfl, rfl⟩
      · exact answered query waiting
      · cases waiting

end Session

end HardwareIndex
