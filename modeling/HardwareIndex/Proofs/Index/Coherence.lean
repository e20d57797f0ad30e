import Mathlib.Data.List.Nodup
import HardwareIndex.Proofs.Index.Turns

/-!
# Coherent sessions

What ties the phase, the lock and the pending calls of a session together: the
lock and its row are the pending setups, earlier ones first, and a setup that
lists holds the lock of an index that is initializing. Every turn and every step
keeps this. Of a coherent session at rest it follows that nothing is pending
once the index is ready, and that otherwise one pending setup lists its store
and all others stand behind it.
-/

namespace HardwareIndex

namespace Session

variable {R : Type}

/-- The phase, the lock and the calls of a session fit together. -/
structure Coherent (s : Session R) : Prop where
  /-- No two pending calls have one number. -/
  unique : s.pending.Nodup
  tight : s.lock.Tight
  /-- Those who came first have the lock first. -/
  ordered : s.lock.members.Pairwise (· < ·)
  /-- The members of the lock are the pending setups. -/
  waits : ∀ id : Nat, id ∈ s.lock.members ↔
    ∃ stage source, (id, stage) ∈ s.calls ∧ stage.source? = some source
  /-- Only the holder of the lock lists, and while it does the index is initializing. -/
  lists : ∀ (id : Nat) (source : Source R), (id, .listing source) ∈ s.calls →
    s.lock.holder = some id ∧ s.index.phase = .initializing

namespace Coherent

variable {s : Session R} {before rest : List (Nat × CallStage R)} {id : Nat} {stage : CallStage R}

theorem eq_of_mem (h : s.Coherent) {stage' : CallStage R} (member : (id, stage) ∈ s.calls)
    (member' : (id, stage') ∈ s.calls) : stage = stage' :=
  (Prod.mk.inj (List.inj_on_of_nodup_map h.unique member member' rfl)).2

/-- The other calls are those with other numbers. -/
theorem mem_others_iff (h : s.Coherent) (calls : s.calls = before ++ (id, stage) :: rest)
    {other : Nat × CallStage R} :
    other ∈ before ++ rest ↔ other ∈ s.calls ∧ other.1 ≠ id := by
  have unique := h.unique
  rw [pending, calls, (List.perm_middle.map Prod.fst).nodup_iff, List.map_cons,
    List.nodup_cons] at unique
  rw [calls, List.perm_middle.mem_iff, List.mem_cons]
  constructor
  · intro member
    refine ⟨Or.inr member, ?_⟩
    rintro rfl
    exact unique.1 (List.mem_map.2 ⟨other, member, rfl⟩)
  · rintro ⟨rfl | member, different⟩
    · exact absurd rfl different
    · exact member

theorem others_unique (h : s.Coherent) (calls : s.calls = before ++ (id, stage) :: rest) :
    ((before ++ rest).map Prod.fst).Nodup := by
  have unique := h.unique
  rw [pending, calls, (List.perm_middle.map Prod.fst).nodup_iff, List.map_cons] at unique
  exact (List.nodup_cons.1 unique).2

/-! ## Turns -/

/-- The holder of the lock returns and lets go of it. -/
theorem returns_holder (h : s.Coherent) (calls : s.calls = before ++ (id, stage) :: rest)
    (held : s.lock.holder = some id) (index : Index R) :
    Coherent ⟨index, s.lock.release, before ++ rest⟩ := by
  have members := FairLock.members_release held
  have ordered := h.ordered
  rw [members, List.pairwise_cons] at ordered
  have gone : id ∉ s.lock.release.members := fun member => Nat.lt_irrefl id (ordered.1 id member)
  refine ⟨h.others_unique calls, FairLock.tight_release s.lock, ordered.2, ?_, ?_⟩
  · intro other
    have waits := h.waits other
    rw [members, List.mem_cons] at waits
    constructor
    · intro member
      obtain ⟨stage', source, pending, setup⟩ := waits.1 (Or.inr member)
      have different : other ≠ id := fun same => gone (same ▸ member)
      exact ⟨stage', source, (h.mem_others_iff calls).2 ⟨pending, different⟩, setup⟩
    · rintro ⟨stage', source, pending, setup⟩
      obtain ⟨pending, different⟩ := (h.mem_others_iff calls).1 pending
      rcases waits.2 ⟨stage', source, pending, setup⟩ with same | member
      · exact absurd same different
      · exact member
  · intro other source listing
    obtain ⟨pending, different⟩ := (h.mem_others_iff calls).1 listing
    have holds := (h.lists other source pending).1
    exact absurd (Option.some.inj (holds.symm.trans held)) different

/-- The holder of the lock begins to list. -/
theorem begins_listing (h : s.Coherent) {source : Source R}
    (calls : s.calls = before ++ (id, .queued source) :: rest) (held : s.lock.holder = some id) :
    Coherent ⟨s.index.begin, s.lock, before ++ (id, .listing source) :: rest⟩ := by
  have mem_iff : ∀ other : Nat × CallStage R,
      other ∈ before ++ (id, .listing source) :: rest ↔
        other = (id, .listing source) ∨ (other ∈ s.calls ∧ other.1 ≠ id) := by
    intro other
    rw [List.perm_middle.mem_iff, List.mem_cons, h.mem_others_iff calls]
  have queued : (id, .queued source) ∈ s.calls := by simp [calls]
  refine ⟨?_, h.tight, h.ordered, ?_, ?_⟩
  · simpa [pending, calls] using h.unique
  · intro other
    rw [h.waits other]
    constructor
    · rintro ⟨stage', source', pending, setup⟩
      by_cases same : other = id
      · subst same
        exact ⟨.listing source, source, (mem_iff _).2 (Or.inl rfl), rfl⟩
      · exact ⟨stage', source', (mem_iff _).2 (Or.inr ⟨pending, same⟩), setup⟩
    · rintro ⟨stage', source', pending, setup⟩
      rcases (mem_iff _).1 pending with same | ⟨pending, _⟩
      · cases same
        exact ⟨.queued source, source, queued, rfl⟩
      · exact ⟨stage', source', pending, setup⟩
  · intro other source' listing
    rcases (mem_iff _).1 listing with same | ⟨pending, different⟩
    · cases same
      exact ⟨held, rfl⟩
    · have holds := (h.lists other source' pending).1
      exact absurd (Option.some.inj (holds.symm.trans held)) different

/-- A call that is no setup returns. -/
theorem returns_waiting (h : s.Coherent) {query : Query}
    (calls : s.calls = before ++ (id, .waiting query) :: rest) :
    Coherent ⟨s.index, s.lock, before ++ rest⟩ := by
  have waiting : (id, .waiting query) ∈ s.calls := by simp [calls]
  refine ⟨h.others_unique calls, h.tight, h.ordered, ?_, ?_⟩
  · intro other
    rw [h.waits other]
    constructor
    · rintro ⟨stage', source, pending, setup⟩
      refine ⟨stage', source, (h.mem_others_iff calls).2 ⟨pending, ?_⟩, setup⟩
      rintro rfl
      cases h.eq_of_mem waiting pending
      cases setup
    · rintro ⟨stage', source, pending, setup⟩
      exact ⟨stage', source, ((h.mem_others_iff calls).1 pending).1, setup⟩
  · intro other source listing
    exact h.lists other source ((h.mem_others_iff calls).1 listing).1

/-! ## Steps -/

theorem adds_waiting (h : s.Coherent) (fresh : ∀ other ∈ s.pending, other < id) (query : Query) :
    Coherent { s with calls := s.calls ++ [(id, .waiting query)] } := by
  have mem_iff : ∀ (other : Nat) (stage : CallStage R) (source : Source R),
      stage.source? = some source →
      ((other, stage) ∈ s.calls ++ [(id, .waiting query)] ↔ (other, stage) ∈ s.calls) := by
    intro other stage source setup
    rw [List.mem_append, List.mem_singleton]
    refine or_iff_left fun same => ?_
    cases same
    cases setup
  refine ⟨?_, h.tight, h.ordered, ?_, ?_⟩
  · rw [pending, List.map_append, List.nodup_append]
    refine ⟨h.unique, by simp, ?_⟩
    intro other member new isNew same
    have below := fresh other member
    simp only [List.map_cons, List.map_nil, List.mem_singleton] at isNew
    omega
  · intro other
    rw [h.waits other]
    constructor
    · rintro ⟨stage, source, pending, setup⟩
      exact ⟨stage, source, (mem_iff other stage source setup).2 pending, setup⟩
    · rintro ⟨stage, source, pending, setup⟩
      exact ⟨stage, source, (mem_iff other stage source setup).1 pending, setup⟩
  · intro other source listing
    exact h.lists other source ((mem_iff other (.listing source) source rfl).1 listing)

theorem adds_queued (h : s.Coherent) (fresh : ∀ other ∈ s.pending, other < id)
    (source : Source R) :
    Coherent { s with lock := s.lock.request id, calls := s.calls ++ [(id, .queued source)] } := by
  have pendingMember : ∀ other ∈ s.lock.members, other ∈ s.pending := by
    intro other member
    obtain ⟨stage, _, pending, _⟩ := (h.waits other).1 member
    exact List.mem_map.2 ⟨(other, stage), pending, rfl⟩
  refine ⟨?_, h.tight.request id, ?_, ?_, ?_⟩
  · rw [pending, List.map_append, List.nodup_append]
    refine ⟨h.unique, by simp, ?_⟩
    intro other member new isNew same
    have below := fresh other member
    simp only [List.map_cons, List.map_nil, List.mem_singleton] at isNew
    omega
  · rw [h.tight.members_request, List.pairwise_append]
    refine ⟨h.ordered, List.pairwise_singleton _ _, ?_⟩
    intro other member new isNew
    rw [List.mem_singleton] at isNew
    exact isNew ▸ fresh other (pendingMember other member)
  · intro other
    rw [h.tight.members_request, List.mem_append, List.mem_singleton, h.waits other]
    constructor
    · rintro (⟨stage, source', pending, setup⟩ | rfl)
      · exact ⟨stage, source', List.mem_append_left _ pending, setup⟩
      · exact ⟨.queued source, source, by simp, rfl⟩
    · rintro ⟨stage, source', pending, setup⟩
      rcases List.mem_append.1 pending with old | new
      · exact Or.inl ⟨stage, source', old, setup⟩
      · rw [List.mem_singleton] at new
        cases new
        exact Or.inr rfl
  · intro other source' listing
    rcases List.mem_append.1 listing with old | new
    · obtain ⟨held, phase⟩ := h.lists other source' old
      refine ⟨?_, phase⟩
      simp [FairLock.request, held]
    · rw [List.mem_singleton] at new
      cases new

theorem opens_gate (h : s.Coherent) (target : Nat) (succeed : Bool) :
    Coherent { s with calls := s.calls.map fun (n, stage) =>
      (n, if n = target then stage.openGate succeed else stage) } := by
  have setup_iff : ∀ stage : CallStage R,
      (∃ source, (stage.openGate succeed).source? = some source) ↔
        ∃ source, stage.source? = some source := by
    intro stage
    cases stage <;> simp [CallStage.openGate, CallStage.source?]
  refine ⟨?_, h.tight, h.ordered, ?_, ?_⟩
  · simpa [pending, Function.comp_def] using h.unique
  · intro other
    rw [h.waits other]
    constructor
    · rintro ⟨stage, source, pending, setup⟩
      have opened : ∃ source', (if other = target then stage.openGate succeed else stage).source? =
          some source' := by
        split
        · exact (setup_iff stage).2 ⟨source, setup⟩
        · exact ⟨source, setup⟩
      obtain ⟨source', setup'⟩ := opened
      exact ⟨_, source', List.mem_map.2 ⟨(other, stage), pending, rfl⟩, setup'⟩
    · rintro ⟨stage', source', opened, setup'⟩
      obtain ⟨⟨n, stage⟩, pending, same⟩ := List.mem_map.1 opened
      cases same
      split at setup'
      · obtain ⟨source, setup⟩ := (setup_iff stage).1 ⟨source', setup'⟩
        exact ⟨stage, source, pending, setup⟩
      · exact ⟨stage, source', pending, setup'⟩
  · intro other source' opened
    obtain ⟨⟨n, stage⟩, pending, same⟩ := List.mem_map.1 opened
    obtain ⟨rfl, same⟩ := Prod.mk.inj same
    cases stage with
    | queued source => by_cases target' : n = target <;> simp [target', CallStage.openGate] at same
    | listing source => exact h.lists n source pending
    | waiting query => by_cases target' : n = target <;> simp [target', CallStage.openGate] at same

theorem drops (h : s.Coherent) (target : Nat) :
    Coherent { s with
      lock := s.lock.withdraw target
      calls := s.calls.filter (·.1 != target) } := by
  have distinct : s.lock.members.Nodup := h.ordered.imp fun less => Nat.ne_of_lt less
  have mem_iff : ∀ call : Nat × CallStage R,
      call ∈ s.calls.filter (·.1 != target) ↔ call ∈ s.calls ∧ call.1 ≠ target := by
    simp
  refine ⟨?_, h.tight.withdraw target, ?_, ?_, ?_⟩
  · exact h.unique.sublist (List.filter_sublist.map Prod.fst)
  · rw [FairLock.members_withdraw target distinct]
    exact h.ordered.filter _
  · intro other
    rw [FairLock.members_withdraw target distinct, List.mem_filter, h.waits other]
    constructor
    · rintro ⟨⟨stage, source, pending, setup⟩, different⟩
      exact ⟨stage, source, (mem_iff _).2 ⟨pending, by simpa using different⟩, setup⟩
    · rintro ⟨stage, source, kept, setup⟩
      obtain ⟨pending, different⟩ := (mem_iff _).1 kept
      exact ⟨⟨stage, source, pending, setup⟩, by simpa using different⟩
  · intro other source kept
    obtain ⟨pending, different⟩ := (mem_iff _).1 kept
    obtain ⟨held, phase⟩ := h.lists other source pending
    refine ⟨?_, phase⟩
    have apart : other ≠ target := different
    simp [FairLock.withdraw, held, apart]

theorem changes_entries (h : s.Coherent) (entries : Entries R) :
    Coherent { s with index := { s.index with entries } } :=
  ⟨h.unique, h.tight, h.ordered, h.waits, h.lists⟩

variable [Indexed R]

theorem turn (h : s.Coherent) {turn : Turn R} (turns : Turns s turn) : turn.session.Coherent := by
  obtain ⟨before, id, stage, rest, a, calls, advances⟩ := turns
  cases advances with
  | already source held ready => exact h.returns_holder calls held _
  | begins source held unready => exact h.begins_listing calls held
  | publishes source l arrived =>
    have held := (h.lists id source (by simp [calls])).1
    exact h.returns_holder calls held _
  | fails source e arrived =>
    have held := (h.lists id source (by simp [calls])).1
    exact h.returns_holder calls held _
  | answers query ready => exact h.returns_waiting calls

theorem settle (h : s.Coherent) : s.settle.session.Coherent :=
  settle_induction (motive := fun s turn => s.Coherent → turn.session.Coherent)
    (fun _ _ h => h) (fun _ _ turns ih h => ih (h.turn turns)) s h

/-- A step whose call has a number above all pending ones keeps a session coherent. -/
theorem enter (h : s.Coherent) (fresh : ∀ other ∈ s.pending, other < id) (what : Step R) :
    (s.enter id what).Coherent := by
  cases what with
  | setup source =>
    simp only [Session.enter]
    split
    · exact h.adds_waiting fresh .setup
    · exact h.adds_queued fresh source
  | ask query => exact h.adds_waiting fresh query
  | release target succeed => exact h.opens_gate target succeed
  | cancel target => exact h.drops target
  | set record => exact h.changes_entries _
  | delete name => exact h.changes_entries _

/-! ## Rest -/

omit [Indexed R] in
/-- Where a setup is pending, one setup holds the lock. -/
theorem exists_holder (h : s.Coherent) {source : Source R} (pending : (id, stage) ∈ s.calls)
    (setup : stage.source? = some source) :
    ∃ holder stage' source', s.lock.holder = some holder ∧ (holder, stage') ∈ s.calls ∧
      stage'.source? = some source' := by
  have member := (h.waits id).2 ⟨stage, source, pending, setup⟩
  cases held : s.lock.holder with
  | none => simp [FairLock.members, held, h.tight held] at member
  | some holder =>
    obtain ⟨stage', source', pending', setup'⟩ :=
      (h.waits holder).1 (by simp [FairLock.members, held])
    exact ⟨holder, stage', source', rfl, pending', setup'⟩

omit [Indexed R] in
/-- Where no setup is pending, nobody holds the lock. -/
theorem lock_free (h : s.Coherent)
    (none : ∀ (id : Nat) (stage : CallStage R), (id, stage) ∈ s.calls → stage.source? = none) :
    s.lock = .free := by
  have empty : s.lock.members = [] := by
    rw [List.eq_nil_iff_forall_not_mem]
    intro id member
    obtain ⟨stage, source, pending, setup⟩ := (h.waits id).1 member
    cases (none id stage pending).symm.trans setup
  exact FairLock.eq_free_of_members empty

/-- No call is pending at rest once the index is ready. -/
theorem calls_eq_nil (h : s.Coherent) (rest : s.AtRest) (ready : s.index.isReady = true) :
    s.calls = [] := by
  apply List.eq_nil_iff_forall_not_mem.2
  rintro ⟨id, stage⟩ pending
  cases setup : stage.source? with
  | none =>
    -- Who waits for readiness could go on.
    cases stage with
    | queued source => cases setup
    | listing source => cases setup
    | waiting query => simpa [advance?, ready] using rest id _ pending
  | some source =>
    obtain ⟨holder, stage', source', held, pending', setup'⟩ := h.exists_holder pending setup
    obtain ⟨rfl, _⟩ := rest.holder_lists held pending' setup'
    have phase := (h.lists holder source' pending').2
    simp [Index.isReady, phase] at ready

/-- At rest, if a setup is pending, one lists its store and all others stand behind it. -/
theorem one_lists (h : s.Coherent) (rest : s.AtRest) {source : Source R}
    (pending : (id, stage) ∈ s.calls) (setup : stage.source? = some source) :
    ∃ (lister : Nat) (source : Source R), (lister, .listing source) ∈ s.calls ∧
      s.lock.holder = some lister ∧ source.arrived? = none ∧ s.index.phase = .initializing ∧
      ∀ (other : Nat) (stage' : CallStage R) (source' : Source R), (other, stage') ∈ s.calls →
        stage'.source? = some source' → other ≠ lister →
        stage' = .queued source' ∧ other ∈ s.lock.row ∧ lister < other := by
  obtain ⟨lister, stage₁, source₁, held, pending₁, setup₁⟩ := h.exists_holder pending setup
  obtain ⟨rfl, arrived⟩ := rest.holder_lists held pending₁ setup₁
  refine ⟨lister, source₁, pending₁, held, arrived, (h.lists lister source₁ pending₁).2, ?_⟩
  intro other stage' source' pending' setup' different
  have member := (h.waits other).2 ⟨stage', source', pending', setup'⟩
  have ordered := h.ordered
  simp only [FairLock.members, held, Option.toList_some, List.singleton_append, List.mem_cons,
    List.pairwise_cons] at member ordered
  have behind : other ∈ s.lock.row := member.resolve_left different
  refine ⟨?_, behind, ordered.1 other behind⟩
  cases stage' with
  | queued source => cases setup'; rfl
  | listing source =>
    have holds := (h.lists other source pending').1
    exact absurd (Option.some.inj (holds.symm.trans held)) different
  | waiting query => cases setup'

end Coherent

end Session

end HardwareIndex
