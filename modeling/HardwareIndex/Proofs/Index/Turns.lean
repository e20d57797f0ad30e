import HardwareIndex.Index.Run

/-!
# Turns of a session

What one advance can be, told once as a relation with a rule for each way, and
how a turn is made of one: it lets exactly one of the pending calls advance and
leaves the others as they stand. A session is at rest when no call can advance;
settling ends there.
-/

namespace HardwareIndex

namespace Session

variable {R : Type} [Indexed R]

/-- All ways in which a call can advance. -/
inductive Advances (index : Index R) (lock : FairLock) (id : Nat) : CallStage R → Advance R → Prop
  /-- A setup gets the lock after another one has succeeded. -/
  | already (source : Source R) : lock.holder = some id → index.isReady = true →
      Advances index lock id (.queued source) ⟨index, lock.release, .returns (.report .already), []⟩
  /-- A setup gets the lock and begins to list. -/
  | begins (source : Source R) : lock.holder = some id → index.isReady = false →
      Advances index lock id (.queued source) ⟨index.begin, lock, .standsAt (.listing source), []⟩
  /-- The listing of a setup has come. -/
  | publishes (source : Source R) (l : Listing R) : source.arrived? = some (.ok l) →
      Advances index lock id (.listing source) ⟨(index.populate l).1, lock.release,
        .returns (.report (index.populate l).2.1), (index.populate l).2.2⟩
  /-- The store of a setup has failed. -/
  | fails (source : Source R) (e : StoreError) : source.arrived? = some (.error e) →
      Advances index lock id (.listing source)
        ⟨(index.fail e).1, lock.release, .returns (.failed e), (index.fail e).2⟩
  /-- The index is ready for a call that waits for it. -/
  | answers (query : Query) : index.isReady = true →
      Advances index lock id (.waiting query) ⟨index, lock, .returns (answer index query), []⟩

theorem advances_of_advance? {index : Index R} {lock : FairLock} {id : Nat} {stage : CallStage R}
    {a : Advance R} (h : advance? index lock id stage = some a) :
    Advances index lock id stage a := by
  unfold advance? at h
  cases stage with
  | queued source =>
    dsimp only at h
    split at h
    · rename_i held
      split at h
      · rename_i ready
        cases h
        exact .already source held ready
      · rename_i unready
        cases h
        exact .begins source held (by simpa using unready)
    · cases h
  | listing source =>
    dsimp only at h
    split at h
    · cases h
    · rename_i l arrived
      cases h
      exact .publishes source l arrived
    · rename_i e arrived
      cases h
      exact .fails source e arrived
  | waiting query =>
    dsimp only at h
    split at h
    · rename_i ready
      cases h
      exact .answers query ready
    · cases h

/-- One call advances, the others stand where they stood. -/
inductive Turns (s : Session R) : Turn R → Prop
  | mk (before : List (Nat × CallStage R)) (id : Nat) (stage : CallStage R)
      (rest : List (Nat × CallStage R)) (a : Advance R) :
      s.calls = before ++ (id, stage) :: rest → Advances s.index s.lock id stage a →
      Turns s ⟨⟨a.index, a.lock, before ++ (a.progress.left id ++ rest)⟩, a.progress.returned id,
        a.warnings⟩

theorem turnAmong?_eq_some {index : Index R} {lock : FairLock} {calls : List (Nat × CallStage R)}
    {turn : Turn R} (h : turnAmong? index lock calls = some turn) :
    ∃ before id stage rest a, calls = before ++ (id, stage) :: rest ∧
      Advances index lock id stage a ∧
      turn = ⟨⟨a.index, a.lock, before ++ (a.progress.left id ++ rest)⟩, a.progress.returned id,
        a.warnings⟩ := by
  induction calls generalizing turn with
  | nil => cases h
  | cons call rest ih =>
    obtain ⟨id, stage⟩ := call
    unfold turnAmong? at h
    split at h
    · rename_i a advanced
      cases h
      exact ⟨[], id, stage, rest, a, rfl, advances_of_advance? advanced, rfl⟩
    · obtain ⟨turn', found, rfl⟩ := Option.map_eq_some_iff.1 h
      obtain ⟨before, id', stage', rest', a, rfl, advances, rfl⟩ := ih found
      exact ⟨(id, stage) :: before, id', stage', rest', a, rfl, advances, rfl⟩

theorem turns_of_turn? {s : Session R} {turn : Turn R} (h : s.turn? = some turn) :
    Turns s turn := by
  obtain ⟨before, id, stage, rest, a, calls, advances, rfl⟩ := turnAmong?_eq_some h
  exact .mk before id stage rest a calls advances

/-- No call can advance. -/
def AtRest (s : Session R) : Prop :=
  ∀ (id : Nat) (stage : CallStage R), (id, stage) ∈ s.calls →
    advance? s.index s.lock id stage = none

theorem turnAmong?_eq_none {index : Index R} {lock : FairLock} {calls : List (Nat × CallStage R)}
    (h : turnAmong? index lock calls = none) {id : Nat} {stage : CallStage R}
    (member : (id, stage) ∈ calls) : advance? index lock id stage = none := by
  induction calls with
  | nil => cases member
  | cons call rest ih =>
    unfold turnAmong? at h
    split at h
    · cases h
    · rename_i stands
      rcases List.mem_cons.1 member with rfl | later
      · exact stands
      · exact ih (Option.map_eq_none_iff.1 h) later

theorem atRest_of_turn? {s : Session R} (h : s.turn? = none) : s.AtRest :=
  fun _ _ member => turnAmong?_eq_none h member

/-- At rest the holder of the lock has begun to list, and its listing has not come. -/
theorem AtRest.holder_lists {s : Session R} (rest : s.AtRest) {id : Nat} {stage : CallStage R}
    {source : Source R} (held : s.lock.holder = some id) (pending : (id, stage) ∈ s.calls)
    (setup : stage.source? = some source) : stage = .listing source ∧ source.arrived? = none := by
  have stands := rest id stage pending
  cases stage with
  | queued source' =>
    unfold advance? at stands
    simp only [held, if_true] at stands
    split at stands <;> cases stands
  | listing source' =>
    cases setup
    refine ⟨rfl, ?_⟩
    unfold advance? at stands
    dsimp only at stands
    split at stands
    · assumption
    · cases stands
    · cases stands
  | waiting query => cases setup

theorem settle_of_turn?_eq_none {s : Session R} (h : s.turn? = none) : s.settle = ⟨s, [], []⟩ := by
  rw [settle]
  split
  · rfl
  · simp_all

theorem settle_of_turn?_eq_some {s : Session R} {turn : Turn R} (h : s.turn? = some turn) :
    s.settle = ⟨turn.session.settle.session, turn.returned ++ turn.session.settle.returned,
      turn.warnings ++ turn.session.settle.warnings⟩ := by
  rw [settle]
  split
  · simp_all
  · rename_i turn' goes
    cases h.symm.trans goes
    rfl

/-- Settling takes turns until the session is at rest: what holds of a session at rest and
    passes back through a turn holds of settling. -/
theorem settle_induction {motive : Session R → Turn R → Prop}
    (rests : ∀ s : Session R, s.AtRest → motive s ⟨s, [], []⟩)
    (turns : ∀ (s : Session R) (turn : Turn R), Turns s turn →
      motive turn.session turn.session.settle →
      motive s ⟨turn.session.settle.session, turn.returned ++ turn.session.settle.returned,
        turn.warnings ++ turn.session.settle.warnings⟩)
    (s : Session R) : motive s s.settle := by
  fun_induction settle s with
  | case1 s stops => exact rests s (atRest_of_turn? stops)
  | case2 s turn goes _ rest ih => exact turns s turn (turns_of_turn? goes) ih

theorem settle_atRest (s : Session R) : s.settle.session.AtRest :=
  settle_induction (motive := fun _ turn => turn.session.AtRest)
    (fun _ rest => rest) (fun _ _ _ ih => ih) s

end Session

end HardwareIndex
