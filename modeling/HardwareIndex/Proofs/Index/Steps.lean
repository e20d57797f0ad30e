import HardwareIndex.Proofs.Index.Settling

/-!
# What a step does

A step first changes the session by itself and then lets it settle. Which calls
it adds or drops, and that each pending call is still the one its own step has
started. What its caller sees and what it tells of other calls are together all
that returned.
-/

namespace HardwareIndex

namespace Step

variable {R : Type} [Indexed R]

/-- What a step does to the entries by itself. -/
def applyTo (what : Step R) (entries : Entries R) : Entries R :=
  match what with
  | .set record => (entries.insert record).1
  | .delete name => entries.remove name
  | _ => entries

/-- Whether a step starts a call. -/
def isCall : Step R → Bool
  | .setup _ | .ask _ => true
  | _ => false

end Step

/-- A pending call stands at a point of the call that a step has started. Its gate may have been
    opened since; a setup of a ready index waits for nothing. -/
inductive StartedBy {R : Type} : Step R → CallStage R → Prop
  | setup (source source' : Source R) (stage : CallStage R) : stage.source? = some source' →
      source'.listing? = source.listing? → StartedBy (.setup source) stage
  | late (source : Source R) : StartedBy (.setup source) (.waiting .setup)
  | ask (query : Query) : StartedBy (.ask query) (.waiting query)

theorem Source.listing?_openGate {R : Type} (succeed : Bool) (source : Source R) :
    (source.openGate succeed).listing? = source.listing? := by
  cases source with
  | atOnce listing => rfl
  | gated listing opened => cases opened <;> rfl

/-- What has come from a store is what it was going to give. -/
theorem Source.listing?_of_arrived? {R : Type} {source : Source R} {l : Listing R}
    (arrived : source.arrived? = some (.ok l)) : source.listing? = some l := by
  cases source with
  | atOnce listing =>
    cases arrived
    rfl
  | gated listing opened =>
    cases opened with
    | none => cases arrived
    | some succeed => cases succeed <;> cases arrived; rfl

theorem StartedBy.openGate {R : Type} {what : Step R} {stage : CallStage R}
    (h : StartedBy what stage) (succeed : Bool) : StartedBy what (stage.openGate succeed) := by
  cases h with
  | setup source source' stage setup same =>
    have same' := (Source.listing?_openGate succeed source').trans same
    cases stage <;> cases setup <;> exact .setup source _ _ rfl same'
  | late source => exact .late source
  | ask query => exact .ask query

/-- Turns leave a call what it was. -/
theorem StartedBy.listing {R : Type} {what : Step R} {source : Source R}
    (h : StartedBy what (.queued source)) : StartedBy what (.listing source) := by
  cases h with
  | setup source₀ source' stage setup same =>
    cases setup
    exact .setup source₀ source _ rfl same

namespace Session

variable {R : Type} [Indexed R]

/-! ## The change of the step itself -/

theorem enter_entries (s : Session R) (id : Nat) (what : Step R) :
    (s.enter id what).index.entries = what.applyTo s.index.entries := by
  cases what with
  | setup source =>
    simp only [enter]
    split <;> rfl
  | _ => rfl

theorem enter_isReady (s : Session R) (id : Nat) (what : Step R) :
    (s.enter id what).index.isReady = s.index.isReady := by
  cases what with
  | setup source =>
    simp only [enter]
    split <;> rfl
  | _ => rfl

/-- A step adds its own call to the pending ones, or drops the call that it cancels. -/
theorem mem_pending_enter {s : Session R} {id n : Nat} {what : Step R} :
    n ∈ (s.enter id what).pending ↔
      (n ∈ s.pending ∧ what ≠ .cancel n) ∨ (n = id ∧ what.isCall = true) := by
  cases what with
  | setup source =>
    simp only [enter]
    split <;> simp [pending, Step.isCall]
  | ask query => simp [enter, pending, Step.isCall]
  | release target succeed => simp [enter, pending, Step.isCall]
  | cancel target =>
    have apart : (Step.cancel target : Step R) ≠ .cancel n ↔ n ≠ target := by
      rw [Ne, Step.cancel.injEq, eq_comm]
    rw [apart]
    simp [enter, pending, Step.isCall]
  | set record => simp [enter, pending, Step.isCall]
  | delete name => simp [enter, pending, Step.isCall]

/-- Every pending call was started by the step of its number. -/
def Started (s : Session R) (steps : List (Step R)) : Prop :=
  ∀ (n : Nat) (stage : CallStage R), (n, stage) ∈ s.calls →
    ∃ what, steps[n]? = some what ∧ StartedBy what stage

theorem Started.enter {s : Session R} {steps : List (Step R)} (started : s.Started steps)
    (what : Step R) : (s.enter steps.length what).Started (steps ++ [what]) := by
  intro n stage member
  have earlier : ∀ stage : CallStage R, (n, stage) ∈ s.calls →
      ∃ what', (steps ++ [what])[n]? = some what' ∧ StartedBy what' stage := by
    intro stage member
    obtain ⟨what', place, by_⟩ := started n stage member
    exact ⟨what', List.getElem?_append_left (List.getElem?_eq_some_iff.1 place).1 ▸ place, by_⟩
  have own : StartedBy what stage → n = steps.length →
      ∃ what', (steps ++ [what])[n]? = some what' ∧ StartedBy what' stage := by
    rintro by_ rfl
    exact ⟨what, List.getElem?_concat_length, by_⟩
  cases what with
  | setup source =>
    simp only [Session.enter] at member
    split at member
    · rcases List.mem_append.1 member with old | new
      · exact earlier stage old
      · cases List.mem_singleton.1 new
        exact own (.late source) rfl
    · rcases List.mem_append.1 member with old | new
      · exact earlier stage old
      · cases List.mem_singleton.1 new
        exact own (.setup source source _ rfl rfl) rfl
  | ask query =>
    rcases List.mem_append.1 member with old | new
    · exact earlier stage old
    · cases List.mem_singleton.1 new
      exact own (.ask query) rfl
  | release target succeed =>
    obtain ⟨⟨n', stage'⟩, old, same⟩ := List.mem_map.1 member
    obtain ⟨rfl, rfl⟩ := Prod.mk.inj same
    obtain ⟨what', place, by_⟩ := earlier stage' old
    refine ⟨what', place, ?_⟩
    split
    · exact by_.openGate succeed
    · exact by_
  | cancel target => exact earlier stage (List.mem_filter.1 member).1
  | set record => exact earlier stage member
  | delete name => exact earlier stage member

theorem Started.settle {s : Session R} {steps : List (Step R)} (started : s.Started steps) :
    s.settle.session.Started steps := by
  intro n stage member
  obtain ⟨stage₀, member₀, same⟩ := settle_kept s n stage member
  obtain ⟨what, place, by_⟩ := started n stage₀ member₀
  rcases same with rfl | ⟨source, rfl, rfl⟩
  · exact ⟨what, place, by_⟩
  · exact ⟨what, place, by_.listing⟩

/-! ## What is seen of a step -/

/-- What stands under a key with what stands under the others is all there is. -/
theorem lookup_append_others_perm {α : Type} {l : List (Nat × α)} (unique : (l.map Prod.fst).Nodup)
    (id : Nat) :
    ((l.lookup id).elim [] (fun a => [(id, a)]) ++ l.filter (·.1 != id)).Perm l := by
  induction l with
  | nil => exact .refl _
  | cons call rest ih =>
    obtain ⟨n, a⟩ := call
    obtain ⟨absent, unique⟩ := List.nodup_cons.1 unique
    by_cases same : n = id
    · subst same
      have others : rest.filter (·.1 != n) = rest := by
        rw [List.filter_eq_self]
        rintro ⟨m, b⟩ member
        have different : m ≠ n := by
          rintro rfl
          exact absent (List.mem_map.2 ⟨(m, b), member, rfl⟩)
        simpa using different
      simp [others]
    · have skip : (id == n) = false := by simpa using Ne.symm same
      have kept : ((n, a) :: rest).filter (·.1 != id) = (n, a) :: rest.filter (·.1 != id) := by
        simp [same]
      rw [List.lookup_cons, skip, kept]
      exact List.perm_middle.trans ((ih unique).cons _)

/-- The calls that finish in a step are those that return when it settles. -/
theorem finished_perm {s : Session R} {id : Nat} (h : s.Coherent)
    (fresh : ∀ other ∈ s.pending, other < id) (what : Step R) :
    (s.finished id what).Perm (s.enter id what).settle.returned := by
  have ledger := settle_returned_append_pending (s.enter id what)
  have unique : ((s.enter id what).settle.returned.map Prod.fst).Nodup :=
    (List.nodup_append.1 (ledger.nodup_iff.2 (h.enter fresh what).unique)).1
  by_cases call : what.isCall = true
  · have own : (s.reply id (s.enter id what).settle.returned what).outcomes id =
        ((s.enter id what).settle.returned.lookup id).elim [] fun outcome => [(id, outcome)] := by
      cases what with
      | setup source => cases found : (s.enter id (.setup source)).settle.returned.lookup id <;>
          simp [reply, found, Reply.outcomes]
      | ask query => cases found : (s.enter id (.ask query)).settle.returned.lookup id <;>
          simp [reply, found, Reply.outcomes]
      | _ => cases call
    simp only [finished, step, own]
    exact lookup_append_others_perm unique id
  · have own : (s.reply id (s.enter id what).settle.returned what).outcomes id = [] := by
      cases what with
      | setup source => exact absurd rfl call
      | ask query => exact absurd rfl call
      | _ => rfl
    have others : (s.enter id what).settle.returned.filter (·.1 != id) =
        (s.enter id what).settle.returned := by
      rw [List.filter_eq_self]
      intro other member
      have pending : other.1 ∈ (s.enter id what).pending :=
        ledger.subset (List.mem_append_left _ (List.mem_map.2 ⟨other, member, rfl⟩))
      rcases mem_pending_enter.1 pending with ⟨old, _⟩ | ⟨_, isCall⟩
      · have below := fresh other.1 old
        simp only [bne_iff_ne]
        omega
      · exact absurd isCall call
    simp only [finished, step, own, others, List.nil_append]
    exact .refl _

end Session

end HardwareIndex
