import HardwareIndex.Index.Session

/-!
# Runs of an index

A run takes steps on a new index one after the other. The number of a call is
the place of its step in the run. Beside the session a run keeps what its calls
have returned so far.
-/

namespace HardwareIndex

/-- The call of a step with its outcome, if it has returned. -/
def Reply.outcomes {R : Type} (id : Nat) : Reply R → List (Nat × Outcome R)
  | .returned outcome => [(id, outcome)]
  | _ => []

namespace Session

variable {R : Type} [Indexed R]

/-- The session after a step. -/
def after (s : Session R) (id : Nat) (what : Step R) : Session R :=
  (s.step id what).1

/-- The calls that return in a step, its own among them. -/
def finished (s : Session R) (id : Nat) (what : Step R) : List (Nat × Outcome R) :=
  let (_, reply, others, _) := s.step id what
  reply.outcomes id ++ others

/-- The numbers of the calls that have not returned. -/
def pending (s : Session R) : List Nat :=
  s.calls.map Prod.fst

end Session

/-- A session with what its calls have returned. -/
structure Run (R : Type) where
  session : Session R
  returned : List (Nat × Outcome R)

namespace Run

variable {R : Type} [Indexed R]

/-- A run before its first step. -/
def start : Run R := ⟨Session.new, []⟩

/-- A run after one more step, whose call has the given number. -/
def next (run : Run R) (id : Nat) (what : Step R) : Run R :=
  ⟨run.session.after id what, run.returned ++ run.session.finished id what⟩

/-- The run of some steps. -/
def of (steps : List (Step R)) : Run R :=
  steps.zipIdx.foldl (fun run (what, id) => run.next id what) start

theorem of_append_singleton (steps : List (Step R)) (what : Step R) :
    of (steps ++ [what]) = (of steps).next steps.length what := by
  simp [of, List.zipIdx_append]

end Run

end HardwareIndex
