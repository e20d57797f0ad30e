import HardwareIndex.Index.Basic
import HardwareIndex.Index.Lock

/-!
# Concurrent calls on an index

Many callers use one index at a time. A session holds the index, the lock of its
setups, and the calls that have not returned, each with the point at which it
stands. A call stands where it waits: a setup for the lock or for its listing,
any other call for readiness. `advance?` takes one call from there to where it
waits next, or to its end; `settle` lets calls advance until none can.
`Session.step` starts one call, or changes the index or what a pending call
waits for, and then lets the session settle.
-/

namespace HardwareIndex

/-- Where a setup gets its listing from. -/
inductive Source (R : Type) where
  /-- A store that answers at once. -/
  | atOnce (listing : Except StoreError (Listing R))
  /-- A store that answers when its gate is opened: with its listing, or not. -/
  | gated (listing : Listing R) (opened : Option Bool)

namespace Source

variable {R : Type}

/-- The answer of a store that has answered. -/
def arrived? : Source R → Option (Except StoreError (Listing R))
  | .atOnce listing => some listing
  | .gated _ none => none
  | .gated listing (some true) => some (.ok listing)
  | .gated _ (some false) => some (.error .refused)

/-- The listing that a store gives, if it ever gives one. -/
def listing? : Source R → Option (Listing R)
  | .atOnce listing => listing.toOption
  | .gated listing _ => some listing

/-- Whether a store waits for its gate to be opened. -/
def isGated : Source R → Bool
  | .gated _ none => true
  | _ => false

/-- Open the gate, if it has not been opened. -/
def openGate (succeed : Bool) : Source R → Source R
  | .gated listing none => .gated listing (some succeed)
  | source => source

end Source

/-- A call that waits until the index is ready. -/
inductive Query where
  | byName (name : ObjectName)
  | byMac (mac : Mac)
  | byUuid (uuid : Uuid)
  /-- Nothing is asked but readiness. -/
  | readiness
  /-- A setup without a store, which leaves the work to another one. -/
  | setup

/-- What a call returns. -/
inductive Outcome (R : Type) where
  | found (record : Option R)
  | ready
  | report (r : SetupReport)
  | failed (e : StoreError)

/-- Where a call stands that has not returned. -/
inductive CallStage (R : Type) where
  /-- A setup that has asked for the lock. -/
  | queued (source : Source R)
  /-- A setup that holds the lock and waits for its listing. -/
  | listing (source : Source R)
  /-- A call that waits for readiness. -/
  | waiting (query : Query)

namespace CallStage

variable {R : Type}

/-- The store of a setup. -/
def source? : CallStage R → Option (Source R)
  | .queued source => some source
  | .listing source => some source
  | .waiting _ => none

/-- Whether a call is a setup that waits for its gate to be opened. -/
def isGated (stage : CallStage R) : Bool :=
  stage.source?.any Source.isGated

/-- Open the gate of a setup. -/
def openGate (succeed : Bool) : CallStage R → CallStage R
  | .queued source => .queued (source.openGate succeed)
  | .listing source => .listing (source.openGate succeed)
  | .waiting query => .waiting query

/-- How many points a call still has to pass. -/
def work : CallStage R → Nat
  | .queued _ => 2
  | .listing _ => 1
  | .waiting _ => 1

end CallStage

/-- An index with the calls that have not returned. -/
structure Session (R : Type) where
  index : Index R
  /-- The lock under which setups list their stores. -/
  lock : FairLock
  /-- The calls by number, in the order in which they came. -/
  calls : List (Nat × CallStage R)

/-- What happens to a session. -/
inductive Step (R : Type) where
  | setup (source : Source R)
  | ask (query : Query)
  | release (id : Nat) (succeed : Bool)
  | cancel (id : Nat)
  | set (record : R)
  | delete (name : ObjectName)

/-- What the caller of a step sees. -/
inductive Reply (R : Type) where
  | returned (outcome : Outcome R)
  | pending
  /-- Whether there was a gate to open. -/
  | released (done : Bool)
  /-- Whether there was a call to cancel. -/
  | cancelled (done : Bool)
  | stored (record : R)
  | removed (record : Option R)

namespace Session

variable {R : Type} [Indexed R]

/-- A new index without callers. -/
def new : Session R := ⟨Index.new, .free, []⟩

/-- The answer to a query on a ready index. -/
def answer (index : Index R) : Query → Outcome R
  | .byName name => .found index.entries.records[name]?
  | .byMac mac => .found (index.entries.byMac? mac)
  | .byUuid uuid => .found (index.entries.byUuid? uuid)
  | .readiness => .ready
  | .setup => .report .already

/-- How far a call gets. -/
inductive Progress (R : Type) where
  | standsAt (stage : CallStage R)
  | returns (outcome : Outcome R)

/-- What an advance leaves behind. -/
structure Advance (R : Type) where
  index : Index R
  lock : FairLock
  progress : Progress R
  warnings : List Warning

/-- Let a call advance from where it stands, if it can. A setup looks at the phase again
    once it has the lock, and lets go of the lock however it ends. -/
def advance? (index : Index R) (lock : FairLock) (id : Nat) : CallStage R → Option (Advance R)
  | .queued source =>
    if lock.holder = some id then
      if index.isReady then some ⟨index, lock.release, .returns (.report .already), []⟩
      else some ⟨index.begin, lock, .standsAt (.listing source), []⟩
    else none
  | .listing source =>
    match source.arrived? with
    | none => none
    | some (.ok listing) =>
      let (index, report, warnings) := index.populate listing
      some ⟨index, lock.release, .returns (.report report), warnings⟩
    | some (.error e) =>
      let (index, warnings) := index.fail e
      some ⟨index, lock.release, .returns (.failed e), warnings⟩
  | .waiting query =>
    if index.isReady then some ⟨index, lock, .returns (answer index query), []⟩ else none

/-- The call of a number after an advance, if it is still pending. -/
def Progress.left (id : Nat) : Progress R → List (Nat × CallStage R)
  | .standsAt stage => [(id, stage)]
  | .returns _ => []

/-- The call of a number with its outcome, if it has returned. -/
def Progress.returned (id : Nat) : Progress R → List (Nat × Outcome R)
  | .standsAt _ => []
  | .returns outcome => [(id, outcome)]

/-- A session with the calls that have returned from it. -/
structure Turn (R : Type) where
  session : Session R
  returned : List (Nat × Outcome R)
  warnings : List Warning

/-- Let the first of some calls advance that can. -/
def turnAmong? (index : Index R) (lock : FairLock) : List (Nat × CallStage R) → Option (Turn R)
  | [] => none
  | (id, stage) :: rest =>
    match advance? index lock id stage with
    | some a =>
      some ⟨⟨a.index, a.lock, a.progress.left id ++ rest⟩, a.progress.returned id, a.warnings⟩
    | none => (turnAmong? index lock rest).map fun turn =>
      { turn with session.calls := (id, stage) :: turn.session.calls }

/-- Let the first call advance that can. -/
def turn? (s : Session R) : Option (Turn R) :=
  turnAmong? s.index s.lock s.calls

/-- How many points calls still have to pass. -/
def workOf : List (Nat × CallStage R) → Nat
  | [] => 0
  | (_, stage) :: rest => stage.work + workOf rest

omit [Indexed R] in
theorem workOf_append (calls calls' : List (Nat × CallStage R)) :
    workOf (calls ++ calls') = workOf calls + workOf calls' := by
  induction calls with
  | nil => simp [workOf]
  | cons call rest ih =>
    simp only [List.cons_append, workOf, ih]
    omega

/-- An advance takes a call past a point. -/
theorem workOf_left_lt {index : Index R} {lock : FairLock} {id : Nat} {stage : CallStage R}
    {a : Advance R} (h : advance? index lock id stage = some a) :
    workOf (a.progress.left id) < stage.work := by
  unfold advance? at h
  cases stage with
  | queued source =>
    dsimp only at h
    split at h
    · split at h <;> cases h <;> simp [Progress.left, workOf, CallStage.work]
    · cases h
  | listing source =>
    dsimp only at h
    split at h <;> cases h <;> simp [Progress.left, workOf, CallStage.work]
  | waiting query =>
    dsimp only at h
    split at h <;> cases h
    simp [Progress.left, workOf, CallStage.work]

theorem workOf_turnAmong?_lt {index : Index R} {lock : FairLock} {calls : List (Nat × CallStage R)}
    {turn : Turn R} (h : turnAmong? index lock calls = some turn) :
    workOf turn.session.calls < workOf calls := by
  induction calls generalizing turn with
  | nil => cases h
  | cons call rest ih =>
    obtain ⟨id, stage⟩ := call
    unfold turnAmong? at h
    split at h
    · rename_i a advanced
      cases h
      have less := workOf_left_lt advanced
      simp only [workOf, workOf_append]
      omega
    · obtain ⟨turn', found, rfl⟩ := Option.map_eq_some_iff.1 h
      have less := ih found
      simp only [workOf]
      omega

/-- Let calls advance until none can. -/
def settle (s : Session R) : Turn R :=
  match h : s.turn? with
  | none => ⟨s, [], []⟩
  | some turn =>
    have _ := workOf_turnAmong?_lt h
    let rest := settle turn.session
    ⟨rest.session, turn.returned ++ rest.returned, turn.warnings ++ rest.warnings⟩
termination_by workOf s.calls

/-- The session after what a step changes by itself, before any call advances. A setup that
    finds the index ready has nothing to list. -/
def enter (s : Session R) (id : Nat) : Step R → Session R
  | .setup source =>
    if s.index.isReady then { s with calls := s.calls ++ [(id, .waiting .setup)] }
    else { s with lock := s.lock.request id, calls := s.calls ++ [(id, .queued source)] }
  | .ask query => { s with calls := s.calls ++ [(id, .waiting query)] }
  | .release target succeed =>
    { s with calls := s.calls.map fun (n, stage) =>
        (n, if n = target then stage.openGate succeed else stage) }
  | .cancel target =>
    { s with lock := s.lock.withdraw target, calls := s.calls.filter (·.1 != target) }
  | .set record => { s with index := (s.index.set record).1 }
  | .delete name => { s with index := s.index.delete name }

/-- What the caller of a step sees once the given calls have returned. -/
def reply (s : Session R) (id : Nat) (returned : List (Nat × Outcome R)) : Step R → Reply R
  | .setup _ | .ask _ => (returned.lookup id).elim .pending .returned
  | .release target _ => .released (s.calls.any fun (n, stage) => n == target && stage.isGated)
  | .cancel target => .cancelled (s.calls.any (·.1 == target))
  | .set record => .stored record
  | .delete name => .removed s.index.entries.records[name]?

/-- The warnings of what a step changes by itself. -/
def ownWarnings (s : Session R) : Step R → List Warning
  | .set record => (s.index.set record).2
  | _ => []

/-- Take a step whose call has the given number. Gives the session once no call can advance,
    what the caller sees, the other calls that returned, and the warnings. -/
def step (s : Session R) (id : Nat) (what : Step R) :
    Session R × Reply R × List (Nat × Outcome R) × List Warning :=
  let turn := (s.enter id what).settle
  (turn.session, s.reply id turn.returned what, turn.returned.filter (·.1 != id),
    s.ownWarnings what ++ turn.warnings)

end Session

end HardwareIndex
