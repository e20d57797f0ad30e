import HardwareIndex.Cluster.Backoff
import HardwareIndex.Cluster.Reconcile

/-!
# Controllers

A controller lists the objects of one kind, is then told of changes, and
reconciles each object that it was told of, and again when that is due. Only the
latest due time of an object counts. An object that was removed is forgotten.
After a listing that fails, and after an object that cannot be read, nothing is
taken in for a while; what is told in that time waits. An object without a name
ends the controller.
-/

namespace HardwareIndex

/-- What a controller is told. -/
inductive Notice (R : Type) where
  /-- An object is there, or has changed. -/
  | applied (o : Observed R)
  /-- An object was removed. -/
  | removed (name : ObjectName)
  /-- An object without a name. -/
  | nameless
  /-- An object that cannot be read. -/
  | unreadable

namespace Notice

variable {R : Type}

/-- What is told of an object that was read. -/
def ofObserved (isRemoved : Bool) (o : Observed R) : Notice R :=
  if o.metadata.name.isNone then .nameless
  else if isRemoved then .removed o.name
  else .applied o

/-- What is told of an object that the cluster sends. -/
def ofObject (reader : Observed.Reader R) (isRemoved : Bool) (object : Json) : Notice R :=
  match reader object with
  | some o => ofObserved isRemoved o
  | none => .unreadable

end Notice

/-- What a controller knows. Times are in milliseconds. -/
structure Controller (R : Type) where
  space : Option String
  objects : NameMap (Observed R)
  /-- When objects are to be looked at, in the order in which that was decided. -/
  due : List (ObjectName × Nat)
  /-- Whether a listing succeeded. -/
  isListed : Bool
  /-- What was told and is not taken in yet. -/
  inbox : List (Notice R)
  /-- Nothing is listed or taken in before this time. -/
  wakes : Nat
  backoff : Backoff
  /-- Whether the controller has ended. -/
  hasEnded : Bool

namespace Controller

variable {R : Type} [Indexed R] [PerKind.Field R]

/-- A controller that is to list at the given time. -/
def new (space : Option String) (now : Nat) : Controller R where
  space
  objects := ∅
  due := []
  isListed := false
  inbox := []
  wakes := now
  backoff := .fresh
  hasEnded := false

/-- Where a controller lists its objects. -/
def path (c : Controller R) : String :=
  collectionPath (Indexed.kind R) c.space

/-- Whether a controller is told of changes, once it has listed. -/
def hears (c : Controller R) : Bool :=
  canWatch c.path && arrivingPath? c.path == some c.path

/-- Told of something at a time. Before its first listing, a controller does not listen. -/
def tell (c : Controller R) (now : Nat) (notice : Notice R) : Controller R :=
  if c.isListed && c.hears then
    { c with inbox := c.inbox ++ [notice], wakes := max c.wakes now }
  else c

/-- With an object to be looked at as told. -/
def schedule (c : Controller R) (name : ObjectName) (now : Nat) (next : Requeue) : Controller R :=
  let others := c.due.filter fun (other, _) => other != name
  match next with
  | .onChange => { c with due := others }
  | .after seconds => { c with due := others ++ [(name, now + 1000 * seconds)] }

/-- Without an object that was removed. -/
def forget (c : Controller R) (name : ObjectName) : Controller R :=
  { c with
    objects := c.objects.erase name
    due := c.due.filter fun (other, _) => other != name }

/-- Taking nothing in for a while. -/
def pause (c : Controller R) (now : Nat) : Controller R :=
  let (wait, backoff) := c.backoff.fail now
  { c with wakes := now + wait, backoff }

/-- Take in what was told, up to what cannot be read; gives the objects to look at after
    those that are to be looked at anyway, each once. -/
def takeIn (now : Nat) (c : Controller R) (names : List ObjectName) :
    List (Notice R) → Controller R × List ObjectName
  | [] => ({ c with inbox := [] }, names)
  | .applied o :: rest =>
    let c := { c with objects := c.objects.insert o.name o, backoff := .fresh }
    takeIn now c (names.filter (· != o.name) ++ [o.name]) rest
  | .removed name :: rest => takeIn now (c.forget name) names rest
  | .nameless :: _ => ({ c with hasEnded := true }, [])
  | .unreadable :: rest => ({ c with inbox := rest }.pause now, names)

/-- Reconcile an object that is to be looked at, if it is still known. -/
def reconcile (s : Site) (c : Controller R) (now : Nat) (name : ObjectName) :
    Site × Controller R :=
  match c.objects[name]? with
  | some o =>
    let (s, next) := s.reconcile o
    (s, c.schedule name now next)
  | none => (s, c.forget name)

/-- Take in what was told and reconcile the objects. -/
def receive (s : Site) (c : Controller R) (now : Nat) (notices : List (Notice R)) :
    Site × Controller R :=
  let (c, names) := c.takeIn now [] notices
  names.foldl (fun (s, c) name => reconcile s c now name) (s, c)

/-- List the objects and take them all in, or pause. -/
def list (s : Site) (c : Controller R) (now : Nat) : Site × Controller R :=
  let store : ClusterStore R := ⟨c.space, Observed.readers.get R⟩
  let (server, listed) := store.list s.server
  let s := { s with server }
  match listed with
  | .error _ => (s, c.pause now)
  | .ok objects => receive s { c with isListed := true } now (objects.map (.ofObserved false))

/-- Ask to be told of changes where that is taken for a listing, whose answer tells nothing. -/
def askAgain (s : Site) (c : Controller R) (now : Nat) : Site × Controller R :=
  let (server, _) := s.server.list (Indexed.kind R) c.space
  ({ s with server }, c.pause now)

/-- When a controller goes on without an object being due. -/
def wakes? (c : Controller R) : Option Nat :=
  if c.isListed && canWatch c.path && c.inbox.isEmpty then none else some c.wakes

/-- Go on at the time for that. -/
def wake (s : Site) (c : Controller R) (now : Nat) : Site × Controller R :=
  if !c.isListed then list s c now
  else if canWatch c.path then receive s c now c.inbox
  else askAgain s c now

/-- The first of the objects that are due by a time. -/
def firstDue? (c : Controller R) (limit : Nat) : Option (ObjectName × Nat) :=
  (c.due.filter fun (_, time) => time ≤ limit).minOn? Prod.snd

/-- Do the first thing that is to be done by a time. -/
def step? (s : Site) (c : Controller R) (limit : Nat) : Option (Site × Controller R) :=
  let due := c.firstDue? limit
  let first := c.wakes?.filter fun time => time ≤ limit && due.all fun (_, later) => time ≤ later
  if c.hasEnded then none
  else match first with
    | some time => some (wake s c time)
    | none => due.map fun (name, time) => reconcile s c time name

/-- Do what is to be done by a time, as long as there is something. -/
def catchUp (limit : Nat) : Nat → Site → Controller R → Site × Controller R
  | 0, s, c => (s, c)
  | fuel + 1, s, c =>
    match step? s c limit with
    | some (s, c) => catchUp limit fuel s c
    | none => (s, c)

/-- Most things that can be done in a time: each object is reconciled again after a retry at
    the least, and what goes on after a pause pauses again, lists or empties the inbox. -/
def bound (c : Controller R) (span : Nat) (objects : Nat) : Nat :=
  (c.due.length + objects + c.inbox.length + 1) * (span / Backoff.first + 3)

end Controller

end HardwareIndex
