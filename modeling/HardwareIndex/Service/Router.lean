import HardwareIndex.Http.Uri
import HardwareIndex.Inventory.PerKind
import HardwareIndex.Index.Slot
import HardwareIndex.Service.Lookup

/-!
# The service

Answers requests from three slots, one for each kind of index: lookups, a
liveness probe, a readiness probe that waits for all three indices, and a scrape
of the metrics. Paths are matched exactly. `Service.handle` answers a request
and counts it if it was a lookup.
-/

namespace HardwareIndex

/-- The method of a request. -/
inductive Method where
  | get
  | head
  | other
  deriving DecidableEq, Repr

/-- The method that a word names, if it is a word a method can have. -/
def Method.parse? (s : String) : Option Method :=
  let isTokenChar c := Target.isAlphanumeric c || "!#$%&'*+-.^_|~\x60".toList.contains c
  if s.isEmpty || !s.toList.all isTokenChar then none
  else if s == "GET" then some .get
  else if s == "HEAD" then some .head
  else some .other

/-- What a path leads to. -/
inductive Route where
  | health
  | ready
  | metrics
  | lookup (kind : RecordKind)
  deriving DecidableEq, Repr

namespace Route

/-- The routes. -/
def all : List Route := [.health, .ready, .metrics] ++ RecordKind.all.map .lookup

/-- The path of a route. -/
def path : Route → String
  | .health => "/health"
  | .ready => "/ready"
  | .metrics => "/metrics"
  | .lookup kind => "/" ++ kind.lookupPath

/-- The route of a path. -/
def ofPath? (path : String) : Option Route :=
  all.find? fun route => route.path == path

end Route

/-- Whether and how a scrape is answered. -/
inductive Scrape where
  | disabled
  | plain
  /-- With a description of each metric. -/
  | described
  deriving DecidableEq, Repr

/-- The state of the service. -/
structure Service where
  slots : PerKind fun R => Slot (Index R)
  metrics : Metrics
  scrape : Scrape

namespace Service

/-- Nothing published, nothing counted. -/
def new (scrape : Scrape) : Service :=
  ⟨⟨.empty, .empty, .empty⟩, .empty, scrape⟩

/-- Whether the index in a slot is published and ready. -/
def slotReady {R : Type} [Indexed R] (slot : Slot (Index R)) : Bool :=
  slot.value.any Index.isReady

/-- Whether every index is published and ready. -/
def isReady (s : Service) : Bool :=
  slotReady s.slots.machines && slotReady s.slots.bmcs && slotReady s.slots.types

/-- Answer a lookup on the slot of a kind. -/
def lookup (s : Service) (kind : RecordKind) (query : Option String) :
    Answer × LookupResult × List Warning :=
  match kind with
  | .machine => Lookup.answer s.slots.machines.value query
  | .bmc => Lookup.answer s.slots.bmcs.value query
  | .machineType => Lookup.answer s.slots.types.value query

/-- The content type of a scrape. -/
def scrapeType : String := "text/plain; version=0.0.4; charset=utf-8"

/-- Answer a scrape. -/
def scrapeAnswer (s : Service) : Answer :=
  let lines (described : Bool) : Answer :=
    ⟨.ok, some scrapeType, String.join ((s.metrics.lines described).map (· ++ "\n"))⟩
  match s.scrape with
  | .disabled => .text .serviceUnavailable "metrics disabled"
  | .plain => lines false
  | .described => lines true

/-- Follow a route. -/
def follow (s : Service) (route : Route) (query : Option String) :
    Service × Answer × List Warning :=
  match route with
  | .health => (s, .text .ok "OK", [])
  | .ready => (s, if s.isReady then .text .ok "READY" else .empty .serviceUnavailable, [])
  | .metrics => (s, s.scrapeAnswer, [])
  | .lookup kind =>
    let (answer, result, warnings) := s.lookup kind query
    ({ s with metrics := s.metrics.add (.lookups kind result) 1 }, answer, warnings)

/-- Answer a request. -/
def handle (s : Service) (method : Method) (target : Target) : Service × Answer × List Warning :=
  match Route.ofPath? target.path, method with
  | none, _ => (s, .empty .notFound, [])
  | some _, .other => (s, .empty .methodNotAllowed, [])
  | some route, .get => s.follow route target.query
  | some route, .head =>
    let (s, answer, warnings) := s.follow route target.query
    (s, { answer with body := "" }, warnings)

/-- Publish an index; tells whether this publication took effect. -/
def publish (s : Service) (R : Type) [PerKind.Field R] (index : Index R) : Service × Bool :=
  let (slot, done) := (s.slots.get R).publish index
  ({ s with slots := s.slots.modify R fun _ => slot }, done)

/-- With the published index of a kind changed. -/
def modify (s : Service) (R : Type) [PerKind.Field R] (f : Index R → Index R) : Service :=
  { s with slots := s.slots.modify R fun slot => slot.modify f }

end Service

end HardwareIndex
