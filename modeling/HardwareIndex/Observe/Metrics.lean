import HardwareIndex.Inventory.Kind

/-!
# Metrics

What the program counts: lookups by kind and result, records held by each index,
objects that failed validation, and what became of the client's cache. A
`Metrics` value holds a number for each sample that has been touched, and
`Metrics.lines` writes them as a scrape expects them, in sorted order.
-/

namespace HardwareIndex

/-- How a lookup ended. -/
inductive LookupResult where
  | found
  | notFound
  | ambiguous
  | notReady
  deriving DecidableEq, Repr

namespace LookupResult

/-- The results. -/
def all : List LookupResult := [.found, .notFound, .ambiguous, .notReady]

/-- The word for a result. -/
def text : LookupResult → String
  | .found => "found"
  | .notFound => "not_found"
  | .ambiguous => "ambiguous"
  | .notReady => "not_ready"

end LookupResult

/-- What happens to a cache. -/
inductive CacheEvent where
  | hit
  | miss
  | eviction
  deriving DecidableEq, Repr

/-- The word for an event. -/
def CacheEvent.text : CacheEvent → String
  | .hit => "hit"
  | .miss => "miss"
  | .eviction => "eviction"

/-- The metrics, each with samples of its own. -/
inductive Metric where
  | records
  | lookups
  | invalidObjects
  | cache
  deriving DecidableEq, Repr

namespace Metric

/-- The metrics. -/
def all : List Metric := [.records, .lookups, .invalidObjects, .cache]

/-- The name of a metric. -/
def name : Metric → String
  | .records => "machindex_index_records"
  | .lookups => "machindex_lookups_total"
  | .invalidObjects => "machindex_invalid_objects_total"
  | .cache => "machindex_client_cache_total"

/-- Whether a metric goes up and down, or only up. -/
def type : Metric → String
  | .records => "gauge"
  | _ => "counter"

/-- What a metric measures. -/
def help : Metric → String
  | .records => "Number of records held by each index"
  | .lookups => "Index lookups served over HTTP by kind and result"
  | .invalidObjects => "Objects skipped because they failed validation"
  | .cache => "Remote index client cache hits, misses and evictions"

end Metric

/-- A number that is kept. -/
inductive Sample where
  | records (kind : RecordKind)
  | lookups (kind : RecordKind) (result : LookupResult)
  | invalidObjects (kind : RecordKind)
  | cache (event : CacheEvent)
  deriving DecidableEq, Repr

namespace Sample

/-- The metric a sample belongs to. -/
def metric : Sample → Metric
  | .records _ => .records
  | .lookups .. => .lookups
  | .invalidObjects _ => .invalidObjects
  | .cache _ => .cache

/-- What tells a sample from the others of its metric. -/
def labels : Sample → List (String × String)
  | .records kind => [("kind", kind.text)]
  | .lookups kind result => [("kind", kind.text), ("result", result.text)]
  | .invalidObjects kind => [("kind", kind.text)]
  | .cache event => [("result", event.text)]

/-- A sample as it is written before its number. -/
def text (s : Sample) : String :=
  let labels := s.labels.map fun (name, value) => name ++ "=" ++ "\"" ++ value ++ "\""
  s.metric.name ++ "\x7b" ++ String.intercalate "," labels ++ "\x7d"

end Sample

/-- The numbers that have been touched. -/
structure Metrics where
  samples : List (Sample × Nat)
  deriving Repr

namespace Metrics

/-- Nothing touched. -/
def empty : Metrics := ⟨[]⟩

/-- The number of a sample, if it has been touched. -/
def get? (m : Metrics) (s : Sample) : Option Nat :=
  m.samples.lookup s

/-- With a number set. -/
def set (m : Metrics) (s : Sample) (n : Nat) : Metrics :=
  ⟨(s, n) :: m.samples.filter fun (other, _) => other != s⟩

/-- With a number raised. -/
def add (m : Metrics) (s : Sample) (n : Nat) : Metrics :=
  m.set s ((m.get? s).getD 0 + n)

/-- The lines of the samples. -/
def sampleLines (m : Metrics) : List String :=
  m.samples.map fun (sample, n) => s!"{sample.text} {n}"

/-- The lines about the metrics that have samples. -/
def commentLines (m : Metrics) (described : Bool) : List String :=
  let touched := Metric.all.filter fun metric => m.samples.any fun (sample, _) => sample.metric == metric
  touched.flatMap fun metric =>
    (if described then [s!"# HELP {metric.name} {metric.help}"] else []) ++
      [s!"# TYPE {metric.name} {metric.type}"]

/-- Lines in order. -/
def sorted (lines : List String) : List String :=
  lines.mergeSort fun a b => decide (a ≤ b)

/-- The lines of the samples, sorted. -/
def values (m : Metrics) : List String :=
  sorted m.sampleLines

/-- What a scrape reads, in sorted lines. -/
def lines (m : Metrics) (described : Bool) : List String :=
  sorted (m.commentLines described ++ m.sampleLines)

end Metrics

end HardwareIndex
