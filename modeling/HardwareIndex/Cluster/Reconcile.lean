import HardwareIndex.Cluster.Server
import HardwareIndex.Index.Basic
import HardwareIndex.Observe.Metrics

/-!
# Reconciling objects

What is done for one object that was applied or is being deleted. A finalizer on
the object holds it until its record is out of the index: an object without it
first gets it, one with it is set in the index, and one that is being deleted is
taken out before the finalizer is removed. The outcome is written to the status
of the object if it says something else.
-/

namespace HardwareIndex

/-- The cluster with the indices that are kept of it. -/
structure Site where
  server : Server
  indices : PerKind Index
  metrics : Metrics
  warnings : List Warning

namespace IndexStatus

/-- The status of an object that is in the index. -/
def indexed (kind : RecordKind) : IndexStatus := ⟨.ok, kind.okMessage⟩

/-- The status of an object that is not. -/
def rejected (e : ValidationError) : IndexStatus := ⟨.invalid, e.reason⟩

/-- The status that an object ought to have. -/
def ofRecord {R : Type} [Indexed R] : Except ValidationError R → IndexStatus
  | .ok _ => indexed (Indexed.kind R)
  | .error e => rejected e

end IndexStatus

/-- Set the record of an object in an index, or take an invalid object out of it. -/
def Index.receive {R : Type} [Indexed R] (index : Index R) :
    Except ValidationError R → Index R × List Warning
  | .ok record => index.set record
  | .error e => (index.delete e.object, [.invalidObject (Indexed.kind R) e])

/-- How far an object is with its finalizer. -/
inductive Stage where
  /-- It has the finalizer and is to be in the index. -/
  | apply
  /-- It is being deleted and has the finalizer at a position. -/
  | cleanup (position : Nat)
  /-- It lacks the finalizer. -/
  | adopt
  /-- It is being deleted and is not held any more. -/
  | done
  deriving DecidableEq, Repr

namespace Finalizer

/-- The finalizer of a kind. -/
def name (kind : RecordKind) : String :=
  "machindex.io/" ++ kind.text ++ "-finalizer"

/-- How far an object is. -/
def stage (kind : RecordKind) (m : Metadata) : Stage :=
  match m.finalizerList.findIdx? (· == name kind), m.isDeleting with
  | some _, false => .apply
  | some position, true => .cleanup position
  | none, false => .adopt
  | none, true => .done

/-- A step of a patch. -/
def operation (op path : String) (value : Option Json) : Json :=
  Json.ofPresent [("op", some (.str op)), ("path", some (.str path)), ("value", value)]

/-- Where finalizers are. -/
def listPath : String := "/metadata/finalizers"

/-- The patch that adds the finalizer to those there are. -/
def adding (kind : RecordKind) (present : List String) : Patch where
  kind := .operations
  body := if present.isEmpty then
      .arr [operation "test" listPath (some .null),
        operation "add" listPath (some (Json.strings [name kind]))]
    else
      .arr [operation "test" listPath (some (Json.strings present)),
        operation "add" (listPath ++ "/-") (some (.str (name kind)))]

/-- The patch that removes the finalizer from its position. -/
def removing (kind : RecordKind) (position : Nat) : Patch where
  kind := .operations
  body :=
    let path := s!"{listPath}/{position}"
    .arr [operation "test" path (some (.str (name kind))), operation "remove" path none]

end Finalizer

/-- The patch that writes a status. -/
def IndexStatus.patch (s : IndexStatus) : Patch where
  kind := .merge
  body := .obj [("status", s.toJson)]

/-- When an object is looked at again. -/
inductive Requeue where
  /-- When it changes. -/
  | onChange
  /-- After some seconds, if it does not change before. -/
  | after (seconds : Nat)
  deriving DecidableEq, Repr

namespace Requeue

/-- After an object was set in the index. -/
def resync : Requeue := .after 300

/-- After a patch that failed. -/
def retry : Requeue := .after 60

end Requeue

namespace Site

variable {R : Type} [Indexed R] [PerKind.Field R]

/-- With an index and what changing it brought about. -/
def withIndex (s : Site) (index : Index R) (warnings : List Warning) : Site :=
  { s with
    indices := s.indices.modify R fun _ => index
    warnings := s.warnings ++ warnings }

/-- With the number of records of an index measured. -/
def measured (s : Site) (R : Type) [Indexed R] [PerKind.Field R] : Site :=
  { s with metrics := s.metrics.set (.records (Indexed.kind R)) (s.indices.get R).entries.size }

/-- With an invalid object counted. -/
def countInvalid (s : Site) (kind : RecordKind) : Site :=
  { s with metrics := s.metrics.add (.invalidObjects kind) 1 }

/-- Apply an object to its index; tells the status that it ought to have. -/
def apply (s : Site) (o : Observed R) : Site × IndexStatus :=
  let (index, warnings) := (s.indices.get R).receive o.record
  let s := s.withIndex index warnings
  let s := match o.record with
    | .ok _ => s
    | .error _ => s.countInvalid (Indexed.kind R)
  (s.measured R, .ofRecord o.record)

@[simp] theorem status_apply (s : Site) (o : Observed R) : (s.apply o).2 = .ofRecord o.record :=
  rfl

/-- Take an object out of its index. -/
def cleanup (s : Site) (o : Observed R) : Site :=
  (s.withIndex ((s.indices.get R).delete o.name) []).measured R

/-- Patch an object at a path; tells whether that gave an object that can be read. -/
def patch (s : Site) (R : Type) [PerKind.Field R] (name : ObjectName) (path : String)
    (p : Patch) : Site × Bool :=
  let (server, answer) := s.server.patch name path p
  ({ s with server }, answer.toOption.any fun object => (Observed.readers.get R object).isSome)

/-- Patch an object itself, which needs a name that was not generated. -/
def patchObject (s : Site) (o : Observed R) (p : Patch) : Site × Bool :=
  if o.metadata.name.isNone then (s, false)
  else s.patch R o.name (objectPath (Indexed.kind R) o.name) p

/-- Write the status of an object. -/
def patchStatus (s : Site) (R : Type) [Indexed R] [PerKind.Field R] (name : ObjectName)
    (status : IndexStatus) : Site × Bool :=
  s.patch R name (statusPath (Indexed.kind R) name) status.patch

/-- What follows a patch. -/
def afterPatch (next : Requeue) : Site × Bool → Site × Requeue
  | (s, succeeded) => (s, if succeeded then next else .retry)

/-- Reconcile one object; tells when it is to be looked at again. -/
def reconcile (s : Site) (o : Observed R) : Site × Requeue :=
  let kind := Indexed.kind R
  match Finalizer.stage kind o.metadata with
  | .apply =>
    let (s, status) := s.apply o
    if o.status = some status then (s, .resync)
    else afterPatch .resync (s.patchStatus R o.name status)
  | .cleanup position =>
    if o.metadata.name.isNone then (s, .retry)
    else afterPatch .onChange ((s.cleanup o).patchObject o (Finalizer.removing kind position))
  | .adopt => afterPatch .onChange (s.patchObject o (Finalizer.adding kind o.metadata.finalizerList))
  | .done => (s, .onChange)

/-- Mark objects that were skipped as invalid; a failing patch is told and passed over. -/
def markInvalid (R : Type) [Indexed R] [PerKind.Field R] (s : Site) (e : ValidationError) : Site :=
  let kind := Indexed.kind R
  let (s, succeeded) := (s.countInvalid kind).patchStatus R e.object (IndexStatus.rejected e)
  if succeeded then s
  else { s with warnings := s.warnings ++ [.markingFailed kind e.object] }

/-- Set up the index of a kind from what was listed for it. -/
def setupFrom (s : Site) (R : Type) [Indexed R] [PerKind.Field R]
    (listed : Except StoreError (List (Observed R))) : Site × Except StoreError SetupReport :=
  let (index, result, warnings) :=
    (s.indices.get R).setup (listed.map fun objects => objects.map Observed.record)
  let s := s.withIndex index warnings
  match result with
  | .error e => (s, .error e)
  | .ok report =>
    let s := if report.alreadyInitialized then s
      else { s with metrics := s.metrics.set (.records (Indexed.kind R)) report.indexed }
    (report.invalid.foldl (markInvalid R) s, .ok report)

/-- Set up the index of a kind from the cluster, which is not listed for an index that is
    ready. -/
def setupIndex (s : Site) (R : Type) [Indexed R] [PerKind.Field R] (space : Option String) :
    Site × Except StoreError SetupReport :=
  if (s.indices.get R).isReady then (s, .ok .already)
  else
    let store : ClusterStore R := ⟨space, Observed.readers.get R⟩
    let (server, listed) := store.list s.server
    { s with server }.setupFrom R listed

end Site

end HardwareIndex
