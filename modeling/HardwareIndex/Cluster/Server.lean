import HardwareIndex.Cluster.Request
import HardwareIndex.Store.Basic

/-!
# The cluster's interface

A server that holds objects by path, and answers requests to list, read and
patch them. Single paths can be made to fail with a code. A patch is written
down and answered; what becomes of it comes back as an event. Every request that
arrives is logged.
-/

namespace HardwareIndex

/-- An object that the cluster holds. -/
structure HeldObject where
  kind : RecordKind
  name : ObjectName
  content : Json

/-- The path of an object that the cluster holds. -/
def HeldObject.path (o : HeldObject) : String := objectPath o.kind o.name

/-- Whether an object is listed at a path: with its namespace or with its kind. -/
def HeldObject.isListedAt (o : HeldObject) (path : String) : Bool :=
  path == collectionPath o.kind (some o.name.space) || path == collectionPath o.kind none

/-- Whether an object is patched at a path: its own, or that of its status. -/
def HeldObject.isPatchedAt (o : HeldObject) (path : String) : Bool :=
  path == o.path || path == statusPath o.kind o.name

/-- Why a request did not give what was asked for. -/
inductive ClusterFault where
  /-- It cannot be written, and was not sent. -/
  | unsendable
  /-- The cluster answered with a code. -/
  | answered (code : Nat)
  /-- The answer is something else. -/
  | malformed
  deriving DecidableEq, Repr

/-- The code for an object that is unknown. -/
def ClusterFault.unknown : ClusterFault := .answered 404

/-- The failure of a store whose cluster cannot be read. -/
def ClusterFault.toStoreError : ClusterFault → StoreError
  | .unsendable => ⟨"the request cannot be written"⟩
  | .answered code => ⟨s!"the cluster answered {code}"⟩
  | .malformed => ⟨"the cluster sent a malformed object"⟩

/-- A cluster. -/
structure Server where
  objects : List HeldObject
  /-- Codes to fail with, by method and path. -/
  codes : List (String × Nat)
  /-- The requests since the log was taken. -/
  log : List ClusterRequest

namespace Server

/-- A cluster that holds nothing. -/
def empty : Server := ⟨[], [], []⟩

/-- With a code set, or removed, for a method and a path. -/
def setCode (s : Server) (target : String) (code : Option Nat) : Server :=
  let others := s.codes.filter fun (other, _) => other != target
  { s with codes := (code.map (target, ·)).toList ++ others }

/-- Without the object of a name. -/
def remove (s : Server) (kind : RecordKind) (name : ObjectName) : Server :=
  { s with objects := s.objects.filter fun o => o.path != objectPath kind name }

/-- With an object stored. -/
def put (s : Server) (kind : RecordKind) (name : ObjectName) (content : Json) : Server :=
  { s with objects := ⟨kind, name, content⟩ :: (s.remove kind name).objects }

/-- What is held of the first object with a property. -/
def held (s : Server) (p : HeldObject → Bool) : Except ClusterFault Json :=
  match s.objects.find? p with
  | some o => .ok o.content
  | none => .error .unknown

/-- The code that a request fails with. -/
def failure? (s : Server) (r : ClusterRequest) : Option Nat :=
  s.codes.lookup (r.method ++ " " ++ r.path)

/-- With a request logged. -/
def record (s : Server) (r : ClusterRequest) : Server :=
  { s with log := s.log ++ [r] }

/-- The requests since the log was taken, by path. -/
def takeLog (s : Server) : Server × List ClusterRequest :=
  ({ s with log := [] }, s.log.mergeSort fun a b => decide (a.path ≤ b.path))

/-- Send a request; gives the path at which it arrived, if it does not fail there. -/
def send (s : Server) (patch : Option Patch) (path : String) :
    Server × Except ClusterFault String :=
  match arrivingPath? path with
  | none => (s, .error .unsendable)
  | some path =>
    let request : ClusterRequest := ⟨patch, path⟩
    (s.record request, match s.failure? request with
      | some code => .error (.answered code)
      | none => .ok path)

/-- Whether a path is one of objects: it has more segments than one of a collection. -/
def isObjectPath (path : String) : Bool :=
  2 < path.toList.count '/'

/-- The objects that are listed at a path, by their own paths. -/
def collection (s : Server) (path : String) : List Json :=
  let kept := s.objects.filter fun o => o.isListedAt path
  (kept.mergeSort fun a b => decide (a.path ≤ b.path)).map HeldObject.content

/-- List a collection. -/
def list (s : Server) (kind : RecordKind) (space : Option String) :
    Server × Except ClusterFault (List Json) :=
  let (sent, arrived) := s.send none (collectionPath kind space)
  (sent, do
    let path ← arrived
    if isObjectPath path then throw .unknown else return s.collection path)

/-- Read an object. Nothing is sent for an empty name. -/
def read (s : Server) (kind : RecordKind) (name : ObjectName) : Server × Except ClusterFault Json :=
  if name.name.isEmpty then (s, .error .unsendable)
  else
    let (sent, arrived) := s.send none (objectPath kind name)
    (sent, do
      let path ← arrived
      if isObjectPath path then s.held fun o => path == o.path else throw .malformed)

/-- Patch the object of a name at a path, which is its own or that of its status; gives the
    object as it is. Nothing is sent for an empty name. -/
def patch (s : Server) (name : ObjectName) (path : String) (p : Patch) :
    Server × Except ClusterFault Json :=
  if name.name.isEmpty then (s, .error .unsendable)
  else
    let (sent, arrived) := s.send (some p) path
    (sent, do
      let path ← arrived
      s.held fun o => o.isPatchedAt path)

end Server

/-- Objects of one kind in a cluster. -/
structure ClusterStore (R : Type) where
  /-- The namespace that is listed; all of them if there is nothing. -/
  space : Option String
  /-- How objects are read. -/
  reader : Observed.Reader R

namespace ClusterStore

variable {R : Type} [Indexed R]

/-- List the objects. -/
def list (store : ClusterStore R) (s : Server) :
    Server × Except StoreError (List (Observed R)) :=
  let (s, answer) := s.list (Indexed.kind R) store.space
  (s, match answer with
    | .error fault => .error fault.toStoreError
    | .ok objects =>
      match objects.mapM store.reader with
      | some read => .ok read
      | none => .error ClusterFault.malformed.toStoreError)

/-- Read the object of a name, in any namespace; an unknown one is nothing. -/
def get (store : ClusterStore R) (s : Server) (name : ObjectName) :
    Server × Except StoreError (Option (Observed R)) :=
  let (s, answer) := s.read (Indexed.kind R) name
  (s, match answer with
    | .error fault => if fault = .unknown then .ok none else .error fault.toStoreError
    | .ok object =>
      match store.reader object with
      | some read => .ok (some read)
      | none => .error ClusterFault.malformed.toStoreError)

end ClusterStore

end HardwareIndex
