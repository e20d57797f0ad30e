import HardwareIndex.Http.Uri
import HardwareIndex.Resource.Object

/-!
# Requests to the cluster

Collections, objects and the status of objects have paths below one root. A path
is sent as the target of a request, in which a question mark begins a query and
a number sign a fragment: `arrivingPath?` is the part that arrives as a path. A
path of the characters of a path arrives as it is (`arrivingPath?_eq_some`).
-/

namespace HardwareIndex

/-- The path of a collection, of one namespace or of all. -/
def collectionPath (kind : RecordKind) : Option String → String
  | some space => "namespaces/" ++ space ++ "/" ++ kind.plural
  | none => kind.plural

/-- The path of an object. -/
def objectPath (kind : RecordKind) (name : ObjectName) : String :=
  collectionPath kind (some name.space) ++ "/" ++ name.name

/-- The path of the status of an object. -/
def statusPath (kind : RecordKind) (name : ObjectName) : String :=
  objectPath kind name ++ "/status"

/-- The root that all paths are below. -/
def clusterRoot : String := "/apis/machindex.io/v1alpha1/"

/-- The address of a collection. -/
def collectionUrl (kind : RecordKind) (space : String) : String :=
  clusterRoot ++ collectionPath kind (some space)

/-- The part of a path that arrives as one; nothing if the path cannot be sent. -/
def arrivingPath? (path : String) : Option String :=
  (Target.parse? (clusterRoot ++ path)).map fun target =>
    String.ofList (target.path.toList.drop clusterRoot.length)

/-- How a request asks to be told of changes. -/
def watchQuery : String := "watch=true"

/-- Whether the wish to be told of changes in a collection arrives: a fragment in the path
    hides it. -/
def canWatch (path : String) : Bool :=
  (Target.parse? (clusterRoot ++ path ++ "?" ++ watchQuery)).any fun target =>
    target.query.any fun query => query.endsWith watchQuery

/-- A path that may stand in a target arrives as it is. -/
theorem arrivingPath?_eq_some {path : String}
    (size : (clusterRoot ++ path).utf8ByteSize ≤ Target.maxSize)
    (chars : ∀ c ∈ path.toList, Target.isPathChar c = true) :
    arrivingPath? path = some path := by
  have root : clusterRoot.toList.all Target.isPathChar = true := by decide
  have all : ∀ c ∈ (clusterRoot ++ path).toList, Target.isPathChar c = true := by
    simp only [String.toList_append, List.mem_append]
    rintro c (h | h)
    · exact List.all_eq_true.mp root c h
    · exact chars c h
  have some_char : clusterRoot ++ path ≠ "" := by
    intro h
    have := congrArg String.toList h
    simp [clusterRoot] at this
  have parsed : Target.parse? (clusterRoot ++ path) = some ⟨clusterRoot ++ path, none⟩ := by
    rw [← Target.pathAndQuery?_eq_some some_char all, Target.parse?, if_neg (by omega)]
    simp [clusterRoot, String.toList_append]
  simp [arrivingPath?, parsed, ← String.length_toList]

/-- How a patch says what changes. -/
inductive PatchKind where
  /-- Members to be set. -/
  | merge
  /-- Operations, each of which has to succeed. -/
  | operations
  deriving DecidableEq, Repr

/-- The content type of a patch. -/
def PatchKind.contentType : PatchKind → String
  | .merge => "application/merge-patch+json"
  | .operations => "application/json-patch+json"

/-- A change to an object. -/
structure Patch where
  kind : PatchKind
  body : Json

/-- A request that arrived. -/
structure ClusterRequest where
  /-- Nothing for a request that reads. -/
  patch : Option Patch
  path : String

/-- The method of a request. -/
def ClusterRequest.method (r : ClusterRequest) : String :=
  if r.patch.isSome then "PATCH" else "GET"

end HardwareIndex
