import HardwareIndex.Client.KeyCache
import HardwareIndex.Client.NameBody
import HardwareIndex.Client.Transport
import HardwareIndex.Observe.Metrics

/-!
# Resolving keys through a server

A client resolves an address, an identifier or both to a name by asking a server,
and keeps what it learns in a cache. A request carries the keys that are given
and not empty. Only success is cached, under every key of the request; a failure
leaves the cache as it was.
-/

namespace HardwareIndex

/-- Why a key could not be resolved. -/
inductive ClientError where
  | missingKey
  | notFound
  | notReady
  | status (code : StatusCode)
  | transport (fault : TransportFault)
  | decode
  | url (fault : UrlError)
  deriving DecidableEq, Repr

namespace ClientError

/-- What is said of a body that is no name. -/
def decodeFault : String := "error decoding response body"

/-- The wording of a failure. -/
def message : ClientError → String
  | .missingKey => "no MAC or UUID given"
  | .notFound => "identity not found"
  | .notReady => "index server not ready"
  | .status code => s!"index server answered {code.text}"
  | .transport fault => s!"request failed: {fault.message}"
  | .decode => s!"malformed response: {decodeFault}"
  | .url fault => s!"invalid server URL: {fault.message}"

/-- A failure with its causes, from the outermost inwards. -/
def chain : ClientError → List String
  | .transport fault => message (.transport fault) :: fault.causes
  | .decode => [message .decode, decodeFault]
  | .url fault => [message (.url fault), fault.message]
  | e => [e.message]

/-- Whether the server knows of no such key. -/
def isNotFound : ClientError → Bool
  | .notFound => true
  | _ => false

end ClientError

/-- A client of a lookup address. -/
structure Client where
  base : Url
  cache : KeyCache

namespace Client

/-- Metrics after cache events. -/
def count (m : Metrics) (events : List (CacheEvent × Nat)) : Metrics :=
  events.foldl (fun m (event, n) => m.add (.cache event) n) m

/-- A client that asks the given address. -/
def new (base : Url) (capacity : Nat) : Client :=
  ⟨base, KeyCache.new capacity⟩

/-- A client that asks a server about one kind of records. -/
def forKind (server : Url) (kind : RecordKind) (capacity : Nat) : Except ClientError Client :=
  match server.child kind.lookupPath with
  | .ok base => .ok (new base capacity)
  | .error fault => .error (.url fault)

/-- The named values that a request carries. -/
def pairs (mac uuid : Option String) : List (String × String) :=
  (mac.map ("mac", ·)).toList ++ (uuid.map ("uuid", ·)).toList

/-- The address of a request for keys that are given and not empty. -/
def requestUrl (base : Url) (mac uuid : Option String) : Url :=
  base.addPairs (pairs mac uuid)

/-- What a reply says. -/
def judge (reply : ServerReply) : Except ClientError ObjectName :=
  if reply.status = .notFound then .error .notFound
  else if reply.status = .notAcceptable then .error .notReady
  else if !reply.status.isSuccess then .error (.status reply.status)
  else match reply.body.bind nameOfBody? with
    | some name => .ok name
    | none => .error .decode

/-- Cache a name under the keys that were resolved to it; tells how many entries were
    dropped. -/
def remember (cache : KeyCache) (mac uuid : Option String) (name : ObjectName) : KeyCache × Nat :=
  let (cache, first) := mac.elim (cache, 0) fun key => cache.insert .mac key name
  let (cache, second) := uuid.elim (cache, 0) fun key => cache.insert .uuid key name
  (cache, first + second)

/-- What a call did. -/
structure Resolved where
  result : Except ClientError ObjectName
  /-- The request that was sent, if one was. -/
  request : Option Url
  /-- Cache events with their numbers. -/
  events : List (CacheEvent × Nat)

/-- Resolve an address, an identifier or both. -/
def resolve (c : Client) (send : Transport) (mac uuid : Option String) : Client × Resolved :=
  let mac := KeyCache.present? mac
  let uuid := KeyCache.present? uuid
  if mac.isNone && uuid.isNone then (c, ⟨.error .missingKey, none, []⟩)
  else
    match c.cache.lookup mac uuid with
    | (cache, some name) => ({ c with cache }, ⟨.ok name, none, [(.hit, 1)]⟩)
    | (_, none) =>
      let url := requestUrl c.base mac uuid
      let result := match send url with
        | .ok reply => judge reply
        | .error fault => .error (.transport fault)
      match result with
      | .error e => (c, ⟨.error e, some url, [(.miss, 1)]⟩)
      | .ok name =>
        let (cache, evicted) := remember c.cache mac uuid name
        let evictions := if evicted = 0 then [] else [(CacheEvent.eviction, evicted)]
        ({ c with cache }, ⟨.ok name, some url, (.miss, 1) :: evictions⟩)

end Client

end HardwareIndex
