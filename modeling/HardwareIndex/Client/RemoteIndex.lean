import HardwareIndex.Client.Resolve
import HardwareIndex.Store.Basic

/-!
# Records through a server

An index that is not held here: a client resolves keys to names, and the objects
of these names are read from a store and converted. A key that is absent or
unknown to the server finds nothing, and so does a name whose object is gone.
-/

namespace HardwareIndex

/-- Why a record could not be read. -/
inductive ResolveError where
  | remote (e : ClientError)
  | store (e : StoreError)
  | invalid (e : ValidationError)
  deriving DecidableEq, Repr

/-- A store that is read by name. -/
abbrev ObjectReader (S : Type) := ObjectName → Except StoreError (Option (Object S))

namespace ObjectReader

variable {S : Type}

/-- The reader of a memory store. -/
def ofMap (objects : NameMap (Object S)) : ObjectReader S :=
  fun name => .ok objects[name]?

/-- The reader of a store that cannot be read. -/
def failing (e : StoreError) : ObjectReader S :=
  fun _ => .error e

end ObjectReader

/-- A client with the store of the objects it names. -/
structure RemoteIndex (S : Type) where
  client : Client
  store : ObjectReader S

namespace RemoteIndex

variable {S R : Type} [Convertible S R]

/-- The record of a name. -/
def byName (index : RemoteIndex S) (name : ObjectName) : Except ResolveError (Option R) :=
  match index.store name with
  | .error e => .error (.store e)
  | .ok none => .ok none
  | .ok (some object) =>
    match object.toRecord with
    | .ok record => .ok (some record)
    | .error e => .error (.invalid e)

/-- The record that a resolved key leads to. -/
def ofResolved (index : RemoteIndex S) :
    Except ClientError ObjectName → Except ResolveError (Option R)
  | .ok name => index.byName name
  | .error .notFound => .ok none
  | .error .missingKey => .ok none
  | .error e => .error (.remote e)

/-- The record of an address, an identifier or both; and what the client did. -/
def byKeys (index : RemoteIndex S) (send : Transport) (mac uuid : Option String) :
    RemoteIndex S × Except ResolveError (Option R) × Client.Resolved :=
  let (client, resolved) := index.client.resolve send mac uuid
  ({ index with client }, index.ofResolved resolved.result, resolved)

/-- The record of an address. -/
def byMac (index : RemoteIndex S) (send : Transport) (mac : String) :
    RemoteIndex S × Except ResolveError (Option R) × Client.Resolved :=
  index.byKeys send (some mac) none

/-- The record of an identifier. -/
def byUuid (index : RemoteIndex S) (send : Transport) (uuid : String) :
    RemoteIndex S × Except ResolveError (Option R) × Client.Resolved :=
  index.byKeys send none (some uuid)

/-- An index that is held elsewhere needs no setup. -/
def isReady (_ : RemoteIndex S) : Bool := true

end RemoteIndex

end HardwareIndex
