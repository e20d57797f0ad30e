import HardwareIndex.Address.Socket
import HardwareIndex.Inventory.Kind
import HardwareIndex.Observe.Config
import HardwareIndex.Url.Parser

/-!
# Settings

The settings that options give: what each is called on the command line and in
the environment, what its values are, and what it is when nothing gives it.
-/

namespace HardwareIndex

/-- Why arguments are no command. -/
inductive UsageError where
  /-- Help was asked for. -/
  | help
  /-- Nothing was asked for. -/
  | nothing
  | unknownArgument
  | unknownCommand
  /-- A value is missing, or is not among the possible ones. -/
  | invalidValue
  /-- A value cannot be read. -/
  | unreadableValue
  /-- A flag has a value. -/
  | surplusValue
  | repeatedOption
  deriving DecidableEq, Repr

/-- The settings. -/
inductive Setting where
  | bindAddress
  | namespace
  | metrics
  | server
  | kind
  | mac
  | uuid
  | maxCache
  | timeout
  deriving DecidableEq, Repr

/-- The value of a setting. -/
inductive Setting.Value where
  | address (a : SocketAddress)
  | text (s : String)
  | flag (b : Bool)
  | url (u : Url)
  | kind (k : RecordKind)
  | number (n : Nat)

namespace Setting

/-- The option that gives a setting, without its hyphens. -/
def option : Setting → String
  | .bindAddress => "bind-addr"
  | .namespace => "namespace"
  | .metrics => "metrics"
  | .server => "server"
  | .kind => "kind"
  | .mac => "mac"
  | .uuid => "uuid"
  | .maxCache => "max-cache"
  | .timeout => "timeout-secs"

/-- The variable that gives a setting where no option does. -/
def envName? : Setting → Option String
  | .bindAddress => some "BIND_ADDR"
  | .namespace => some "WATCH_NAMESPACE"
  | .metrics => some "METRICS_ENABLED"
  | .server => some "INDEX_SERVER"
  | .maxCache => some "INDEX_MAX_CACHE"
  | _ => none

/-- What a setting is where nothing gives it. -/
def default? : Setting → Option String
  | .bindAddress => some "0.0.0.0:8080"
  | .metrics => some "true"
  | .server => some "http://127.0.0.1:8080"
  | .kind => some "machine"
  | .maxCache => some "100"
  | .timeout => some "5"
  | _ => none

/-- All values of a setting that has few. -/
def choices : Setting → List String
  | .metrics => ["true", "false"]
  | _ => []

/-- What a setting is for. -/
def help : Setting → String
  | .bindAddress => "Address the HTTP server listens on"
  | .namespace => "Restrict the index to one namespace (all namespaces if unset)"
  | .metrics => "Expose Prometheus metrics on /metrics"
  | .server => "Base URL of the index server"
  | .kind => "Which index to query: machine, bmc or machinetype"
  | .maxCache => "Maximum cached entries, 0 for unbounded"
  | .timeout => "Request timeout in seconds"
  | _ => ""

/-- A value that was read, or that cannot be. -/
def orUnreadable (wrap : α → Value) : Option α → Except UsageError Value
  | some a => .ok (wrap a)
  | none => .error .unreadableValue

/-- The value that a text gives a setting. -/
def read (setting : Setting) (s : String) : Except UsageError Value :=
  match setting with
  | .bindAddress => orUnreadable .address (SocketAddress.parse? s)
  | .metrics =>
    if s == "true" then .ok (.flag true)
    else if s == "false" then .ok (.flag false)
    else .error .invalidValue
  | .server => orUnreadable .url (Url.parse s).toOption
  | .kind => orUnreadable .kind (RecordKind.ofText? s)
  | .maxCache | .timeout =>
    orUnreadable .number (Text.Decimal.unsigned? Text.Decimal.max64 s.toList)
  | .namespace | .mac | .uuid => .ok (.text s)

end Setting

end HardwareIndex
