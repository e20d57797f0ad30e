import HardwareIndex.Client.Resolve
import HardwareIndex.CommandLine.Help
import HardwareIndex.Http.Uri
import HardwareIndex.Json.Yaml
import HardwareIndex.Observe.Filter
import HardwareIndex.Resource.Definition
import HardwareIndex.Text.Quoted

/-!
# Running a command

What a command prints, logs and returns, given what it finds around it: its
environment, a transport for lookups, and a cluster that cannot be reached or
refuses to list. Failures are told with their causes from the outermost inwards.
-/

namespace HardwareIndex

/-- A failure in words, with its causes from the outermost inwards. -/
structure Failure where
  context : String
  causes : List String
  deriving DecidableEq, Repr

namespace Failure

/-- The causes as they are told: numbered if there are several. -/
def causeLines : List String → List String
  | [] => []
  | [only] => ["    " ++ only]
  | several => several.zipIdx.map fun (cause, i) => s!"    {i}: {cause}"

/-- The lines that tell a failure. -/
def lines (f : Failure) : List String :=
  ("Error: " ++ f.context) ::
    if f.causes.isEmpty then [] else "" :: "Caused by:" :: causeLines f.causes

end Failure

/-- How a cluster meets the service. -/
inductive ClusterAccess where
  | unreachable
  /-- It is there but lists nothing. -/
  | refusing
  deriving DecidableEq, Repr

/-- What a command finds around it. -/
structure Surroundings where
  env : Environment
  send : Transport
  cluster : ClusterAccess
  /-- Whether a port can be opened at an address. -/
  canBind : SocketAddress → Bool

/-- What a command leaves behind. -/
structure RunResult where
  code : Nat
  stdout : String
  stderr : List String
  logFormat : LogFormat
  logs : List LogEvent

namespace RunResult

/-- A success that prints a text. -/
def printed (text : String) : RunResult := ⟨0, text, [], .text, []⟩

/-- A failure. -/
def failed (f : Failure) : RunResult := ⟨1, "", f.lines, .text, []⟩

/-- Arguments that are no command. -/
def usage (e : UsageError) (help : String) : RunResult :=
  match e with
  | .help => printed help
  | _ => ⟨2, "", [], .text, []⟩

end RunResult

namespace Command

/-- The documents that a command prints. -/
def documents : Command → List Json
  | .definitions => Definition.all.map Definition.manifest
  | _ => []

/-- Documents as they are printed. -/
def documentsText (documents : List Json) : String :=
  String.join (documents.map fun document => "---\n" ++ Yaml.document document ++ "\n")

/-- Look keys up on a server and print the name. -/
def runLookup (send : Transport) (server : Url) (kind : RecordKind) (mac uuid : Option String)
    (maxCache : Nat) : RunResult :=
  match Client.forKind server kind maxCache with
  | .error e => .failed ⟨s!"invalid server URL {server}", e.chain⟩
  | .ok client =>
    match (client.resolve send mac uuid).2.result with
    | .error e => .failed ⟨s!"{kind} lookup against {server} failed", e.chain⟩
    | .ok name => .printed (name.body ++ "\n")

/-- Where the parts of the program log. -/
def mainTarget : String := "machindex"

/-- Where tracing logs. -/
def tracingTarget : String := "machindex_server::observability::tracing"

/-- Where the population of the indices logs. -/
def bootstrapTarget : String := "machindex_operator::bootstrap"

/-- Where the indices log. -/
def indexTarget : String := "machindex_core::index"

/-- The event that tells how tracing was set up. -/
def tracingEvent (config : TracingConfig) : LogEvent :=
  match config.endpoint with
  | some endpoint => ⟨.info, tracingTarget, "OpenTelemetry tracing initialized",
      [("endpoint", endpoint), ("service_name", config.serviceName)]⟩
  | none => ⟨.debug, tracingTarget, "Tracing initialized (no OTLP export)", []⟩

/-- The events that start the service. -/
def startEvents (bind : SocketAddress) (space : Option String) : List LogEvent := [
  ⟨.info, mainTarget, "Starting machindex server...", []⟩,
  ⟨.info, mainTarget, "configuration",
    [("bind_addr", bind.text), ("namespace", Text.quoteOption space)]⟩,
  ⟨.info, mainTarget, "Starting API server on " ++ bind.text, []⟩]

/-- The events of populating the indices until the cluster refuses. -/
def populateEvents (space : Option String) : List LogEvent :=
  RecordKind.all.flatMap fun kind => [
    ⟨.info, bootstrapTarget, "populating index",
      [("kind", kind.text), ("namespace", space.getD "*")]⟩,
    ⟨.info, indexTarget, "setting up index", [("kind", kind.text)]⟩]

/-- The events of the service and the failure that ends it. -/
def serveEvents (around : Surroundings) (bind : SocketAddress) (space : Option String) :
    List LogEvent × String :=
  let start := startEvents bind space
  if !around.canBind bind then (start, "failed to bind " ++ bind.text)
  else match around.cluster with
    | .unreachable => (start, "failed to connect to Kubernetes")
    | .refusing =>
      (start ++ ⟨.info, mainTarget, "Connected to Kubernetes", []⟩ :: populateEvents space,
        "failed to populate indices")

/-- Serve until the cluster fails. Spans can be sent to an address that is the target of a
    request, and not compressed. -/
def runServe (around : Surroundings) (bind : SocketAddress) (space : Option String) : RunResult :=
  let config := TracingConfig.ofEnvironment around.env
  let filter := LogFilter.parse ((around.env.lookup "RUST_LOG").getD "")
  if config.endpoint.any fun endpoint => config.isCompressed || (Target.parse? endpoint).isNone then
    .failed ⟨"failed to initialize tracing", []⟩
  else
    let (events, failure) := serveEvents around bind space
    ⟨1, "", filter.notices ++ (Failure.mk failure []).lines, config.logFormat,
      (tracingEvent config :: events).filter filter.admits⟩

/-- Run a command. -/
def run (around : Surroundings) : Command → RunResult
  | .definitions => .printed (documentsText Command.definitions.documents)
  | .serve bind space _ => runServe around bind space
  | .lookup server kind mac uuid maxCache _ => runLookup around.send server kind mac uuid maxCache

/-- Run the command that arguments ask for. -/
def runArgs (around : Surroundings) (args : List String) : RunResult :=
  match parse around.env args with
  | .ok command => command.run around
  | .error e => .usage e (Help.text around.env args)

end Command

end HardwareIndex
