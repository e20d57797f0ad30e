import HardwareIndex.Text.Reading

/-!
# Configuration of logging

What the environment says about logs and span export: the format of log lines,
where spans are sent, and the name under which the service reports.
-/

namespace HardwareIndex

/-- The variables of the environment with their values. -/
abbrev Environment := List (String × String)

/-- How log lines are written. -/
inductive LogFormat where
  | text
  | json
  deriving DecidableEq, Repr

/-- The format that a word asks for: `json` in any letter case; anything else is text. -/
def LogFormat.parse (s : String) : LogFormat :=
  if Text.lowerAsciiAll s.toList = "json".toList then .json else .text

/-- How the program reports on itself. -/
structure TracingConfig where
  /-- Where spans are sent, if anywhere. -/
  endpoint : Option String
  /-- Whether they are asked to be sent compressed. -/
  isCompressed : Bool
  serviceName : String
  logFormat : LogFormat
  deriving DecidableEq, Repr

/-- The variables that ask for compression. -/
def TracingConfig.compressionNames : List String :=
  ["OTEL_EXPORTER_OTLP_TRACES_COMPRESSION", "OTEL_EXPORTER_OTLP_COMPRESSION"]

/-- What the environment asks for; an empty endpoint is none. -/
def TracingConfig.ofEnvironment (env : Environment) : TracingConfig where
  endpoint := (env.lookup "OTEL_EXPORTER_OTLP_ENDPOINT").filter fun s => !s.isEmpty
  isCompressed := compressionNames.any fun name => (env.lookup name).isSome
  serviceName := (env.lookup "OTEL_SERVICE_NAME").getD "machindex"
  logFormat := ((env.lookup "LOG_FORMAT").map LogFormat.parse).getD .text

end HardwareIndex
