import HardwareIndex.CommandLine.Run

/-!
# The program

Runs the command that the arguments ask for and prints what it leaves behind.
-/

namespace HardwareIndex

/-- The variables that the program reads. -/
def environmentNames : List String :=
  ["BIND_ADDR", "WATCH_NAMESPACE", "METRICS_ENABLED", "INDEX_SERVER", "INDEX_MAX_CACHE",
    "OTEL_EXPORTER_OTLP_ENDPOINT", "OTEL_SERVICE_NAME", "LOG_FORMAT", "RUST_LOG"] ++
    TracingConfig.compressionNames

/-- The variables that are set, with their values. -/
def readEnvironment : IO Environment :=
  environmentNames.filterMapM fun name => do
    return (← IO.getEnv name).map (name, ·)

/-- A line of the log. -/
def logLine (format : LogFormat) (e : LogEvent) : String :=
  match format with
  | .json => e.toJson.compact
  | .text =>
    let fields := e.fields.map fun (name, value) => s!" {name}={value}"
    s!"{e.level.text} {e.target}: {e.message}" ++ String.join fields

end HardwareIndex

open HardwareIndex in
/-- Run the command that the arguments ask for. -/
def main (args : List String) : IO UInt32 := do
  let around : Surroundings := ⟨← readEnvironment, Transport.offline, .unreachable, SocketAddress.isBindable⟩
  let result := Command.runArgs around args
  for event in result.logs do
    IO.println (logLine result.logFormat event)
  IO.print result.stdout
  for line in result.stderr do
    IO.eprintln line
  return UInt32.ofNat result.code
