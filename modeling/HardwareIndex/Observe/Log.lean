import HardwareIndex.Json.Printer

/-!
# Log events

What the program logs: a message of some level, the part of the program it comes
from, and fields with values.
-/

namespace HardwareIndex

/-- How important an event is, the most important first. -/
inductive LogLevel where
  | error
  | warn
  | info
  | debug
  | trace
  deriving DecidableEq, Repr

namespace LogLevel

/-- The levels from the most important on. -/
def all : List LogLevel := [.error, .warn, .info, .debug, .trace]

/-- The word for a level. -/
def text : LogLevel → String
  | .error => "ERROR"
  | .warn => "WARN"
  | .info => "INFO"
  | .debug => "DEBUG"
  | .trace => "TRACE"

/-- Place of a level, starting with one. -/
def rank : LogLevel → Nat
  | .error => 1
  | .warn => 2
  | .info => 3
  | .debug => 4
  | .trace => 5

end LogLevel

/-- Something that happened. -/
structure LogEvent where
  level : LogLevel
  target : String
  message : String
  fields : List (String × String)
  deriving DecidableEq, Repr

/-- The fields of an event with its message. -/
def LogEvent.content (e : LogEvent) : Json :=
  .obj (("message", .str e.message) :: e.fields.map fun (name, value) => (name, .str value))

/-- An event as a value. -/
def LogEvent.toJson (e : LogEvent) : Json :=
  .obj [("level", .str e.level.text), ("fields", e.content), ("target", .str e.target)]

/-- Names of what an event holds. -/
def LogEvent.names (e : LogEvent) : List String :=
  "message" :: e.fields.map Prod.fst

end HardwareIndex
