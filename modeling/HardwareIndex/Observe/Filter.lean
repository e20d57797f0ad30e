import HardwareIndex.Observe.Directive

/-!
# Log filters

Which events a filter lets through. A filter is a list of directives joined by
commas. For an event the most specific directive that speaks of it counts, of
equally specific ones the last; without any directive events of level info and
above pass. Directives on spans let no event pass that is outside of them.
-/

namespace HardwareIndex

/-- Which events pass. -/
structure LogFilter where
  directives : List LogDirective
  /-- Texts that are no directives, each with the reason. -/
  ignored : List (String × DirectiveFault)
  deriving Repr

namespace LogFilter

/-- Without any directive, events of level info and above pass. -/
def standard : LogDirective := { maxRank := LogLevel.info.rank }

/-- The filter that a text asks for. -/
def parse (s : String) : LogFilter :=
  let parts := (s.splitOn ",").filter fun part => !part.isEmpty
  let read := parts.map fun part => (part, LogDirective.parse part)
  let directives := read.filterMap fun (_, result) => result.toOption
  let ignored := read.filterMap fun
    | (part, .error reason) => some (part, reason)
    | _ => none
  ⟨if directives.isEmpty then [standard] else directives, ignored⟩

/-- The more specific of two directives, the second if they are equally specific. -/
def preferred : Option LogDirective → LogDirective → Option LogDirective
  | some best, d => if (LogDirective.compare d best).isGE then some d else some best
  | none, d => some d

/-- The directive that counts for an event. -/
def directiveFor? (f : LogFilter) (e : LogEvent) : Option LogDirective :=
  (f.directives.filter fun d => d.isStatic && d.covers e).foldl preferred none

/-- Whether an event passes. -/
def admits (f : LogFilter) (e : LogEvent) : Bool :=
  (f.directiveFor? e).any fun d => e.level.rank ≤ d.maxRank

/-- What is told of texts that are no directives. -/
def notices (f : LogFilter) : List String :=
  f.ignored.map fun (part, reason) => "ignoring \x60" ++ part ++ "\x60: " ++ reason.message

end LogFilter

end HardwareIndex
