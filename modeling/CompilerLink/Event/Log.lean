import CompilerLink.Caller
import CompilerLink.Event.Console
import CompilerLink.Event.Ring
import CompilerLink.Settings

/-! # The event log

Every event has a level from 1 (coarse) upwards and may go to two places that know nothing of each
other: rings in memory, if the level is within `logLevel`, and lines on a console, if it is within
`traceLevel`. Level-one events have a ring of their own, all others share the verbose one.

An event's message is written out only when a place asks for it. Operations answer how often that
happened: `event` never needs it twice, and a console that fails before the message's turn never
asks. -/

namespace CompilerLink

open Text (Dump)

/-- Rings in memory and a console for trace lines. -/
structure EventLog where
  /-- Highest level kept in memory. -/
  logLevel : Nat
  /-- Highest level echoed to the console. -/
  traceLevel : Nat
  /-- The events of level one; present if any level is kept. -/
  events : Option EventRing
  /-- The events of higher levels; present if any of those is kept. -/
  verbose : Option EventRing
  console : Console

namespace EventLog

/-! ### Creation -/

/-- The empty log that the settings ask for. -/
def ofSettings (s : Settings) (console : Console) : EventLog where
  logLevel := s.logLevel
  traceLevel := s.traceLevel
  events := if s.logLevel > 0 then some ⟨"Compiler Bridge Events", s.eventCapacity, #[]⟩ else none
  verbose :=
    if s.logLevel > 1 then some ⟨"Verbose Compiler Bridge Events", s.verboseCapacity, #[]⟩ else none
  console

/-- A log that takes no events. -/
def disabled : EventLog where
  logLevel := 0
  traceLevel := 0
  events := none
  verbose := none
  console := .sink {}

/-- The remark made when a log is set up. -/
def setUp (log : EventLog) : Diagnostic where
  severity := .debug
  component := .events
  message := "Event log initialized"
  fields := [("log_level", .number log.logLevel), ("trace_level", .number log.traceLevel),
    ("capacity", .number (log.events.elim 0 (·.capacity))),
    ("verbose_capacity", .number (log.verbose.elim 0 (·.capacity)))]

/-! ### Levels -/

/-- Whether events of a level are kept in memory. -/
def acceptsLog (log : EventLog) (level : Nat) : Bool := 0 < level && level ≤ log.logLevel

/-- Whether events of a level are echoed to the console. -/
def acceptsTrace (log : EventLog) (level : Nat) : Bool := 0 < level && level ≤ log.traceLevel

/-- Whether events of a level go anywhere. -/
def isEnabled (log : EventLog) (level : Nat) : Bool :=
  log.acceptsLog level || log.acceptsTrace level

/-! ### Recording -/

/-- Keep an event in the ring of its level. -/
def record (log : EventLog) (caller : Caller) (level : Nat) (message : String) : EventLog :=
  let e : Event := ⟨caller.clock, caller.tag, message⟩
  if level = 1 then { log with events := log.events.map (·.push e) }
  else { log with verbose := log.verbose.map (·.push e) }

/-- What stands before the message on a trace line, piece by piece: the level and the thread, and
one space per level. -/
def traceHeader (level : Nat) (tag : String) : List String :=
  ["BridgeTrace-", toString level, "[", tag, "]:"] ++ List.replicate level " "

/-- Write a trace line. The message is written out once if the console takes the whole header, and
not at all otherwise. -/
def writeTrace (log : EventLog) (caller : Caller) (level : Nat) (message : String) :
    Outcome EventLog Nat :=
  let header := log.console.writeAll (traceHeader level caller.tag)
  if header.value then
    let line := header.state.writeAll [message, "\n"]
    ⟨1, { log with console := line.state }, header.emitted ++ line.emitted⟩
  else ⟨0, { log with console := header.state }, header.emitted⟩

/-- Keep an event in memory if its level is kept. -/
def log (log : EventLog) (caller : Caller) (level : Nat) (message : String) :
    Outcome EventLog Nat :=
  if log.acceptsLog level then ⟨1, log.record caller level message, []⟩ else ⟨0, log, []⟩

/-- Echo an event to the console if its level is echoed. -/
def trace (log : EventLog) (caller : Caller) (level : Nat) (message : String) :
    Outcome EventLog Nat :=
  if log.acceptsTrace level then log.writeTrace caller level message else ⟨0, log, []⟩

/-- Report an event to both places; its message is written out at most once. -/
def event (log : EventLog) (caller : Caller) (level : Nat) (message : String) :
    Outcome EventLog Nat :=
  match log.acceptsLog level, log.acceptsTrace level with
  | false, false => ⟨0, log, []⟩
  | true, false => ⟨1, log.record caller level message, []⟩
  | false, true => log.writeTrace caller level message
  | true, true =>
    let traced := log.writeTrace caller level message
    ⟨1, traced.state.record caller level message, traced.emitted⟩

/-! ### Views -/

/-- The level-one events kept, oldest first. -/
def coarseEvents (log : EventLog) : List Event := log.events.elim [] (·.entries.toList)

/-- The events of higher levels kept, oldest first. -/
def verboseEvents (log : EventLog) : List Event := log.verbose.elim [] (·.entries.toList)

/-- The lines that show both rings, cut where they are handed to a writer. -/
def report (log : EventLog) : List String :=
  log.events.elim [] EventRing.report ++ log.verbose.elim [] EventRing.report

/-- Show both rings on a sink; the answer tells whether all was taken. -/
def printOn (log : EventLog) (out : Sink) : Sink × Bool := out.writeAll log.report

/-- The log laid out for inspection. -/
def dump (log : EventLog) : Dump :=
  .record "EventLog"
    [("log_level", .number log.logLevel), ("trace_level", .number log.traceLevel),
      ("events", .optional (log.events.map EventRing.dump)),
      ("verbose_events", .optional (log.verbose.map EventRing.dump))] false

end EventLog

end CompilerLink
