import CompilerLink.Text.Dump

/-! # Event rings

A ring keeps the latest events up to its capacity, oldest first. `EventRing.push` drops the oldest
event when the ring is full; a ring of capacity zero keeps nothing. -/

namespace CompilerLink

open Text (Dump)

/-- One recorded event. -/
structure Event where
  /-- Seconds since the program started, as they are written. -/
  time : String
  /-- The tag of the thread that reported it. -/
  thread : String
  message : String
  deriving Repr, DecidableEq

/-- The event laid out for inspection. -/
def Event.dump (e : Event) : Dump :=
  .record "EventEntry"
    [("timestamp", .plain e.time), ("thread", .literal e.thread),
      ("message", .literal e.message)] true

/-- The latest events up to a capacity. -/
structure EventRing where
  name : String
  capacity : Nat
  /-- The events kept, oldest first. -/
  entries : Array Event := #[]
  deriving Repr, DecidableEq

namespace EventRing

/-- Keep an event, in place of the oldest one if the ring is full. -/
def push (r : EventRing) (e : Event) : EventRing :=
  if r.capacity = 0 then r
  else if r.capacity ≤ r.entries.size then
    { r with entries := (r.entries.extract 1 r.entries.size).push e }
  else { r with entries := r.entries.push e }

/-- The lines that show the ring: a heading, one line per event and an empty line, cut where they
are handed to a writer. -/
def report (r : EventRing) : List String :=
  [r.name ++ " (" ++ toString r.entries.size ++ " events):\n"]
    ++ (if r.entries.isEmpty then ["No events\n"] else [])
    ++ (r.entries.toList.map fun e =>
      "Event: " ++ e.time ++ " Thread " ++ e.thread ++ ": " ++ e.message ++ "\n")
    ++ ["\n"]

/-- The ring laid out for inspection. -/
def dump (r : EventRing) : Dump :=
  .record "RingLog"
    [("name", .literal r.name), ("capacity", .number r.capacity),
      ("entries", .guarded (.sequence (r.entries.toList.map Event.dump)))] true

end EventRing

end CompilerLink
