/-! # Callers

Operations run on threads. What they need to know of the thread is its identity, the name that tags
its events and the time it reads off the clock. -/

namespace CompilerLink

/-- The tag of a thread without a name. -/
def unknownThread : String := "?"

/-- The thread on which an operation runs, at the time of the call. -/
structure Caller where
  /-- Different threads have different serials; the main thread has serial 0. -/
  serial : Nat
  /-- The thread's name, if it has one. -/
  name : Option String
  /-- Seconds since the program started, as they are written. -/
  clock : String
  deriving Repr, DecidableEq

namespace Caller

/-- The main thread at a given time. -/
def main (clock : String) : Caller := ⟨0, some "main", clock⟩

/-- How a thread is named in events. -/
def tag (c : Caller) : String := c.name.getD unknownThread

end Caller

end CompilerLink
