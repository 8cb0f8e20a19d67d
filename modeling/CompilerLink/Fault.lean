import CompilerLink.Text.Dump

/-! # Faults

What can go wrong, by cause. The wording of each fault is in its `message`; `dump` is the form in
which it is shown for inspection. -/

namespace CompilerLink

open Text (Dump)

/-- Why the compiler's library could not be had. -/
inductive LibraryFault where
  /-- No directory holds the library; the search list is given if there was one. -/
  | notFound (searchPath : Option String)
  /-- The library was found but could not be opened. -/
  | refused (path : String) (reason : String)
  deriving Repr, DecidableEq

/-- Why counters could not be collected or resized. -/
inductive CounterFault where
  /-- The buffer is not as long as the counters. -/
  | wrongLength (expected : Nat) (actual : Nat)
  /-- There was no room for a new counter array. -/
  | noRoom (requested : Nat)
  deriving Repr, DecidableEq

/-- Why an operation of the link failed. -/
inductive LinkFault where
  /-- The host reported a failure. -/
  | host (text : String)
  /-- The library could not be had. -/
  | library (fault : LibraryFault)
  /-- The counters failed. -/
  | counter (fault : CounterFault)
  /-- The link has been shut down. -/
  | shutDown
  deriving Repr, DecidableEq

namespace LibraryFault

/-- The wording of a library fault. -/
def message : LibraryFault → String
  | notFound none => "unable to create path to compiler shared library"
  | notFound (some dirs) =>
    "unable to create path to compiler shared library based on value of native library path ("
      ++ dirs ++ ")"
  | refused path reason =>
    "unable to load compiler shared library from " ++ path ++ ": " ++ reason

/-- A library fault laid out for inspection. -/
def dump : LibraryFault → Dump
  | notFound searchPath =>
    .record "PathResolution" [("search_path", .optional (searchPath.map .literal))] true
  | refused path reason =>
    .record "Open" [("path", .literal path), ("reason", .literal reason)] true

end LibraryFault

namespace CounterFault

/-- The wording of a counter fault. -/
def message : CounterFault → String
  | wrongLength expected actual =>
    "wrong counter buffer length: " ++ toString actual
      ++ " (configured " ++ toString expected ++ ")"
  | noRoom requested => "could not allocate counter array of " ++ toString requested ++ " entries"

/-- A counter fault laid out for inspection. -/
def dump : CounterFault → Dump
  | wrongLength expected actual =>
    .record "LengthMismatch" [("expected", .number expected), ("actual", .number actual)] true
  | noRoom requested => .record "AllocationFailed" [("requested", .number requested)] true

end CounterFault

namespace LinkFault

/-- The wording of a link fault; a library or counter fault keeps its own. -/
def message : LinkFault → String
  | host text => "host runtime error: " ++ text
  | library fault => fault.message
  | counter fault => fault.message
  | shutDown => "compiler bridge is shutting down"

end LinkFault

/-- A condition that the program does not survive. -/
inductive Panic where
  /-- An array was asked for that no address space can hold. -/
  | capacityOverflow
  /-- Text was to be cut inside a character. -/
  | splitCharacter
  deriving Repr, DecidableEq

/-- The wording of a panic. -/
def Panic.message : Panic → String
  | capacityOverflow => "capacity overflow"
  | splitCharacter => "byte index is not a char boundary"

end CompilerLink
