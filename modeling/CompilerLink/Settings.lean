/-! # Settings

Everything an embedding may choose about the link. Reading the settings from a command line is the
business of `CompilerLink.CommandLine`. -/

namespace CompilerLink

/-- The largest value of an unsigned machine word, which has 64 bits. -/
def wordMax : Nat := 0xffffffffffffffff

/-- Base name of the compiler's shared library, without `lib` and `.so`. -/
def sharedLibraryName : String := "jitcompiler"

/-- Name of the crash log when the settings give none; `%p` stands for the process id. -/
def defaultErrorFile : String := "bridge_err_pid%p_compiler.log"

/-- The highest event level that still enlarges the verbose ring. -/
def maxEventLevel : Nat := 4

/-- What an embedding chooses about the link. -/
structure Settings where
  /-- Run the compiler from its own shared library: two endpoints in place of one. -/
  nativeLibrary : Bool := false
  /-- Directories searched for the compiler's library, separated by colons. -/
  libraryPath : Option String := none
  /-- The directory that holds the library when there is no search list. -/
  libraryDir : String
  /-- Number of counters in every block; zero turns counting off. -/
  counterSize : Nat := 0
  /-- Leave compiler threads out of the totals. -/
  excludeCompiler : Bool := true
  /-- Keep events in memory at all. -/
  logEvents : Bool := true
  /-- Highest event level kept in memory. -/
  eventLevel : Nat := 1
  /-- Number of level-one events kept. -/
  eventCapacity : Nat := 250
  /-- Highest event level echoed to the console. -/
  traceLevel : Nat := 0
  /-- Write crash diagnostics to standard output. -/
  crashToStdout : Bool := false
  /-- Write crash diagnostics to standard error, unless they go to standard output. -/
  crashToStderr : Bool := false
  /-- File name of the crash log, if not the default one. -/
  crashFile : Option String := none
  deriving Repr, DecidableEq

namespace Settings

/-- Whether there are counters at all. -/
def countersEnabled (s : Settings) : Bool := s.counterSize > 0

/-- The level up to which events are kept in memory. -/
def logLevel (s : Settings) : Nat := if s.logEvents then s.eventLevel else 0

/-- `n` times ten, held at the largest machine word. -/
def tenfold (n : Nat) : Nat := min (n * 10) wordMax

/-- Number of verbose events kept: the capacity of the first level, ten times larger for every
level above it up to `maxEventLevel`. -/
def verboseCapacity (s : Settings) : Nat :=
  Nat.repeat tenfold (min s.eventLevel maxEventLevel - 1) s.eventCapacity

end Settings

end CompilerLink
