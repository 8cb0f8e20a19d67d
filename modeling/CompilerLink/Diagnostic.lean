/-! # Diagnostics

A `Diagnostic` is a structured remark about the program's own working: a level, the component that
makes it, a message and named fields. How it is shown, or whether, is decided elsewhere. -/

namespace CompilerLink

/-- How urgent a remark is. -/
inductive Severity where
  | error
  | warn
  | info
  | debug
  | trace
  deriving Repr, DecidableEq

namespace Severity

/-- Position on the scale from `error` (1) to `trace` (5): a larger number is more talkative. -/
def verbosity : Severity → Nat
  | error => 1
  | warn => 2
  | info => 3
  | debug => 4
  | trace => 5

/-- All severities, the most urgent first. -/
def all : List Severity := [error, warn, info, debug, trace]

/-- The name of a severity, in capitals. -/
def name : Severity → String
  | error => "ERROR"
  | warn => "WARN"
  | info => "INFO"
  | debug => "DEBUG"
  | trace => "TRACE"

end Severity

/-- The part of the program that makes a remark. -/
inductive Component where
  | events
  | counters
  | pause
  | endpoint
  | library
  | crashLog
  | link
  | exercise
  | startup
  | program
  deriving Repr, DecidableEq

namespace Component

/-- The path by which log filters name a component. -/
def target : Component → String
  | events => "jitbridge::event_log"
  | counters => "jitbridge::counters"
  | pause => "jitbridge::safepoint"
  | endpoint => "jitbridge::runtime"
  | library => "jitbridge::loader"
  | crashLog => "jitbridge::crash_log"
  | link => "jitbridge::bridge"
  | exercise => "jitbridge_cli::demo"
  | startup => "jitbridge_cli::initializers"
  | program => "jitbridge"

end Component

/-- The value of a named field. -/
inductive FieldValue where
  /-- A whole number. -/
  | number (value : Int)
  /-- A truth value. -/
  | flag (value : Bool)
  /-- A time span, which is different on every run. -/
  | duration
  /-- Text that is quoted on a log line. -/
  | text (value : String)
  /-- Text that is put on a log line as it is. -/
  | shown (value : String)
  deriving Repr, DecidableEq

/-- A remark of the program about its own working. -/
structure Diagnostic where
  severity : Severity
  component : Component
  message : String
  fields : List (String × FieldValue) := []
  deriving Repr, DecidableEq

end CompilerLink
