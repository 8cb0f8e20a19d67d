import CompilerLink.CommandLine.LogColor
import CompilerLink.Diagnostic.Threshold

/-! # Options

The options of the program, how each is called on the command line and in the environment, and how
the text of its value is read. -/

namespace CompilerLink.CommandLine

/-- The program's name and version. -/
def programName : String := "jitbridge"

/-- See `programName`. -/
def programVersion : String := "0.1.0"

/-- Why a command line is not carried out. -/
inductive UsageFault where
  /-- Something on it is neither an option nor the value of one. -/
  | unknownArgument
  /-- A value is missing, is empty where it may not be, or is not one of the words allowed. -/
  | invalidValue
  /-- A value cannot be read. -/
  | unreadableValue
  /-- An option is given twice. -/
  | repeatedOption
  /-- A flag is given a value. -/
  | tooManyValues
  /-- Help was asked for. -/
  | helpWanted
  /-- The version was asked for. -/
  | versionWanted
  deriving Repr, DecidableEq

/-- What the program exits with. -/
def UsageFault.exitCode : UsageFault → Nat
  | helpWanted => 0
  | versionWanted => 0
  | _ => 2

/-- The wording of a usage fault. -/
def UsageFault.message : UsageFault → String
  | unknownArgument => "unexpected argument"
  | invalidValue => "a value is missing or is not allowed"
  | unreadableValue => "a value cannot be read"
  | repeatedOption => "an option is given more than once"
  | tooManyValues => "a flag is given a value"
  | helpWanted => "help requested"
  | versionWanted => "version requested"

/-- An option of the program. -/
inductive Key where
  | nativeLibrary
  | nativeLibraryPath
  | runtimeLibraryDir
  | loadLibrary
  | countersSize
  | countersIncludeCompiler
  | threads
  | increments
  | resize
  | eventsDisable
  | eventsLevel
  | eventsCapacity
  | eventsTrace
  | events
  | errorFile
  | errorFileStdout
  | errorFileStderr
  | logLevel
  | logColor
  deriving Repr, DecidableEq

namespace Key

/-- All options, in the order in which the environment is read. -/
def all : List Key :=
  [nativeLibrary, nativeLibraryPath, runtimeLibraryDir, loadLibrary, countersSize,
    countersIncludeCompiler, threads, increments, resize, eventsDisable, eventsLevel,
    eventsCapacity, eventsTrace, events, errorFile, errorFileStdout, errorFileStderr, logLevel,
    logColor]

/-- The name of an option, which follows two dashes. -/
def name : Key → String
  | nativeLibrary => "native-library"
  | nativeLibraryPath => "native-library-path"
  | runtimeLibraryDir => "runtime-library-dir"
  | loadLibrary => "load-library"
  | countersSize => "counters.size"
  | countersIncludeCompiler => "counters.include-compiler"
  | threads => "threads"
  | increments => "increments"
  | resize => "resize"
  | eventsDisable => "events.disable"
  | eventsLevel => "events.level"
  | eventsCapacity => "events.capacity"
  | eventsTrace => "events.trace"
  | events => "events"
  | errorFile => "error-file"
  | errorFileStdout => "error-file.stdout"
  | errorFileStderr => "error-file.stderr"
  | logLevel => "log.level"
  | logColor => "log.color"

/-- The environment variable that stands in for an option which is not given. -/
def variableName? : Key → Option String
  | nativeLibrary => some "JITBRIDGE_NATIVE_LIBRARY"
  | nativeLibraryPath => some "JITBRIDGE_NATIVE_LIBRARY_PATH"
  | runtimeLibraryDir => some "JITBRIDGE_RUNTIME_LIBRARY_DIR"
  | loadLibrary => some "JITBRIDGE_LOAD_LIBRARY"
  | countersSize => some "JITBRIDGE_COUNTER_SIZE"
  | countersIncludeCompiler => some "JITBRIDGE_COUNTERS_INCLUDE_COMPILER"
  | eventsDisable => some "JITBRIDGE_EVENTS_DISABLE"
  | eventsLevel => some "JITBRIDGE_EVENT_LOG_LEVEL"
  | eventsCapacity => some "JITBRIDGE_EVENT_LOG_CAPACITY"
  | eventsTrace => some "JITBRIDGE_TRACE_LEVEL"
  | errorFile => some "JITBRIDGE_ERROR_FILE"
  | errorFileStdout => some "JITBRIDGE_ERROR_FILE_TO_STDOUT"
  | errorFileStderr => some "JITBRIDGE_ERROR_FILE_TO_STDERR"
  | logLevel => some "JITBRIDGE_LOG_LEVEL"
  | logColor => some "JITBRIDGE_LOG_COLOR"
  | threads => none
  | increments => none
  | resize => none
  | events => none

/-- Whether an option is a flag, which takes no value. -/
def isFlag : Key → Bool
  | nativeLibrary | loadLibrary | countersIncludeCompiler | eventsDisable | events
  | errorFileStdout | errorFileStderr => true
  | _ => false

/-- The option of a name. -/
def find? (name : String) : Option Key := all.find? (·.name = name)

end Key

/-- What the options choose. -/
structure Options where
  nativeLibrary : Bool := false
  libraryPath : Option String := none
  libraryDir : Option String := none
  loadLibrary : Bool := false
  counterSize : Nat := 0
  includeCompiler : Bool := false
  threads : Nat := 4
  increments : Nat := 1000
  resize : Option Nat := none
  eventsDisabled : Bool := false
  eventLevel : Nat := 1
  eventCapacity : Nat := 250
  traceLevel : Nat := 0
  printEvents : Bool := false
  errorFile : Option String := none
  errorToStdout : Bool := false
  errorToStderr : Bool := false
  logLevel : Severity := .info
  logColor : LogColor := .auto
  deriving Repr, DecidableEq

/-! ### Reading values -/

/-- The truth value of a flag, as the environment gives it. -/
def readFlag (text : String) : Except UsageFault Bool :=
  if text = "true" then .ok true else if text = "false" then .ok false else .error .invalidValue

/-- A path; an empty one is refused. -/
def readPath (text : String) : Except UsageFault String :=
  if text = "" then .error .invalidValue else .ok text

/-- A value that was read or could not be. -/
def readable {α : Type} (value : Option α) : Except UsageFault α :=
  value.elim (.error .unreadableValue) .ok

/-- A machine word. -/
def readWord (text : String) : Except UsageFault Nat := readable (Text.unsigned? wordMax text)

/-- A number that is small enough for the option. -/
def readBounded (max : Nat) (text : String) : Except UsageFault Nat :=
  readable (Text.bounded? max text)

/-- A severity. -/
def readSeverity (text : String) : Except UsageFault Severity := readable (Severity.parse? text)

/-- When to colour log lines. -/
def readColor (text : String) : Except UsageFault LogColor :=
  readable (LogColor.parse text).toOption

namespace Options

/-- Choose the value of one option by its text. -/
def store (o : Options) (key : Key) (text : String) : Except UsageFault Options :=
  match key with
  | .nativeLibrary => (readFlag text).map fun b => { o with nativeLibrary := b }
  | .nativeLibraryPath => .ok { o with libraryPath := some text }
  | .runtimeLibraryDir => (readPath text).map fun p => { o with libraryDir := some p }
  | .loadLibrary => (readFlag text).map fun b => { o with loadLibrary := b }
  | .countersSize => (readWord text).map fun n => { o with counterSize := n }
  | .countersIncludeCompiler => (readFlag text).map fun b => { o with includeCompiler := b }
  | .threads => (readWord text).map fun n => { o with threads := n }
  | .increments => (readBounded 0xffffffff text).map fun n => { o with increments := n }
  | .resize => (readWord text).map fun n => { o with resize := some n }
  | .eventsDisable => (readFlag text).map fun b => { o with eventsDisabled := b }
  | .eventsLevel => (readBounded 255 text).map fun n => { o with eventLevel := n }
  | .eventsCapacity => (readWord text).map fun n => { o with eventCapacity := n }
  | .eventsTrace => (readBounded 255 text).map fun n => { o with traceLevel := n }
  | .events => (readFlag text).map fun b => { o with printEvents := b }
  | .errorFile => .ok { o with errorFile := some text }
  | .errorFileStdout => (readFlag text).map fun b => { o with errorToStdout := b }
  | .errorFileStderr => (readFlag text).map fun b => { o with errorToStderr := b }
  | .logLevel => (readSeverity text).map fun s => { o with logLevel := s }
  | .logColor => (readColor text).map fun c => { o with logColor := c }

/-- The settings that the options choose; `executableDir` is where the library is looked for when
they name no directory. -/
def settings (o : Options) (executableDir : String) : Settings where
  nativeLibrary := o.nativeLibrary
  libraryPath := o.libraryPath
  libraryDir := o.libraryDir.getD executableDir
  counterSize := o.counterSize
  excludeCompiler := !o.includeCompiler
  logEvents := !o.eventsDisabled
  eventLevel := o.eventLevel
  eventCapacity := o.eventCapacity
  traceLevel := o.traceLevel
  crashToStdout := o.errorToStdout
  crashToStderr := o.errorToStderr
  crashFile := o.errorFile

end Options

end CompilerLink.CommandLine
