import CompilerLink.CommandLine.Parser
import CompilerLink.CommandLine.Startup
import CompilerLink.Diagnostic.Filter
import CompilerLink.Diagnostic.Line
import CompilerLink.Link.Exercise
import CompilerLink.Link.Report

/-! # The program

`run` is the whole program as a function: from an invocation and the files it finds to what it
writes to its output streams, the files it leaves and how it ends. Remarks go to standard output,
through the filter and in the style that the invocation asks for. -/

namespace CompilerLink.CommandLine

/-! ### Invocations -/

/-- How the program is called. -/
structure Invocation where
  args : List String
  /-- The environment variables. -/
  environment : List (String × String)
  site : Site
  /-- Seconds since the start, as events show them. -/
  clock : String
  /-- The time, as log lines show it. -/
  time : String
  /-- Any time span, as log lines show it. -/
  duration : String

/-- How a process ends. -/
inductive Exit where
  | code (n : Nat)
  /-- By a signal that nobody handles. -/
  | abort
  deriving Repr, DecidableEq

/-- The exit code after a panic. -/
def panicCode : Nat := 101

/-- What is left of a run. -/
structure Run where
  exit : Exit
  stdout : ByteArray
  stderr : ByteArray
  files : FileSystem

/-- The paths of files that a run may look at or make, with `tempDir` as the directory for temporary
files. -/
def Invocation.paths (i : Invocation) (tempDir : String) : List String :=
  match parse i.args i.environment with
  | .error _ => []
  | .ok o =>
    let s := o.settings i.site.executableDir
    let log := (Crash.Log.ofSettings s i.site.processId).fileName
    let candidates := (Library.Loader.ofSettings s Library.Opener.system).candidates
    candidates ++ candidates.filterMap Library.Token.expand? ++ [log, Path.join tempDir log]

/-- The environment variables that a run looks at. -/
def variableNames : List String := LogFilter.variableName :: Key.all.filterMap Key.variableName?

/-! ### Help -/

/-- The line that names the program and its version. -/
def versionLine : String := programName ++ " " ++ programVersion ++ "\n"

/-- The line on one option in the help text. -/
def Key.helpLine (key : Key) : String :=
  "      --" ++ key.name ++ (if key.isFlag then "" else " <VALUE>")
    ++ key.variableName?.elim "" (fun v => " [env: " ++ v ++ "]") ++ "\n"

/-- The help text. -/
def helpText : String :=
  "Usage: " ++ programName ++ " [OPTIONS]\n\nOptions:\n"
    ++ String.join (Key.all.map Key.helpLine)
    ++ "  -h, --help\n  -V, --version\n"

/-- How a command line that is not carried out ends the program. -/
def refuse (fault : UsageFault) (fs : FileSystem) : Run :=
  let output := match fault with
    | .helpWanted => helpText
    | .versionWanted => versionLine
    | _ => ""
  let complaint := if fault.exitCode = 0 then "" else "error: " ++ fault.message ++ "\n"
  ⟨.code fault.exitCode, output.toUTF8, complaint.toUTF8, fs⟩

/-! ### Output -/

/-- The filter that an invocation asks for. -/
def Invocation.filter (i : Invocation) (o : Options) : Except Panic LogFilter :=
  LogFilter.parse o.logLevel ((i.environment.lookup LogFilter.variableName).getD "")

/-- The style of log lines that an invocation asks for; standard output counts as no terminal. -/
def Invocation.style (i : Invocation) (o : Options) : LineStyle where
  coloured := o.logColor = .always
  showsTarget := o.logLevel = .debug ∨ o.logLevel = .trace
  time := i.time
  duration := i.duration

/-- What goes to standard output of something let out. -/
def shownOn (filter : LogFilter) (style : LineStyle) : Emission → Emission
  | .remark d => .bytes .stdout (if filter.admits d then (style.line d).toUTF8 else ByteArray.empty)
  | .bytes stream content => .bytes stream content

/-- What is left of a run that lets out the given things through a filter. -/
def Invocation.finish (i : Invocation) (o : Options) (filter : LogFilter) (emitted : List Emission)
    (files : FileSystem) (exit : Exit) : Run :=
  let shown := emitted.map (shownOn filter (i.style o))
  ⟨exit, Stream.stdout.content shown, Stream.stderr.content shown, files⟩

/-! ### Running -/

/-- What the program does once it is up. -/
def mainPart (o : Options) (l : Link DemoHost) (caller : Caller) : Outcome (Link DemoHost) Unit :=
  let done := l.exercise caller
    { workers := o.threads, increments := o.increments, resize := o.resize }
  let summary := String.join (done.state.summary done.value o.printEvents)
  ((done.state.shutdown caller).after (done.emitted ++ [.bytes .stdout summary.toUTF8]))

/-- Carry out the options, with remarks going through a filter. -/
def Invocation.carryOut (i : Invocation) (o : Options) (filter : LogFilter) (fs : FileSystem) :
    Run :=
  let caller := Caller.main i.clock
  let start := startUp o i.site fs caller
  match start.value with
  | .panicked _ => i.finish o filter start.emitted start.state (.code panicCode)
  | .aborted => i.finish o filter start.emitted start.state .abort
  | .failed fault =>
    let remark : Diagnostic :=
      { severity := .error
        component := .program
        message := "Failed to initialize compiler bridge: " ++ fault.message }
    i.finish o filter (start.emitted ++ [.remark remark]) start.state (.code 1)
  | .ready link =>
    let stopped : Diagnostic :=
      { severity := .info, component := .program, message := "Compiler bridge stopped" }
    i.finish o filter (start.emitted ++ (mainPart o link caller).emitted ++ [.remark stopped])
      start.state (.code 0)

/-- The whole program. The filter is made before anything else is done. -/
def run (i : Invocation) (fs : FileSystem) : Run :=
  match parse i.args i.environment with
  | .error fault => refuse fault fs
  | .ok o =>
    match i.filter o with
    | .error _ => ⟨.code panicCode, ByteArray.empty, ByteArray.empty, fs⟩
    | .ok filter => i.carryOut o filter fs

end CompilerLink.CommandLine
