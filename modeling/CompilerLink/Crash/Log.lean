import CompilerLink.Caller
import CompilerLink.Crash.Pattern
import CompilerLink.Crash.ThreadNumber
import CompilerLink.File.System
import CompilerLink.Outcome
import CompilerLink.Settings

/-! # The crash log

Fatal errors are written to one target for the whole process. The first thread that writes is
elected, settles the target and publishes it; from then on the target never changes.

Standard output is the target if the settings say so, otherwise standard error if they say so,
otherwise a file. A relative file name that cannot be created is tried once more in the directory
for temporary files. If there is no file either way, a notice with the first error goes to
standard output and so does everything after it. -/

namespace CompilerLink.Crash

/-- Where crash diagnostics go. -/
inductive Target where
  | console (stream : Stream)
  | file (handle : OpenFile) (path : String)
  deriving Repr, DecidableEq

/-- The process-wide crash log. -/
structure Log where
  toStdout : Bool
  toStderr : Bool
  /-- The file name, in which `%p` stands for the process id. -/
  pattern : String
  processId : String
  numbers : ThreadNumbers := {}
  /-- The number of the thread that won the election, and the target that it published. -/
  settled : Option (Nat × Target) := none
  /-- Bytes written to a file target so far. -/
  offset : Nat := 0

namespace Log

/-- The crash log that the settings ask for. -/
def ofSettings (s : Settings) (processId : String) : Log where
  toStdout := s.crashToStdout
  toStderr := s.crashToStderr
  pattern := s.crashFile.getD defaultErrorFile
  processId

/-- The file name of the log. -/
def fileName (log : Log) : String := expandPid log.processId log.pattern

/-! ### Settling the target -/

/-- What is written to standard output when no file can be created. -/
def notice (fault : FileFault) : String :=
  "Can't open compiler library error report file. Error: " ++ fault.message ++ "\n"
    ++ "Compiler library error report will be written to console.\n"

/-- Create the log file; a relative name is tried a second time in the directory for temporary
files, but the first error is the one that counts. -/
def createFile (fs : FileSystem) (name : String) :
    Except FileFault (OpenFile × String × FileSystem) :=
  match fs.create name with
  | .ok (file, fs') => .ok (file, name, fs')
  | .error fault =>
    if Path.isAbsolute name then .error fault
    else
      let name' := Path.join fs.tempDir name
      match fs.create name' with
      | .ok (file, fs') => .ok (file, name', fs')
      | .error _ => .error fault

/-- Find the target. -/
def resolve (log : Log) (fs : FileSystem) : Outcome FileSystem Target :=
  if log.toStdout then ⟨.console .stdout, fs, []⟩
  else if log.toStderr then ⟨.console .stderr, fs, []⟩
  else
    match createFile fs log.fileName with
    | .ok (file, path, fs') =>
      ⟨.file file path, fs',
        [.remark {
          severity := .info
          component := .crashLog
          message := "Crash log file created"
          fields := [("path", .shown path)] }]⟩
    | .error fault =>
      ⟨.console .stdout, fs,
        [.remark {
          severity := .warn
          component := .crashLog
          message := "Falling back to console for crash log"
          fields := [("error", .shown fault.message), ("file", .shown log.fileName)] },
        .bytes .stdout (notice fault).toUTF8]⟩

/-- The target; the first caller settles it. -/
def target (log : Log) (fs : FileSystem) (caller : Caller) : Outcome (Log × FileSystem) Target :=
  let (me, numbers) := log.numbers.numberOf caller.serial
  let log := { log with numbers }
  match log.settled with
  | some (_, found) => ⟨found, (log, fs), []⟩
  | none =>
    let found := log.resolve fs
    ⟨found.value, ({ log with settled := some (me, found.value) }, found.state), found.emitted⟩

/-! ### Writing -/

/-- Write to the target, settling it first if nobody has. -/
def write (log : Log) (fs : FileSystem) (caller : Caller) (buffer : ByteArray) :
    Outcome (Log × FileSystem) Unit :=
  let found := log.target fs caller
  let (log, fs) := found.state
  match found.value with
  | .console stream => ⟨(), (log, fs), found.emitted ++ [.bytes stream buffer]⟩
  | .file file _ =>
    ⟨(), ({ log with offset := log.offset + buffer.size }, fs.writeAt file log.offset buffer),
      found.emitted⟩

/-! ### Views -/

/-- The number of the thread that won the election. -/
def winner (log : Log) : Option Nat := log.settled.map (·.1)

/-- The path of the log file, once that is the target. -/
def filePath (log : Log) : Option String :=
  match log.settled with
  | some (_, .file _ path) => some path
  | _ => none

end Log

end CompilerLink.Crash
