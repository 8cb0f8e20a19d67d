import CompilerLink.CommandLine.Program

/-! # Main

The program on a real machine. The files that a run may look at are read first, the run itself is a
function, and afterwards its output is written and its files are put in place. -/

namespace CompilerLink.CommandLine

/-- Put what stands at a place on the machine into a file system. -/
def probe (fs : FileSystem) (l : Location) : IO FileSystem := do
  let path := (← IO.currentDir) / ("/" ++ "/".intercalate l)
  if ← path.isDir then return fs.makeDir l
  else if ← path.pathExists then
    return fs.putFile l (← try IO.FS.readBinFile path catch _ => pure ByteArray.empty)
  else return fs

/-- Where a path leads when every `..` takes one name back. -/
def locate (workingDir : Location) (path : String) : Location :=
  (Path.names path).foldl
    (fun l name => if name = "." then l else if name = ".." then l.dropLast else l ++ [name])
    (if Path.isAbsolute path then [] else workingDir)

/-- The files of the machine, as far as they stand on the way to some paths. -/
def snapshot (tempDir : String) (paths : List String) : IO FileSystem := do
  let workingDir := Path.names (← IO.currentDir).toString
  let places := (workingDir :: Path.names tempDir :: paths.map (locate workingDir)).flatMap
    fun l => (List.range (l.length + 1)).map l.take
  places.foldlM probe { workingDir, tempDir }

/-- Put the files in place that a run has made or changed. -/
def writeBack (before after : FileSystem) : IO Unit := do
  for (path, content) in after.filesBelow [] do
    if before.contentAt (Path.names path) != some content then
      IO.FS.writeBinFile ((← IO.currentDir) / ("/" ++ path)) content

/-- The number of this process. -/
def processNumber : IO String := do
  return ((← IO.FS.readFile "/proc/self/stat").takeWhile Char.isDigit).toString

/-- A time span in seconds, to three places. -/
def secondsText (milliseconds : Nat) : String :=
  let rest := toString (milliseconds % 1000)
  toString (milliseconds / 1000) ++ "." ++ "".pushn '0' (3 - rest.length) ++ rest

/-- The exit code that stands for a way to end; an abort shows as a shell shows it. -/
def Exit.status : Exit → UInt32
  | code n => UInt32.ofNat n
  | abort => 134

/-- The program. -/
def perform (args : List String) : IO UInt32 := do
  let started ← IO.monoMsNow
  let found ← variableNames.mapM fun v => return (← IO.getEnv v).map ((v, ·))
  let site := { executableDir := (← IO.appDir).toString, processId := ← processNumber }
  let tempDir := (← IO.getEnv "TMPDIR").getD "/tmp"
  let clock := secondsText ((← IO.monoMsNow) - started)
  let invocation : Invocation :=
    { args, environment := found.filterMap id, site, clock, time := clock ++ "s", duration := "0" }
  let files ← snapshot tempDir (invocation.paths tempDir)
  let result := run invocation files
  writeBack files result.files
  (← IO.getStdout).write result.stdout
  (← IO.getStderr).write result.stderr
  return result.exit.status

end CompilerLink.CommandLine

/-- The program. -/
def main (args : List String) : IO UInt32 := CompilerLink.CommandLine.perform args
