import CompilerLink.CommandLine.Options
import CompilerLink.Host.Demo
import CompilerLink.Link.Fatal
import CompilerLink.Link.Lifecycle

/-! # Bringing the program up

`startUp` builds a link to the demonstration host from options, opens the compiler's library if that
is wanted and brings the compiler up. It may panic, abort or fail; only if it does none of these is
there a link to go on with. -/

namespace CompilerLink.CommandLine

/-- Where the program runs. -/
structure Site where
  /-- The directory of the executable. -/
  executableDir : String
  /-- The number of the process. -/
  processId : String

/-- How bringing the program up ends. -/
inductive Start where
  | panicked (panic : Panic)
  | aborted
  | failed (fault : LinkFault)
  | ready (link : Link DemoHost)

/-- The fault of a host that is not ready. -/
def notReady : LinkFault := .host "module system is not ready for the compiler bridge"

/-- Open the library, if the options say so. -/
def openLibrary (o : Options) (l : Link DemoHost) (fs : FileSystem) (caller : Caller) :
    Outcome (Link DemoHost × FileSystem) (Ending Unit) :=
  if o.loadLibrary then
    let found := l.getLibrary fs caller true
    match found.value with
    | .aborted => ⟨.aborted, found.state, found.emitted⟩
    | .returned none => ⟨.returned (), found.state, found.emitted⟩
    | .returned (some library) =>
      ⟨.returned (), found.state,
        found.emitted ++
          [.remark {
            severity := .info
            component := .startup
            message := "Compiler library ready"
            fields := [("path", .shown library.path)] }]⟩
  else ⟨.returned (), (l, fs), []⟩

/-- Prime the host and bring the compiler up. -/
def bringUp (l : Link DemoHost) (caller : Caller) :
    Outcome (Link DemoHost) (Except LinkFault Unit) :=
  let primed := l.ensureBoxCaches caller
  match primed.value with
  | .error fault => ⟨.error fault, primed.state, primed.emitted⟩
  | .ok () => (primed.state.initCompiler caller).after primed.emitted

/-- Bring the program up. -/
def startUp (o : Options) (site : Site) (fs : FileSystem) (caller : Caller) :
    Outcome FileSystem Start :=
  let built := Link.create (o.settings site.executableDir)
    { host := ({} : DemoHost)
      opener := Library.Opener.system
      console := .stdout
      processId := site.processId }
  match built.value with
  | .error panic => ⟨.panicked panic, fs, built.emitted⟩
  | .ok link =>
    if link.canInitialize then
      let opened := openLibrary o link fs caller
      let emitted := built.emitted ++ opened.emitted
      match opened.value with
      | .aborted => ⟨.aborted, opened.state.2, emitted⟩
      | .returned () =>
        let up := bringUp opened.state.1 caller
        let start := match up.value with
          | .ok () => .ready up.state
          | .error fault => .failed fault
        ⟨start, opened.state.2, emitted ++ up.emitted⟩
    else ⟨.failed notReady, fs, built.emitted⟩

end CompilerLink.CommandLine
