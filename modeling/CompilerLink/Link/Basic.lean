import CompilerLink.Counter.Resize
import CompilerLink.Crash.Log
import CompilerLink.Host.Basic
import CompilerLink.Library.Loader
import CompilerLink.Thread.Attached

/-! # The link

A `Link` ties a managed runtime, the host, to an external compiler. It owns the event log, the crash
log, the counters, the library and the endpoints, and is brought up in that order. -/

namespace CompilerLink

open Text (Dump)

/-- Everything a link keeps; `η` is the state of its host. -/
structure Link (η : Type) where
  settings : Settings
  host : η
  events : EventLog
  crash : Crash.Log
  counters : Counter.Registry
  pause : Pause := {}
  loader : Library.Loader
  endpoints : Endpoints
  layout : List PublishedField := publishedLayout
  /-- The compiler has been brought up. -/
  isInitialized : Bool := false
  /-- The box caches have been primed. -/
  boxCachesReady : Bool := false
  /-- The link has been shut down. -/
  inShutdown : Bool := false
  /-- The number of the next attached thread. -/
  nextThread : Nat := 1

namespace Link

variable {η : Type}

/-! ### Bringing a link up -/

/-- What a link is built from besides its settings. -/
structure Parts (η : Type) where
  host : η
  opener : Library.Opener
  console : Console
  processId : String

/-- The remark made for a published field. -/
def publishedRemark (field : PublishedField) : Diagnostic where
  severity := .debug
  component := .link
  message := "Published thread state field"
  fields := [("field", .text field.name), ("offset", .number field.offset)]

/-- The remark made once a link is built. -/
def builtRemark (s : Settings) : Diagnostic where
  severity := .info
  component := .link
  message := "Compiler bridge globals initialized"
  fields := [("native_library", .flag s.nativeLibrary), ("counter_size", .number s.counterSize),
    ("event_log_level", .number s.eventLevel), ("trace_level", .number s.traceLevel)]

/-- Build a link. -/
def create (s : Settings) (parts : Parts η) : Outcome Unit (Except Panic (Link η)) :=
  let events := EventLog.ofSettings s parts.console
  match Counter.Registry.create s.counterSize s.excludeCompiler with
  | .error panic => ⟨.error panic, (), [.remark events.setUp]⟩
  | .ok counters =>
    let link : Link η :=
      { settings := s
        host := parts.host
        events
        crash := Crash.Log.ofSettings s parts.processId
        counters
        loader := Library.Loader.ofSettings s parts.opener
        endpoints := Endpoints.create s.nativeLibrary }
    ⟨.ok link, (),
      .remark events.setUp :: link.layout.map (fun field => .remark (publishedRemark field))
        ++ [.remark (builtRemark s)]⟩

/-! ### Events -/

/-- Report an event to the link's event log. -/
def report (l : Link η) (caller : Caller) (level : Nat) (message : String) :
    Outcome (Link η) Unit :=
  let done := l.events.event caller level message
  ⟨(), { l with events := done.state }, done.emitted⟩

/-- The link laid out for inspection. -/
def dump (l : Link η) : Dump :=
  .record "CompilerBridge"
    [("compiler_runtime", (l.endpoints.get .compiler).dump),
      ("java_runtime", (l.endpoints.get .managed).dump), ("loader", l.loader.dump),
      ("counters", l.counters.dump), ("in_shutdown", .flag l.inShutdown)] false

end Link

end CompilerLink
