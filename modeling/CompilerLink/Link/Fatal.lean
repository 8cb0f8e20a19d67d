import CompilerLink.Link.Basic

/-! # Fatal errors

Some failures end the process: the reason is remarked, put on record in the crash log, and the
process aborts. An `Ending` tells whether an operation came back from its call. -/

namespace CompilerLink

/-- How a call ends. -/
inductive Ending (α : Type) where
  /-- The call came back. -/
  | returned (value : α)
  /-- The process was aborted. -/
  | aborted
  deriving Repr, DecidableEq

namespace Link

variable {η α : Type}

/-- Write raw bytes to the crash log. -/
def fatalLog (l : Link η) (fs : FileSystem) (caller : Caller) (buffer : ByteArray) :
    Outcome (Link η × FileSystem) Unit :=
  (l.crash.write fs caller buffer).within fun (crash, fs) => ({ l with crash }, fs)

/-- What the crash log gets for a fatal error. -/
def fatalLine (message : String) : String :=
  "# Fatal error in compiler bridge: " ++ message ++ "\n"

/-- Put an error on record and abort. -/
def fatal (l : Link η) (fs : FileSystem) (caller : Caller) (message : String) :
    Outcome (Link η × FileSystem) (Ending α) :=
  ((l.fatalLog fs caller (fatalLine message).toUTF8).map fun _ => .aborted).after
    [.remark {
      severity := .error
      component := .link
      message := "Fatal compiler bridge error"
      fields := [("message", .shown message)] }]

/-- The compiler's library; with `wanted` it is opened if need be, and a failure is fatal. -/
def getLibrary (l : Link η) (fs : FileSystem) (caller : Caller) (wanted : Bool) :
    Outcome (Link η × FileSystem) (Ending (Option Library.Loaded)) :=
  let found := l.loader.get l.events fs caller wanted
  let l := { l with loader := found.state.1, events := found.state.2 }
  match found.value with
  | .ok library => ⟨.returned library, (l, fs), found.emitted⟩
  | .error fault => (l.fatal fs caller fault.message).after found.emitted

/-- Sum all counters into a buffer; a buffer of the wrong length is fatal. -/
def collectCounters (l : Link η) (fs : FileSystem) (caller : Caller) (buffer : List Int64) :
    Outcome (Link η × FileSystem) (Ending (List Int64)) :=
  match l.counters.collect buffer with
  | .ok sums => ⟨.returned sums, (l, fs), []⟩
  | .error fault => l.fatal fs caller fault.message

end Link

end CompilerLink
