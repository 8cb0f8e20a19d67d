import CompilerLink.Counter.Registry
import CompilerLink.Thread.Layout

/-! # Attached threads

A thread that is attached to the link has a counter block, a native block and perhaps a
compilation task. A task whose requester waits for it counts ticks, by which the requester sees
that the compiler is still at work; only compiler threads tick. -/

namespace CompilerLink

/-- Which side a thread works for. -/
inductive ThreadKind where
  | managed
  | compiler
  deriving Repr, DecidableEq

/-- The name of a kind. -/
def ThreadKind.name : ThreadKind → String
  | managed => "Managed"
  | compiler => "Compiler"

/-- A compilation task. -/
structure CompileTask where
  method : String
  /-- Ticks counted for a requester that waits; `none` if nobody does. -/
  ticks : Option UInt32 := none
  deriving DecidableEq

/-- The place of a task among all tasks. -/
abbrev TaskId := Nat

/-- A thread attached to the link. -/
structure AttachedThread where
  name : String
  kind : ThreadKind
  /-- The number of its counter block. -/
  block : Nat
  task : Option TaskId := none
  native : NativeBlock
  deriving DecidableEq

namespace AttachedThread

/-- A thread that has just been attached. -/
def create (name : String) (kind : ThreadKind) (block : Counter.Block) (threadId : UInt64) :
    AttachedThread where
  name
  kind
  block := block.id
  native := { threadId, state := { counters := block.reference } }

/-- Count progress of the task that a compiler thread works on, if somebody waits for it. -/
def tick (t : AttachedThread) (tasks : List CompileTask) : List CompileTask :=
  match t.kind, t.task with
  | .compiler, some id => tasks.modify id fun task => { task with ticks := task.ticks.map (· + 1) }
  | _, _ => tasks

end AttachedThread

end CompilerLink
