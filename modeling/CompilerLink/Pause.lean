import CompilerLink.Outcome

/-! # Global pauses

Some work may only run while every other thread stands still. `Pause.execute` has a coordinator stop
the threads and run the work. The program's own coordinator, the safepoint, runs it exactly once and
counts its pauses; an embedding may plug in one of its own, of which nothing is known but how often
it runs the work. -/

namespace CompilerLink

/-- Who stops the threads. -/
inductive Coordinator where
  /-- The program's own: runs the work once. -/
  | safepoint
  /-- The embedding's: runs the work the given number of times. -/
  | foreign (runs : Nat)
  deriving Repr, DecidableEq

/-- A coordinator and the number of pauses it has counted. -/
structure Pause where
  coordinator : Coordinator := .safepoint
  /-- Operations the safepoint has run. -/
  count : Nat := 0
  deriving Repr, DecidableEq

namespace Pause

variable {σ : Type}

/-- Run work a number of times in a row. -/
def rerun (work : σ → Outcome σ Unit) : Nat → σ → Outcome σ Unit
  | 0, s => ⟨(), s, []⟩
  | n + 1, s => (rerun work n (work s).state).after (work s).emitted

/-- The remark made after a pause. -/
def finished (operation : String) : Diagnostic where
  severity := .debug
  component := .pause
  message := "Global pause operation finished"
  fields := [("operation", .text operation), ("time_to_safepoint_us", .duration),
    ("total_us", .duration)]

/-- Have the coordinator run an operation while every other thread stands still. -/
def execute (p : Pause) (operation : String) (work : σ → Outcome σ Unit) (s : σ) :
    Outcome (Pause × σ) Unit :=
  match p.coordinator with
  | .safepoint =>
    let done := work s
    ⟨(), ({ p with count := p.count + 1 }, done.state),
      done.emitted ++ [.remark (finished operation)]⟩
  | .foreign runs => (rerun work runs s).within fun s' => (p, s')

end Pause

end CompilerLink
