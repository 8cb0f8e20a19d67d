import CompilerLink.Link.Threads

/-! # The counter exercise

`Link.exercise` lets a number of workers attach, count and detach. Every other worker detaches
before the counters are summed up, so that live and retired counts both go into the sum, and the
rest afterwards. -/

namespace CompilerLink

/-- What an exercise consists of. -/
structure Exercise where
  /-- Number of workers. -/
  workers : Nat
  /-- How often every worker adds one to each of its counters. -/
  increments : Nat
  /-- The length that the counters are changed to before they are summed up. -/
  resize : Option Nat := none
  deriving Repr, DecidableEq

/-- The members of a list at even places. -/
def everyOther {α : Type} : List α → List α
  | [] => []
  | [a] => [a]
  | a :: _ :: rest => a :: everyOther rest

namespace Link

variable {η : Type}

/-- The name of a worker. -/
def workerName (i : Nat) : String := "worker-" ++ toString i

/-- Let worker number `i` attach on a thread of its own and count. Each worker counts on its own
block, so nothing is lost by running the workers one after the other, and the rounds in which one of
them counts are taken at once by `Registry.bump`. -/
def work (l : Link η) (clock : String) (increments i : Nat) : Outcome (Link η) AttachedThread :=
  let caller : Caller := ⟨l.nextThread, some (workerName i), clock⟩
  let done := l.attach caller (workerName i) .managed
  let counters := done.state.counters.bump done.value.block increments
  ⟨done.value, { done.state with counters }, done.emitted⟩

/-- Let the workers of the given numbers attach and count, each after the one before it. -/
def workAll (l : Link η) (clock : String) (increments : Nat) :
    List Nat → Outcome (Link η) (List AttachedThread)
  | [] => ⟨[], l, []⟩
  | i :: rest =>
    let first := l.work clock increments i
    ((first.state.workAll clock increments rest).map (first.value :: ·)).after first.emitted

/-- Detach threads in order. -/
def detachAll (l : Link η) (caller : Caller) : List AttachedThread → Outcome (Link η) Unit
  | [] => ⟨(), l, []⟩
  | t :: rest =>
    let first := l.detach caller t
    (first.state.detachAll caller rest).after first.emitted

/-- Change the length of the counters, if a length is given, and remark on it. -/
def resizeOnRequest (l : Link η) : Option Nat → Outcome (Link η) Unit
  | none => ⟨(), l, []⟩
  | some n =>
    let done := l.resizeCounters n
    ⟨(), done.state,
      done.emitted ++
        [.remark {
          severity := .info
          component := .exercise
          message := "Counter resize requested"
          fields := [("new_size", .number n), ("resized", .flag done.value)] }]⟩

/-- Carry out an exercise; the answer is the sums of all counters. -/
def exercise (l : Link η) (caller : Caller) (x : Exercise) : Outcome (Link η) (List Int64) :=
  let worked := l.workAll caller.clock x.increments (List.range x.workers)
  let early := worked.state.detachAll caller (everyOther worked.value)
  let resized := early.state.resizeOnRequest x.resize
  let sums := resized.state.counters.totals
  let late := resized.state.detachAll caller (everyOther (worked.value.drop 1))
  ⟨sums, late.state, worked.emitted ++ early.emitted ++ resized.emitted ++ late.emitted⟩

end Link

end CompilerLink
