import CompilerLink.Counter.Registry
import CompilerLink.Pause

/-! # Resizing all counters

The pool and every live block change their length together, inside a pause. New arrays are staged
first, the pool's before the blocks', and installed only when all of them could be allocated; a
failed resize leaves the counters as they were. Blocks that have been retired keep their length. -/

namespace CompilerLink.Counter

/-- From this length on, 44 bits, an array cannot be allocated. -/
def arrayLimit : Nat := 0x100000000000

/-- Allocate one array of `n` counters: whether there is room for it, and the budget left. -/
def reserve (budget : Option Nat) (n : Nat) : Bool × Option Nat :=
  match budget with
  | some 0 => (false, some 0)
  | some (k + 1) => (n < arrayLimit, some k)
  | none => (n < arrayLimit, none)

/-- Stage arrays of `n` counters for the old ones in order, or none of them if one cannot be
allocated; and the budget left. -/
def stage (n : Nat) : Option Nat → List (List Int64) → Option (List (List Int64)) × Option Nat
  | budget, [] => (some [], budget)
  | budget, old :: rest =>
    match reserve budget n with
    | (false, left) => (none, left)
    | (true, left) =>
      match stage n left rest with
      | (some staged, left') => (some (resized old n :: staged), left')
      | (none, left') => (none, left')

/-- Install staged arrays in the live blocks, in order. -/
def install : List Block → List (List Int64) → List Block
  | [], _ => []
  | b :: rest, staged =>
    if b.live then
      match staged with
      | [] => b :: rest
      | values :: staged' => { b with values } :: install rest staged'
    else b :: install rest staged

namespace Registry

/-- Change the length of the pool and of every live block, or nothing at all. -/
def resize (r : Registry) (n : Nat) : Outcome Registry (Except CounterFault Unit) :=
  match stage n r.budget (r.retired :: r.liveBlocks.map (·.values)) with
  | (some (retired :: staged), budget) =>
    ⟨.ok (), { r with size := n, retired, blocks := install r.blocks staged, budget },
      [.remark {
        severity := .info
        component := .counters
        message := "Resized compiler counters"
        fields := [("old_size", .number r.size), ("new_size", .number n),
          ("threads", .number r.liveCount)] }]⟩
  | (_, budget) =>
    let fault := CounterFault.noRoom n
    ⟨.error fault, { r with budget },
      [.remark {
        severity := .warn
        component := .counters
        message := "Counter resize failed"
        fields := [("error", .shown fault.message), ("new_size", .number n)] }]⟩

/-- Resize inside a pause. The answer is that of the last run of the operation, and success if the
coordinator does not run it at all. -/
def resizeAll (r : Registry) (pause : Pause) (n : Nat) :
    Outcome (Pause × Registry) (Except CounterFault Unit) :=
  let work := fun (s : Registry × Except CounterFault Unit) =>
    let done := s.1.resize n
    (⟨(), (done.state, done.value), done.emitted⟩ : Outcome _ Unit)
  let done := pause.execute "ResizeCounters" work (r, .ok ())
  ⟨done.state.2.2, (done.state.1, done.state.2.1), done.emitted⟩

end Registry

end CompilerLink.Counter
