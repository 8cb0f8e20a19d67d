import CompilerLink.Counter.Sum

/-! # Counter blocks

A block holds the counters of one attached thread. Only its thread adds to it; its registry sums it
up, changes its length and retires it. -/

namespace CompilerLink.Counter

/-- The counters of one attached thread. -/
structure Block where
  /-- The block's number in its registry. -/
  id : Nat
  /-- Whether its counts take part in totals and in the retired pool. -/
  included : Bool
  /-- Whether its registry still counts it as attached. -/
  live : Bool := true
  values : List Int64
  deriving DecidableEq

namespace Block

/-- Add to one counter, wrapping around; false, with nothing changed, if there is no
such counter. -/
def add (b : Block) (index : Nat) (delta : Int64) : Bool × Block :=
  match b.values[index]? with
  | some v => (true, { b with values := b.values.set index (v + delta) })
  | none => (false, b)

/-- Add one to every counter, `times` times over. -/
def bump (b : Block) (times : Nat) : Block :=
  { b with values := b.values.map (· + Int64.ofNat times) }

/-- One counter, if there is such a one. -/
def get? (b : Block) (index : Nat) : Option Int64 := b.values[index]?

/-- The word by which compiled code finds the block; no block has the word zero. -/
def reference (b : Block) : UInt64 := UInt64.ofNat (b.id + 1)

end Block

end CompilerLink.Counter
