import CompilerLink.Counter.Block
import CompilerLink.Fault

/-! # The counter registry

A `Registry` keeps every block ever attached, in order of attachment, so that a block's number is
its place; `live` tells which are still attached. The counts of detached blocks are in the retired
pool. `totals` sums the pool and the live blocks that are included, in the order of their numbers.

`free` finds the block to retire by number alone, and folds the values of the block it is handed. -/

namespace CompilerLink.Counter

open Text (Dump)

/-- All counter blocks and the pool of retired counts. -/
structure Registry where
  /-- The number of counters in every live block and in the pool. -/
  size : Nat
  /-- The counts of detached threads. -/
  retired : List Int64
  /-- Every block ever attached; a block's number is its place. -/
  blocks : List Block := []
  /-- Whether blocks of compiler threads are left out of all sums. -/
  excludeCompiler : Bool
  /-- How many more arrays may be allocated; `none` for no limit. -/
  budget : Option Nat := none
  deriving DecidableEq

namespace Registry

/-! ### Creation -/

/-- A registry without blocks. -/
def empty (size : Nat) (excludeCompiler : Bool) : Registry :=
  { size, retired := List.replicate size 0, excludeCompiler }

/-- From this size on, 60 bits, an array is larger than any address space. -/
def sizeLimit : Nat := 0x1000000000000000

/-- A registry without blocks, of a size that an address space can hold. -/
def create (size : Nat) (excludeCompiler : Bool) : Except Panic Registry :=
  if size < sizeLimit then .ok (empty size excludeCompiler) else .error .capacityOverflow

/-! ### Views -/

/-- The blocks still attached, in the order of their numbers. -/
def liveBlocks (r : Registry) : List Block := r.blocks.filter (·.live)

/-- Number of blocks still attached. -/
def liveCount (r : Registry) : Nat := r.liveBlocks.length

/-- The live blocks that take part in totals. -/
def countedBlocks (r : Registry) : List Block := r.liveBlocks.filter (·.included)

/-- Write the sums of the pool and the counted blocks over a buffer. -/
def sumInto (r : Registry) (out : List Int64) : List Int64 :=
  r.countedBlocks.foldl (fun sum b => addInto sum b.values)
    (copyInto (out.map fun _ => 0) r.retired)

/-- The sums of the pool and the counted blocks. -/
def totals (r : Registry) : List Int64 := r.sumInto (List.replicate r.size 0)

/-- Sum into a buffer, which must be as long as the counters. -/
def collect (r : Registry) (buffer : List Int64) : Except CounterFault (List Int64) :=
  if buffer.length = r.size then .ok (r.sumInto buffer)
  else .error (.wrongLength r.size buffer.length)

/-! ### Blocks -/

/-- The block of zeros that the next thread gets. -/
def nextBlock (r : Registry) (compilerThread : Bool) : Block where
  id := r.blocks.length
  included := !(r.excludeCompiler && compilerThread)
  values := List.replicate r.size 0

/-- Attach a block of zeros. -/
def attach (r : Registry) (compilerThread : Bool) : Block × Registry :=
  (r.nextBlock compilerThread, { r with blocks := r.blocks ++ [r.nextBlock compilerThread] })

/-- Add to a counter of a block, live or not. -/
def add (r : Registry) (id index : Nat) (delta : Int64) : Bool × Registry :=
  match r.blocks[id]? with
  | some b => ((b.add index delta).1, { r with blocks := r.blocks.set id (b.add index delta).2 })
  | none => (false, r)

/-- Add one to every counter of a block, `times` times over. -/
def bump (r : Registry) (id times : Nat) : Registry :=
  { r with blocks := r.blocks.modify id (·.bump times) }

/-- Mark a block as detached. -/
def detach (r : Registry) (id : Nat) : Registry :=
  { r with blocks := r.blocks.modify id fun b => { b with live := false } }

/-- Whether a block is attached. -/
def isLive (r : Registry) (id : Nat) : Bool := (r.blocks[id]?).elim false (·.live)

/-- Retire the block with the number of `donor` and fold the values of `donor` into the pool, if
they are included. Nothing happens if no block of that number is attached. -/
def free (r : Registry) (donor : Block) : Registry :=
  if r.isLive donor.id then
    let r' := r.detach donor.id
    if r.size = 0 || !donor.included then r'
    else { r' with retired := addInto r'.retired donor.values }
  else r

/-- Retire one of the registry's own blocks. -/
def freeOwn (r : Registry) (id : Nat) : Registry := (r.blocks[id]?).elim r r.free

/-- Forget the counts of all retired blocks. -/
def freeGlobal (r : Registry) : Registry := { r with retired := r.retired.map fun _ => 0 }

/-- Limit the arrays allocated from now on. -/
def setBudget (r : Registry) (allowed : Option Nat) : Registry := { r with budget := allowed }

/-- The registry laid out for inspection. -/
def dump (r : Registry) : Dump :=
  .record "CounterRegistry"
    [("size", .number r.size), ("live", .number r.liveCount),
      ("exclude_compiler", .flag r.excludeCompiler)] false

end Registry

end CompilerLink.Counter
