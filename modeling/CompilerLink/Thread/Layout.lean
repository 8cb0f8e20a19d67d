import CompilerLink.Text.Dump

/-! # Per-thread state

Compiled code reads and writes the fields of `ThreadState` at fixed distances from the start of
the native thread block. `placeFields` computes those distances: fields lie in order, each at the
next multiple of its size, and the state as a whole at a multiple of its largest field. -/

namespace CompilerLink

open Text (Dump)

/-! ### Placing fields -/

/-- The next multiple of `size` at or after `offset`. -/
def alignUp (offset size : Nat) : Nat := (offset + size - 1) / size * size

/-- Where fields of the given sizes lie, when the first may start at `start`. -/
def placeFields (start : Nat) : List Nat → List Nat
  | [] => []
  | size :: rest => alignUp start size :: placeFields (alignUp start size + size) rest

/-! ### The state -/

/-- The part of the native thread block that belongs to the link. -/
structure ThreadState where
  /-- Reason and action of a pending deoptimization, -1 if there is none. -/
  pendingDeoptimization : Int32 := -1
  /-- A monitor has still to be entered before compiled code goes on. -/
  pendingMonitorEnter : Bool := false
  /-- Deoptimization goes to the interpreter. -/
  pendingTransferToInterpreter : Bool := false
  /-- An allocation is under way that may be tried again. -/
  inRetryableAllocation : Bool := false
  /-- Failed speculation to record at the next deoptimization. -/
  pendingFailedSpeculation : Int64 := 0
  /-- The alternate call target or the implicit exception address, whichever the thread needs:
  compiled code reads both at one place. -/
  callTargetOrExceptionPc : UInt64 := 0
  /-- The word by which compiled code finds the thread's counters. -/
  counters : UInt64 := 0
  reserved0 : Int64 := 0
  reserved1 : Int64 := 0
  reservedOop0 : UInt64 := 0
  deriving DecidableEq

namespace ThreadState

/-- The names and sizes in bytes of the state's fields, in order. -/
def fieldSizes : List (String × Nat) :=
  [("pending_deoptimization", 4), ("pending_monitorenter", 1),
    ("pending_transfer_to_interpreter", 1), ("in_retryable_allocation", 1),
    ("pending_failed_speculation", 8), ("alternate_call_target_or_implicit_exception_pc", 8),
    ("counters", 8), ("reserved0", 8), ("reserved1", 8), ("reserved_oop0", 8)]

/-- The state laid out for inspection. -/
def dump (s : ThreadState) : Dump :=
  .record "BridgeThreadState"
    [("pending_deoptimization", .number s.pendingDeoptimization.toInt),
      ("pending_monitorenter", .flag s.pendingMonitorEnter),
      ("pending_transfer_to_interpreter", .flag s.pendingTransferToInterpreter),
      ("in_retryable_allocation", .flag s.inRetryableAllocation),
      ("pending_failed_speculation", .number s.pendingFailedSpeculation.toInt),
      ("alternate_call_target_or_implicit_exception_pc", .number s.callTargetOrExceptionPc.toNat),
      ("counters", .number s.counters.toNat),
      ("reserved0", .number s.reserved0.toInt),
      ("reserved1", .number s.reserved1.toInt),
      ("reserved_oop0", .number s.reservedOop0.toNat)] true

/-- A new value for one field of the state. -/
inductive Update where
  | pendingDeoptimization (value : Int32)
  | pendingMonitorEnter (value : Bool)
  | pendingTransferToInterpreter (value : Bool)
  | inRetryableAllocation (value : Bool)
  | pendingFailedSpeculation (value : Int64)
  | alternateCallTarget (value : UInt64)
  | implicitExceptionPc (value : UInt64)
  | reserved0 (value : Int64)
  | reserved1 (value : Int64)
  | reservedOop0 (value : UInt64)

/-- Store a new value in one field. -/
def update (s : ThreadState) : Update → ThreadState
  | .pendingDeoptimization v => { s with pendingDeoptimization := v }
  | .pendingMonitorEnter v => { s with pendingMonitorEnter := v }
  | .pendingTransferToInterpreter v => { s with pendingTransferToInterpreter := v }
  | .inRetryableAllocation v => { s with inRetryableAllocation := v }
  | .pendingFailedSpeculation v => { s with pendingFailedSpeculation := v }
  | .alternateCallTarget v => { s with callTargetOrExceptionPc := v }
  | .implicitExceptionPc v => { s with callTargetOrExceptionPc := v }
  | .reserved0 v => { s with reserved0 := v }
  | .reserved1 v => { s with reserved1 := v }
  | .reservedOop0 v => { s with reservedOop0 := v }

/-- The call target the thread was told to take. -/
def alternateCallTarget (s : ThreadState) : UInt64 := s.callTargetOrExceptionPc

/-- The address at which an implicit exception arose. -/
def implicitExceptionPc (s : ThreadState) : UInt64 := s.callTargetOrExceptionPc

end ThreadState

/-- The native block of a thread: what lies before the link's state, and the state. -/
structure NativeBlock where
  threadId : UInt64 := 0
  suspendFlags : UInt32 := 0
  pollWord : UInt64 := 0
  state : ThreadState := {}
  deriving DecidableEq

namespace NativeBlock

/-- The sizes in bytes of the fields before the link's state, in order. -/
def leadingSizes : List Nat := [8, 4, 8]

/-- Where the link's state starts: behind the leading fields, at a multiple of a machine word. -/
def stateOffset : Nat := (placeFields 0 (leadingSizes ++ [8])).getLastD 0

/-- Where a field of the link's state lies in the native block. -/
def offsetOf (field : String) : Nat :=
  let places := (ThreadState.fieldSizes.map (·.1)).zip
    (placeFields stateOffset (ThreadState.fieldSizes.map (·.2)))
  (places.lookup field).getD 0

/-- The native block laid out for inspection. -/
def dump (b : NativeBlock) : Dump :=
  .record "NativeThreadBlock"
    [("thread_id", .number b.threadId.toNat), ("suspend_flags", .number b.suspendFlags.toNat),
      ("poll_word", .number b.pollWord.toNat), ("bridge", b.state.dump)] true

end NativeBlock

/-! ### What is published -/

/-- A place in the native block that compiled code depends on. -/
structure PublishedField where
  name : String
  offset : Nat
  deriving Repr, DecidableEq

/-- Every place that compiled code depends on; the last two are one place under two names. -/
def publishedLayout : List PublishedField :=
  [⟨"pending_deoptimization", NativeBlock.offsetOf "pending_deoptimization"⟩,
    ⟨"pending_monitorenter", NativeBlock.offsetOf "pending_monitorenter"⟩,
    ⟨"alternate_call_target",
      NativeBlock.offsetOf "alternate_call_target_or_implicit_exception_pc"⟩,
    ⟨"implicit_exception_pc",
      NativeBlock.offsetOf "alternate_call_target_or_implicit_exception_pc"⟩]

end CompilerLink
