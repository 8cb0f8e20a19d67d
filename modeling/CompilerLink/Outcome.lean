import CompilerLink.Diagnostic

/-! # Outcomes

Every operation of the library is a function from a state to an `Outcome`: the value it answers, the
state it leaves and, in order, what it let out of the process on the way. -/

namespace CompilerLink

/-- The two output streams of a process. -/
inductive Stream where
  | stdout
  | stderr
  deriving Repr, DecidableEq

/-- Something an operation lets out besides its answer. -/
inductive Emission where
  /-- A remark about the program's own working. -/
  | remark (diagnostic : Diagnostic)
  /-- Bytes written to an output stream. -/
  | bytes (stream : Stream) (content : ByteArray)

/-- The end of an operation on a state of type `σ` that answers an `α`. -/
structure Outcome (σ : Type) (α : Type) where
  /-- The answer. -/
  value : α
  /-- The state afterwards. -/
  state : σ
  /-- What was let out, in order. -/
  emitted : List Emission := []

namespace Outcome

variable {σ τ α β : Type}

/-- The same end, with something let out before it. -/
def after (earlier : List Emission) (o : Outcome σ α) : Outcome σ α :=
  { o with emitted := earlier ++ o.emitted }

/-- The same end with another answer. -/
def map (f : α → β) (o : Outcome σ α) : Outcome σ β :=
  ⟨f o.value, o.state, o.emitted⟩

/-- The same end, with the state seen as part of a larger one. -/
def within (f : σ → τ) (o : Outcome σ α) : Outcome τ α :=
  ⟨o.value, f o.state, o.emitted⟩

@[simp] theorem value_after (e : List Emission) (o : Outcome σ α) :
    (o.after e).value = o.value := rfl

@[simp] theorem state_after (e : List Emission) (o : Outcome σ α) :
    (o.after e).state = o.state := rfl

@[simp] theorem emitted_after (e : List Emission) (o : Outcome σ α) :
    (o.after e).emitted = e ++ o.emitted := rfl

end Outcome

/-- The bytes that a list of emissions puts on one stream. -/
def Stream.content (stream : Stream) (emitted : List Emission) : ByteArray :=
  emitted.foldl (fun all e =>
    match e with
    | .bytes s content => if s = stream then all ++ content else all
    | .remark _ => all) ByteArray.empty

/-- The remarks among a list of emissions. -/
def Emission.remarks (emitted : List Emission) : List Diagnostic :=
  emitted.filterMap fun
    | .remark d => some d
    | .bytes _ _ => none

end CompilerLink
