import CompilerLink.Proofs.Counter.Staging

/-! # Runs of a registry

A `Session` is a registry in use: the coordinator that pauses the threads for it and the record of
what was asked of it and answered, newest entry first. `Session.perform` carries out one `Operation`
with the registry's own functions and `Session.run` any number of them in order, so what holds of
`(Session.start pause r).run ops` for all `ops` holds in every state that the registry can reach.

Blocks are named by their numbers. Nobody can name a block before it has been attached, so an
operation on such a number does nothing and leaves no entry. -/

namespace CompilerLink.Counter

/-- A call of `Registry`, or of the pause around it. -/
inductive Operation where
  | attach (compilerThread : Bool)
  /-- `Registry.add` to a counter of a block, live or retired. -/
  | add (id index : Nat) (delta : Int64)
  /-- `Registry.freeOwn` of a block, which may have been retired before. -/
  | free (id : Nat)
  | resize (n : Nat)
  /-- `Registry.freeGlobal`: the counts of all retired blocks are forgotten. -/
  | forget
  | collect (buffer : List Int64)
  /-- `Registry.setBudget`: limit the arrays that may be allocated from now on. -/
  | limit (allowed : Option Nat)

/-- An `Operation` that was carried out, with what it answered. -/
inductive Entry where
  | attached (id : Nat) (compilerThread : Bool)
  | added (id index : Nat) (delta : Int64) (accepted : Bool)
  | freed (id : Nat)
  | resized (n : Nat) (succeeded : Bool)
  | forgotten
  | collected (succeeded : Bool)
  | limited (allowed : Option Nat)
  deriving DecidableEq

/-- A `Registry` in use, with its `Pause`. -/
structure Session where
  pause : Pause
  registry : Registry
  /-- What was carried out, newest first. -/
  record : List Entry := []

namespace Session

/-- The `Session` before anything was asked of the registry. -/
def start (pause : Pause) (r : Registry) : Session := { pause, registry := r }

/-- Carry out one `Operation` and put an `Entry` in front of the record. Numbers of blocks that do
not exist are skipped. -/
def perform (s : Session) : Operation → Session
  | .attach compilerThread =>
    { s with
      registry := (s.registry.attach compilerThread).2
      record := .attached (s.registry.attach compilerThread).1.id compilerThread :: s.record }
  | .add id index delta =>
    if id < s.registry.blocks.length then
      { s with
        registry := (s.registry.add id index delta).2
        record := .added id index delta (s.registry.add id index delta).1 :: s.record }
    else s
  | .free id =>
    if id < s.registry.blocks.length then
      { s with registry := s.registry.freeOwn id, record := .freed id :: s.record }
    else s
  | .resize n =>
    let done := s.registry.resizeAll s.pause n
    { pause := done.state.1
      registry := done.state.2
      record := .resized n done.value.isOk :: s.record }
  | .forget => { s with registry := s.registry.freeGlobal, record := .forgotten :: s.record }
  | .collect buffer =>
    { s with record := .collected (s.registry.collect buffer).isOk :: s.record }
  | .limit allowed =>
    { s with registry := s.registry.setBudget allowed, record := .limited allowed :: s.record }

/-- `perform` for one operation after the other. -/
def run (s : Session) (ops : List Operation) : Session := ops.foldl perform s

/-- Induction over a run: `P` holds after `run` if it holds before and `perform` keeps it. All
invariants of a registry are proved with it. -/
theorem run_induction {P : Session → Prop} (hstep : ∀ s op, P s → P (s.perform op))
    (ops : List Operation) (s : Session) (hs : P s) : P (s.run ops) := by
  induction ops generalizing s with
  | nil => exact hs
  | cons op ops ih => exact ih (s.perform op) (hstep s op hs)

theorem mem_record_perform {s : Session} {e : Entry} (op : Operation) (he : e ∈ s.record) :
    e ∈ (s.perform op).record := by
  cases op with
  | add id index delta =>
    rw [perform]
    -- A number that no block has leaves no entry, and none is lost either.
    split
    · exact List.mem_cons_of_mem _ he
    · exact he
  | free id =>
    rw [perform]
    split
    · exact List.mem_cons_of_mem _ he
    · exact he
  | _ => exact List.mem_cons_of_mem _ he

theorem mem_record_run {s : Session} {e : Entry} (ops : List Operation) (he : e ∈ s.record) :
    e ∈ (s.run ops).record :=
  run_induction (P := fun s => e ∈ s.record) (fun _ op => mem_record_perform op) ops s he

end Session

/-! ### Resizes in a pause -/

namespace Registry

/-- `resizeAll` at a safepoint is `resize`, run once, and counts one pause. -/
theorem resizeAll_safepoint (r : Registry) {pause : Pause} (hp : pause.coordinator = .safepoint)
    (n : Nat) :
    (r.resizeAll pause n).value = (r.resize n).value ∧
      (r.resizeAll pause n).state.1 = { pause with count := pause.count + 1 } ∧
      (r.resizeAll pause n).state.2 = (r.resize n).state := by
  simp only [resizeAll, Pause.execute, hp, and_self]

/-- `resizeAll` leaves the coordinator, whichever it is. -/
theorem coordinator_resizeAll (r : Registry) (pause : Pause) (n : Nat) :
    (r.resizeAll pause n).state.1.coordinator = pause.coordinator := by
  obtain ⟨coordinator, count⟩ := pause
  cases coordinator <;> rfl

/-- Whatever `resize` keeps, `resizeAll` keeps, however often the coordinator of the pause runs it,
and also if it does not run it at all. -/
theorem resizeAll_induction {P : Registry → Prop} (n : Nat)
    (hresize : ∀ r, P r → P (r.resize n).state) (pause : Pause) (r : Registry) (hr : P r) :
    P (r.resizeAll pause n).state.2 := by
  rw [resizeAll, Pause.execute]
  cases pause.coordinator with
  | safepoint => exact hresize r hr
  | foreign runs =>
    simp only [Outcome.within]
    -- The answer of the last run is part of the state of the loop, so it is generalised.
    generalize (Except.ok () : Except CounterFault Unit) = answer
    -- On the number of runs that the coordinator makes.
    induction runs generalizing r answer with
    | zero => exact hr
    | succ runs ih => exact ih (r.resize n).state (hresize r hr) (r.resize n).value

end Registry

end CompilerLink.Counter
