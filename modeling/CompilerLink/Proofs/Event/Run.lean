import CompilerLink.Event.Log
import CompilerLink.Proofs.Emission

/-! # Calls of an event log

A `Call` reports one message, to both places, to the rings in memory or to the console only.
`EventLog.performAll` makes calls in order. Whether a call is kept or traced depends on its level
and the limit of that place alone (`Call.isKept`, `Call.isTraced`). By `state_perform` and
`emitted_perform` a call that is meant for both places does to each what a call for this place alone
would do. -/

namespace CompilerLink

/-- Where a call reports to. -/
inductive Call.Kind where
  /-- To both places. -/
  | event
  /-- To the rings in memory. -/
  | log
  /-- To the console. -/
  | trace
  deriving Repr, DecidableEq

/-- A call of an event log. An event of a fixed level is a call of kind `event`. -/
structure Call where
  kind : Call.Kind
  caller : Caller
  level : Nat
  message : String
  deriving Repr, DecidableEq

namespace Call

/-- Whether a log that keeps events up to `limit` is to keep this one. -/
def isKept (c : Call) (limit : Nat) : Bool := c.kind ≠ .trace ∧ 0 < c.level ∧ c.level ≤ limit

/-- Whether a log that traces events up to `limit` is to trace this one. -/
def isTraced (c : Call) (limit : Nat) : Bool := c.kind ≠ .log ∧ 0 < c.level ∧ c.level ≤ limit

/-- `isKept` as a proposition. -/
theorem isKept_iff {c : Call} {limit : Nat} :
    c.isKept limit = true ↔ c.kind ≠ .trace ∧ 0 < c.level ∧ c.level ≤ limit := by
  rw [isKept, decide_eq_true_eq]

/-- The entry that a call makes in a ring. -/
def entry (c : Call) : Event := ⟨c.caller.clock, c.caller.tag, c.message⟩

/-- What a call says, whenever it is made. -/
def saying (c : Call) : Kind × String × Nat × String := (c.kind, c.caller.tag, c.level, c.message)

end Call

namespace EventLog

/-- Make a call, by `event`, `log` or `trace`. -/
def perform (log : EventLog) (c : Call) : Outcome EventLog Nat :=
  match c.kind with
  | .event => log.event c.caller c.level c.message
  | .log => log.log c.caller c.level c.message
  | .trace => log.trace c.caller c.level c.message

/-- Make calls in order. The answers tell how often each message was written out. -/
def performAll (log : EventLog) : List Call → Outcome EventLog (List Nat)
  | [] => ⟨[], log, []⟩
  | c :: rest =>
    let first := log.perform c
    ((first.state.performAll rest).map (first.value :: ·)).after first.emitted

/-! ### One call -/

/-- `isKept` at the level of a log is `acceptsLog`, but for calls that are only traced. -/
theorem isKept_logLevel (log : EventLog) (c : Call) :
    c.isKept log.logLevel = (c.kind ≠ .trace && log.acceptsLog c.level) := by
  simp [Call.isKept, acceptsLog]

/-- `isTraced` at the level of a log is `acceptsTrace`, but for calls that are only kept. -/
theorem isTraced_traceLevel (log : EventLog) (c : Call) :
    c.isTraced log.traceLevel = (c.kind ≠ .log && log.acceptsTrace c.level) := by
  simp [Call.isTraced, acceptsTrace]

/-- `writeTrace` changes the console alone. -/
theorem state_writeTrace (log : EventLog) (caller : Caller) (level : Nat) (message : String) :
    (log.writeTrace caller level message).state =
      { log with console := (log.writeTrace caller level message).state.console } := by
  rw [writeTrace]
  split <;> rfl

/-- `record` does not change the console, nor depend on it. -/
theorem record_console (log : EventLog) (caller : Caller) (level : Nat) (message : String)
    (console : Console) :
    ({ log with console } : EventLog).record caller level message =
      { log.record caller level message with console } := by
  rw [record, record]
  split <;> rfl

/-- `perform` leaves the rings as `record` does if the call is kept, and the console as `writeTrace`
does if it is traced. -/
theorem state_perform (log : EventLog) (c : Call) :
    (log.perform c).state =
      { (if c.isKept log.logLevel then log.record c.caller c.level c.message else log) with
        console :=
          if c.isTraced log.traceLevel then
            (log.writeTrace c.caller c.level c.message).state.console
          else log.console } := by
  rw [isKept_logLevel, isTraced_traceLevel]
  obtain ⟨kind, caller, level, message⟩ := c
  have hrecord := log.record_console caller level message log.console
  have hline := log.state_writeTrace caller level message
  -- Each kind is one or both of two independent effects, an entry and a line.
  cases kind with
  | event =>
    rw [perform, event]
    cases log.acceptsLog level <;> cases log.acceptsTrace level
    · rfl
    · exact hline
    · exact hrecord
    · -- The entry is made after the line was written.
      show (log.writeTrace caller level message).state.record caller level message = _
      rw [hline, record_console]
      rfl
  | log =>
    rw [perform, EventLog.log]
    cases log.acceptsLog level
    · rfl
    · exact hrecord
  | trace =>
    rw [perform, trace]
    cases log.acceptsTrace level
    · rfl
    · exact hline

/-- `perform` emits the trace line of a call that is traced. -/
theorem emitted_perform (log : EventLog) (c : Call) :
    (log.perform c).emitted =
      if c.isTraced log.traceLevel then (log.writeTrace c.caller c.level c.message).emitted
      else [] := by
  rw [isTraced_traceLevel]
  obtain ⟨kind, caller, level, message⟩ := c
  -- Only the trace writes; an entry in a ring is silent.
  cases kind with
  | event =>
    rw [perform, event]
    cases log.acceptsLog level <;> cases log.acceptsTrace level <;> rfl
  | log =>
    rw [perform, EventLog.log]
    cases log.acceptsLog level <;> rfl
  | trace =>
    rw [perform, trace]
    cases log.acceptsTrace level <;> rfl

/-- `event` emits no remark. -/
theorem remarks_event (log : EventLog) (caller : Caller) (level : Nat) (message : String) :
    Emission.remarks (log.event caller level message).emitted = [] := by
  -- Whatever is written to a console are bytes, and no remark.
  have hwrite : ∀ (c : Console) (pieces : List String),
      Emission.remarks (c.writeAll pieces).emitted = [] := by
    intro c pieces
    cases c <;> rfl
  have hline : Emission.remarks (log.writeTrace caller level message).emitted = [] := by
    rw [writeTrace]
    split
    · exact (Emission.remarks_append _ _).trans (by rw [hwrite, hwrite, List.append_nil])
    · exact hwrite _ _
  rw [event]
  split
  · rfl
  · rfl
  · exact hline
  · exact hline

/-- `perform` changes neither level. -/
theorem levels_perform (log : EventLog) (c : Call) :
    (log.perform c).state.logLevel = log.logLevel ∧
      (log.perform c).state.traceLevel = log.traceLevel := by
  rw [state_perform]
  split
  · rw [record]
    split <;> exact ⟨rfl, rfl⟩
  · exact ⟨rfl, rfl⟩

/-! ### Calls in order -/

/-- `performAll` goes on from what the first call leaves. -/
theorem state_performAll_cons (log : EventLog) (c : Call) (calls : List Call) :
    (log.performAll (c :: calls)).state = ((log.perform c).state.performAll calls).state := rfl

/-- `performAll` emits what the first call emits before the rest. -/
theorem emitted_performAll_cons (log : EventLog) (c : Call) (calls : List Call) :
    (log.performAll (c :: calls)).emitted =
      (log.perform c).emitted ++ ((log.perform c).state.performAll calls).emitted := rfl

/-- `performAll` of an append is that of its parts, one after the other. -/
theorem performAll_append (log : EventLog) (calls later : List Call) :
    (log.performAll (calls ++ later)).state =
        ((log.performAll calls).state.performAll later).state ∧
      (log.performAll (calls ++ later)).emitted =
        (log.performAll calls).emitted ++
          ((log.performAll calls).state.performAll later).emitted := by
  induction calls generalizing log with
  | nil => exact ⟨rfl, rfl⟩
  | cons c calls ih =>
    obtain ⟨hstate, hemitted⟩ := ih (log.perform c).state
    refine ⟨hstate, ?_⟩
    rw [List.cons_append, emitted_performAll_cons, hemitted, ← List.append_assoc]
    rfl

end EventLog

end CompilerLink
