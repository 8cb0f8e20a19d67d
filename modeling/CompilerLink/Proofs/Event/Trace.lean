import CompilerLink.Proofs.Event.Retention
import CompilerLink.Proofs.Sink

/-! # Two places that know nothing of each other

What comes to the console is one text, the lines of the calls that are traced, up to the room of the
console (`EventLog.console_performAll`). It depends on the trace level alone, as what is kept in
memory depends on the settings of the memory alone. `EventLog.independent_of_calls` says so of two
logs that are told the same, whatever their other settings, and whatever becomes of their
consoles. -/

namespace CompilerLink

/-! ### Consoles -/

namespace Console

/-- The console once a text has been written to it. -/
def after (c : Console) (text : String) : Console :=
  match c with
  | sink s => sink (s.write text).1
  | stdout => stdout

/-- Writing the empty text leaves a console. -/
theorem after_empty (c : Console) : c.after "" = c := by
  cases c with
  | sink s => rw [after, Sink.write_empty]
  | stdout => rfl

/-- Writing one text `after` the other comes to writing both at once. -/
theorem after_after (c : Console) (a b : String) : (c.after a).after b = c.after (a ++ b) := by
  cases c with
  | sink s => exact congrArg sink (s.write_write a b)
  | stdout => rfl

/-- What comes to an output stream when a text is written to the console. -/
def printed (c : Console) (stream : Stream) (text : String) : ByteArray :=
  match c, stream with
  | stdout, .stdout => text.toUTF8
  | _, _ => ByteArray.empty

/-- Nothing is `printed` for the empty text. -/
theorem printed_empty (c : Console) (stream : Stream) : c.printed stream "" = ByteArray.empty := by
  cases c <;> cases stream <;> rfl

/-- What is `printed` for two texts at once is what is printed for one and the other. -/
theorem printed_append (c : Console) (stream : Stream) (a b : String) :
    c.printed stream (a ++ b) = c.printed stream a ++ c.printed stream b := by
  cases c with
  | sink s => exact ByteArray.append_empty.symm
  | stdout =>
    cases stream with
    | stdout => exact String.toByteArray_append
    | stderr => exact ByteArray.append_empty.symm

/-- What is `printed` does not depend on what was written before. -/
theorem printed_after (c : Console) (stream : Stream) (text later : String) :
    (c.after text).printed stream later = c.printed stream later := by
  cases c <;> rfl

end Console

namespace Call

/-- The line that a call is traced by: its level, its thread, a space for each level and the
message. -/
def line (c : Call) : String :=
  "BridgeTrace-" ++ toString c.level ++ "[" ++ c.caller.tag ++ "]:" ++
    String.ofList (List.replicate c.level ' ') ++ c.message ++ "\n"

/-- The lines of calls, one after the other, for a log that traces up to a level. -/
def traceOf (limit : Nat) (calls : List Call) : String :=
  String.join ((calls.filter fun c => c.isTraced limit).map line)

theorem traceOf_append (limit : Nat) (calls later : List Call) :
    traceOf limit (calls ++ later) = traceOf limit calls ++ traceOf limit later := by
  rw [traceOf, List.filter_append, List.map_append, String.join_append]
  rfl

/-- A single call has its `line` in `traceOf` iff it is traced. -/
theorem traceOf_singleton (limit : Nat) (c : Call) :
    traceOf limit [c] = if c.isTraced limit then c.line else "" := by
  rw [traceOf, List.filter_singleton]
  cases c.isTraced limit with
  | true => simp [String.join_cons]
  | false => rfl

end Call

/-- What an entry says but for its time. -/
def Event.shown (e : Event) : String × String := (e.thread, e.message)

namespace Settings

/-- Settings that ask for the same rings in memory. -/
structure SameMemory (s s' : Settings) : Prop where
  events : s.logEvents = s'.logEvents
  level : s.eventLevel = s'.eventLevel
  capacity : s.eventCapacity = s'.eventCapacity

/-- `SameMemory` settings agree on `logLevel` and `verboseCapacity`. -/
theorem SameMemory.limits {s s' : Settings} (h : s.SameMemory s') :
    s.logLevel = s'.logLevel ∧ s.verboseCapacity = s'.verboseCapacity := by
  rw [logLevel, logLevel, verboseCapacity, verboseCapacity, h.events, h.level, h.capacity]
  exact ⟨rfl, rfl⟩

end Settings

namespace EventLog

/-- Single spaces come to a run of spaces. -/
theorem join_replicate_space (n : Nat) :
    String.join (List.replicate n " ") = String.ofList (List.replicate n ' ') := by
  induction n with
  | zero => rfl
  | succ n ih =>
    rw [List.replicate_succ, String.join_cons, ih, List.replicate_succ, String.ofList_cons]
    rfl

/-- What stands before the message on a trace line. -/
def header (level : Nat) (tag : String) : String :=
  "BridgeTrace-" ++ toString level ++ "[" ++ tag ++ "]:" ++
    String.ofList (List.replicate level ' ')

/-- The pieces of `traceHeader` come to `header`. -/
theorem join_traceHeader_eq (level : Nat) (tag : String) :
    String.join (traceHeader level tag) = header level tag := by
  have hjoin : ∀ a b c d e spaces : String,
      String.join [a, b, c, d, e] ++ spaces = a ++ b ++ c ++ d ++ e ++ spaces := by
    intros
    simp only [String.join_cons, String.join_nil, String.append_empty, String.append_assoc]
  rw [traceHeader, String.join_append, join_replicate_space, hjoin]
  rfl

/-- `traceHeader`, message and newline are the pieces of `Call.line`. -/
theorem join_traceHeader (c : Call) :
    String.join (traceHeader c.level c.caller.tag) ++ String.join [c.message, "\n"] = c.line := by
  have hend : String.join [c.message, "\n"] = c.message ++ "\n" := by simp [String.join_cons]
  rw [join_traceHeader_eq, hend, ← String.append_assoc]
  rfl

/-- `writeTrace` writes `Call.line` to the console, up to where the console fails. -/
theorem console_writeTrace (log : EventLog) (c : Call) :
    (log.writeTrace c.caller c.level c.message).state.console = log.console.after c.line := by
  rw [← join_traceHeader, writeTrace]
  cases log.console with
  | stdout => rfl
  | sink s =>
    simp only [Console.writeAll, Sink.writeAll_eq_write, Console.after, Sink.write_append]
    split <;> rfl

/-- `writeTrace` prints `Call.line` to the stream of the console. -/
theorem content_writeTrace (log : EventLog) (c : Call) (stream : Stream) :
    stream.content (log.writeTrace c.caller c.level c.message).emitted =
      log.console.printed stream c.line := by
  rw [← join_traceHeader, Console.printed_append, writeTrace]
  -- Standard output gets the header and the message one after the other; a sink is no stream.
  cases log.console with
  | stdout =>
    show stream.content ([_] ++ [_]) = _
    rw [Stream.content_append]
    cases stream with
    | stdout => simp [Stream.content, Console.printed]
    | stderr => rfl
  | sink s =>
    split <;> rfl

/-- `perform` brings the `traceOf` a single call to the console and its stream. -/
theorem console_perform (log : EventLog) (c : Call) :
    (log.perform c).state.console = log.console.after (Call.traceOf log.traceLevel [c]) ∧
      ∀ stream : Stream, stream.content (log.perform c).emitted =
        log.console.printed stream (Call.traceOf log.traceLevel [c]) := by
  rw [state_perform, emitted_perform, Call.traceOf_singleton]
  cases c.isTraced log.traceLevel with
  | true => exact ⟨log.console_writeTrace c, log.content_writeTrace c⟩
  | false =>
    exact ⟨log.console.after_empty.symm, fun stream => (log.console.printed_empty stream).symm⟩

/-- `performAll` brings the `traceOf` all calls to the console and its stream. -/
theorem console_performAll (log : EventLog) (calls : List Call) :
    (log.performAll calls).state.console =
        log.console.after (Call.traceOf log.traceLevel calls) ∧
      ∀ stream : Stream, stream.content (log.performAll calls).emitted =
        log.console.printed stream (Call.traceOf log.traceLevel calls) := by
  induction calls generalizing log with
  | nil =>
    exact ⟨log.console.after_empty.symm, fun stream => (log.console.printed_empty stream).symm⟩
  | cons c calls ih =>
    have htrace : Call.traceOf log.traceLevel (c :: calls) =
        Call.traceOf log.traceLevel [c] ++ Call.traceOf log.traceLevel calls :=
      Call.traceOf_append _ [c] calls
    obtain ⟨hconsole, hcontent⟩ := ih (log.perform c).state
    obtain ⟨hconsole₁, hcontent₁⟩ := log.console_perform c
    -- The other calls find the same limit, and the console that the first one has left.
    rw [(log.levels_perform c).2, hconsole₁] at hconsole hcontent
    constructor
    · rw [state_performAll_cons, hconsole, Console.after_after, htrace]
    · intro stream
      rw [emitted_performAll_cons, Stream.content_append, hcontent₁, hcontent,
        Console.printed_after, htrace, Console.printed_append]

/-! ### Two logs -/

/-- Lists with the same `map look` stay the same where members are filtered and mapped by their
looks. -/
theorem map_filter_eq_of_map_eq {α κ β : Type} {look : α → κ} {l l' : List α}
    (hlook : l.map look = l'.map look) (pick : κ → Bool) (tell : κ → β) :
    (l.filter fun a => pick (look a)).map (fun a => tell (look a)) =
      (l'.filter fun a => pick (look a)).map fun a => tell (look a) := by
  have hkeys : ∀ l : List α, (l.filter fun a => pick (look a)).map (fun a => tell (look a)) =
      ((l.map look).filter pick).map tell := by
    intro l
    rw [List.filter_map, List.map_map]
    rfl
  rw [hkeys, hkeys, hlook]

/-- `traceOf` depends on what calls are `saying`, not on when they are made. -/
theorem traceOf_eq_of_saying {calls calls' : List Call}
    (hsaying : calls.map Call.saying = calls'.map Call.saying) (limit : Nat) :
    Call.traceOf limit calls = Call.traceOf limit calls' :=
  congrArg String.join (map_filter_eq_of_map_eq hsaying
    (fun k => decide (k.1 ≠ .log ∧ 0 < k.2.2.1 ∧ k.2.2.1 ≤ limit))
    fun k => "BridgeTrace-" ++ toString k.2.2.1 ++ "[" ++ k.2.1 ++ "]:" ++
      String.ofList (List.replicate k.2.2.1 ' ') ++ k.2.2.2 ++ "\n")

/-- `coarseOf` and `verboseOf` are `shown` the same for calls that are `saying` the same. -/
theorem shown_eq_of_saying {calls calls' : List Call}
    (hsaying : calls.map Call.saying = calls'.map Call.saying) (limit : Nat) :
    (coarseOf limit calls).map Event.shown = (coarseOf limit calls').map Event.shown ∧
      (verboseOf limit calls).map Event.shown = (verboseOf limit calls').map Event.shown := by
  rw [coarseOf, coarseOf, verboseOf, verboseOf, List.map_map, List.map_map, List.map_map,
    List.map_map]
  -- What is kept and what is shown of it are functions of what the calls say.
  exact ⟨map_filter_eq_of_map_eq hsaying
      (fun k => decide (decide (k.1 ≠ .trace ∧ 0 < k.2.2.1 ∧ k.2.2.1 ≤ limit) = true ∧ k.2.2.1 = 1))
      fun k => (k.2.1, k.2.2.2),
    map_filter_eq_of_map_eq hsaying
      (fun k => decide (decide (k.1 ≠ .trace ∧ 0 < k.2.2.1 ∧ k.2.2.1 ≤ limit) = true ∧ k.2.2.1 ≠ 1))
      fun k => (k.2.1, k.2.2.2)⟩

theorem map_rtake {α β : Type} (f : α → β) (l : List α) (n : Nat) :
    (l.rtake n).map f = (l.map f).rtake n := by
  rw [List.rtake, List.rtake, List.map_drop, List.length_map]

/-- Two logs, each made from its settings on its console, that were told the same, though maybe not
at the same times. -/
structure Independent (s s' : Settings) (console console' : Console) (calls calls' : List Call)
    (o o' : Outcome EventLog (List Nat)) : Prop where
  /-- What is kept depends on the settings of the memory only. -/
  memory : s.SameMemory s' →
    o.state.coarseEvents.map Event.shown = o'.state.coarseEvents.map Event.shown ∧
      o.state.verboseEvents.map Event.shown = o'.state.verboseEvents.map Event.shown
  /-- What is told at the same times is kept with the same times. -/
  memory_timed : s.SameMemory s' → calls = calls' →
    o.state.coarseEvents = o'.state.coarseEvents ∧ o.state.verboseEvents = o'.state.verboseEvents
  /-- What is traced depends on the trace level and on the console only. -/
  trace : s.traceLevel = s'.traceLevel → console = console' →
    o.state.console = o'.state.console ∧
      ∀ stream : Stream, stream.content o.emitted = stream.content o'.emitted
  /-- A console for `n` bytes has the first `n` bytes of `traceOf`. -/
  cut : ∀ n, console = .sink (.ofRoom (some n)) →
    o.state.console.collected = (Call.traceOf s.traceLevel calls).toUTF8.extract 0 n
  /-- A console without a limit has `traceOf` as a whole. -/
  whole : console = .sink (.ofRoom none) →
    o.state.console.collected = (Call.traceOf s.traceLevel calls).toUTF8
  /-- So has the standard output, if it is the console. -/
  printed : console = .stdout →
    Stream.stdout.content o.emitted = (Call.traceOf s.traceLevel calls).toUTF8
  /-- Nothing else comes to the streams of the process. -/
  silent : ∀ stream : Stream, console ≠ .stdout ∨ stream = .stderr →
    stream.content o.emitted = ByteArray.empty

/-- `Independent` holds of any two logs that are told the same: those that agree on memory or
console agree there, whatever the other is like. -/
theorem independent_of_calls (s s' : Settings) (console console' : Console)
    {calls calls' : List Call} (hsaying : calls.map Call.saying = calls'.map Call.saying) :
    Independent s s' console console' calls calls' ((ofSettings s console).performAll calls)
      ((ofSettings s' console').performAll calls') := by
  obtain ⟨hconsole, hcontent⟩ := (ofSettings s console).console_performAll calls
  obtain ⟨hconsole', hcontent'⟩ := (ofSettings s' console').console_performAll calls'
  obtain ⟨hcoarse, hverbose⟩ := kept_performAll s console calls
  obtain ⟨hcoarse', hverbose'⟩ := kept_performAll s' console' calls'
  constructor
  · intro hmemory
    obtain ⟨hlevel, hroom⟩ := hmemory.limits
    obtain ⟨hfirst, hsecond⟩ := shown_eq_of_saying hsaying s.logLevel
    rw [hcoarse, hverbose, hcoarse', hverbose', ← hlevel, ← hroom, ← hmemory.capacity]
    constructor
    · split
      · rw [map_rtake, map_rtake, hfirst]
      · rfl
    · split
      · rw [map_rtake, map_rtake, hsecond]
      · rfl
  · -- With the same times no detour over `Event.shown` is needed.
    rintro hmemory rfl
    obtain ⟨hlevel, hroom⟩ := hmemory.limits
    rw [hcoarse, hverbose, hcoarse', hverbose', ← hlevel, ← hroom, ← hmemory.capacity]
    exact ⟨rfl, rfl⟩
  · rintro hlevel rfl
    -- The trace is made of what the calls say, and these say the same.
    have hlines : Call.traceOf s.traceLevel calls = Call.traceOf s'.traceLevel calls' := by
      rw [← hlevel, traceOf_eq_of_saying hsaying]
    refine ⟨?_, fun stream => ?_⟩
    · rw [hconsole, hconsole']
      exact congrArg console.after hlines
    · rw [hcontent, hcontent']
      exact congrArg (console.printed stream) hlines
  · rintro n rfl
    rw [hconsole]
    exact (Sink.written_write _ _).trans ByteArray.empty_append
  · rintro rfl
    rw [hconsole]
    exact (Sink.written_write _ _).trans ByteArray.empty_append
  · rintro rfl
    exact hcontent .stdout
  · intro stream hsilent
    rw [hcontent]
    show console.printed stream _ = _
    cases console with
    | sink sink => rfl
    | stdout =>
      rcases hsilent with hother | rfl
      · exact absurd rfl hother
      · rfl

/-- Three calls at a given time. -/
def toldAt (clock : String) : List Call :=
  [⟨.event, .main clock, 1, "a"⟩, ⟨.log, .main clock, 2, "b"⟩, ⟨.trace, .main clock, 2, "c"⟩]

/-- `independent_of_calls` applies to `toldAt`, at two different times and with a console that is
cut short. -/
theorem independent_of_toldAt :
    (toldAt "0.5").map Call.saying = (toldAt "7").map Call.saying ∧
      Independent { libraryDir := "/", traceLevel := 2 } { libraryDir := "/" }
        (.sink (.ofRoom (some 25))) .stdout (toldAt "0.5") (toldAt "7")
        ((ofSettings { libraryDir := "/", traceLevel := 2 } (.sink (.ofRoom (some 25)))).performAll
          (toldAt "0.5"))
        ((ofSettings { libraryDir := "/" } .stdout).performAll (toldAt "7")) ∧
      Call.traceOf 2 (toldAt "0.5") = "BridgeTrace-1[main]: a\nBridgeTrace-2[main]:  c\n" :=
  ⟨rfl, independent_of_calls _ _ _ _ rfl, by decide⟩

end EventLog

end CompilerLink
