import CompilerLink.Proofs.Event.Trace

/-! # Formatting a message

The operations of an event log answer how often they have formatted the message. Who formats it
beforehand needs it once. On a trace line its turn comes after the header, and only if the console
has taken that. `Console.writeItems` writes a line as a program does that formats on demand,
whatever pieces the message comes in, and counts: the trace line comes to the same
(`EventLog.writeTrace_on_demand`), and so does its count (`EventLog.demand_lineItems`). By
`EventLog.formatsOnce` an event is a trace and an entry in memory, for which the message is
formatted once at most. -/

namespace CompilerLink

/-! ### What a console takes -/

namespace Console

/-- Whether the console takes the whole of a text. -/
def takes (c : Console) (text : String) : Bool :=
  match c with
  | sink s => s.room.all fun n => text.toUTF8.size ≤ n
  | stdout => true

/-- `writeAll` of pieces comes to the text that they are pieces of: the same answer, console and
streams. -/
theorem writeAll_eq (c : Console) (pieces : List String) :
    (c.writeAll pieces).value = c.takes (String.join pieces) ∧
      (c.writeAll pieces).state = c.after (String.join pieces) ∧
      ∀ stream : Stream, stream.content (c.writeAll pieces).emitted =
        c.printed stream (String.join pieces) := by
  cases c with
  -- A sink that takes all pieces takes them as one text.
  | sink s =>
    refine ⟨?_, ?_, fun stream => rfl⟩
    · show (s.writeAll pieces).2 = _
      rw [Sink.writeAll_eq_write, Sink.taken_write]
      rfl
    · show sink (s.writeAll pieces).1 = _
      rw [Sink.writeAll_eq_write]
      rfl
  | stdout =>
    refine ⟨rfl, rfl, fun stream => ?_⟩
    cases stream with
    | stdout => simp [writeAll, Stream.content, printed]
    | stderr => rfl

/-- A console `takes` an append iff it takes the first part and then the second. -/
theorem takes_append (c : Console) (a b : String) :
    c.takes (a ++ b) = (c.takes a && (c.after a).takes b) := by
  cases c with
  | stdout => rfl
  | sink s =>
    show (s.room.all fun n => (a ++ b).toUTF8.size ≤ n) =
      ((s.room.all fun n => a.toUTF8.size ≤ n) &&
        (s.write a).1.room.all fun n => b.toUTF8.size ≤ n)
    rw [← Sink.taken_write, ← Sink.taken_write, ← Sink.taken_write, Sink.write_append]
    cases htaken : (s.write a).2 with
    | true => rfl
    | false => exact htaken

/-- Once a text is not taken, a console takes nothing more. -/
theorem after_append_of_not_takes {c : Console} {a : String} (h : c.takes a = false) (b : String) :
    c.after (a ++ b) = c.after a ∧
      ∀ stream : Stream, c.printed stream (a ++ b) = c.printed stream a := by
  cases c with
  | stdout => exact nomatch h
  | sink s =>
    refine ⟨?_, fun stream => rfl⟩
    have htaken : (s.write a).2 = false := (s.taken_write a).trans h
    show sink (s.write (a ++ b)).1 = sink (s.write a).1
    rw [Sink.write_append, htaken]
    rfl

end Console

/-! ### Formatting on demand -/

/-- Something that is to be written on a line. -/
inductive Item where
  /-- A text that is there already. -/
  | text (piece : String)
  /-- The message, which is formatted when its turn comes. -/
  | message
  deriving DecidableEq

namespace Item

/-- The pieces of an item, if the message comes in the given ones. -/
def pieces (message : List String) : Item → List String
  | text piece => [piece]
  | .message => message

/-- The `pieces` of a text come to the text. -/
theorem join_pieces_text (message : List String) (piece : String) :
    String.join ((text piece).pieces message) = piece := by
  simp [pieces, String.join_cons]

/-- The `pieces` of texts are the texts as they stand. -/
theorem flatMap_pieces_texts (message texts : List String) :
    (texts.map text).flatMap (pieces message) = texts := by
  induction texts with
  | nil => rfl
  | cons text texts ih => exact congrArg (text :: ·) ih

/-- How often the message has to be formatted for the item. -/
def demand : Item → Nat
  | text _ => 0
  | message => 1

/-- The text of items. -/
def join (message : List String) (items : List Item) : String :=
  String.join (items.flatMap (pieces message))

/-- `join` puts the text of the first item before that of the others. -/
theorem join_cons (message : List String) (item : Item) (items : List Item) :
    join message (item :: items) = String.join (item.pieces message) ++ join message items := by
  rw [join, List.flatMap_cons, String.join_append]
  rfl

end Item

namespace Console

/-- Write items in order, up to the first that is not taken whole. The answer is how often the
message has been formatted. -/
def writeItems (message : List String) : Console → List Item → Outcome Console Nat
  | c, [] => ⟨0, c, []⟩
  | c, item :: rest =>
    let done := c.writeAll (item.pieces message)
    if done.value then
      ((writeItems message done.state rest).map (item.demand + ·)).after done.emitted
    else ⟨item.demand, done.state, done.emitted⟩

variable (message : List String)

/-- `writeItems` goes on after an item that is taken. -/
theorem writeItems_cons_of_takes {message : List String} {c : Console} {item : Item}
    (h : c.takes (String.join (item.pieces message)) = true) (rest : List Item) :
    c.writeItems message (item :: rest) =
      (((c.after (String.join (item.pieces message))).writeItems message rest).map
        (item.demand + ·)).after (c.writeAll (item.pieces message)).emitted := by
  obtain ⟨hvalue, hstate, -⟩ := c.writeAll_eq (item.pieces message)
  rw [writeItems, if_pos (hvalue.trans h), hstate]

/-- `writeItems` stops at an item that is not taken, whose demand counts all the same. -/
theorem writeItems_cons_of_not_takes {message : List String} {c : Console} {item : Item}
    (h : c.takes (String.join (item.pieces message)) = false) (rest : List Item) :
    c.writeItems message (item :: rest) =
      ⟨item.demand, c.after (String.join (item.pieces message)),
        (c.writeAll (item.pieces message)).emitted⟩ := by
  obtain ⟨hvalue, hstate, -⟩ := c.writeAll_eq (item.pieces message)
  have hfails : ¬ (c.writeAll (item.pieces message)).value = true := by
    rw [hvalue, h]
    exact Bool.false_ne_true
  rw [writeItems, if_neg hfails, hstate]

/-- `writeItems` leaves the console and the streams as `Item.join` written at once does. -/
theorem writeItems_eq (c : Console) (items : List Item) :
    (c.writeItems message items).state = c.after (Item.join message items) ∧
      ∀ stream : Stream, stream.content (c.writeItems message items).emitted =
        c.printed stream (Item.join message items) := by
  -- By induction on the items, for every console, as each item leaves another one.
  induction items generalizing c with
  | nil => exact ⟨c.after_empty.symm, fun stream => (c.printed_empty stream).symm⟩
  | cons item rest ih =>
    obtain ⟨-, -, hcontent⟩ := c.writeAll_eq (item.pieces message)
    rw [Item.join_cons]
    cases htakes : c.takes (String.join (item.pieces message)) with
    | true =>
      obtain ⟨hstate, hrest⟩ := ih (c.after (String.join (item.pieces message)))
      rw [writeItems_cons_of_takes htakes]
      refine ⟨hstate.trans (c.after_after _ _), fun stream => ?_⟩
      rw [Outcome.emitted_after, Stream.content_append, hcontent, printed_append]
      congr 1
      exact (hrest stream).trans (c.printed_after stream _ _)
    | false =>
      obtain ⟨hafter, hprinted⟩ := after_append_of_not_takes htakes (Item.join message rest)
      rw [writeItems_cons_of_not_takes htakes, hafter]
      exact ⟨rfl, fun stream => (hcontent stream).trans (hprinted stream).symm⟩

/-- `writeItems` of texts formats nothing. -/
theorem value_writeItems_texts (c : Console) (texts : List String) :
    (c.writeItems message (texts.map .text)).value = 0 := by
  induction texts generalizing c with
  | nil => rfl
  | cons text texts ih =>
    rw [List.map_cons]
    cases htakes : c.takes (String.join ((Item.text text).pieces message)) with
    | true =>
      rw [writeItems_cons_of_takes htakes]
      exact (Nat.zero_add _).trans (ih _)
    | false =>
      rw [writeItems_cons_of_not_takes htakes]
      rfl

/-- `writeItems` formats a message between texts once if all that stands before it is taken, and
never otherwise. -/
theorem value_writeItems (c : Console) (earlier later : List String) :
    (c.writeItems message (earlier.map .text ++ .message :: later.map .text)).value =
      if c.takes (String.join earlier) then 1 else 0 := by
  induction earlier generalizing c with
  | nil =>
    have hempty : c.takes (String.join []) = true := by
      cases c with
      | stdout => rfl
      | sink s =>
        show (s.room.all fun n => decide ("".toUTF8.size ≤ n)) = true
        rw [← Sink.taken_write, Sink.write_empty]
    -- The message has its turn at once, and what comes after it does not need it any more.
    rw [if_pos hempty, List.map_nil, List.nil_append]
    cases htakes : c.takes (String.join (Item.message.pieces message)) with
    | true =>
      rw [writeItems_cons_of_takes htakes]
      exact congrArg (1 + ·) (value_writeItems_texts message _ later)
    | false =>
      rw [writeItems_cons_of_not_takes htakes]
      rfl
  -- No text needs the message, and behind one that is not taken it is never reached.
  | cons text earlier ih =>
    have htext := Item.join_pieces_text message text
    rw [List.map_cons, List.cons_append, String.join_cons, takes_append]
    cases htakes : c.takes text with
    | true =>
      rw [← htext] at htakes
      rw [writeItems_cons_of_takes htakes, htext]
      exact (Nat.zero_add _).trans (ih _)
    | false =>
      rw [← htext] at htakes
      rw [writeItems_cons_of_not_takes htakes]
      rfl

end Console

namespace EventLog

/-! ### Trace lines -/

/-- What is to be written on a trace line, whose message may have been formatted already. -/
def lineItems (level : Nat) (tag : String) (formatted : Option String) : List Item :=
  (traceHeader level tag).map .text ++ [formatted.elim .message .text, .text "\n"]

/-- `lineItems` come to `Call.line`, however far the message has been formatted. -/
theorem join_lineItems {formatted : Option String} {pieces : List String}
    (h : ∀ text ∈ formatted, text = String.join pieces) (caller : Caller) (level : Nat) :
    Item.join pieces (lineItems level caller.tag formatted) =
      (⟨.trace, caller, level, String.join pieces⟩ : Call).line := by
  -- Formatted before or not, the message comes out as its pieces.
  have hmessage : String.join ((formatted.elim Item.message Item.text).pieces pieces) =
      String.join pieces := by
    cases formatted with
    | none => rfl
    | some text =>
      obtain rfl := h text rfl
      exact Item.join_pieces_text pieces _
  rw [← join_traceHeader, Item.join, lineItems, List.flatMap_append, Item.flatMap_pieces_texts,
    String.join_append, List.flatMap_cons, String.join_append, hmessage]
  simp [Item.pieces, String.join_cons]

/-- `writeTrace` formats the message iff the console takes the header. -/
theorem value_writeTrace (log : EventLog) (caller : Caller) (level : Nat) (message : String) :
    (log.writeTrace caller level message).value =
      if log.console.takes (header level caller.tag) then 1 else 0 := by
  obtain ⟨hvalue, -, -⟩ := log.console.writeAll_eq (traceHeader level caller.tag)
  rw [join_traceHeader_eq] at hvalue
  rw [writeTrace, ← hvalue]
  split <;> rfl

/-- `writeTrace` does to the console and the streams what `writeItems` does, in whatever pieces the
message comes and also if it was formatted before. -/
theorem writeTrace_on_demand (log : EventLog) (caller : Caller) (level : Nat) {pieces : List String}
    {formatted : Option String} (h : ∀ text ∈ formatted, text = String.join pieces) :
    (log.writeTrace caller level (String.join pieces)).state.console =
        (log.console.writeItems pieces (lineItems level caller.tag formatted)).state ∧
      ∀ stream : Stream,
        stream.content (log.writeTrace caller level (String.join pieces)).emitted =
          stream.content
            (log.console.writeItems pieces (lineItems level caller.tag formatted)).emitted := by
  -- Both ways of writing put the same line, so `line` mediates between them.
  have hconsole := log.console_writeTrace ⟨.trace, caller, level, String.join pieces⟩
  have hcontent := log.content_writeTrace ⟨.trace, caller, level, String.join pieces⟩
  obtain ⟨hstate, hprinted⟩ := log.console.writeItems_eq pieces
    (lineItems level caller.tag formatted)
  rw [join_lineItems h] at hstate hprinted
  exact ⟨hconsole.trans hstate.symm, fun stream => (hcontent stream).trans (hprinted stream).symm⟩

/-- `writeItems` of `lineItems` formats a message that is not there already, iff the console takes
the header. -/
theorem demand_lineItems (console : Console) (level : Nat) (tag : String) (pieces : List String)
    (formatted : Option String) :
    (console.writeItems pieces (lineItems level tag formatted)).value =
      if formatted.isNone && console.takes (header level tag) then 1 else 0 := by
  unfold lineItems
  cases formatted with
  | none =>
    -- Nothing has formatted the message, so it is formatted if the header gets through.
    have hone := console.value_writeItems pieces (traceHeader level tag) ["\n"]
    rw [join_traceHeader_eq] at hone
    exact hone
  | some text =>
    have hnone := console.value_writeItems_texts pieces
      (traceHeader level tag ++ [text, "\n"])
    rw [List.map_append] at hnone
    exact hnone

/-! ### Events -/

/-- `trace` does not change `acceptsLog`. -/
theorem acceptsLog_trace (log : EventLog) (caller : Caller) (level : Nat) (message : String) :
    (log.trace caller level message).state.acceptsLog = log.acceptsLog := by
  unfold trace
  split
  · rw [state_writeTrace]
    rfl
  · rfl

/-- `event` is `trace` followed by `log`, as far as the state and what is emitted go. -/
theorem event_eq (log : EventLog) (caller : Caller) (level : Nat) (message : String) :
    (log.event caller level message).state =
        ((log.trace caller level message).state.log caller level message).state ∧
      (log.event caller level message).emitted =
        (log.trace caller level message).emitted ++
          ((log.trace caller level message).state.log caller level message).emitted := by
  have hlevel := congrFun (log.acceptsLog_trace caller level message) level
  -- Of the four cases, the memory is of the same mind in all as before the trace line.
  unfold EventLog.log
  rw [hlevel]
  unfold event trace
  cases log.acceptsLog level <;> cases log.acceptsTrace level
  · exact ⟨rfl, rfl⟩
  · exact ⟨rfl, (List.append_nil _).symm⟩
  · exact ⟨rfl, rfl⟩
  · exact ⟨rfl, (List.append_nil _).symm⟩

/-- `event` formats the message once for the memory, if that is to have it, and else as often as
`trace` does. -/
theorem value_event (log : EventLog) (caller : Caller) (level : Nat) (message : String) :
    (log.event caller level message).value =
      if log.acceptsLog level then 1 else (log.trace caller level message).value := by
  unfold event trace
  cases log.acceptsLog level <;> cases log.acceptsTrace level <;> rfl

/-- `trace` formats the message iff it is accepted and the console takes the header. -/
theorem value_trace (log : EventLog) (caller : Caller) (level : Nat) (message : String) :
    (log.trace caller level message).value =
      if log.acceptsTrace level && log.console.takes (header level caller.tag) then 1 else 0 := by
  unfold trace
  cases log.acceptsTrace level with
  | true => exact log.value_writeTrace caller level message
  | false => rfl

/-- `event` treats the console as `writeTrace` does, if the event is traced. -/
theorem event_traced {log : EventLog} {level : Nat} (h : log.acceptsTrace level = true)
    (caller : Caller) (message : String) :
    (log.event caller level message).state.console =
        (log.writeTrace caller level message).state.console ∧
      (log.event caller level message).emitted =
        (log.writeTrace caller level message).emitted := by
  have htraced : (⟨.event, caller, level, message⟩ : Call).isTraced log.traceLevel = true := by
    rw [isTraced_traceLevel, h]
    rfl
  have hstate := congrArg console (log.state_perform ⟨.event, caller, level, message⟩)
  have hemitted := log.emitted_perform ⟨.event, caller, level, message⟩
  rw [if_pos htraced] at hstate hemitted
  exact ⟨hstate, hemitted⟩

/-- What an event does and how often it formats the message, whatever the log and its console are
like. -/
structure FormatsOnce (log : EventLog) (caller : Caller) (level : Nat) (message : String) :
    Prop where
  /-- Rings and console are left as by `trace` and then `log`. -/
  state_eq : (log.event caller level message).state =
    ((log.trace caller level message).state.log caller level message).state
  /-- What is emitted is what `trace` and then `log` emit. -/
  emitted_eq : (log.event caller level message).emitted =
    (log.trace caller level message).emitted ++
      ((log.trace caller level message).state.log caller level message).emitted
  /-- The message is never formatted twice. -/
  at_most_once : (log.event caller level message).value ≤ 1
  /-- An event of a level that is not enabled does nothing and formats nothing. -/
  of_disabled : log.isEnabled level = false → log.event caller level message = ⟨0, log, []⟩
  /-- If the memory is to have it, the message is formatted exactly once. -/
  of_kept : log.acceptsLog level = true → (log.event caller level message).value = 1
  /-- If it is only traced, the message is formatted iff the console takes the header. -/
  of_traced : log.acceptsLog level = false → log.acceptsTrace level = true →
    (log.event caller level message).value =
      if log.console.takes (header level caller.tag) then 1 else 0
  /-- A call of `trace` formats the message under the same condition. -/
  trace_value : (log.trace caller level message).value =
    if log.acceptsTrace level && log.console.takes (header level caller.tag) then 1 else 0
  /-- A call of `log` formats the message iff the memory is to have it. -/
  log_value : (log.log caller level message).value = if log.acceptsLog level then 1 else 0
  /-- The count is that of a program that formats the message for the memory first, and on the trace
  line by `writeItems` only if it is not there already. -/
  demand_eq : ∀ pieces, String.join pieces = message → (log.event caller level message).value =
    (if log.acceptsLog level then 1 else 0) +
      if log.acceptsTrace level then
        (log.console.writeItems pieces (lineItems level caller.tag
          (if log.acceptsLog level then some message else none))).value
      else 0
  /-- So it is for `trace`, where the message is never there already. -/
  trace_demand_eq : ∀ pieces, String.join pieces = message →
    (log.trace caller level message).value =
      if log.acceptsTrace level then
        (log.console.writeItems pieces (lineItems level caller.tag none)).value
      else 0
  /-- The console does not notice when the message is formatted, nor in what pieces it comes. -/
  console_eq : log.acceptsTrace level = true → ∀ pieces, String.join pieces = message →
    ∀ formatted ∈ [none, some message],
      (log.event caller level message).state.console =
          (log.console.writeItems pieces (lineItems level caller.tag formatted)).state ∧
        ∀ stream : Stream, stream.content (log.event caller level message).emitted =
          stream.content
            (log.console.writeItems pieces (lineItems level caller.tag formatted)).emitted

/-- `FormatsOnce` holds for every log, console and message. -/
theorem formatsOnce (log : EventLog) (caller : Caller) (level : Nat) (message : String) :
    log.FormatsOnce caller level message := by
  obtain ⟨hstate, hemitted⟩ := log.event_eq caller level message
  have hevent := log.value_event caller level message
  have htrace := log.value_trace caller level message
  exact
    { state_eq := hstate
      emitted_eq := hemitted
      at_most_once := by
        rw [hevent, htrace]
        split_ifs <;> omega
      of_disabled := fun hoff => by
        obtain ⟨hlog, htraced⟩ := Bool.or_eq_false_iff.1 hoff
        unfold event
        rw [hlog, htraced]
      of_kept := fun hlog => by rw [hevent, if_pos hlog]
      of_traced := fun hlog htraced => by
        rw [hevent, hlog, htrace, htraced]
        rfl
      trace_value := htrace
      log_value := by
        unfold EventLog.log
        split <;> rfl
      demand_eq := fun pieces _ => by
        rw [hevent, htrace, demand_lineItems]
        cases log.acceptsLog level <;> cases log.acceptsTrace level <;> simp
      trace_demand_eq := fun pieces _ => by
        rw [htrace, demand_lineItems]
        cases log.acceptsTrace level <;> rfl
      console_eq := fun htraced pieces hpieces formatted hformatted => by
        obtain ⟨hconsole, hwritten⟩ := event_traced htraced caller message
        -- With the text at hand or without it, the same message is written.
        have htext : ∀ text ∈ formatted, text = String.join pieces := by
          intro text htext
          rcases List.mem_pair.1 hformatted with rfl | rfl
          · exact nomatch htext
          · rw [hpieces]
            exact (Option.some.inj htext).symm
        obtain ⟨hsame, hcontent⟩ := log.writeTrace_on_demand caller level htext
        rw [hconsole, hwritten]
        subst hpieces
        exact ⟨hsame, hcontent⟩ }

/-- The message is formatted for a console that just takes the header, but not for a smaller one. -/
example :
    [21, 20].map (fun room => (event { disabled with
      traceLevel := 1, console := .sink (.ofRoom (some room)) } (.main "0") 1 "up").value) =
      [1, 0] := by
  decide

/-! ### Calls in order -/

/-- A call for both places as two calls, the one for the console first. -/
def splitCall (c : Call) : List Call :=
  match c.kind with
  | .event => [{ c with kind := .trace }, { c with kind := .log }]
  | .log | .trace => [c]

/-- `splitCall` makes no difference to `performAll` of that call. -/
theorem performAll_splitCall (log : EventLog) (c : Call) :
    (log.performAll (splitCall c)).state = (log.perform c).state ∧
      (log.performAll (splitCall c)).emitted = (log.perform c).emitted := by
  obtain ⟨kind, caller, level, message⟩ := c
  cases kind with
  -- An event is its trace followed by its log, and the log writes nothing.
  | event =>
    obtain ⟨hstate, hemitted⟩ := log.event_eq caller level message
    refine ⟨hstate.symm, ?_⟩
    show (log.trace caller level message).emitted ++
      (((log.trace caller level message).state.log caller level message).emitted ++ []) =
        (log.event caller level message).emitted
    rw [List.append_nil, hemitted]
  | log => exact ⟨rfl, List.append_nil _⟩
  | trace => exact ⟨rfl, List.append_nil _⟩

/-- `splitCall` of any calls makes no difference to `performAll`. -/
theorem performAll_split (log : EventLog) (calls : List Call) :
    (log.performAll (calls.flatMap splitCall)).state = (log.performAll calls).state ∧
      (log.performAll (calls.flatMap splitCall)).emitted = (log.performAll calls).emitted := by
  induction calls generalizing log with
  | nil => exact ⟨rfl, rfl⟩
  | cons c calls ih =>
    obtain ⟨hstate, hemitted⟩ := log.performAll_append (splitCall c) (calls.flatMap splitCall)
    obtain ⟨hfirst, hfirst'⟩ := log.performAll_splitCall c
    obtain ⟨hrest, hrest'⟩ := ih (log.perform c).state
    rw [List.flatMap_cons, hstate, hemitted, hfirst, hfirst', hrest, hrest',
      state_performAll_cons, emitted_performAll_cons]
    exact ⟨rfl, rfl⟩

end EventLog

end CompilerLink
