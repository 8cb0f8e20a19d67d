import Mathlib
import CompilerLink.Proofs.Event.Run
import CompilerLink.Proofs.Writer

/-! # Printing a log

A log is printed ring by ring and line by line, and formatting hands a line over in whatever
pieces. At the first piece that the writer does not take whole, all is over. A `Printer` is such a
program, or a part of one. By `Prints.report` it comes to the same as writing `EventLog.text` at
once, which is what `EventLog.printOn` does with a sink (`EventLog.printOn_eq`). So a writer with
room for `n` bytes gets the first `n` bytes of it. -/

namespace CompilerLink

/-! ### What is shown -/

/-- The line of an event. -/
def Event.line (e : Event) : String :=
  "Event: " ++ e.time ++ " Thread " ++ e.thread ++ ": " ++ e.message

namespace EventRing

/-- The line above the events of a ring. -/
def heading (r : EventRing) : String :=
  r.name ++ " (" ++ toString r.entries.toList.length ++ " events):"

/-- The lines that show a ring. -/
def lines (r : EventRing) : List String :=
  r.heading :: (if r.entries.toList = [] then ["No events"] else r.entries.toList.map Event.line)
    ++ [""]

/-- `Array.isEmpty` on the entries of a ring, as a statement about their list. -/
theorem isEmpty_entries (r : EventRing) : r.entries.isEmpty = true ↔ r.entries.toList = [] := by
  rw [Array.isEmpty_iff, Array.toList_eq_nil_iff]

/-- `report` of a ring is its `lines`, each ended by a newline. -/
theorem report_eq (r : EventRing) : r.report = r.lines.map (· ++ "\n") := by
  have hheading : r.heading ++ "\n" =
      r.name ++ " (" ++ toString r.entries.toList.length ++ " events):\n" :=
    String.append_assoc
  have hempty := r.isEmpty_entries
  rw [report, lines, List.map_append, List.map_cons, hheading, ← Array.length_toList]
  by_cases hnone : r.entries.toList = []
  · rw [if_pos hnone, if_pos (hempty.2 hnone), hnone]
    rfl
  · rw [if_neg hnone, if_neg (mt hempty.1 hnone), List.map_map]
    rfl

/-- A ring with one event. -/
example :
    lines ⟨"Events", 2, #[⟨"0.500", "main", "started"⟩]⟩ =
      ["Events (1 events):", "Event: 0.500 Thread main: started", ""] := by
  decide

end EventRing

namespace EventLog

/-- The rings that a log has, the coarse one first. -/
def rings (log : EventLog) : List EventRing := log.events.toList ++ log.verbose.toList

/-- The text that shows a log: the `lines` of its `rings`. -/
def text (log : EventLog) : String :=
  String.join ((log.rings.flatMap EventRing.lines).map (· ++ "\n"))

/-- The pieces of `report` come to `text`. -/
theorem join_report (log : EventLog) : String.join log.report = log.text := by
  have hrings : log.report = log.rings.flatMap EventRing.report := by
    rw [report, rings]
    cases log.events <;> cases log.verbose <;> simp
  rw [hrings, text, List.map_flatMap, funext EventRing.report_eq]

end EventLog

/-! ### Printers -/

/-- How a text is handed over when it is formatted: in any pieces that come to the text. -/
structure Formatter where
  pieces : String → List String
  /-- Nothing is lost or added. -/
  join_pieces : ∀ text, String.join (pieces text) = text

/-- A text may well come in one piece. -/
instance : Inhabited Formatter := ⟨⟨fun text => [text], fun text => by simp [String.join_cons]⟩⟩

/-- A program that reads a log and writes to a writer. The answer is whether all was taken. -/
abbrev Printer := EventLog × Writer → (EventLog × Writer) × Bool

namespace Printer

/-- Write a piece of text. -/
def piece (text : String) : Printer := fun s =>
  ((s.1, (s.2.writeAll text.toUTF8).1), (s.2.writeAll text.toUTF8).2)

/-- One printer after the other, up to the first that fails. -/
def inOrder : List Printer → Printer
  | [] => fun s => (s, true)
  | p :: rest => fun s => if (p s).2 then inOrder rest (p s).1 else p s

/-- Write a line. -/
def line (f : Formatter) (text : String) : Printer :=
  inOrder ((f.pieces (text ++ "\n")).map piece)

/-- Write a ring as it is now. -/
def ring (f : Formatter) (r : EventRing) : Printer :=
  inOrder [
    line f r.heading,
    if r.entries.isEmpty then line f "No events" else inOrder [],
    inOrder (r.entries.toList.map fun e => line f e.line),
    line f ""]

/-- Write a ring of the log, if it has the ring, as it is when the turn comes to it. -/
def ringOf (f : Formatter) (which : EventLog → Option EventRing) : Printer := fun s =>
  match which s.1 with
  | some r => ring f r s
  | none => (s, true)

/-- Write the rings of the log. -/
def report (f : Formatter) : Printer :=
  inOrder [ringOf f EventLog.events, ringOf f EventLog.verbose]

end Printer

/-- At a log, the printer writes a text as `Sink.write` does, as far as there is room, and leaves
the log as it is. -/
def Prints (log : EventLog) (p : Printer) (text : String) : Prop :=
  ∀ w : Writer, ∃ w' ok, p (log, w) = ((log, w'), ok) ∧ (w'.sink, ok) = w.sink.write text

namespace Prints

variable {log : EventLog} {p : Printer} {a b : String}

/-- A `piece` prints its text. -/
theorem piece (log : EventLog) (text : String) : Prints log (.piece text) text :=
  fun w => ⟨_, _, rfl, w.sink_writeAll text⟩

/-- No printers print nothing. -/
theorem nil (log : EventLog) : Prints log (.inOrder []) "" :=
  fun w => ⟨w, true, rfl, w.sink.write_empty.symm⟩

/-- `inOrder` prints the text of the first printer and then that of the others. -/
theorem cons {rest : List Printer} (hp : Prints log p a) (hrest : Prints log (.inOrder rest) b) :
    Prints log (.inOrder (p :: rest)) (a ++ b) := by
  intro w
  obtain ⟨w₁, ok, hrun, hwrite⟩ := hp w
  simp only [Printer.inOrder, hrun, Sink.write_append, ← hwrite]
  -- A printer that fails ends the sequence, as `Sink.write` of an append ends where its first part
  -- fails.
  cases ok with
  | true => exact hrest w₁
  | false => exact ⟨w₁, false, rfl, rfl⟩

/-- `cons` along a list of printers. -/
theorem map {α : Type} {f : α → Printer} {g : α → String} (h : ∀ x, Prints log (f x) (g x))
    (xs : List α) : Prints log (.inOrder (xs.map f)) (String.join (xs.map g)) := by
  induction xs with
  | nil => exact nil log
  | cons x xs ih =>
    rw [List.map_cons, List.map_cons, String.join_cons]
    exact (h x).cons ih

/-- A `line` prints its text and a newline, whatever pieces the formatter makes of it. -/
theorem line (log : EventLog) (f : Formatter) (text : String) :
    Prints log (.line f text) (text ++ "\n") := by
  have hpieces := map (piece log) (f.pieces (text ++ "\n"))
  rwa [List.map_id', f.join_pieces] at hpieces

/-- A `ring` prints its `lines`. -/
theorem ring (log : EventLog) (f : Formatter) (r : EventRing) :
    Prints log (.ring f r) (String.join (r.lines.map (· ++ "\n"))) := by
  have hempty := r.isEmpty_entries
  have hevents := map (fun e => line log f (Event.line e)) r.entries.toList
  have hlast := (line log f "").cons (nil log)
  rw [EventRing.lines, Printer.ring]
  -- An empty ring has the line for no events, which is skipped otherwise.
  by_cases hnone : r.entries.toList = []
  · have hprints := (line log f r.heading).cons ((line log f "No events").cons (hevents.cons hlast))
    rw [if_pos hnone, if_pos (hempty.2 hnone)]
    simpa [hnone] using hprints
  · have hprints := (line log f r.heading).cons ((nil log).cons (hevents.cons hlast))
    rw [if_neg hnone, if_neg (mt hempty.1 hnone)]
    simpa [String.join_append, Function.comp_def] using hprints

/-- A ring of the log prints its lines, and one that the log does not have prints nothing. -/
theorem ringOf (log : EventLog) (f : Formatter) (which : EventLog → Option EventRing) :
    Prints log (.ringOf f which)
      (String.join (((which log).toList.flatMap EventRing.lines).map (· ++ "\n"))) := by
  unfold Printer.ringOf
  cases hring : which log with
  | none =>
    intro w
    simp only [hring]
    exact nil log w
  | some r =>
    intro w
    simp only [hring]
    simpa using ring log f r w

/-- The `report` prints the `text` of the log. -/
theorem report (log : EventLog) (f : Formatter) : Prints log (.report f) log.text := by
  have hverbose := (ringOf log f EventLog.verbose).cons (nil log)
  have hprints := (ringOf log f EventLog.events).cons hverbose
  rw [EventLog.text, EventLog.rings, List.flatMap_append, List.map_append, String.join_append,
    Printer.report]
  simpa using hprints

end Prints

namespace EventLog

/-! ### Printing in full -/

/-- `printOn` a sink is `Sink.write` of the `text`. -/
theorem printOn_eq (log : EventLog) (out : Sink) : log.printOn out = out.write log.text := by
  rw [printOn, Sink.writeAll_eq_write, join_report]

/-- What it comes to that a log is printed to a writer. -/
structure Printed (log : EventLog) (f : Formatter) (w : Writer) : Prop where
  /-- The writer gets the `text` from its beginning, up to where there is no more room. -/
  written_eq : (Printer.report f (log, w)).1.2.written =
    w.written ++ log.text.toUTF8.extract 0 w.room
  /-- That is a failure iff there is more of the `text`. -/
  fails_iff : (Printer.report f (log, w)).2 = false ↔ w.room < log.text.toUTF8.size
  /-- The log is left as it is. -/
  log_eq : (Printer.report f (log, w)).1.1 = log
  /-- `printOn` a sink in place of the writer does the same. -/
  printOn_eq : log.printOn w.sink =
    ((Printer.report f (log, w)).1.2.sink, (Printer.report f (log, w)).2)

/-- `Printed` holds for every log, formatter and writer. -/
theorem printed (log : EventLog) (f : Formatter) (w : Writer) : log.Printed f w := by
  obtain ⟨w', ok, hrun, hwrite⟩ := Prints.report log f w
  have hwritten := w.sink.written_write log.text
  have htaken := w.sink.taken_write log.text
  rw [← hwrite] at hwritten htaken
  refine ⟨?_, ?_, ?_, ?_⟩
  · rw [hrun]
    exact hwritten
  · have hok : ok = decide (log.text.toUTF8.size ≤ w.room) := htaken
    rw [hrun, hok, decide_eq_false_iff_not, Nat.not_le]
  · rw [hrun]
  · rw [EventLog.printOn_eq, hrun, hwrite]

/-! ### Logs that are printed while they are used -/

/-- What is done with a log. -/
inductive Use where
  /-- Something is reported to it. -/
  | report (c : Call)
  /-- It is printed. -/
  | print (w : Writer)

/-- The report, if the use is one. -/
def Use.report? : Use → Option Call
  | report c => some c
  | print _ => none

/-- The log after one use. -/
def use (f : Formatter) (log : EventLog) : Use → EventLog
  | .report c => (log.perform c).state
  | .print w => (Printer.report f (log, w)).1.1

/-- Printing does not change what a log becomes: the uses come to `performAll` of the reports. -/
theorem foldl_use (f : Formatter) (log : EventLog) (uses : List Use) :
    uses.foldl (use f) log = (log.performAll (uses.filterMap Use.report?)).state := by
  induction uses generalizing log with
  | nil => rfl
  | cons u uses ih =>
    rw [List.foldl_cons, ih]
    -- A report is one call more, and printing leaves the log.
    cases u with
    | report c =>
      rw [List.filterMap_cons_some (f := Use.report?) rfl, state_performAll_cons]
      rfl
    | print w =>
      have hlog : log.use f (.print w) = log := (log.printed f w).log_eq
      rw [List.filterMap_cons_none rfl, hlog]

/-- A log is printed as far as there is room, and no further. -/
structure PrintsText (f : Formatter) (log : EventLog) : Prop where
  /-- A sink for `n` bytes has the first `n` bytes of the `text`. -/
  written_printOn : ∀ n, (log.printOn (.ofRoom (some n))).1.written = log.text.toUTF8.extract 0 n
  /-- `printOn` fails iff the `text` is longer. -/
  printOn_fails_iff : ∀ n, (log.printOn (.ofRoom (some n))).2 = false ↔ n < log.text.toUTF8.size
  /-- The same holds of every writer and of every formatter. -/
  printed : ∀ w, log.Printed f w

/-- `PrintsText` holds of a log after any uses, and its state is that of the reports alone. -/
theorem printsText_of_uses (f : Formatter) (log : EventLog) (uses : List Use) :
    uses.foldl (use f) log = (log.performAll (uses.filterMap Use.report?)).state ∧
      (uses.foldl (use f) log).PrintsText f := by
  refine ⟨foldl_use f log uses, ?_⟩
  -- However the log was used, it is some log, and any log prints its text.
  generalize uses.foldl (use f) log = log
  refine ⟨fun n => ?_, fun n => ?_, log.printed f⟩
  · rw [printOn_eq, Sink.written_write]
    exact ByteArray.empty_append
  · have htaken := (Sink.ofRoom (some n)).taken_write log.text
    rw [printOn_eq, htaken]
    exact decide_eq_false_iff_not.trans Nat.not_le

end EventLog

end CompilerLink
