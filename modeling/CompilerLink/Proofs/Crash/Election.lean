import Mathlib
import CompilerLink.Proofs.Crash.Run

/-! # Threads that call the crash log at once

Each thread makes its calls one after the other, and a call is many steps: the thread takes its
number, reads the election field and, if that is unset, tries to put its number there. If it
succeeds, it finds the target and publishes it. Then, elected or not, it waits until a target is
published, and writes its buffer to that.

A `Move` is a step of one thread: what it does to the thread and to what all threads share. An
`Election` has the threads and what they share, with the record of what happened, newest entry
first; a `Step` is a move of any thread. -/

namespace CompilerLink.Crash

/-- The number that a thread gets for a call: its own, or a new one if it is ending. -/
def ThreadNumbers.take (n : ThreadNumbers) (serial : Nat) (ending : Bool) : Nat × ThreadNumbers :=
  if ending then n.fresh else n.numberOf serial

/-- A call that a thread makes. -/
structure Call where
  /-- What is written; a call for the target alone writes nothing. -/
  buffer? : Option ByteArray
  /-- Whether the thread is ending. -/
  ending : Bool := false

/-- How far a thread has come in its call. -/
inductive Place where
  | idle
  /-- About to read the election field. -/
  | reading (me : Nat) (buffer? : Option ByteArray)
  /-- The field was `unset` when it was read, so the thread is about to stand for election. -/
  | standing (me : Nat) (buffer? : Option ByteArray)
  /-- Elected, and about to find the target. -/
  | resolving (buffer? : Option ByteArray)
  /-- Elected, with the target found. -/
  | publishing (found : Target) (buffer? : Option ByteArray)
  /-- Until a target is published; elected or not, every call gets here. -/
  | waiting (buffer? : Option ByteArray)
  /-- The target was returned, and the buffer goes there. -/
  | writing (target : Target) (buffer : ByteArray)

structure Thread where
  place : Place := .idle
  /-- The calls that are still to be made. -/
  calls : List Call

/-- Something that happened to the thread of serial `k`. -/
inductive Entry where
  /-- The thread took the number `me` for a call. -/
  | numbered (k me : Nat)
  | elected (k me : Nat)
  | resolved (k : Nat) (found : Target)
  | published (k : Nat) (target : Target)
  /-- The thread was told the target. -/
  | returned (k : Nat) (target : Target)
  | wrote (k : Nat) (target : Target) (buffer : ByteArray)

/-- The election field before anyone is elected. -/
def unset : Int64 := -1

/-- What the threads share: the files and streams, the thread numbers, the election field and the
published target. -/
structure Shared where
  sheet : Sheet
  numbers : ThreadNumbers
  field : Int64 := unset
  published : Option Target := none

/-- A step of thread `k`, with the entries that it adds to the record. -/
inductive Move (log : Log) (k : Nat) : Shared → Thread → Shared → Thread → List Entry → Prop where
  | enter (s : Shared) (call : Call) (calls : List Call) :
      Move log k s ⟨.idle, call :: calls⟩
        { s with numbers := (s.numbers.take k call.ending).2 }
        ⟨.reading (s.numbers.take k call.ending).1 call.buffer?, calls⟩
        [.numbered k (s.numbers.take k call.ending).1]
  | read (s : Shared) (me : Nat) (buffer? : Option ByteArray) (calls : List Call) :
      Move log k s ⟨.reading me buffer?, calls⟩ s
        ⟨if s.field = unset then .standing me buffer? else .waiting buffer?, calls⟩ []
  /-- The exchange finds the field as it was read. -/
  | win (s : Shared) (me : Nat) (buffer? : Option ByteArray) (calls : List Call)
      (hfield : s.field = unset) :
      Move log k s ⟨.standing me buffer?, calls⟩ { s with field := Int64.ofNat me }
        ⟨.resolving buffer?, calls⟩ [.elected k me]
  /-- Another thread was faster. -/
  | lose (s : Shared) (me : Nat) (buffer? : Option ByteArray) (calls : List Call)
      (hfield : s.field ≠ unset) :
      Move log k s ⟨.standing me buffer?, calls⟩ s ⟨.waiting buffer?, calls⟩ []
  | resolve (s : Shared) (buffer? : Option ByteArray) (calls : List Call) :
      Move log k s ⟨.resolving buffer?, calls⟩
        { s with
          sheet :=
            ⟨(log.resolve s.sheet.files).state,
              s.sheet.emitted ++ (log.resolve s.sheet.files).emitted, s.sheet.offset⟩ }
        ⟨.publishing (log.resolve s.sheet.files).value buffer?, calls⟩
        [.resolved k (log.resolve s.sheet.files).value]
  /-- What is published already is not replaced. -/
  | publish (s : Shared) (found : Target) (buffer? : Option ByteArray) (calls : List Call) :
      Move log k s ⟨.publishing found buffer?, calls⟩
        { s with published := s.published.or (some found) }
        ⟨.waiting buffer?, calls⟩ [.published k found]
  /-- A thread that waits looks again. -/
  | sleep (s : Shared) (buffer? : Option ByteArray) (calls : List Call)
      (hnone : s.published = none) :
      Move log k s ⟨.waiting buffer?, calls⟩ s ⟨.waiting buffer?, calls⟩ []
  | return (s : Shared) (target : Target) (buffer? : Option ByteArray) (calls : List Call)
      (hsome : s.published = some target) :
      Move log k s ⟨.waiting buffer?, calls⟩ s ⟨buffer?.elim .idle (.writing target), calls⟩
        [.returned k target]
  | write (s : Shared) (target : Target) (buffer : ByteArray) (calls : List Call) :
      Move log k s ⟨.writing target buffer, calls⟩ { s with sheet := s.sheet.put buffer target }
        ⟨.idle, calls⟩ [.wrote k target buffer]

/-- Threads at a crash log. -/
structure Election where
  log : Log
  shared : Shared
  threads : List Thread
  /-- What happened, newest first. -/
  record : List Entry := []

/-- A step of an election is a `Move` of any thread, whosever turn it is. -/
inductive Step : Election → Election → Prop where
  | move {e : Election} {k : Nat} {t t' : Thread} {shared : Shared} {entries : List Entry}
      (hthread : e.threads[k]? = some t) (hmove : Move e.log k e.shared t shared t' entries) :
      Step e { e with shared, threads := e.threads.set k t', record := entries ++ e.record }

/-- Any number of `Step`s. -/
abbrev Steps : Election → Election → Prop := Relation.ReflTransGen Step

namespace Election

/-- The beginning, with the calls that each thread is going to make. -/
def start (log : Log) (fs : FileSystem) (numbers : ThreadNumbers) (calls : List (List Call)) :
    Election where
  log
  shared := { sheet := ⟨fs, [], 0⟩, numbers }
  threads := calls.map fun calls => { calls }

/-- All calls of all threads have been made. -/
def Finished (e : Election) : Prop := ∀ t ∈ e.threads, t = ⟨.idle, []⟩

end Election

/-! ### Numbers -/

/-- A number that fits into a word is not `unset` in the field. -/
theorem ofNat_ne_unset {me : Nat} (h : me < 2 ^ 63) : Int64.ofNat me ≠ unset := by
  intro heq
  have hint : (me : Int) = -1 := by
    rw [← Int64.toInt_ofNat_of_lt h, heq]
    rfl
  omega

/-- Numbers that fit into a word are told apart in the field. -/
theorem ofNat_inj {me other : Nat} (h : me < 2 ^ 63) (hother : other < 2 ^ 63)
    (heq : Int64.ofNat me = Int64.ofNat other) : me = other := by
  have hint : (me : Int) = other := by
    rw [← Int64.toInt_ofNat_of_lt h, heq, Int64.toInt_ofNat_of_lt hother]
  omega

namespace ThreadNumbers

/-- No number has been `given` to two threads, and none from `next` on has been given to any. -/
structure WellFormed (n : ThreadNumbers) : Prop where
  lt_next : ∀ p ∈ n.given, p.2 < n.next
  unique : ∀ p ∈ n.given, ∀ q ∈ n.given, p.2 = q.2 → p.1 = q.1

/-- The number taken is one that the thread was given before, or else it is `next`. -/
theorem take_cases (n : ThreadNumbers) (serial : Nat) (ending : Bool) :
    (serial, (n.take serial ending).1) ∈ n.given ∧ (n.take serial ending).2 = n ∨
      (n.take serial ending).1 = n.next ∧ (n.take serial ending).2.next = n.next + 1 ∧
        ∀ p ∈ (n.take serial ending).2.given, p ∈ n.given ∨ p = (serial, n.next) := by
  -- An ending thread gets a fresh number that is not kept for it.
  cases ending with
  | true => exact .inr ⟨rfl, rfl, fun p hp => .inl hp⟩
  | false =>
    simp only [take, numberOf, find?, Bool.false_eq_true, if_false]
    cases hfind : n.given.lookup serial with
    | some me =>
      obtain ⟨l₁, l₂, hgiven, -⟩ := List.lookup_eq_some_iff.1 hfind
      exact .inl ⟨by simp [hgiven], rfl⟩
    | none =>
      refine .inr ⟨rfl, rfl, fun p hp => ?_⟩
      rcases List.mem_cons.1 hp with rfl | hp
      · exact .inr rfl
      · exact .inl hp

/-- `next` does not decrease when a number is taken. -/
theorem next_le_take (n : ThreadNumbers) (serial : Nat) (ending : Bool) :
    n.next ≤ (n.take serial ending).2.next := by
  rcases n.take_cases serial ending with ⟨-, hsame⟩ | ⟨-, hnext, -⟩
  · exact Nat.le_of_eq (congrArg next hsame.symm)
  · omega

end ThreadNumbers

/-- A number in the record is below the next one and is the number of one thread only. -/
structure Numbered (numbers : ThreadNumbers) (record : List Entry) : Prop where
  wf : numbers.WellFormed
  lt_next : ∀ k me, .numbered k me ∈ record → me < numbers.next
  /-- No number was taken by two threads. -/
  unique : ∀ k k' me, .numbered k me ∈ record → .numbered k' me ∈ record → k = k'
  /-- A number that was given to a thread was taken by no other. -/
  given : ∀ p ∈ numbers.given, ∀ k, .numbered k p.2 ∈ record → k = p.1

namespace Numbered

variable {numbers : ThreadNumbers} {record : List Entry}

/-- `Numbered` is preserved by an entry that is not about a number. -/
theorem cons (h : Numbered numbers record) {entry : Entry}
    (hother : ∀ k me, entry ≠ .numbered k me) : Numbered numbers (entry :: record) := by
  have hmem : ∀ k me, .numbered k me ∈ entry :: record → .numbered k me ∈ record := by
    intro k me hk
    rcases List.mem_cons.1 hk with heq | hk
    · exact absurd heq.symm (hother k me)
    · exact hk
  exact ⟨h.wf, fun k me hk => h.lt_next k me (hmem k me hk),
    fun k k' me hk hk' => h.unique k k' me (hmem k me hk) (hmem k' me hk'),
    fun p hp k hk => h.given p hp k (hmem k p.2 hk)⟩

/-- `Numbered` is preserved when a thread takes a number. -/
theorem take (h : Numbered numbers record) (k : Nat) (ending : Bool) :
    Numbered (numbers.take k ending).2 (.numbered k (numbers.take k ending).1 :: record) := by
  obtain ⟨wf, hlt, hunique, hgiven⟩ := h
  rcases numbers.take_cases k ending with ⟨hmem, hsame⟩ | ⟨hnew, hnext, hkept⟩
  · -- The number was given to the thread before.
    rw [hsame]
    have hown : ∀ j, .numbered j (numbers.take k ending).1 ∈ record → j = k :=
      fun j hj => hgiven _ hmem j hj
    refine ⟨wf, fun j me hj => ?_, fun j j' me hj hj' => ?_, fun p hp j hj => ?_⟩
    · -- hold <;> | Both entries new, one of them, or neither.
      rcases List.mem_cons.1 hj with heq | hj
      · obtain ⟨-, rfl⟩ := Entry.numbered.inj heq
        exact wf.lt_next _ hmem
      · exact hlt j me hj
    · rcases List.mem_cons.1 hj with heq | hold <;> rcases List.mem_cons.1 hj' with heq' | hold'
      · rw [(Entry.numbered.inj heq).1, (Entry.numbered.inj heq').1]
      · obtain ⟨rfl, rfl⟩ := Entry.numbered.inj heq
        exact (hown j' hold').symm
      · obtain ⟨rfl, rfl⟩ := Entry.numbered.inj heq'
        exact hown j hold
      · exact hunique j j' me hold hold'
    · rcases List.mem_cons.1 hj with heq | hj
      · obtain ⟨rfl, hme⟩ := Entry.numbered.inj heq
        exact wf.unique _ hmem p hp hme.symm
      · exact hgiven p hp j hj
  · -- The number is new, so it is above all others.
    rw [hnew]
    have hold : ∀ j me, .numbered j me ∈ record → me ≠ numbers.next :=
      fun j me hj => Nat.ne_of_lt (hlt j me hj)
    refine ⟨⟨fun p hp => ?_, fun p hp q hq heq => ?_⟩, fun j me hj => ?_, fun j j' me hj hj' => ?_,
      fun p hp j hj => ?_⟩
    · rcases hkept p hp with hp | rfl
      · have := wf.lt_next p hp
        omega
      · simp [hnext]
    · rcases hkept p hp with hp | rfl <;> rcases hkept q hq with hq | rfl
      · exact wf.unique p hp q hq heq
      · exact absurd heq (Nat.ne_of_lt (wf.lt_next p hp))
      · exact absurd heq.symm (Nat.ne_of_lt (wf.lt_next q hq))
      · rfl
    · rcases List.mem_cons.1 hj with heq | hj
      · rw [(Entry.numbered.inj heq).2]
        omega
      · have := hlt j me hj
        omega
    · rcases List.mem_cons.1 hj with heq | hj <;> rcases List.mem_cons.1 hj' with heq' | hj'
      · rw [(Entry.numbered.inj heq).1, (Entry.numbered.inj heq').1]
      · exact absurd (Entry.numbered.inj heq).2 (hold j' me hj')
      · exact absurd (Entry.numbered.inj heq').2 (hold j me hj)
      · exact hunique j j' me hj hj'
    · rcases List.mem_cons.1 hj with heq | hj
      · obtain ⟨rfl, hme⟩ := Entry.numbered.inj heq
        rcases hkept p hp with hp | rfl
        · exact absurd hme (Nat.ne_of_lt (wf.lt_next p hp))
        · rfl
      · rcases hkept p hp with hp | rfl
        · exact hgiven p hp j hj
        · exact absurd rfl (hold j _ hj)

end Numbered

end CompilerLink.Crash
