import CompilerLink.Proofs.Crash.Stream

/-! # Runs of a crash log

A `Crash.Session` is a crash log in use, with the files, with what was let out and with the targets
that were answered. `Session.perform` carries out one `Request` with the log's own functions. A
write is a request for the target followed by a `Sheet.put`, and only the first request settles
anything. -/

namespace CompilerLink.Crash

/-- A call of the crash log. -/
inductive Request where
  | write (caller : Caller) (buffer : ByteArray)
  | target (caller : Caller)

namespace Request

/-- Who makes the request. -/
def caller : Request → Caller
  | write caller _ => caller
  | target caller => caller

/-- The bytes that a request writes. -/
def content : Request → ByteArray
  | write _ buffer => buffer
  | target _ => .empty

end Request

/-- All that requests write, in their order. -/
def written (requests : List Request) : ByteArray := joined (requests.map Request.content)

/-- A crash log in use. -/
structure Session where
  log : Log
  files : FileSystem
  emitted : List Emission := []
  /-- The targets that were answered, newest first. -/
  answers : List Target := []

namespace Session

/-- The beginning of a run, with nothing let out or answered. -/
def start (log : Log) (files : FileSystem) : Session := { log, files }

/-- Carry out a `Request` with `Log.write` or `Log.target`. -/
def perform (s : Session) : Request → Session
  | .write caller buffer =>
    let done := s.log.write s.files caller buffer
    { s with
      log := done.state.1
      files := done.state.2
      emitted := s.emitted ++ done.emitted }
  | .target caller =>
    let done := s.log.target s.files caller
    { log := done.state.1
      files := done.state.2
      emitted := s.emitted ++ done.emitted
      answers := done.value :: s.answers }

def run (s : Session) (requests : List Request) : Session := requests.foldl perform s

/-- The `Sheet` of a session: its files, its streams and the offset of its log. -/
def sheet (s : Session) : Sheet := ⟨s.files, s.emitted, s.log.offset⟩

/-! ### One request -/

/-- `perform` of a write is that of a request for the target, followed by a `Sheet.put`. -/
theorem perform_write (s : Session) (caller : Caller) (buffer : ByteArray) :
    (s.perform (.write caller buffer)).sheet =
        (s.perform (.target caller)).sheet.put buffer (s.log.target s.files caller).value ∧
      (s.perform (.write caller buffer)).log.settled = (s.perform (.target caller)).log.settled ∧
      (s.perform (.write caller buffer)).answers = s.answers := by
  simp only [perform, Log.write]
  cases htarget : (s.log.target s.files caller).value with
  | console stream => simp [sheet, Sheet.put]
  | file file path => simp [sheet, Sheet.put]

/-- A request for the target of a log that has settled is answered, and the `sheet` stays. -/
theorem perform_target_of_settled {s : Session} {winner : Nat} {target : Target}
    (hsettled : s.log.settled = some (winner, target)) (caller : Caller) :
    (s.log.target s.files caller).value = target ∧
      (s.perform (.target caller)).sheet = s.sheet ∧
      (s.perform (.target caller)).log.settled = some (winner, target) := by
  have htarget : s.log.target s.files caller =
      ⟨target,
        ({ s.log with numbers := (s.log.numbers.numberOf caller.serial).2 }, s.files), []⟩ := by
    simp only [Log.target, hsettled]
  simp [perform, sheet, htarget, hsettled]

/-- The first request settles the log on what it resolves to, with the caller as the winner. -/
theorem perform_target_of_not_settled {s : Session} (hsettled : s.log.settled = none)
    (caller : Caller) :
    (s.log.target s.files caller).value = (s.log.resolve s.files).value ∧
      (s.perform (.target caller)).sheet =
        ⟨(s.log.resolve s.files).state, s.emitted ++ (s.log.resolve s.files).emitted,
          s.log.offset⟩ ∧
      (s.perform (.target caller)).log.settled =
        some ((s.log.numbers.numberOf caller.serial).1, (s.log.resolve s.files).value) := by
  -- The first call takes the branch that resolves, and keeps what it finds.
  have htarget : s.log.target s.files caller =
      ⟨(s.log.resolve s.files).value,
        ({ s.log with
            numbers := (s.log.numbers.numberOf caller.serial).2
            settled := some ((s.log.numbers.numberOf caller.serial).1,
              (s.log.resolve s.files).value) },
          (s.log.resolve s.files).state),
        (s.log.resolve s.files).emitted⟩ := by
    simp only [Log.target, hsettled]
    rfl
  simp [perform, sheet, htarget]

/-- `perform` takes a number for the caller and does not change what the log resolves to. -/
theorem perform_frame (s : Session) (r : Request) :
    (s.perform r).log.numbers = (s.log.numbers.numberOf r.caller.serial).2 ∧
      ∀ fs, (s.perform r).log.resolve fs = s.log.resolve fs := by
  -- A write asks for the target first, so both requests go through `target`.
  have htarget : ∀ caller,
      (s.log.target s.files caller).state.1.numbers = (s.log.numbers.numberOf caller.serial).2 ∧
        ∀ fs, (s.log.target s.files caller).state.1.resolve fs = s.log.resolve fs := by
    intro caller
    rw [Log.target]
    cases s.log.settled <;> exact ⟨rfl, s.log.resolve_with _ _ _⟩
  cases r with
  | target caller => exact htarget caller
  | write caller buffer =>
    obtain ⟨hnumbers, hresolve⟩ := htarget caller
    simp only [perform, Log.write, Request.caller]
    cases (s.log.target s.files caller).value with
    | console stream => exact ⟨hnumbers, hresolve⟩
    | file file path =>
      exact ⟨hnumbers, fun fs => (Log.resolve_with _ _ _ _ fs).trans (hresolve fs)⟩

/-! ### Writes one after the other -/

/-- Writes to a log that has settled are a `Sheet.putAll`. -/
theorem sheet_run_writes_of_settled {s : Session} {winner : Nat} {target : Target}
    (hsettled : s.log.settled = some (winner, target)) (caller : Nat → Caller)
    (writes : List (Nat × ByteArray)) :
    (s.run (writes.map fun w => .write (caller w.1) w.2)).sheet =
      s.sheet.putAll (writes.map (·.2)) target := by
  induction writes generalizing s with
  | nil => rfl
  | cons w writes ih =>
    -- The target is settled and stays so, and each write puts its buffer there.
    obtain ⟨hsheet, hsame, -⟩ := s.perform_write (caller w.1) w.2
    obtain ⟨hvalue, htarget, hkept⟩ := perform_target_of_settled hsettled (caller w.1)
    rw [hvalue, htarget] at hsheet
    have hrest := ih (hsame.trans hkept)
    rw [hsheet] at hrest
    exact hrest

/-- A request for the target and then writes, of a log that nobody has called, are a `Sheet.putAll`
on `Log.firstSheet`. -/
theorem sheet_run_writes {log : Log} (hsettled : log.settled = none) (hoffset : log.offset = 0)
    (fs : FileSystem) (first : Caller) (caller : Nat → Caller) (writes : List (Nat × ByteArray)) :
    ((start log fs).run
        (.target first :: writes.map fun w => .write (caller w.1) w.2)).sheet =
      (log.firstSheet fs).putAll (writes.map (·.2)) (log.resolve fs).value := by
  obtain ⟨-, hsheet, hsettled'⟩ :=
    perform_target_of_not_settled (s := start log fs) hsettled first
  -- The first request leaves the first sheet, and settles the target of the writes.
  have hfirst : ((start log fs).perform (.target first)).sheet = log.firstSheet fs := by
    simpa [start, hoffset, Log.firstSheet] using hsheet
  have hrest := sheet_run_writes_of_settled hsettled' caller writes
  rw [hfirst] at hrest
  exact hrest

/-! ### After the first request -/

/-- The log has settled on `target`, which has `Received` the content since the files were `fs`. -/
structure Settled (fs : FileSystem) (winner : Nat) (target : Target) (content : ByteArray)
    (s : Session) : Prop where
  settled : s.log.settled = some (winner, target)
  received : s.sheet.Received fs content target
  /-- Every answer so far was that target. -/
  answered : ∀ t ∈ s.answers, t = target

variable {fs : FileSystem} {winner : Nat} {target : Target} {content : ByteArray} {s : Session}

/-- A write adds its buffer to what a request for the target leaves `Settled`. -/
theorem Settled.of_target {caller : Caller}
    (h : (s.perform (.target caller)).Settled fs winner target content)
    (hvalue : (s.log.target s.files caller).value = target) (buffer : ByteArray) :
    (s.perform (.write caller buffer)).Settled fs winner target (content ++ buffer) := by
  obtain ⟨hsheet, hsettled, hanswers⟩ := s.perform_write caller buffer
  refine ⟨hsettled.trans h.settled, ?_, fun t ht => h.answered t ?_⟩
  · rw [hsheet, hvalue]
    exact h.received.put buffer
  · rw [hanswers] at ht
    exact List.mem_cons_of_mem _ ht

/-- `Settled` is preserved by every request, which adds what it writes to the content. -/
theorem Settled.perform (h : s.Settled fs winner target content) (r : Request) :
    (s.perform r).Settled fs winner target (content ++ r.content) := by
  -- Asking for the target changes nothing, and a write is that with a buffer put.
  have htarget : ∀ caller, (s.log.target s.files caller).value = target ∧
      (s.perform (.target caller)).Settled fs winner target content := by
    intro caller
    obtain ⟨hvalue, hsheet, hsettled⟩ := perform_target_of_settled h.settled caller
    refine ⟨hvalue, hsettled, hsheet ▸ h.received, fun t ht => ?_⟩
    rcases List.mem_cons.1 ht with rfl | ht
    · exact hvalue
    · exact h.answered t ht
  cases r with
  | write caller buffer => exact (htarget caller).2.of_target (htarget caller).1 buffer
  | target caller =>
    rw [Request.content, ByteArray.append_empty]
    exact (htarget caller).2

/-- `Settled` is preserved by a run, which adds all that is `written`. -/
theorem Settled.run (h : s.Settled fs winner target content) (requests : List Request) :
    (s.run requests).Settled fs winner target (content ++ written requests) := by
  induction requests generalizing s content with
  | nil => simpa [written, Session.run] using h
  | cons r requests ih =>
    have hrun := ih (h.perform r)
    -- What is written first is in the content already, so the sum is bracketed to the left.
    rw [ByteArray.append_assoc] at hrun
    exact hrun

/-- The first request of a run leaves the log `Settled` on the target of `Settles`, with its heading
and what the request writes. -/
theorem settled_first {log : Log} {settings : Settings} {processId : String}
    (hfollows : log.Follows settings processId) (hsettled : log.settled = none)
    (hoffset : log.offset = 0) (fs : FileSystem) (r : Request) :
    ∃ target heading, Settles settings processId fs target heading ∧
      ((start log fs).perform r).Settled fs (log.numbers.numberOf r.caller.serial).1 target
        (heading ++ r.content) := by
  obtain ⟨heading, hsettles, hreceived⟩ := hfollows.settles_resolve fs
  refine ⟨_, heading, hsettles, ?_⟩
  -- Whatever the first request is, it settles the target by asking for it.
  have htarget : ∀ caller,
      ((start log fs).perform (.target caller)).Settled fs
        (log.numbers.numberOf caller.serial).1 (log.resolve fs).value heading := by
    intro caller
    obtain ⟨hvalue, hsheet, hwinner⟩ :=
      perform_target_of_not_settled (s := start log fs) hsettled caller
    refine ⟨hwinner, ?_, fun t ht => ?_⟩
    · rw [hsheet]
      simpa [start, hoffset, Log.firstSheet] using hreceived
    · have ht' : t = ((start log fs).log.target fs caller).value := by
        simpa [Session.perform, start] using ht
      exact ht'.trans hvalue
  cases r with
  | write caller buffer =>
    exact (htarget caller).of_target
      (perform_target_of_not_settled (s := start log fs) hsettled caller).1 buffer
  | target caller =>
    rw [Request.content, ByteArray.append_empty]
    exact htarget caller

/-! ### Every run -/

/-- After `requests`, on files that were `fs`, the log has settled on the target that the settings
ask for, once and for all. The target has its head and then all that was written, and nothing else
has been touched. -/
structure SettledOn (settings : Settings) (processId : String) (fs : FileSystem)
    (requests : List Request) (winner : Nat) (target : Target) (heading : ByteArray) (s : Session) :
    Prop where
  settles : Settles settings processId fs target heading
  winner_eq : s.log.winner = some winner
  filePath_eq : s.log.filePath = target.path?
  /-- Every request for the target was answered with it. -/
  answered : ∀ t ∈ s.answers, t = target
  /-- No later request settles anything else. -/
  fixed : ∀ later, (s.run later).log.settled = s.log.settled
  /-- A console has the heading and then all that was written, and no file changed. -/
  console_eq : ∀ stream, target = .console stream →
    s.files = fs ∧ ∀ other : Stream, other.content s.emitted =
      if stream = other then heading ++ written requests else .empty
  /-- The file was emptied once, as it has all that was ever written to it, and no other file
  changed. -/
  file_eq : ∀ file path, target = .file file path →
    s.files.lookup path = .ok (.file file.serial (written requests)) ∧
      (∀ l ≠ file.location, s.files.find? l = fs.find? l) ∧
      ∀ other : Stream, other.content s.emitted = .empty

/-- `SettledOn` in terms of what can be looked up: `winner`, `filePath`, files and streams. -/
theorem Settled.settledOn {settings : Settings} {processId : String} {heading : ByteArray}
    {requests : List Request} (hsettles : Settles settings processId fs target heading)
    (h : s.Settled fs winner target (heading ++ written requests)) :
    s.SettledOn settings processId fs requests winner target heading where
  settles := hsettles
  winner_eq := by rw [Log.winner, h.settled, Option.map_some]
  filePath_eq := by
    rw [Log.filePath, h.settled]
    cases target <;> rfl
  answered := h.answered
  fixed later := (h.run later).settled.trans h.settled.symm
  console_eq stream htarget := by
    subst htarget
    exact h.received
  -- A file has no heading, so its content is what was written.
  file_eq file path htarget := by
    subst htarget
    obtain ⟨hfiles, -, hstreams⟩ := h.received
    rw [hsettles.head_eq_empty, ByteArray.empty_append] at hfiles
    exact ⟨hfiles.lookup_eq, hfiles.same.find?_eq, hstreams⟩

/-- What `requests` leave behind, if the log was made from the settings, the threads had `numbers`
and the files were `fs` before the first of them. -/
structure OneStream (settings : Settings) (processId : String) (numbers : ThreadNumbers)
    (fs : FileSystem) (requests : List Request) (s : Session) : Prop where
  /-- A log that has not been called has touched nothing. -/
  untouched : requests = [] →
    s.files = fs ∧ s.emitted = [] ∧ s.log.winner = none ∧ s.log.filePath = none
  /-- The first call settles the target, and its caller is the winner. -/
  settledOn : ∀ first ∈ requests.head?, ∃ target heading,
    s.SettledOn settings processId fs requests (numbers.numberOf first.caller.serial).1 target
      heading

/-- `OneStream` holds after any requests, whatever the settings and the files. -/
theorem oneStream_of_run (settings : Settings) (processId : String) (numbers : ThreadNumbers)
    (fs : FileSystem) (requests : List Request) :
    ((start { Log.ofSettings settings processId with numbers } fs).run requests).OneStream
      settings processId numbers fs requests where
  untouched hnone := by
    subst hnone
    exact ⟨rfl, rfl, rfl, rfl⟩
  settledOn first hfirst := by
    cases requests with
    | nil => exact nomatch hfirst
    | cons r requests =>
      obtain rfl : r = first := by simpa using hfirst
      -- The first request settles the target, and the others are a run of a settled session.
      obtain ⟨target, heading, hsettles, hsettled⟩ :=
        settled_first (Log.follows_ofSettings settings processId numbers) rfl rfl fs r
      refine ⟨target, heading, Settled.settledOn hsettles ?_⟩
      have hrun := hsettled.run requests
      rw [ByteArray.append_assoc] at hrun
      exact hrun

/-- A name in a directory that is not there: the log goes to the directory for temporary files. -/
example :
    ((start (Log.ofSettings { libraryDir := "/", crashFile := some "no/err_%p" } "42")
        { nodes := [(["tmp"], .directory), (["tmp", "no"], .directory)] }).run
      [.target (.main "0"), .write (.main "1") "x".toUTF8]).log.filePath =
      some "/tmp/no/err_42" := by
  decide

end Session

end CompilerLink.Crash
