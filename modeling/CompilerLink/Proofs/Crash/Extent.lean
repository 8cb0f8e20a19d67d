import CompilerLink.Proofs.Crash.Run

/-! # How far a crash log has come

A crash log is written to from time to time, while the files change for other reasons too. What it
goes by is how much has been written (`Log.Kept`); as long as nobody else touches its file, the file
has all of that and nothing else (`Log.Holds`). A write and a request for the target keep both. -/

namespace CompilerLink.Crash

/-- The `Sheet` that a call of a crash log leaves. -/
def sheetAfter {α : Type} (done : Outcome (Log × FileSystem) α) : Sheet :=
  ⟨done.state.2, done.emitted, done.state.1.offset⟩

/-- `Received` is preserved by a remark, which is no write. -/
theorem Sheet.Received.remark {s : Sheet} {fs : FileSystem} {content : ByteArray} {target : Target}
    (h : s.Received fs content target) (d : Diagnostic) :
    ({ s with emitted := .remark d :: s.emitted } : Sheet).Received fs content target := by
  cases target with
  | console stream => exact h
  | file file path => exact h

namespace Log

variable {log : Log} {fs : FileSystem} {settings : Settings} {processId : String}

/-- `Log.target` of a log that has settled answers its target and does nothing else. -/
theorem target_of_settled {winner : Nat} {target : Target}
    (h : log.settled = some (winner, target)) (fs : FileSystem) (caller : Caller) :
    (log.target fs caller).value = target ∧
      (log.target fs caller).state.1.settled = log.settled ∧
      sheetAfter (log.target fs caller) = ⟨fs, [], log.offset⟩ := by
  obtain ⟨hvalue, hsheet, hkept⟩ :=
    Session.perform_target_of_settled (s := Session.start log fs) h caller
  exact ⟨hvalue, hkept.trans h.symm, hsheet⟩

/-- `Log.target` of a log that has not settled settles on what `Settles` asks for. -/
theorem target_of_not_settled (hfollows : log.Follows settings processId)
    (h : log.settled = none) (hoffset : log.offset = 0) (fs : FileSystem) (caller : Caller) :
    ∃ heading, Settles settings processId fs (log.target fs caller).value heading ∧
      (log.target fs caller).state.1.settled =
        some ((log.numbers.numberOf caller.serial).1, (log.target fs caller).value) ∧
      (sheetAfter (log.target fs caller)).Received fs heading (log.target fs caller).value := by
  obtain ⟨heading, hsettles, hreceived⟩ := hfollows.settles_resolve fs
  obtain ⟨hvalue, hsheet, hwinner⟩ :=
    Session.perform_target_of_not_settled (s := Session.start log fs) h caller
  -- The sheet after the call is the first sheet, as nothing had been written.
  have hfirst : sheetAfter (log.target fs caller) = log.firstSheet fs := by
    rw [firstSheet, ← hoffset]
    exact hsheet
  have hanswer : (log.target fs caller).value = (log.resolve fs).value := hvalue
  rw [hanswer, hfirst]
  exact ⟨heading, hsettles, hwinner, hreceived⟩

/-- `Log.target` leaves the log settled on its answer, in either case. -/
theorem settled_target (log : Log) (fs : FileSystem) (caller : Caller) :
    ∃ winner, (log.target fs caller).state.1.settled =
      some (winner, (log.target fs caller).value) := by
  cases hsettled : log.settled with
  -- The first call settles the target that it answers; any other finds it.
  | none =>
    obtain ⟨hvalue, -, hwinner⟩ :=
      Session.perform_target_of_not_settled (s := Session.start log fs) hsettled caller
    exact ⟨_, hwinner.trans (congrArg _ (congrArg _ hvalue.symm))⟩
  | some found =>
    obtain ⟨winner, target⟩ := found
    obtain ⟨hvalue, hsame, -⟩ := target_of_settled hsettled fs caller
    rw [hsame, hsettled, hvalue]
    exact ⟨winner, rfl⟩

/-- `Log.write` puts its bytes on what `Log.target` leaves. -/
theorem write_eq_put (log : Log) (fs : FileSystem) (caller : Caller) (buffer : ByteArray) :
    (log.write fs caller buffer).state.1.settled = (log.target fs caller).state.1.settled ∧
      sheetAfter (log.write fs caller buffer) =
        (sheetAfter (log.target fs caller)).put buffer (log.target fs caller).value := by
  obtain ⟨hsheet, hsettled, -⟩ := (Session.start log fs).perform_write caller buffer
  exact ⟨hsettled, hsheet⟩

/-- `Log.write` to a log that has settled puts the buffer on its target. -/
theorem write_of_settled {winner : Nat} {target : Target}
    (h : log.settled = some (winner, target)) (fs : FileSystem) (caller : Caller)
    (buffer : ByteArray) :
    (log.write fs caller buffer).state.1.settled = log.settled ∧
      sheetAfter (log.write fs caller buffer) =
        (⟨fs, [], log.offset⟩ : Sheet).put buffer target := by
  obtain ⟨hsettled, hsheet⟩ := log.write_eq_put fs caller buffer
  obtain ⟨hvalue, hsame, htarget⟩ := target_of_settled h fs caller
  rw [hvalue, htarget] at hsheet
  exact ⟨hsettled.trans hsame, hsheet⟩

/-- The first `Log.write` of a log settles it and puts the buffer behind the heading. -/
theorem write_of_not_settled (hfollows : log.Follows settings processId)
    (h : log.settled = none) (hoffset : log.offset = 0) (fs : FileSystem) (caller : Caller)
    (buffer : ByteArray) :
    ∃ target heading, Settles settings processId fs target heading ∧
      (log.write fs caller buffer).state.1.settled =
        some ((log.numbers.numberOf caller.serial).1, target) ∧
      (sheetAfter (log.write fs caller buffer)).Received fs (heading ++ buffer) target := by
  obtain ⟨hsettled, hsheet⟩ := log.write_eq_put fs caller buffer
  obtain ⟨heading, hsettles, hwinner, hreceived⟩ :=
    target_of_not_settled hfollows h hoffset fs caller
  -- A write is a call of `target` with the buffer put where that says.
  rw [hsheet]
  exact ⟨_, heading, hsettles, hsettled.trans hwinner, hreceived.put buffer⟩

/-- `Follows` is preserved by `Log.target`, which changes the numbers and the target only. -/
theorem Follows.target (h : log.Follows settings processId) (fs : FileSystem) (caller : Caller) :
    (log.target fs caller).state.1.Follows settings processId := by
  rw [Log.target]
  cases log.settled <;> exact ⟨h.toStdout_eq, h.toStderr_eq, h.fileName_eq⟩

/-- `Follows` is preserved by `Log.write`, which goes on from `Log.target`. -/
theorem Follows.write (h : log.Follows settings processId) (fs : FileSystem) (caller : Caller)
    (buffer : ByteArray) : (log.write fs caller buffer).state.1.Follows settings processId := by
  have htarget := h.target fs caller
  rw [Log.write]
  dsimp only
  cases (log.target fs caller).value with
  | console stream => exact htarget
  | file file path => exact ⟨htarget.toStdout_eq, htarget.toStderr_eq, htarget.fileName_eq⟩

/-! ### How far a log has come -/

/-- The log has come as far as `written`: all that has been written to it. -/
structure Kept (log : Log) (written : ByteArray) : Prop where
  /-- A log that has not settled has written nothing. -/
  unsettled : log.settled = none → written = .empty ∧ log.offset = 0
  /-- The offset in its file is the number of bytes that it has written. -/
  offset_eq : ∀ winner file path, log.settled = some (winner, .file file path) →
    log.offset = written.size

/-- The file of a log, if it has gone to one, has `written` and nothing else. -/
def Holds (log : Log) (fs : FileSystem) (written : ByteArray) : Prop :=
  ∀ winner file path, log.settled = some (winner, .file file path) →
    fs.find? file.location = some (.file file.serial written)

/-- A log that has just settled is `Kept` at nothing, and its file `Holds` nothing. -/
theorem kept_of_settles {log' : Log} {fs' : FileSystem} {winner : Nat} {target : Target}
    {heading : ByteArray} {emitted : List Emission}
    (hsettles : Settles settings processId fs target heading)
    (hsettled : log'.settled = some (winner, target))
    (h : (⟨fs', emitted, log'.offset⟩ : Sheet).Received fs heading target) :
    log'.Kept .empty ∧ log'.Holds fs' .empty := by
  refine ⟨⟨fun hnone => ?_, fun winner' file path hfile => ?_⟩, fun winner' file path hfile => ?_⟩
  · rw [hsettled] at hnone
    exact nomatch hnone
  -- Both remaining fields are about a file, at whose head there is nothing.
  all_goals
    rw [hsettled] at hfile
    obtain ⟨-, rfl⟩ := Prod.mk.inj (Option.some.inj hfile)
    obtain ⟨hwrote, hoffset, -⟩ := h
    rw [hsettles.head_eq_empty] at hwrote hoffset
  · exact hoffset
  · exact hwrote.find?_eq

/-- `Kept` is preserved by `Log.target`, and so is `Holds`. -/
theorem Kept.target {written : ByteArray} (h : log.Kept written)
    (hfollows : log.Follows settings processId) (fs : FileSystem) (caller : Caller) :
    (log.target fs caller).state.1.Kept written ∧
      (log.Holds fs written →
        (log.target fs caller).state.1.Holds (log.target fs caller).state.2 written) := by
  cases hsettled : log.settled with
  -- Nothing was written yet, and resolving writes no more than a heading, which is not in a file.
  | none =>
    obtain ⟨rfl, hoffset⟩ := h.unsettled hsettled
    obtain ⟨heading, hsettles, hwinner, hreceived⟩ :=
      target_of_not_settled hfollows hsettled hoffset fs caller
    obtain ⟨hkept, hholds⟩ := kept_of_settles hsettles hwinner hreceived
    exact ⟨hkept, fun _ => hholds⟩
  -- The target is there already, and asking for it changes no file.
  | some found =>
    obtain ⟨-, hsame, hsheet⟩ := target_of_settled hsettled fs caller
    have hoffset : (log.target fs caller).state.1.offset = log.offset :=
      congrArg Sheet.offset hsheet
    have hfiles : (log.target fs caller).state.2 = fs := congrArg Sheet.files hsheet
    refine ⟨⟨fun hnone => ?_, fun winner file path hfile => ?_⟩,
      fun hholds winner file path hfile => ?_⟩
    · rw [hsame, hsettled] at hnone
      exact nomatch hnone
    · exact hoffset.trans (h.offset_eq winner file path (hsame ▸ hfile))
    · rw [hfiles]
      exact hholds winner file path (hsame ▸ hfile)

/-- `Kept` is carried by `Log.write` from `written` to `written ++ buffer`, and so is `Holds`. -/
theorem Kept.write {written : ByteArray} (h : log.Kept written)
    (hfollows : log.Follows settings processId) (fs : FileSystem) (caller : Caller)
    (buffer : ByteArray) :
    (log.write fs caller buffer).state.1.Kept (written ++ buffer) ∧
      (log.Holds fs written →
        (log.write fs caller buffer).state.1.Holds (log.write fs caller buffer).state.2
          (written ++ buffer)) := by
  obtain ⟨hkept, hholds⟩ := h.target hfollows fs caller
  obtain ⟨winner, hwinner⟩ := log.settled_target fs caller
  obtain ⟨hsettled, hsheet⟩ := log.write_eq_put fs caller buffer
  rw [hwinner] at hsettled
  refine ⟨⟨fun hnone => ?_, fun winner' file path hfile => ?_⟩,
    fun hfile' winner' file path hfile => ?_⟩
  · rw [hsettled] at hnone
    exact nomatch hnone
  -- The buffer is put into the file behind all that was written before.
  all_goals
    rw [hsettled] at hfile
    obtain ⟨rfl, htarget⟩ := Prod.mk.inj (Option.some.inj hfile)
    rw [htarget] at hwinner hsheet
    have hend := hkept.offset_eq winner file path hwinner
  · have hoffset : (log.write fs caller buffer).state.1.offset =
        (log.target fs caller).state.1.offset + buffer.size := congrArg Sheet.offset hsheet
    rw [hoffset, hend, ByteArray.size_append]
  · have hfiles : (log.write fs caller buffer).state.2 =
        (log.target fs caller).state.2.writeAt file (log.target fs caller).state.1.offset buffer :=
      congrArg Sheet.files hsheet
    rw [hfiles, hend, FileSystem.find?_writeAt (hholds hfile' winner file path hwinner), if_pos rfl]

end Log

end CompilerLink.Crash
