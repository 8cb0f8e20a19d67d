import CompilerLink.Link.Fatal
import CompilerLink.Proofs.Counter.Sum
import CompilerLink.Proofs.Crash.Extent
import CompilerLink.Proofs.Library.Desk

/-! # What a fatal error leaves behind

A fatal error puts one line into the crash log and aborts. The line comes behind all that was
written to the log before; if nobody has written to it, the line settles the target and comes behind
the heading of that. `Link.Evidence` says so of each kind of target. -/

namespace CompilerLink

/-! ### Loads -/

namespace Library.Loader

variable {l : Loader} {fs : FileSystem}

/-- `load` passes on that `resolve` finds no file. -/
theorem load_of_not_found (hlibrary : l.library = none) {fault : LibraryFault}
    (hresolve : l.resolve fs = .error fault) {log : EventLog} {caller : Caller} :
    l.load log fs caller = ⟨.error fault, (l, log), []⟩ := by
  simp only [load, hlibrary, hresolve]

/-- `load` passes on that the opener refuses, and counts the attempt. -/
theorem load_of_refused (hlibrary : l.library = none) {path reason : String}
    (hresolve : l.resolve fs = .ok path) (hanswer : l.opener l.attempts fs path = .error reason)
    {log : EventLog} {caller : Caller} :
    l.load log fs caller =
      ⟨.error (.refused path reason), ({ l with attempts := l.attempts + 1 }, log), []⟩ := by
  simp only [load, hlibrary, hresolve, hanswer]

/-- `load` keeps the library that the opener has opened, and reports it by `loadedMessage`. -/
theorem load_of_opened (hlibrary : l.library = none) {path : String} {handle : Handle}
    (hresolve : l.resolve fs = .ok path) (hanswer : l.opener l.attempts fs path = .ok handle)
    {log : EventLog} {caller : Caller} :
    l.load log fs caller =
      ⟨.ok ⟨handle, path⟩,
        ({ l with attempts := l.attempts + 1, library := some ⟨handle, path⟩ },
          (log.event caller 1 (loadedMessage path)).state),
        (log.event caller 1 (loadedMessage path)).emitted ++ [loadedRemark path]⟩ := by
  simp only [load, hlibrary, hresolve, hanswer]
  rfl

/-- `load` leaves the search list as it is. -/
theorem searchPath_load (l : Loader) (log : EventLog) (fs : FileSystem) (caller : Caller) :
    (l.load log fs caller).state.1.searchPath = l.searchPath := by
  rw [load]
  split
  · rfl
  · split
    · rfl
    · dsimp only
      split <;> rfl

end Library.Loader

namespace Link

variable {η α : Type}

/-! ### The evidence -/

/-- What has been written to by a call that left a link and files, as a `Crash.Sheet`. -/
def sheetAfter (done : Outcome (Link η × FileSystem) α) : Crash.Sheet :=
  ⟨done.state.2, done.emitted, done.state.1.crash.offset⟩

/-- A call aborted with an error, and the error is on record. Before the call the crash log was
`log`, which goes by the settings, the files were `fs` and `written` had been written to the log. -/
structure Evidence (settings : Settings) (processId : String) (log : Crash.Log) (fs : FileSystem)
    (written : ByteArray) (caller : Caller) (text : String)
    (done : Outcome (Link η × FileSystem) (Ending α)) : Prop where
  /-- The process ends with this call. -/
  aborted : done.value = .aborted
  /-- The first write to the log settles the target as `Crash.Settles` says, and comes behind its
  heading. -/
  unsettled : log.settled = none → ∃ target heading,
    Crash.Settles settings processId fs target heading ∧
    done.state.1.crash.settled = some ((log.numbers.numberOf caller.serial).1, target) ∧
    (sheetAfter done).Received fs
      (heading ++ ("# Fatal error in compiler bridge: " ++ text ++ "\n").toUTF8) target
  /-- On a stream that was settled before, the line is all that the call puts there. -/
  console : ∀ winner stream, log.settled = some (winner, .console stream) →
    done.state.1.crash.settled = log.settled ∧ done.state.2 = fs ∧
      ∀ other : Stream, other.content done.emitted =
        if stream = other then ("# Fatal error in compiler bridge: " ++ text ++ "\n").toUTF8
        else .empty
  /-- The line is written behind all that has been written; if the file has all that, it has the
  line after it. -/
  file : ∀ winner file path, log.settled = some (winner, .file file path) →
    done.state.1.crash.settled = log.settled ∧
      done.state.2 = fs.writeAt file written.size
        ("# Fatal error in compiler bridge: " ++ text ++ "\n").toUTF8 ∧
      (fs.find? file.location = some (.file file.serial written) → ∀ l, done.state.2.find? l =
        if l = file.location then some (.file file.serial
          (written ++ ("# Fatal error in compiler bridge: " ++ text ++ "\n").toUTF8))
        else fs.find? l) ∧
      ∀ other : Stream, other.content done.emitted = .empty

/-- `Evidence` holds of `fatal`, whatever state the crash log is in. -/
theorem evidence_fatal {l : Link η} {settings : Settings} {processId : String}
    {written : ByteArray} (h : l.crash.Kept written) (hfollows : l.crash.Follows settings processId)
    (fs : FileSystem) (caller : Caller) (text : String) :
    Evidence settings processId l.crash fs written caller text
      (l.fatal fs caller text : Outcome (Link η × FileSystem) (Ending α)) where
  aborted := rfl
  unsettled hsettled := by
    obtain ⟨target, heading, hsettles, hwinner, hreceived⟩ :=
      Crash.Log.write_of_not_settled hfollows hsettled (h.unsettled hsettled).2 fs caller
        (fatalLine text).toUTF8
    exact ⟨target, heading, hsettles, hwinner, hreceived.remark _⟩
  console winner stream hsettled := by
    obtain ⟨hkept, hsheet⟩ := Crash.Log.write_of_settled hsettled fs caller
      (fatalLine text).toUTF8
    refine ⟨hkept, congrArg Crash.Sheet.files hsheet, fun other => ?_⟩
    -- The remark in front of the write is no part of any stream.
    have hemitted : (l.crash.write fs caller (fatalLine text).toUTF8).emitted =
        [.bytes stream (fatalLine text).toUTF8] := congrArg Crash.Sheet.emitted hsheet
    show other.content (l.crash.write fs caller (fatalLine text).toUTF8).emitted = _
    rw [hemitted, ← List.nil_append [_], Stream.content_append_bytes]
    split <;> rfl
  file winner file path hsettled := by
    obtain ⟨hkept, hsheet⟩ := Crash.Log.write_of_settled hsettled fs caller
      (fatalLine text).toUTF8
    -- The log has written up to the offset, so that is where the line goes.
    have hfiles : (l.crash.write fs caller (fatalLine text).toUTF8).state.2 =
        fs.writeAt file written.size (fatalLine text).toUTF8 := by
      rw [← h.offset_eq winner file path hsettled]
      exact congrArg Crash.Sheet.files hsheet
    have hemitted : (l.crash.write fs caller (fatalLine text).toUTF8).emitted = [] :=
      congrArg Crash.Sheet.emitted hsheet
    refine ⟨hkept, hfiles, fun hall place => ?_, fun other => ?_⟩
    · show (l.crash.write fs caller (fatalLine text).toUTF8).state.2.find? place = _
      rw [hfiles]
      exact FileSystem.find?_writeAt hall (fatalLine text).toUTF8 place
    · show other.content (l.crash.write fs caller (fatalLine text).toUTF8).emitted = _
      rw [hemitted]
      rfl

/-! ### Calls that may end that way -/

/-- The five ways in which `getLibrary` can end. -/
inductive Fetches (l : Link η) (fs : FileSystem) (caller : Caller) :
    Bool → Outcome (Link η × FileSystem) (Ending (Option Library.Loaded)) → Prop where
  | cached {wanted : Bool} {library : Library.Loaded} (hlibrary : l.loader.library = some library) :
      l.Fetches fs caller wanted ⟨.returned (some library), (l, fs), []⟩
  | unwanted (hlibrary : l.loader.library = none) :
      l.Fetches fs caller false ⟨.returned none, (l, fs), []⟩
  | notFound (hlibrary : l.loader.library = none)
      (hresolve : l.loader.resolve fs = .error (.notFound l.loader.searchPath)) :
      l.Fetches fs caller true
        (l.fatal fs caller (LibraryFault.notFound l.loader.searchPath).message)
  | refused {path reason : String} (hlibrary : l.loader.library = none)
      (hresolve : l.loader.resolve fs = .ok path)
      (hanswer : l.loader.opener l.loader.attempts fs path = .error reason) :
      l.Fetches fs caller true
        (({ l with loader.attempts := l.loader.attempts + 1 } : Link η).fatal fs caller
          (LibraryFault.refused path reason).message)
  | opened {path : String} {handle : Library.Handle} {events : EventLog} {emitted : List Emission}
      (hlibrary : l.loader.library = none) (hresolve : l.loader.resolve fs = .ok path)
      (hanswer : l.loader.opener l.loader.attempts fs path = .ok handle) :
      l.Fetches fs caller true
        ⟨.returned (some ⟨handle, path⟩),
          ({ l with
              loader.attempts := l.loader.attempts + 1
              loader.library := some ⟨handle, path⟩
              events }, fs),
          emitted⟩

/-- `getLibrary` answers the library that is there, and does nothing else. -/
theorem getLibrary_of_some {l : Link η} {library : Library.Loaded}
    (hlibrary : l.loader.library = some library) (fs : FileSystem) (caller : Caller)
    (wanted : Bool) :
    l.getLibrary fs caller wanted = ⟨.returned (some library), (l, fs), []⟩ := by
  have hget : l.loader.get l.events fs caller wanted =
      ⟨.ok (some library), (l.loader, l.events), []⟩ := by
    simp only [Library.Loader.get, hlibrary]
  rw [getLibrary, hget]

/-- `getLibrary` for one who wants the library calls `load` if it is not there yet, and passes its
fault on to `fatal`. -/
theorem getLibrary_of_none {l : Link η} (hlibrary : l.loader.library = none) (fs : FileSystem)
    (caller : Caller) :
    l.getLibrary fs caller true =
      let loaded := l.loader.load l.events fs caller
      let left : Link η := { l with loader := loaded.state.1, events := loaded.state.2 }
      match loaded.value with
      | .ok library => ⟨.returned (some library), (left, fs), loaded.emitted⟩
      | .error fault => (left.fatal fs caller fault.message).after loaded.emitted := by
  have hget : l.loader.get l.events fs caller true =
      (l.loader.load l.events fs caller).map fun answer => answer.map some := by
    simp only [Library.Loader.get, hlibrary, if_true]
  rw [getLibrary, hget]
  -- `get` wraps the library that `load` answers, and passes a fault on.
  cases hvalue : (l.loader.load l.events fs caller).value <;>
    simp only [Outcome.map, hvalue, Except.map]

/-- `Fetches` has every way in which `getLibrary` ends. -/
theorem getLibrary_fetches (l : Link η) (fs : FileSystem) (caller : Caller) (wanted : Bool) :
    l.Fetches fs caller wanted (l.getLibrary fs caller wanted) := by
  cases hlibrary : l.loader.library with
  | some library =>
    rw [getLibrary_of_some hlibrary]
    exact .cached hlibrary
  | none =>
  cases wanted with
  | false =>
    have hget : l.loader.get l.events fs caller false = ⟨.ok none, (l.loader, l.events), []⟩ := by
      simp only [Library.Loader.get, hlibrary, Bool.false_eq_true, if_false]
    rw [getLibrary, hget]
    exact .unwanted hlibrary
  | true =>
  rw [getLibrary_of_none hlibrary]
  -- The library is wanted and not there, so the branches are those of `load`.
  cases hresolve : l.loader.resolve fs with
  | error fault =>
    obtain rfl := Library.Loader.resolve_eq_error hresolve
    rw [Library.Loader.load_of_not_found hlibrary hresolve]
    exact .notFound hlibrary hresolve
  | ok path =>
  cases hanswer : l.loader.opener l.loader.attempts fs path with
  | error reason =>
    rw [Library.Loader.load_of_refused hlibrary hresolve hanswer]
    exact .refused hlibrary hresolve hanswer
  | ok handle =>
    rw [Library.Loader.load_of_opened hlibrary hresolve hanswer]
    exact .opened hlibrary hresolve hanswer

/-- `getLibrary` aborts iff the library is wanted, not there yet and cannot be had. -/
theorem getLibrary_eq_aborted_iff (l : Link η) (fs : FileSystem) (caller : Caller) (wanted : Bool) :
    (l.getLibrary fs caller wanted).value = .aborted ↔
      wanted = true ∧ l.loader.library = none ∧
        ((∃ fault, l.loader.resolve fs = .error fault) ∨
          ∃ path reason, l.loader.resolve fs = .ok path ∧
            l.loader.opener l.loader.attempts fs path = .error reason) := by
  have hfetches := l.getLibrary_fetches fs caller wanted
  generalize l.getLibrary fs caller wanted = done at hfetches
  cases hfetches with
  | cached hlibrary =>
    refine iff_of_false nofun ?_
    rintro ⟨-, hnone, -⟩
    rw [hlibrary] at hnone
    exact nomatch hnone
  | unwanted hlibrary => exact iff_of_false nofun fun h => nomatch h.1
  | notFound hlibrary hresolve => exact iff_of_true rfl ⟨rfl, hlibrary, .inl ⟨_, hresolve⟩⟩
  | refused hlibrary hresolve hanswer =>
    exact iff_of_true rfl ⟨rfl, hlibrary, .inr ⟨_, _, hresolve, hanswer⟩⟩
  | opened hlibrary hresolve hanswer =>
    refine iff_of_false nofun ?_
    rintro ⟨-, -, ⟨fault, herror⟩ | ⟨path, reason, hok, herror⟩⟩
    · rw [hresolve] at herror
      exact nomatch herror
    · -- The opener has one answer to the request, and it was not a refusal.
      obtain rfl := Except.ok.inj (hresolve.symm.trans hok)
      rw [hanswer] at herror
      exact nomatch herror

/-- `getLibrary` returns nothing iff the library is not there and not wanted. -/
theorem getLibrary_eq_none_iff (l : Link η) (fs : FileSystem) (caller : Caller) (wanted : Bool) :
    (l.getLibrary fs caller wanted).value = .returned none ↔
      wanted = false ∧ l.loader.library = none := by
  have hfetches := l.getLibrary_fetches fs caller wanted
  generalize l.getLibrary fs caller wanted = done at hfetches
  cases hfetches with
  | cached hlibrary => exact iff_of_false nofun fun h => nomatch hlibrary.symm.trans h.2
  | unwanted hlibrary => exact iff_of_true rfl ⟨rfl, hlibrary⟩
  | notFound hlibrary hresolve => exact iff_of_false nofun fun h => nomatch h.1
  | refused hlibrary hresolve hanswer => exact iff_of_false nofun fun h => nomatch h.1
  | opened hlibrary hresolve hanswer => exact iff_of_false nofun fun h => nomatch h.1

/-- `collectCounters` answers the totals in a buffer of the right length. -/
theorem collectCounters_of_length_eq {l : Link η} {buffer : List Int64}
    (h : buffer.length = l.counters.size) (fs : FileSystem) (caller : Caller) :
    l.collectCounters fs caller buffer = ⟨.returned l.counters.totals, (l, fs), []⟩ := by
  rw [collectCounters, Counter.Registry.collect_of_length_eq h]

/-- `collectCounters` is `fatal` for a buffer of the wrong length. -/
theorem collectCounters_of_length_ne {l : Link η} {buffer : List Int64}
    (h : buffer.length ≠ l.counters.size) (fs : FileSystem) (caller : Caller) :
    l.collectCounters fs caller buffer =
      l.fatal fs caller (CounterFault.wrongLength l.counters.size buffer.length).message := by
  rw [collectCounters, Counter.Registry.collect, if_neg h]

end Link

end CompilerLink
