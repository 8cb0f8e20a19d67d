import CompilerLink.Host.Scripted
import CompilerLink.Link.Lifecycle
import CompilerLink.Link.Threads
import CompilerLink.Proofs.Counter.Balance
import CompilerLink.Proofs.Link.Creation
import CompilerLink.Proofs.Link.Fatal

/-! # A link in service

A `Service.Session` is a link at work: threads attach, count and detach, counters change their
length, the compiler is brought up and shut down, the library is asked for, anything may be written
to the crash log, and the files change in between. It ends when the process aborts.

`Session.endsOnRecord_of_run` says of every state that the link can reach alive which calls abort,
what the others return, and what an abort leaves in the crash log. -/

namespace CompilerLink.Link.Service

variable {η : Type}

/-! ### Work that has nothing to do with aborting -/

/-- Work that leaves the library, the crash log and the length of the counters alone. -/
inductive Chore (η : Type) where
  /-- The host becomes another one. -/
  | change (host : η)
  | attach (caller : Caller) (name : String) (kind : ThreadKind)
  | detach (caller : Caller) (thread : AttachedThread)
  /-- A thread counts. -/
  | add (id index : Nat) (delta : Int64)
  | freeGlobalCounters
  /-- Limit the arrays that may be allocated from now on. -/
  | limit (allowed : Option Nat)
  | initCompiler (caller : Caller)
  | markInitialized
  | ensureBoxCaches (caller : Caller)
  | shutdown (caller : Caller)
  /-- Handles are made or given back on an end, or the end is shut down. -/
  | atEnd (side : Side) (work : Endpoint → Outcome Endpoint Unit)
  | doUnloading (catalog : Catalog) (occurred : Bool)
  | report (caller : Caller) (level : Nat) (message : String)

/-- Do a `Chore`. -/
def Chore.carryOut [Host η] (l : Link η) : Chore η → Outcome (Link η) Unit
  | .change host => ⟨(), { l with host }, []⟩
  | .attach caller name kind => (l.attach caller name kind).map fun _ => ()
  | .detach caller thread => l.detach caller thread
  | .add id index delta => ⟨(), { l with counters := (l.counters.add id index delta).2 }, []⟩
  | .freeGlobalCounters => ⟨(), l.freeGlobalCounters, []⟩
  | .limit allowed => ⟨(), { l with counters := l.counters.setBudget allowed }, []⟩
  | .initCompiler caller => (l.initCompiler caller).map fun _ => ()
  | .markInitialized => ⟨(), l.markInitialized, []⟩
  | .ensureBoxCaches caller => (l.ensureBoxCaches caller).map fun _ => ()
  | .shutdown caller => l.shutdown caller
  | .atEnd side work =>
    (l.endpoints.onSide side work).within fun ends => { l with endpoints := ends }
  | .doUnloading catalog occurred => l.doUnloading catalog occurred
  | .report caller level message => l.report caller level message

/-- What a `Chore` leaves alone. -/
structure SameCore (l l' : Link η) : Prop where
  loader_eq : l'.loader = l.loader
  crash_eq : l'.crash = l.crash
  pause_eq : l'.pause = l.pause
  size_eq : l'.counters.size = l.counters.size

/-- `SameCore` holds of a link before and after any `Chore`. -/
theorem Chore.sameCore [Host η] (l : Link η) (c : Chore η) :
    SameCore l (c.carryOut l).state := by
  cases c with
  -- Where a chore branches or goes through a frame lemma it has a case; for all others the fields
  -- agree as they stand.
  | detach caller thread =>
    exact ⟨rfl, rfl, rfl, (l.counters.freeOwn_frame thread.block).1⟩
  | add id index delta => exact ⟨rfl, rfl, rfl, l.counters.size_add id index delta⟩
  | initCompiler caller =>
    show SameCore l (l.initCompiler caller).state
    rw [Link.initCompiler]
    split
    · exact ⟨rfl, rfl, rfl, rfl⟩
    · dsimp only
      split <;> exact ⟨rfl, rfl, rfl, rfl⟩
  | ensureBoxCaches caller =>
    show SameCore l (l.ensureBoxCaches caller).state
    rw [Link.ensureBoxCaches]
    split
    · exact ⟨rfl, rfl, rfl, rfl⟩
    · dsimp only
      split <;> exact ⟨rfl, rfl, rfl, rfl⟩
  | doUnloading catalog occurred =>
    show SameCore l (l.doUnloading catalog occurred).state
    rw [Link.doUnloading]
    split <;> exact ⟨rfl, rfl, rfl, rfl⟩
  | _ => exact ⟨rfl, rfl, rfl, rfl⟩

/-! ### Runs -/

/-- What can happen to a link in service. -/
inductive Operation (η : Type) where
  /-- The files change from outside. -/
  | files (files : FileSystem)
  | chore (c : Chore η)
  | resizeCounters (n : Nat)
  /-- The library is loaded by one who can do without it. -/
  | load (caller : Caller)
  /-- The crash log is asked where it goes. -/
  | crashTarget (caller : Caller)
  | fatalLog (caller : Caller) (buffer : ByteArray)
  | getLibrary (caller : Caller) (wanted : Bool)
  | collectCounters (caller : Caller) (buffer : List Int64)
  | fatal (caller : Caller) (message : String)

/-- A link, the files, and what was let out. -/
structure Session (η : Type) where
  link : Link η
  files : FileSystem
  emitted : List Emission := []
  /-- All that was written to the crash log before the process aborted. -/
  written : ByteArray := .empty
  /-- The length that the counters were given last. -/
  length : Nat
  /-- The process has aborted. -/
  ended : Bool := false

/-- Whether a call aborted the process. -/
def isAborted {α : Type} : Ending α → Bool
  | .returned _ => false
  | .aborted => true

namespace Session

/-- The beginning of service, where the counters have the length of the settings. -/
def start (link : Link η) (files : FileSystem) : Session η :=
  { link, files, length := link.settings.counterSize }

/-- The session after a call that may abort. -/
def after {α : Type} (s : Session η) (done : Outcome (Link η × FileSystem) (Ending α)) :
    Session η :=
  { s with
    link := done.state.1
    files := done.state.2
    emitted := s.emitted ++ done.emitted
    ended := isAborted done.value }

/-- What an operation does to a process that has not aborted. -/
def work [Host η] (s : Session η) : Operation η → Session η
  | .files files => { s with files }
  | .chore c =>
    let done := c.carryOut s.link
    { s with link := done.state, emitted := s.emitted ++ done.emitted }
  | .resizeCounters n =>
    let done := s.link.resizeCounters n
    { s with
      link := done.state
      emitted := s.emitted ++ done.emitted
      length := if done.value then n else s.length }
  | .load caller =>
    let done := s.link.loader.load s.link.events s.files caller
    { s with
      link.loader := done.state.1
      link.events := done.state.2
      emitted := s.emitted ++ done.emitted }
  | .crashTarget caller =>
    let done := s.link.crash.target s.files caller
    { s with
      link.crash := done.state.1
      files := done.state.2
      emitted := s.emitted ++ done.emitted }
  | .fatalLog caller buffer =>
    let done := s.link.fatalLog s.files caller buffer
    { s with
      link := done.state.1
      files := done.state.2
      emitted := s.emitted ++ done.emitted
      written := s.written ++ buffer }
  | .getLibrary caller wanted => s.after (s.link.getLibrary s.files caller wanted)
  | .collectCounters caller buffer => s.after (s.link.collectCounters s.files caller buffer)
  | .fatal caller message =>
    s.after (s.link.fatal s.files caller message : Outcome _ (Ending Unit))

/-- `work`, if there is a process to do so. -/
def perform [Host η] (s : Session η) (op : Operation η) : Session η :=
  if s.ended then s else s.work op

def run [Host η] (s : Session η) (ops : List (Operation η)) : Session η := ops.foldl perform s

/-- An operation that changes the files leaves the file of the crash log. -/
def Spares (s : Session η) : Operation η → Prop
  | .files files => ∀ winner file path, s.link.crash.settled = some (winner, .file file path) →
    files.find? file.location = s.files.find? file.location
  | _ => True

/-- A run in which every operation `Spares` the file of the crash log. -/
def Undisturbed [Host η] : Session η → List (Operation η) → Prop
  | _, [] => True
  | s, op :: ops => s.Spares op ∧ (s.perform op).Undisturbed ops

/-! ### What a process keeps as long as it lives -/

/-- If the crash log has gone to a file, the file has all that was written to the log. -/
def Intact (s : Session η) : Prop := s.link.crash.Holds s.files s.written

/-- What holds of a link in service that was built from `settings` in the process `processId`. -/
structure Sound (settings : Settings) (processId : String) (s : Session η) : Prop where
  /-- The crash log has counted what was written to it. -/
  kept : s.link.crash.Kept s.written
  /-- It goes by the settings. -/
  follows : s.link.crash.Follows settings processId
  /-- So does the loader. -/
  searchPath_eq : s.link.loader.searchPath = settings.libraryPath
  /-- The counters have the length that they were given last. -/
  length_eq : s.link.counters.size = s.length
  /-- They are resized by the `safepoint` coordinator. -/
  safe : s.link.pause.coordinator = .safepoint

variable {settings : Settings} {processId : String} {s : Session η}

/-- `Sound` and `Intact` are preserved by what writes nothing to the crash log and leaves
the files. -/
theorem Sound.of_same (h : s.Sound settings processId) (s' : Session η)
    (hcrash : s'.link.crash = s.link.crash) (hfiles : s'.files = s.files)
    (hwritten : s'.written = s.written)
    (hsearch : s'.link.loader.searchPath = s.link.loader.searchPath)
    (hlength : s'.link.counters.size = s'.length)
    (hsafe : s'.link.pause.coordinator = .safepoint) :
    s'.Sound settings processId ∧ (s.Intact → s'.Intact) := by
  refine ⟨⟨?_, hcrash ▸ h.follows, hsearch.trans h.searchPath_eq, hlength, hsafe⟩,
    fun hintact => ?_⟩
  · rw [hcrash, hwritten]
    exact h.kept
  · rw [Intact, hcrash, hfiles, hwritten]
    exact hintact

/-- `resizeCounters` gives the counters the length that it was asked for, or leaves it. -/
theorem size_resizeCounters {l : Link η} (hsafe : l.pause.coordinator = .safepoint) (n : Nat) :
    (l.resizeCounters n).state.counters.size =
      if (l.resizeCounters n).value then n else l.counters.size := by
  obtain ⟨hvalue, -, hstate⟩ := l.counters.resizeAll_safepoint hsafe n
  show (l.counters.resizeAll l.pause n).state.2.size =
    if (l.counters.resizeAll l.pause n).value.isOk then n else l.counters.size
  rw [hvalue, hstate]
  -- There is room and the new length is taken, or there is none and the old one stays.
  by_cases hroom : l.counters.HasRoom n
  · rw [(Counter.Registry.resize_of_hasRoom hroom).1, (Counter.Registry.resize_of_hasRoom hroom).2]
    rfl
  · obtain ⟨hfault, left, hleft⟩ := Counter.Registry.resize_of_not_hasRoom hroom
    rw [hfault, hleft]
    rfl

/-- `Sound` is preserved by `work` if the process lives on, and `Intact` by work that `Spares` the
file. -/
theorem Sound.work [Host η] (h : s.Sound settings processId) (op : Operation η)
    (hlive : (s.work op).ended = false) :
    (s.work op).Sound settings processId ∧ (s.Spares op → s.Intact → (s.work op).Intact) := by
  -- `crashTarget` and `fatalLog` go to the crash log, and a call that aborts leaves nothing to
  -- prove.
  cases op with
  | files files =>
    refine ⟨⟨h.kept, h.follows, h.searchPath_eq, h.length_eq, h.safe⟩,
      fun hspares hintact => ?_⟩
    intro winner file path hsettled
    exact (hspares winner file path hsettled).trans (hintact winner file path hsettled)
  | chore c =>
    obtain ⟨hloader, hcrash, hpause, hsize⟩ := c.sameCore s.link
    obtain ⟨hsound, hintact⟩ := h.of_same (s.work (.chore c)) hcrash rfl rfl
      (congrArg _ hloader) (hsize.trans h.length_eq) ((congrArg _ hpause).trans h.safe)
    exact ⟨hsound, fun _ => hintact⟩
  | resizeCounters n =>
    have hsize := size_resizeCounters h.safe n
    rw [h.length_eq] at hsize
    obtain ⟨-, hpause, -⟩ := s.link.counters.resizeAll_safepoint h.safe n
    obtain ⟨hsound, hintact⟩ := h.of_same (s.work (.resizeCounters n)) rfl rfl rfl rfl hsize
      ((congrArg _ hpause).trans h.safe)
    exact ⟨hsound, fun _ => hintact⟩
  | load caller =>
    obtain ⟨hsound, hintact⟩ := h.of_same (s.work (.load caller)) rfl rfl rfl
      (s.link.loader.searchPath_load ..) h.length_eq h.safe
    exact ⟨hsound, fun _ => hintact⟩
  | crashTarget caller =>
    obtain ⟨hkept, hintact⟩ := h.kept.target h.follows s.files caller
    have hfollows := h.follows.target s.files caller
    exact ⟨⟨hkept, hfollows, h.searchPath_eq, h.length_eq, h.safe⟩, fun _ => hintact⟩
  | fatalLog caller buffer =>
    obtain ⟨hkept, hintact⟩ := h.kept.write h.follows s.files caller buffer
    have hfollows := h.follows.write s.files caller buffer
    exact ⟨⟨hkept, hfollows, h.searchPath_eq, h.length_eq, h.safe⟩, fun _ => hintact⟩
  | getLibrary caller wanted =>
    have hfetches := s.link.getLibrary_fetches s.files caller wanted
    rw [Session.work] at hlive ⊢
    generalize s.link.getLibrary s.files caller wanted = done at hfetches hlive
    -- A call that aborts does not leave a live process.
    cases hfetches with
    | cached | unwanted | opened =>
      exact ⟨⟨h.kept, h.follows, h.searchPath_eq, h.length_eq, h.safe⟩, fun _ => id⟩
    | notFound | refused => exact nomatch hlive
  | collectCounters caller buffer =>
    rw [Session.work] at hlive ⊢
    by_cases hlength : buffer.length = s.link.counters.size
    · rw [collectCounters_of_length_eq hlength]
      exact ⟨⟨h.kept, h.follows, h.searchPath_eq, h.length_eq, h.safe⟩, fun _ => id⟩
    · rw [collectCounters_of_length_ne hlength] at hlive
      exact nomatch hlive
  | fatal caller message => exact nomatch hlive

/-! ### Runs of a live process -/

/-- `run` does nothing to a process that has ended. -/
theorem run_of_ended [Host η] (h : s.ended = true) (ops : List (Operation η)) : s.run ops = s := by
  induction ops with
  | nil => rfl
  | cons op ops ih =>
    have hperform : s.perform op = s := if_pos h
    rw [run, List.foldl_cons, hperform]
    exact ih

/-- By `run_of_ended`, a process that lives after a `run` lived before it. -/
theorem live_of_run [Host η] {ops : List (Operation η)} (h : (s.run ops).ended = false) :
    s.ended = false := by
  rw [← Bool.not_eq_true]
  intro hended
  rw [run_of_ended hended, hended] at h
  exact nomatch h

/-- `Sound` is preserved by a `run` that the process survives, and `Intact` by one that is
`Undisturbed`. -/
theorem Sound.run [Host η] (h : s.Sound settings processId) (ops : List (Operation η))
    (hlive : (s.run ops).ended = false) :
    (s.run ops).Sound settings processId ∧ (s.Undisturbed ops → s.Intact → (s.run ops).Intact) := by
  induction ops generalizing s with
  | nil => exact ⟨h, fun _ => id⟩
  | cons op ops ih =>
    -- A process that is alive in the end was alive all the time.
    have hperform : s.perform op = s.work op := by
      rw [perform, live_of_run hlive]
      rfl
    have hrun : s.run (op :: ops) = (s.work op).run ops := by
      rw [Session.run, List.foldl_cons, hperform]
      rfl
    rw [hrun] at hlive ⊢
    obtain ⟨hsound, hintact⟩ := h.work op (live_of_run hlive)
    obtain ⟨hsound', hintact'⟩ := ih hsound hlive
    refine ⟨hsound', fun hundisturbed hfile => ?_⟩
    obtain ⟨hspares, hrest⟩ := hundisturbed
    rw [hperform] at hrest
    exact hintact' hrest (hintact hspares hfile)

/-- `Sound` holds at the `start` of a link that is `fresh`. -/
theorem sound_start (settings : Settings) (parts : Parts η) (files : FileSystem) :
    (start (fresh settings parts) files).Sound settings parts.processId where
  kept := ⟨fun _ => ⟨rfl, rfl⟩, fun _ _ _ hsettled => nomatch hsettled⟩
  follows := Crash.Log.follows_ofSettings settings parts.processId {}
  searchPath_eq := rfl
  length_eq := rfl
  safe := rfl

/-- `Intact` holds at the `start`, where the crash log has gone nowhere. -/
theorem intact_start (settings : Settings) (parts : Parts η) (files : FileSystem) :
    (start (fresh settings parts) files).Intact := fun _ _ _ hsettled => nomatch hsettled

/-! ### Every state of a live process -/

/-- What a caller finds in its buffer after `collectCounters`. -/
def bufferAfter (buffer : List Int64) : Ending (List Int64) → List Int64
  | .returned sums => sums
  | .aborted => buffer

/-- `getLibrary` and `collectCounters` abort iff they have to, and if they do, there is `Evidence`
in the crash log. The proposition `undisturbed` is whether nobody else has touched its file. -/
structure EndsOnRecord (settings : Settings) (processId : String) (undisturbed : Prop)
    (s : Session η) : Prop where
  /-- The process aborts iff the library is wanted, not there yet and cannot be had. -/
  library_aborts_iff : ∀ caller wanted,
    (s.link.getLibrary s.files caller wanted).value = .aborted ↔
      wanted = true ∧ s.link.loader.library = none ∧
        ((∃ fault, s.link.loader.resolve s.files = .error fault) ∨
          ∃ path reason, s.link.loader.resolve s.files = .ok path ∧
            s.link.loader.opener s.link.loader.attempts s.files path = .error reason)
  /-- Nothing is returned iff the library is not wanted and not there yet. -/
  library_none_iff : ∀ caller wanted,
    (s.link.getLibrary s.files caller wanted).value = .returned none ↔
      wanted = false ∧ s.link.loader.library = none
  /-- A library that is there is returned, and that is all. -/
  library_cached : ∀ caller wanted library, s.link.loader.library = some library →
    s.link.getLibrary s.files caller wanted = ⟨.returned (some library), (s.link, s.files), []⟩
  /-- A library that the opener opens is returned and kept. -/
  library_opened : ∀ caller path handle, s.link.loader.library = none →
    s.link.loader.resolve s.files = .ok path →
    s.link.loader.opener s.link.loader.attempts s.files path = .ok handle →
    (s.link.getLibrary s.files caller true).value = .returned (some ⟨handle, path⟩) ∧
      (s.link.getLibrary s.files caller true).state.1.loader.library = some ⟨handle, path⟩
  /-- Without a search list there is none to name. -/
  library_missing : ∀ caller fault, s.link.loader.library = none →
    s.link.loader.resolve s.files = .error fault → settings.libraryPath = none →
    Evidence settings processId s.link.crash s.files s.written caller
      "unable to create path to compiler shared library"
      (s.link.getLibrary s.files caller true)
  /-- The reason names the search list that was configured, whole. -/
  library_notFound : ∀ caller fault dirs, s.link.loader.library = none →
    s.link.loader.resolve s.files = .error fault → settings.libraryPath = some dirs →
    Evidence settings processId s.link.crash s.files s.written caller
      ("unable to create path to compiler shared library based on value of native library path ("
        ++ dirs ++ ")")
      (s.link.getLibrary s.files caller true)
  /-- The reason names the path that was tried, and has the reason that `opener` gave. -/
  library_refused : ∀ caller path reason, s.link.loader.library = none →
    s.link.loader.resolve s.files = .ok path →
    s.link.loader.opener s.link.loader.attempts s.files path = .error reason →
    Evidence settings processId s.link.crash s.files s.written caller
      ("unable to load compiler shared library from " ++ path ++ ": " ++ reason)
      (s.link.getLibrary s.files caller true)
  /-- The length that counts is the one that the counters were given last. -/
  length_eq : s.link.counters.size = s.length
  /-- The process aborts iff the buffer has another length. -/
  collect_aborts_iff : ∀ caller buffer,
    (s.link.collectCounters s.files caller buffer).value = .aborted ↔ buffer.length ≠ s.length
  /-- With the right length the sums are returned, and that is all. -/
  collect_sums : ∀ caller buffer, buffer.length = s.length →
    s.link.collectCounters s.files caller buffer =
      ⟨.returned s.link.counters.totals, (s.link, s.files), []⟩
  /-- The reason names the length of the buffer and the one that counts. -/
  collect_refused : ∀ caller buffer, buffer.length ≠ s.length →
    (s.link.collectCounters s.files caller buffer).state.1.counters = s.link.counters ∧
      bufferAfter buffer (s.link.collectCounters s.files caller buffer).value = buffer ∧
      Evidence settings processId s.link.crash s.files s.written caller
        ("wrong counter buffer length: " ++ toString buffer.length ++ " (configured " ++
          toString s.length ++ ")")
        (s.link.collectCounters s.files caller buffer)
  /-- The file of the crash log has all that was written, so `Evidence.file` says that the line
  comes behind it. -/
  intact : undisturbed → s.Intact

/-- `EndsOnRecord` holds in every state that a link can reach alive, whatever happens to the files
and the host in between. -/
theorem endsOnRecord_of_run [Host η] {settings : Settings} {parts : Parts η} {link : Link η}
    (hlink : (create settings parts).value = .ok link) (files : FileSystem)
    (ops : List (Operation η)) (hlive : ((start link files).run ops).ended = false) :
    ((start link files).run ops).EndsOnRecord settings parts.processId
      ((start link files).Undisturbed ops) := by
  obtain rfl := eq_fresh hlink
  obtain ⟨sound, hintact⟩ := (sound_start settings parts files).run ops hlive
  generalize (start (fresh settings parts) files).run ops = s at sound hintact hlive
  -- Both ways to abort are `fatal` with a text, for which there is `evidence_fatal`.
  have hevidence : ∀ (caller : Caller) (buffer : List Int64), buffer.length ≠ s.length →
      s.link.collectCounters s.files caller buffer =
        s.link.fatal s.files caller ("wrong counter buffer length: " ++ toString buffer.length ++
          " (configured " ++ toString s.length ++ ")") := by
    intro caller buffer hbuffer
    rw [← sound.length_eq] at hbuffer ⊢
    exact collectCounters_of_length_ne hbuffer s.files caller
  have hnotFound : ∀ (caller : Caller) {fault : LibraryFault}, s.link.loader.library = none →
      s.link.loader.resolve s.files = .error fault →
      s.link.getLibrary s.files caller true =
        s.link.fatal s.files caller (LibraryFault.notFound settings.libraryPath).message := by
    intro caller fault hlibrary hresolve
    rw [getLibrary_of_none hlibrary, Library.Loader.load_of_not_found hlibrary hresolve,
      Library.Loader.resolve_eq_error hresolve, sound.searchPath_eq]
    rfl
  exact
    { library_aborts_iff := s.link.getLibrary_eq_aborted_iff s.files
      library_none_iff := s.link.getLibrary_eq_none_iff s.files
      library_cached := fun caller wanted library hlibrary =>
        getLibrary_of_some hlibrary s.files caller wanted
      library_opened := fun caller path handle hlibrary hresolve hanswer => by
        rw [getLibrary_of_none hlibrary,
          Library.Loader.load_of_opened hlibrary hresolve hanswer]
        exact ⟨rfl, rfl⟩
      library_missing := fun caller fault hlibrary hresolve hnone => by
        rw [hnotFound caller hlibrary hresolve, hnone]
        exact evidence_fatal sound.kept sound.follows s.files caller _
      library_notFound := fun caller fault dirs hlibrary hresolve hsome => by
        rw [hnotFound caller hlibrary hresolve, hsome]
        exact evidence_fatal sound.kept sound.follows s.files caller _
      library_refused := fun caller path reason hlibrary hresolve hanswer => by
        rw [getLibrary_of_none hlibrary,
          Library.Loader.load_of_refused hlibrary hresolve hanswer]
        -- The attempt has been counted, which is no matter to the crash log.
        have hkept : ({ s.link with loader.attempts := s.link.loader.attempts + 1 } :
            Link η).crash.Kept s.written := sound.kept
        exact evidence_fatal hkept sound.follows s.files caller _
      length_eq := sound.length_eq
      collect_aborts_iff := fun caller buffer => by
        by_cases hbuffer : buffer.length = s.length
        · rw [collectCounters_of_length_eq (hbuffer.trans sound.length_eq.symm)]
          exact iff_of_false nofun fun hne => hne hbuffer
        · rw [hevidence caller buffer hbuffer]
          exact iff_of_true rfl hbuffer
      collect_sums := fun caller buffer hbuffer =>
        collectCounters_of_length_eq (hbuffer.trans sound.length_eq.symm) s.files caller
      collect_refused := fun caller buffer hbuffer => by
        rw [hevidence caller buffer hbuffer]
        exact ⟨rfl, rfl, evidence_fatal sound.kept sound.follows s.files caller _⟩
      intact := fun hundisturbed => hintact hundisturbed (intact_start settings parts files) }

/-- The crash log is in `/err`, and the library is looked for in `/usr`. -/
def ordinarySettings : Settings :=
  { libraryPath := some "/usr", libraryDir := "/", counterSize := 4, crashFile := some "/err" }

/-- Parts whose opener is `busy` for the first request. -/
def ordinaryParts : Parts ScriptedHost := ⟨{}, .scripted [some "busy"], .stdout, "1"⟩

/-- A thread counts, a line is written to the crash log, and the counters are cut down to two. -/
def ordinaryDay : List (Operation ScriptedHost) :=
  [.chore (.attach (.main "0") "worker" .managed), .chore (.add 0 1 5),
    .fatalLog (.main "1") "x\n".toUTF8, .resizeCounters 2]

/-- Files among which there is a library in `/usr`. -/
def filesWithLibrary : FileSystem :=
  { nodes := [(["usr"], .directory), (["usr", "libjitcompiler.so"], .file 0 .empty)] }

/-- `endsOnRecord_of_run` applies to `ordinaryDay`. At its end a buffer of four is too long, and the
library is missing, or it is there in `filesWithLibrary` and not opened. -/
theorem endsOnRecord_of_ordinaryDay :
    ∃ link s s',
      (create ordinarySettings ordinaryParts).value = .ok link ∧
      (start link {}).run ordinaryDay = s ∧ s.ended = false ∧
      s.EndsOnRecord ordinarySettings "1" ((start link {}).Undisturbed ordinaryDay) ∧
      (s.link.collectCounters s.files (.main "2") [0, 0, 0, 0]).state.2.contentAt ["err"] =
        some ("x\n# Fatal error in compiler bridge: wrong counter buffer length: 4 " ++
          "(configured 2)\n").toUTF8 ∧
      (s.link.getLibrary s.files (.main "2") true).state.2.contentAt ["err"] =
        some ("x\n# Fatal error in compiler bridge: unable to create path to compiler shared " ++
          "library based on value of native library path (/usr)\n").toUTF8 ∧
      (start link filesWithLibrary).run ordinaryDay = s' ∧ s'.ended = false ∧
      s'.EndsOnRecord ordinarySettings "1"
        ((start link filesWithLibrary).Undisturbed ordinaryDay) ∧
      (s'.link.getLibrary s'.files (.main "2") true).state.2.contentAt ["err"] =
        some ("x\n# Fatal error in compiler bridge: unable to load compiler shared library from " ++
          "/usr/libjitcompiler.so: busy\n").toUTF8 := by
  have hlink : (create ordinarySettings ordinaryParts).value = .ok (fresh _ _) := rfl
  exact ⟨_, _, _, hlink, rfl, by decide, endsOnRecord_of_run hlink {} ordinaryDay (by decide),
    by decide, by decide +kernel, rfl, by decide,
    endsOnRecord_of_run hlink filesWithLibrary ordinaryDay (by decide), by decide +kernel⟩

end Session

end CompilerLink.Link.Service
