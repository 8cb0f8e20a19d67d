import CompilerLink.Proofs.Library.Desk
import CompilerLink.Proofs.Lists

/-! # Runs of a loader

A `Library.Session` is a loader in use, with its desk, the event log, the files, the link's lock and
threads that race for the library. A racer looks for the library without the lock first, and if it
sees none, it has the lock some time later. Every `Operation` is carried out by `Session.perform`,
with the files changed and the lock poisoned at any time in between.

`Status` says how things stand: either all requests were refused and nothing else has happened, or
the last one was not and the library is there. `Sound` joins this to the answers given, and holds
after any run by `sound_run`. -/

namespace CompilerLink.Library

/-- A thread that wants the library. -/
inductive Racer where
  | arriving
  /-- It saw no library, and waits for the lock. -/
  | waiting
  | done (answer : Except LibraryFault Loaded)

/-- What can happen to a loader in use. -/
inductive Operation where
  | get (caller : Caller) (wanted : Bool)
  | load (caller : Caller)
  | cached
  | resolve
  /-- The files become any others. -/
  | change (files : FileSystem)
  | poison
  /-- Racer `k` looks for the library. -/
  | look (k : Nat)
  /-- Racer `k` has the lock. -/
  | enter (k : Nat) (caller : Caller)

/-- An answer that was given. -/
inductive Entry where
  | got (wanted : Bool) (answer : Except LibraryFault (Option Loaded))
  | loaded (answer : Except LibraryFault Loaded)
  | saw (answer : Option Loaded)
  | found (answer : Except LibraryFault String)

namespace Entry

/-- The library that was given. -/
def library? : Entry → Option Loaded
  | got _ (.ok library?) => library?
  | loaded (.ok library) => some library
  | saw library? => library?
  | _ => none

/-- Why there was no library to be had. -/
def failure? : Entry → Option LibraryFault
  | got _ answer => Library.failure? answer
  | loaded answer => Library.failure? answer
  | _ => none

def refusal? (entry : Entry) : Option (String × String) := entry.failure?.bind Library.refusal?

end Entry

/-- A loader in use. -/
structure Session where
  loader : Loader
  desk : Desk
  log : EventLog
  files : FileSystem
  lock : Lock := {}
  racers : List Racer
  emitted : List Emission := []
  /-- The answers, newest first. -/
  record : List Entry := []

namespace Session

/-- The beginning of a run in which a number of threads race for the library. -/
def start (loader : Loader) (log : EventLog) (files : FileSystem) (racers : Nat) : Session where
  loader
  desk := { opener := loader.opener }
  log
  files
  racers := List.replicate racers .arriving

/-- What a call leaves behind. -/
def after {α : Type} (s : Session) (o : Outcome (Loader × Desk × EventLog) α) (entry : Entry) :
    Session :=
  { s with
    loader := o.state.1
    desk := o.state.2.1
    log := o.state.2.2
    emitted := s.emitted ++ o.emitted
    record := entry :: s.record }

/-- Carry out an operation; `look` and `enter` are the two halves of a racer's `get`. -/
def perform (s : Session) : Operation → Session
  | .get caller wanted =>
    let done := s.loader.getAt s.desk s.log s.files caller wanted s.lock
    s.after done (.got wanted done.value)
  | .load caller =>
    let done := s.loader.loadAt s.desk s.log s.files caller s.lock.hold
    s.after done (.loaded done.value)
  | .cached => { s with record := .saw s.loader.library :: s.record }
  | .resolve => { s with record := .found (s.loader.resolve s.files) :: s.record }
  | .change files => { s with files }
  | .poison => { s with lock := { poisoned := true } }
  | .look k =>
    match s.racers[k]?, s.loader.library with
    | some .arriving, some library =>
      { s with
        racers := s.racers.set k (.done (.ok library))
        record := .got true (.ok (some library)) :: s.record }
    | some .arriving, none => { s with racers := s.racers.set k .waiting }
    | _, _ => s
  | .enter k caller =>
    match s.racers[k]? with
    | some .waiting =>
      let done := s.loader.loadAt s.desk s.log s.files caller s.lock.hold
      { s.after done (.got true (done.value.map some)) with
        racers := s.racers.set k (.done done.value) }
    | _ => s

def run (s : Session) (operations : List Operation) : Session := operations.foldl perform s

end Session

/-! ### How things stand -/

variable {l l' : Loader} {log log' : EventLog} {desk : Desk} {emitted : List Emission}
variable {fs : FileSystem} {caller : Caller}

/-- How things stand if the loader was `l` and the event log was `log` at the beginning. -/
inductive Status (l : Loader) (log : EventLog) :
    Loader → Desk → EventLog → List Emission → Prop where
  /-- All requests were refused. -/
  | closed (desk : Desk) (hrefused : ∀ r ∈ desk.requests, r.refusal?.isSome) :
      Status l log { l with attempts := desk.requests.length } desk log []
  /-- The last request was not, and has been reported. -/
  | opened (desk : Desk) {earlier : List Request} {files : FileSystem} (library : Loaded)
      (caller : Caller)
      (hrequests : desk.requests = ⟨files, library.path, .ok library.handle⟩ :: earlier)
      (hrefused : ∀ r ∈ earlier, r.refusal?.isSome) :
      Status l log { l with library := some library, attempts := desk.requests.length } desk
        (log.event caller 1 (Loader.loadedMessage library.path)).state
        ((log.event caller 1 (Loader.loadedMessage library.path)).emitted ++
          [Loader.loadedRemark library.path])

/-- All requests were for the file that `resolve` found, and were answered as the opener answers. -/
def Desk.Honest (l : Loader) (desk : Desk) : Prop :=
  desk.opener = l.opener ∧ ∀ r earlier, r :: earlier <:+ desk.requests →
    l.resolve r.files = .ok r.path ∧ r.answer = l.opener earlier.length r.files r.path

namespace Status

/-- `Status` does not change what `resolve` finds. -/
theorem resolve_eq (h : Status l log l' desk log' emitted) (fs : FileSystem) :
    l'.resolve fs = l.resolve fs := by
  cases h <;> rfl

/-- `Status` has every request counted. -/
theorem attempts_eq (h : Status l log l' desk log' emitted) :
    l'.attempts = desk.requests.length := by
  cases h <;> rfl

/-- `Status` does not change the opener. -/
theorem opener_eq (h : Status l log l' desk log' emitted) : l'.opener = l.opener := by
  cases h <;> rfl

/-- `Status` without a library is `closed`: nothing has happened but for requests that
were refused. -/
theorem of_none (h : Status l log l' desk log' emitted) (hlibrary : l'.library = none) :
    (∀ r ∈ desk.requests, r.refusal?.isSome) ∧ l' = { l with attempts := desk.requests.length } ∧
      log' = log ∧ emitted = [] := by
  cases h with
  | closed _ hrefused => exact ⟨hrefused, rfl, rfl, rfl⟩
  | opened => cases hlibrary

/-- `Status` with a library is `opened`: the library came of the last request, which
was reported. -/
theorem of_some (h : Status l log l' desk log' emitted) (hnone : l.library = none)
    {library : Loaded} (hlibrary : l'.library = some library) :
    ∃ files earlier caller,
      desk.requests = ⟨files, library.path, .ok library.handle⟩ :: earlier ∧
        (∀ r ∈ earlier, r.refusal?.isSome) ∧
        l' = { l with library := some library, attempts := desk.requests.length } ∧
        log' = (log.event caller 1 (Loader.loadedMessage library.path)).state ∧
        emitted = (log.event caller 1 (Loader.loadedMessage library.path)).emitted ++
          [Loader.loadedRemark library.path] := by
  cases h with
  | closed =>
    -- A closed loader has the library it had at the beginning, which is none.
    rw [hnone] at hlibrary
    cases hlibrary
  | @opened _ earlier files other caller hrequests hrefused =>
    obtain rfl : other = library := Option.some.inj hlibrary
    exact ⟨files, earlier, caller, hrequests, hrefused, rfl, rfl, rfl⟩

theorem loads (h : Status l log l' desk log' emitted)
    {o : Outcome (Loader × Desk × EventLog) (Except LibraryFault Loaded)}
    (hloads : l'.Loads desk log' fs caller o) :
    Status l log o.state.1 o.state.2.1 o.state.2.2 (emitted ++ o.emitted) := by
  cases hloads with
  | kept hlibrary =>
    rw [List.append_nil]
    exact h
  | notFound hlibrary hresolve =>
    rw [List.append_nil]
    exact h
  | @refused path reason hlibrary hresolve hanswer =>
    -- There was no library, so all requests before this one were refused too.
    rw [List.append_nil]
    cases h with
    | closed _ hrefused =>
      refine closed { desk with requests := ⟨fs, path, .error reason⟩ :: desk.requests }
        fun r hr => ?_
      rcases List.mem_cons.1 hr with rfl | hr
      · rfl
      · exact hrefused r hr
    | opened => cases hlibrary
  -- A library is opened only where there was none, so this is the first request to be granted.
  | @opened path handle hlibrary hresolve hanswer =>
    cases h with
    | closed _ hrefused =>
      exact opened { desk with requests := ⟨fs, path, .ok handle⟩ :: desk.requests }
        ⟨handle, path⟩ caller rfl hrefused
    | opened => cases hlibrary

end Status

theorem Desk.Honest.loads (h : desk.Honest l) (hresolve_eq : l'.resolve fs = l.resolve fs)
    {o : Outcome (Loader × Desk × EventLog) (Except LibraryFault Loaded)}
    (hloads : l'.Loads desk log fs caller o) : o.state.2.1.Honest l := by
  -- A request is honest if it was for the file that was found and had the opener's answer.
  have hcons : ∀ path answer, l'.resolve fs = .ok path →
      desk.opener desk.requests.length fs path = answer →
      Desk.Honest l { desk with requests := ⟨fs, path, answer⟩ :: desk.requests } := by
    intro path answer hresolve hanswer
    rw [h.1] at hanswer
    exact ⟨h.1, forall_suffix_cons ⟨hresolve_eq ▸ hresolve, hanswer.symm⟩ h.2⟩
  cases hloads with
  | kept hlibrary => exact h
  | notFound hlibrary hresolve => exact h
  | refused hlibrary hresolve hanswer => exact hcons _ _ hresolve hanswer
  | opened hlibrary hresolve hanswer => exact hcons _ _ hresolve hanswer

/-! ### Every operation -/

namespace Session

variable {s : Session}

/-- How things stand, and the answers that were given so far. -/
structure Sound (l : Loader) (log : EventLog) (s : Session) : Prop where
  status : Status l log s.loader s.desk s.log s.emitted
  honest : s.desk.Honest l
  /-- Every library that was given is the one that the loader has. -/
  library_eq : ∀ entry ∈ s.record, ∀ library ∈ entry.library?, s.loader.library = some library
  /-- The refusals that were told are those at the desk. -/
  refusals_eq : s.record.filterMap Entry.refusal? = s.desk.requests.filterMap Request.refusal?
  /-- Nobody who wanted the library was told that there is none. -/
  not_none : .got true (.ok none) ∉ s.record
  /-- Right after a failure there is no library. -/
  failed : ∀ entry ∈ s.record.head?, ∀ fault ∈ entry.failure?, s.loader.library = none
  /-- Every racer that is done has its answer in the record. -/
  raced : ∀ (k : Nat) (answer : Except LibraryFault Loaded),
    s.racers[k]? = some (.done answer) → .got true (answer.map some) ∈ s.record

/-- `Sound` is preserved by an answer for which nothing is loaded. -/
theorem Sound.note (h : s.Sound l log) (entry : Entry) (hfailure : entry.failure? = none)
    (hlibrary : ∀ library ∈ entry.library?, s.loader.library = some library)
    (hentry : entry ≠ .got true (.ok none)) :
    { s with record := entry :: s.record }.Sound l log where
  status := h.status
  honest := h.honest
  library_eq other hother library := by
    rcases List.mem_cons.1 hother with rfl | hother
    · exact hlibrary library
    · exact h.library_eq other hother library
  refusals_eq := by
    -- No failure means no refusal, so the count at the desk is not touched.
    rw [List.filterMap_cons_none (by rw [Entry.refusal?, hfailure]; rfl)]
    exact h.refusals_eq
  not_none hmem := by
    rcases List.mem_cons.1 hmem with heq | hmem
    · exact hentry heq.symm
    · exact h.not_none hmem
  failed other hother fault hfault := by
    obtain rfl : entry = other := by simpa using hother
    simp [hfailure] at hfault
  raced k answer hk := List.mem_cons_of_mem _ (h.raced k answer hk)

/-- `Sound` is preserved by an answer that comes of `Loads`. -/
theorem Sound.after (h : s.Sound l log)
    {o : Outcome (Loader × Desk × EventLog) (Except LibraryFault Loaded)}
    (hloads : s.loader.Loads s.desk s.log s.files caller o) {entry : Entry}
    (hfailure : entry.failure? = failure? o.value) (hlibrary : entry.library? = o.value.toOption)
    (hentry : entry ≠ .got true (.ok none)) : (s.after o entry).Sound l log where
  status := h.status.loads hloads
  honest := h.honest.loads (h.status.resolve_eq s.files) hloads
  library_eq other hother library hgiven := by
    rcases List.mem_cons.1 hother with rfl | hother
    · rw [hlibrary] at hgiven
      exact hloads.library_eq hgiven
    · exact hloads.library_kept (h.library_eq other hother library hgiven)
  refusals_eq := by
    show (entry :: s.record).filterMap Entry.refusal? =
      o.state.2.1.requests.filterMap Request.refusal?
    -- The desk has one refusal more exactly if the answer tells of one.
    rw [hloads.refusals_eq, ← hfailure, ← h.refusals_eq, ← Entry.refusal?]
    cases hentry : entry.refusal? with
    | none => rw [List.filterMap_cons_none hentry]; rfl
    | some refusal => rw [List.filterMap_cons_some hentry]; rfl
  not_none hmem := by
    rcases List.mem_cons.1 hmem with heq | hmem
    · exact hentry heq.symm
    · exact h.not_none hmem
  failed other hother fault hfault := by
    obtain rfl : entry = other := by simpa [Session.after] using hother
    rw [hfailure] at hfault
    exact hloads.library_of_failure hfault
  raced k answer hk := List.mem_cons_of_mem _ (h.raced k answer hk)

/-- `Sound` is preserved when a racer comes to another place, with its answer in the record if it is
done. -/
theorem Sound.race (h : s.Sound l log) (k : Nat) (racer : Racer)
    (hdone : ∀ answer, racer = .done answer → .got true (answer.map some) ∈ s.record) :
    { s with racers := s.racers.set k racer }.Sound l log where
  status := h.status
  honest := h.honest
  library_eq := h.library_eq
  refusals_eq := h.refusals_eq
  not_none := h.not_none
  failed := h.failed
  raced j answer hj := by
    rcases getElem?_set_eq_some hj with ⟨rfl, heq⟩ | ⟨-, hold⟩
    · exact hdone answer heq.symm
    · exact h.raced j answer hold

/-! An answer to one who wants the library says what the load came to. -/

/-- The entry of a load has the failure of the load. -/
theorem failure?_got (answer : Except LibraryFault Loaded) :
    (Entry.got true (answer.map some)).failure? = failure? answer := by
  cases answer <;> rfl

/-- The entry of a load has the library of the load. -/
theorem library?_got (answer : Except LibraryFault Loaded) :
    (Entry.got true (answer.map some)).library? = answer.toOption := by
  cases answer <;> rfl

/-- `loaded` has the library of the load, as `got` has. -/
theorem library?_loaded (answer : Except LibraryFault Loaded) :
    (Entry.loaded answer).library? = answer.toOption := by
  cases answer <;> rfl

/-- No load answers `.ok none`. -/
theorem got_ne_none (answer : Except LibraryFault Loaded) :
    Entry.got true (answer.map some) ≠ .got true (.ok none) := by
  cases answer <;> simp [Except.map]

/-- `Sound` is preserved by every operation. -/
theorem Sound.perform (h : s.Sound l log) (operation : Operation) :
    (s.perform operation).Sound l log := by
  -- What loads goes by `Sound.after`, what only looks by `Sound.note`, and racers by `Sound.race`
  -- besides.
  cases operation with
  | get caller wanted =>
    cases wanted with
    | true =>
      rw [Session.perform, Loader.getAt_true]
      exact h.after (s.loader.loads_loadAt ..) (failure?_got _) (library?_got _) (got_ne_none _)
    | false =>
      rw [Session.perform, Loader.getAt_false, Session.after, List.append_nil]
      exact h.note _ rfl (fun library hlibrary => hlibrary) nofun
  | load caller =>
    exact h.after (s.loader.loads_loadAt ..) rfl (library?_loaded _) nofun
  | cached => exact h.note _ rfl (fun library hlibrary => hlibrary) nofun
  | resolve => exact h.note _ rfl nofun nofun
  | change files => exact { h with }
  | poison => exact { h with }
  | look k =>
    rw [Session.perform]
    split
    · rename_i library hracer hlibrary
      have hnote := h.note (.got true (.ok (some library))) rfl
        (fun other hother => by cases hother; exact hlibrary) nofun
      refine hnote.race k (.done (.ok library)) fun answer heq => ?_
      cases heq
      exact List.mem_cons_self
    · exact h.race k .waiting nofun
    · exact h
  | enter k caller =>
    rw [Session.perform]
    split
    · have hafter := h.after (s.loader.loads_loadAt s.desk s.log s.files caller s.lock.hold)
        (failure?_got _) (library?_got _) (got_ne_none _)
      refine hafter.race k _ fun answer heq => ?_
      cases heq
      exact List.mem_cons_self
    · exact h

theorem Sound.run (h : s.Sound l log) (operations : List Operation) :
    (s.run operations).Sound l log := by
  induction operations generalizing s with
  | nil => exact h
  | cons operation operations ih => exact ih (h.perform operation)

theorem sound_start (hattempts : l.attempts = 0) (log : EventLog) (fs : FileSystem)
    (racers : Nat) : (start l log fs racers).Sound l log where
  status := by
    have hclosed : Status l log { l with attempts := 0 } { opener := l.opener } log [] :=
      .closed { opener := l.opener } nofun
    -- Nothing was attempted, so the loader is the closed one without requests.
    have hsame : { l with attempts := 0 } = l := by rw [← hattempts]
    rw [hsame] at hclosed
    exact hclosed
  honest := ⟨rfl, forall_suffix_nil⟩
  library_eq := nofun
  refusals_eq := rfl
  not_none := nofun
  failed := nofun
  raced k answer hk := by
    have hmem := List.mem_of_getElem? hk
    cases List.eq_of_mem_replicate hmem

/-! ### When nothing more happens -/

/-- The loader, the desk, the event log and what was let out. -/
def standing (s : Session) : Loader × Desk × EventLog × List Emission :=
  (s.loader, s.desk, s.log, s.emitted)

/-- If `loadAt` would leave all as it is, no operation changes `standing`. -/
theorem standing_perform_of_load
    (hload : ∀ caller held, ∃ answer, s.loader.loadAt s.desk s.log s.files caller held =
      ⟨answer, (s.loader, s.desk, s.log), []⟩)
    (operation : Operation) : (s.perform operation).standing = s.standing := by
  -- The operations that load leave all as it is by assumption, and the others never change
  -- `standing`.
  cases operation with
  | get caller wanted =>
    cases wanted with
    | true =>
      obtain ⟨answer, hanswer⟩ := hload caller s.lock.hold
      simp [perform, Loader.getAt_true, hanswer, Outcome.map, after, standing]
    | false => simp [perform, Loader.getAt_false, after, standing]
  | load caller =>
    obtain ⟨answer, hanswer⟩ := hload caller s.lock.hold
    simp [perform, hanswer, after, standing]
  | look k =>
    rw [perform]
    split <;> rfl
  | enter k caller =>
    obtain ⟨answer, hanswer⟩ := hload caller s.lock.hold
    rw [perform, hanswer]
    split
    · simp [after, standing]
    · rfl
  | _ => rfl

/-- Once the library is there, no operation changes `standing`. -/
theorem standing_perform {library : Loaded} (hlibrary : s.loader.library = some library)
    (operation : Operation) : (s.perform operation).standing = s.standing :=
  standing_perform_of_load (fun _ _ => ⟨.ok library, by simp [Loader.loadAt, hlibrary]⟩) operation

/-- As long as `resolve` fails, no operation changes `standing`. -/
theorem standing_perform_of_not_found {fault : LibraryFault}
    (hresolve : s.loader.resolve s.files = .error fault) (operation : Operation) :
    (s.perform operation).standing = s.standing := by
  cases hlibrary : s.loader.library with
  | some library => exact standing_perform hlibrary operation
  | none =>
    have hload : ∀ caller held, s.loader.loadAt s.desk s.log s.files caller held =
        ⟨.error fault, (s.loader, s.desk, s.log), []⟩ := by
      intro caller held
      simp [Loader.loadAt, hlibrary, hresolve]
    exact standing_perform_of_load (fun caller held => ⟨_, hload caller held⟩) operation

/-- Once the library is there, no run changes `standing`. -/
theorem standing_run {library : Loaded} (hlibrary : s.loader.library = some library)
    (operations : List Operation) : (s.run operations).standing = s.standing := by
  induction operations generalizing s with
  | nil => rfl
  | cons operation operations ih =>
    have hsame := standing_perform hlibrary operation
    have hloader : (s.perform operation).loader = s.loader := congrArg Prod.fst hsame
    exact (ih (hloader ▸ hlibrary)).trans hsame

end Session

end CompilerLink.Library
