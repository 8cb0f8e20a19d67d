import CompilerLink.Proofs.Library.Race

/-! # The library is opened once

`Session.openedOnce_of_run` is what every run of a loader leaves, whatever is asked for, however the
opener answers, and whatever becomes of the files and the lock. -/

namespace CompilerLink.Library.Session

variable {l : Loader} {log : EventLog} {fs : FileSystem} {s : Session}

/-! ### Racers -/

theorem length_racers_perform (s : Session) (operation : Operation) :
    (s.perform operation).racers.length = s.racers.length := by
  cases operation with
  | look k =>
    rw [perform]
    split <;> simp
  | enter k caller =>
    rw [perform]
    split <;> simp
  | _ => rfl

theorem length_racers_run (s : Session) (operations : List Operation) :
    (s.run operations).racers.length = s.racers.length := by
  induction operations generalizing s with
  | nil => rfl
  | cons operation operations ih => exact (ih _).trans (s.length_racers_perform operation)

/-- A racer that has the lock as soon as it has looked makes one call of `get`. -/
theorem enter_look {k : Nat} (hracer : s.racers[k]? = some .arriving) (caller : Caller) :
    ((s.perform (.look k)).perform (.enter k caller)).standing =
        (s.perform (.get caller true)).standing ∧
      ((s.perform (.look k)).perform (.enter k caller)).record =
        (s.perform (.get caller true)).record := by
  have hlt : k < s.racers.length := (List.getElem?_eq_some_iff.1 hracer).1
  cases hlibrary : s.loader.library with
  | some library =>
    simp [perform, hracer, hlibrary, List.getElem?_set_self hlt, Loader.getAt, after, standing]
  | none =>
    simp [perform, hracer, hlibrary, List.getElem?_set_self hlt, Loader.getAt_true, after, standing,
      Outcome.map]

/-! ### Every run -/

/-- What operations leave if the loader was `l`, the event log `log` and the files `fs` at the
beginning, and a number of racers arrived. -/
structure OpenedOnce (l : Loader) (log : EventLog) (fs : FileSystem) (racers : Nat)
    (operations : List Operation) (s : Session) : Prop where
  /-- The loader has counted every request. -/
  attempts_eq : s.loader.attempts = s.desk.requests.length
  /-- Each request was for the file that `resolve` found, and had the answer that came next. -/
  honest : ∀ r earlier, r :: earlier <:+ s.desk.requests →
    l.resolve r.files = .ok r.path ∧ r.answer = l.opener earlier.length r.files r.path
  /-- If there is no library, all requests were refused and everything is as at the beginning. -/
  closed : s.loader.library = none →
    (∀ r ∈ s.desk.requests, r.refusal?.isSome) ∧
      s.loader = { l with attempts := s.desk.requests.length } ∧ s.log = log ∧ s.emitted = []
  /-- If there is one, the last request was the only one not to be refused, and was reported. -/
  opened : ∀ library, s.loader.library = some library → ∃ files earlier caller,
    s.desk.requests = ⟨files, library.path, .ok library.handle⟩ :: earlier ∧
      (∀ r ∈ earlier, r.refusal?.isSome) ∧
      s.loader = { l with library := some library, attempts := s.desk.requests.length } ∧
      s.log = (log.event caller 1
        ("loaded compiler shared library from " ++ library.path)).state ∧
      s.emitted = (log.event caller 1
        ("loaded compiler shared library from " ++ library.path)).emitted ++
          [Loader.loadedRemark library.path]
  /-- Once there is a library, nothing that is done later changes how things stand. -/
  forever : ∀ library, s.loader.library = some library → ∀ later,
    (s.run later).standing = s.standing
  /-- Whoever was given a library was given this one. -/
  library_eq : ∀ entry ∈ s.record, ∀ library ∈ entry.library?, s.loader.library = some library
  /-- So was every racer that is done and was served. -/
  raced : ∀ library, .done (.ok library) ∈ s.racers → s.loader.library = some library
  /-- Whoever wanted the library was given it or told why not. -/
  not_none : .got true (.ok none) ∉ s.record
  /-- The refusals that were told are those that the opener made, one each. -/
  refusals_eq : s.record.filterMap Entry.refusal? = s.desk.requests.filterMap Request.refusal?
  /-- Right after a failure there is no library. -/
  failed : ∀ entry ∈ s.record.head?, ∀ fault ∈ entry.failure?, s.loader.library = none
  /-- As long as `resolve` fails, no operation changes how things stand. -/
  not_found : ∀ fault, s.loader.resolve s.files = .error fault → ∀ operation,
    (s.perform operation).standing = s.standing
  /-- A `get` that does not want the library answers what there is, and loads nothing. -/
  not_wanted : ∀ caller, (s.perform (.get caller false)).standing = s.standing ∧
    (s.perform (.get caller false)).record = .got false (.ok s.loader.library) :: s.record
  /-- `loadAt` the desk is `load`. -/
  load_eq : ∀ caller, Loader.leaveDesk
    (s.loader.loadAt s.desk s.log s.files caller s.lock.hold) = s.loader.load s.log s.files caller
  /-- `getAt` the desk is `get`. -/
  get_eq : ∀ caller wanted, Loader.leaveDesk
    (s.loader.getAt s.desk s.log s.files caller wanted s.lock) =
      s.loader.get s.log s.files caller wanted
  /-- A racer that is not interrupted makes one call of `get`. -/
  enter_look : ∀ (k : Nat) (caller : Caller), s.racers[k]? = some .arriving →
    ((s.perform (.look k)).perform (.enter k caller)).standing =
        (s.perform (.get caller true)).standing ∧
      ((s.perform (.look k)).perform (.enter k caller)).record =
        (s.perform (.get caller true)).record
  /-- Racers who alone load a library that can be found all get it from one request, but for those
  who were refused before. -/
  race : ∀ k, l.opener.Relents k → (∃ path, l.resolve fs = .ok path) →
    (∀ operation ∈ operations, operation.Fair l) →
    (∀ racer ∈ s.racers, ∃ answer, racer = .done answer) →
    s.desk.requests.length = min racers (k + 1) ∧
      (s.racers.map Racer.refused).sum = min racers k ∧
      (s.racers.map Racer.served).sum = racers - k

/-- `OpenedOnce` holds after any operations, whatever the opener answers and whatever becomes of the
files and the lock. -/
theorem openedOnce_of_run (settings : Settings) (opener : Opener) (baseName : String)
    (log : EventLog) (fs : FileSystem) (racers : Nat) (operations : List Operation) :
    ((start { Loader.ofSettings settings opener with baseName } log fs racers).run
      operations).OpenedOnce { Loader.ofSettings settings opener with baseName } log fs racers
        operations := by
  generalize hl : { Loader.ofSettings settings opener with baseName } = l
  have hnone : l.library = none := hl ▸ rfl
  have hattempts : l.attempts = 0 := hl ▸ rfl
  have hstart := sound_start hattempts log fs racers
  have hs := hstart.run operations
  have hlength := length_racers_run (start l log fs racers) operations
  -- The race has an invariant of its own, for runs in which the file stays and nobody else loads.
  have hcontest : ∀ path, l.resolve fs = .ok path →
      (∀ operation ∈ operations, operation.Fair l) →
      ((start l log fs racers).run operations).Contest l :=
    fun path hpresent => (contest_start hpresent hnone log racers).run hstart
  generalize (start l log fs racers).run operations = s at *
  have hstatus := hs.status
  have hopener : s.desk.opener = s.loader.opener := hs.honest.1.trans hstatus.opener_eq.symm
  exact {
    attempts_eq := hstatus.attempts_eq
    honest := hs.honest.2
    closed := fun hlibrary => hstatus.of_none hlibrary
    opened := fun library hlibrary => hstatus.of_some hnone hlibrary
    forever := fun library hlibrary later => standing_run hlibrary later
    library_eq := hs.library_eq
    raced := fun library hmem => by
      obtain ⟨k, hk⟩ := List.mem_iff_getElem?.1 hmem
      exact hs.library_eq _ (hs.raced k _ hk) library rfl
    not_none := hs.not_none
    refusals_eq := hs.refusals_eq
    failed := hs.failed
    not_found := fun fault hresolve operation => standing_perform_of_not_found hresolve operation
    not_wanted := fun caller => by simp [perform, Loader.getAt_false, after, standing]
    load_eq := fun caller => Loader.loadAt_eq hopener hstatus.attempts_eq s.lock.hold
    get_eq := fun caller wanted => Loader.getAt_eq hopener hstatus.attempts_eq wanted s.lock
    enter_look := fun k caller hracer => enter_look hracer caller
    race := fun k hrelents hpresent hfair hdone => by
      obtain ⟨path, hpath⟩ := hpresent
      -- At the end of a fair race every racer is done, so the requests can be counted.
      have hcount := (hcontest path hpath hfair).requests_eq hs hnone hrelents hdone
      have hracers : s.racers.length = racers := by rw [hlength, start, List.length_replicate]
      rw [hracers] at hcount
      exact hcount }

/-- The opener refuses once, and a thread dies with the lock: two of three racers are served. -/
example :
    ((start { Loader.ofSettings { libraryDir := "/" } (.scripted [some "busy", none]) with
          baseName := "x" } .disabled { nodes := [(["libx.so"], .file 0 .empty)] } 3).run
        [.look 0, .look 1, .enter 1 (.main "0"), .poison, .enter 0 (.main "1"), .look 2]).racers.map
      Racer.served = [1, 0, 1] := by
  decide

end CompilerLink.Library.Session
