import CompilerLink.Proofs.Library.Run

/-! # Races for the library

If nobody but the racers loads the library, and its file stays where it can be found, then each
refusal of the opener goes to one racer, and there is no other way to fail (`Contest`). So an opener
that refuses the first `k` requests and none after that is asked `k + 1` times, if there are enough
racers (`Contest.requests_eq`). -/

namespace CompilerLink.Library

namespace Racer

/-- How often the racer was refused. -/
def refused : Racer → Nat
  | done answer => ((failure? answer).bind refusal?).toList.length
  | _ => 0

/-- How often the racer was given the library. -/
def served : Racer → Nat
  | done answer => answer.toOption.toList.length
  | _ => 0

end Racer

/-- What can go on during a race, if the loader was `l` at its beginning. -/
def Operation.Fair (l : Loader) : Operation → Prop
  | get _ wanted => wanted = false
  | load _ => False
  | change files => ∃ path, l.resolve files = .ok path
  | _ => True

namespace Session

variable {s : Session} {l : Loader} {log : EventLog} {fs : FileSystem}

/-- Racers that are done were `refused` or `served`, and as many were refused as requests. -/
structure Contest (l : Loader) (s : Session) : Prop where
  /-- The file can be found. -/
  present : ∃ path, l.resolve s.files = .ok path
  /-- Each refusal at the desk went to one racer. -/
  refused_eq : (s.racers.map Racer.refused).sum =
    (s.desk.requests.filterMap Request.refusal?).length
  /-- Some racer was served iff there is a library. -/
  served_pos : 0 < (s.racers.map Racer.served).sum ↔ s.loader.library ≠ none
  /-- A racer that is done was refused or served, one of the two. -/
  done : ∀ answer, .done answer ∈ s.racers →
    (Racer.done answer).refused + (Racer.done answer).served = 1

/-- `Contest` holds at the `start`, where no racer is done. -/
theorem contest_start {path : String} (hpresent : l.resolve fs = .ok path)
    (hnone : l.library = none) (log : EventLog) (racers : Nat) :
    (start l log fs racers).Contest l where
  present := ⟨path, hpresent⟩
  refused_eq := by simp [start, Racer.refused]
  served_pos := by simp [start, Racer.served, hnone]
  done answer hmem := by cases List.eq_of_mem_replicate hmem

/-- `Contest` is preserved when racer `k` is done, if its answer accounts for what changed at the
desk. -/
theorem Contest.settle (h : s.Contest l) {k : Nat} {racer : Racer}
    (hracer : s.racers[k]? = some racer) (hplace : racer.refused = 0 ∧ racer.served = 0)
    {s' : Session} {answer : Except LibraryFault Loaded}
    (hracers : s'.racers = s.racers.set k (.done answer)) (hfiles : s'.files = s.files)
    (hone : (Racer.done answer).refused + (Racer.done answer).served = 1)
    (hrequests : (s'.desk.requests.filterMap Request.refusal?).length =
      (Racer.done answer).refused + (s.desk.requests.filterMap Request.refusal?).length)
    (hlibrary : s'.loader.library ≠ none ↔
      s.loader.library ≠ none ∨ 0 < (Racer.done answer).served) : s'.Contest l where
  present := hfiles ▸ h.present
  refused_eq := by
    -- All other racers count as before.
    have hsum := sum_map_set (f := Racer.refused) hracer (.done answer)
    have hbefore := h.refused_eq
    rw [hracers]
    omega
  served_pos := by
    have hsum := sum_map_set (f := Racer.served) hracer (.done answer)
    have hbefore := h.served_pos
    rw [hracers, hlibrary, ← hbefore]
    omega
  done other hmem := by
    rw [hracers] at hmem
    -- A racer that was done before, or the one that is done now.
    rcases List.mem_or_eq_of_mem_set hmem with hold | heq
    · exact h.done other hold
    · rw [heq]
      exact hone

/-- `Contest` is preserved when racer `k` has seen no library and waits. -/
theorem Contest.wait (h : s.Contest l) {k : Nat} (hracer : s.racers[k]? = some .arriving) :
    { s with racers := s.racers.set k .waiting }.Contest l where
  present := h.present
  refused_eq := by
    -- A racer that waits counts neither as refused nor as served.
    have hsame : (s.racers.set k .waiting).map Racer.refused = s.racers.map Racer.refused :=
      map_set_eq_map hracer rfl
    simpa [hsame] using h.refused_eq
  served_pos := by
    have hsame : (s.racers.set k .waiting).map Racer.served = s.racers.map Racer.served :=
      map_set_eq_map hracer rfl
    simpa [hsame] using h.served_pos
  done answer hmem := by
    rcases List.mem_or_eq_of_mem_set hmem with hold | heq
    · exact h.done answer hold
    · cases heq

/-- `Contest` is preserved by what leaves the racers, the desk and the loader. -/
theorem Contest.same (h : s.Contest l) {s' : Session} (hracers : s'.racers = s.racers)
    (hfiles : ∃ path, l.resolve s'.files = .ok path) (hdesk : s'.desk = s.desk)
    (hloader : s'.loader = s.loader) : s'.Contest l where
  present := hfiles
  refused_eq := by
    rw [hracers, hdesk]
    exact h.refused_eq
  served_pos := by
    rw [hracers, hloader]
    exact h.served_pos
  done := by
    rw [hracers]
    exact h.done

/-- `Contest` is preserved by every operation that is `Fair`. -/
theorem Contest.perform (h : s.Contest l) (hs : s.Sound l log) {operation : Operation}
    (hfair : operation.Fair l) : (s.perform operation).Contest l := by
  -- Only racers come to the desk in a fair race, so all else leaves the counts.
  cases operation with
  | get caller wanted =>
    obtain rfl : wanted = false := hfair
    rw [Session.perform, Loader.getAt_false]
    exact h.same rfl h.present rfl rfl
  | load caller => exact hfair.elim
  | cached => exact h.same rfl h.present rfl rfl
  | resolve => exact h.same rfl h.present rfl rfl
  | change files => exact h.same rfl hfair rfl rfl
  | poison => exact h.same rfl h.present rfl rfl
  | look k =>
    rw [Session.perform]
    split
    · rename_i library hracer hlibrary
      refine h.settle hracer ⟨rfl, rfl⟩ rfl rfl rfl ?_ ?_
      · exact (Nat.zero_add _).symm
      · simp [hlibrary]
    · rename_i hracer hlibrary
      exact h.wait hracer
    · exact h
  | enter k caller =>
    rw [Session.perform]
    split
    · rename_i hracer
      have hloads := s.loader.loads_loadAt s.desk s.log s.files caller s.lock.hold
      have hpresent : ∃ path, s.loader.resolve s.files = .ok path := by
        rw [hs.status.resolve_eq]
        exact h.present
      refine h.settle hracer ⟨rfl, rfl⟩ rfl rfl (hloads.one hpresent) ?_ hloads.library_iff
      have hrequests := congrArg List.length hloads.refusals_eq
      rw [List.length_append] at hrequests
      exact hrequests
    · exact h

/-- `Contest` is preserved by a run of operations that are `Fair`. -/
theorem Contest.run (h : s.Contest l) (hs : s.Sound l log) {operations : List Operation}
    (hfair : ∀ operation ∈ operations, operation.Fair l) : (s.run operations).Contest l := by
  induction operations generalizing s with
  | nil => exact h
  | cons operation operations ih =>
    have hfirst := h.perform hs (hfair operation List.mem_cons_self)
    exact ih hfirst (hs.perform operation) fun other hother =>
      hfair other (List.mem_cons_of_mem _ hother)

/-! ### The end of a race -/

end Session

/-- An opener that refuses the first `k` requests, whatever they are, and none after that. -/
def Opener.Relents (opener : Opener) (k : Nat) : Prop :=
  ∀ asked fs path, (∃ reason, opener asked fs path = .error reason) ↔ asked < k

/-- At an `Honest` desk, the requests refused are those with fewer than `k` before them. -/
theorem Desk.Honest.refusal?_isSome_iff {l : Loader} {desk : Desk} (h : desk.Honest l) {k : Nat}
    (hrelents : l.opener.Relents k) {r : Request} {earlier : List Request}
    (hsuffix : r :: earlier <:+ desk.requests) : r.refusal?.isSome ↔ earlier.length < k := by
  rw [← hrelents earlier.length r.files r.path, ← (h.2 r earlier hsuffix).2, Request.refusal?]
  cases r.answer <;> simp

/-- At an `Honest` desk, requests that were all refused are at most `k`. -/
theorem length_le_of_refused {l : Loader} {desk : Desk} (h : desk.Honest l) {k : Nat}
    (hrelents : l.opener.Relents k) {requests : List Request}
    (hsuffix : requests <:+ desk.requests) (hrefused : ∀ r ∈ requests, r.refusal?.isSome) :
    requests.length ≤ k := by
  cases requests with
  | nil => exact Nat.zero_le k
  | cons r earlier =>
    have hr := hrefused r List.mem_cons_self
    exact (h.refusal?_isSome_iff hrelents hsuffix).1 hr

/-- Requests that were all refused have a refusal each. -/
theorem length_refusals {requests : List Request} (hrefused : ∀ r ∈ requests, r.refusal?.isSome) :
    (requests.filterMap Request.refusal?).length = requests.length := by
  induction requests with
  | nil => rfl
  | cons r requests ih =>
    obtain ⟨refusal, hr⟩ := Option.isSome_iff_exists.1 (hrefused r List.mem_cons_self)
    rw [List.filterMap_cons_some hr, List.length_cons, List.length_cons,
      ih fun other hother => hrefused other (List.mem_cons_of_mem _ hother)]

/-- Racers that are all done are those `refused` and those `served`. -/
theorem length_eq_of_done {racers : List Racer}
    (hdone : ∀ racer ∈ racers, racer.refused + racer.served = 1) :
    racers.length = (racers.map Racer.refused).sum + (racers.map Racer.served).sum := by
  induction racers with
  | nil => rfl
  | cons racer racers ih =>
    have hfirst := hdone racer List.mem_cons_self
    have hrest := ih fun other hother => hdone other (List.mem_cons_of_mem _ hother)
    simp only [List.length_cons, List.map_cons, List.sum_cons]
    omega

/-- When all racers are done, up to `k` of them were `refused`, and one request more `served` all
others. -/
theorem Session.Contest.requests_eq {s : Session} {l : Loader} {log : EventLog}
    (h : s.Contest l) (hs : s.Sound l log) (hnone : l.library = none) {k : Nat}
    (hrelents : l.opener.Relents k) (hdone : ∀ racer ∈ s.racers, ∃ answer, racer = .done answer) :
    s.desk.requests.length = min s.racers.length (k + 1) ∧
      (s.racers.map Racer.refused).sum = min s.racers.length k ∧
      (s.racers.map Racer.served).sum = s.racers.length - k := by
  have hlength : s.racers.length = _ := length_eq_of_done fun racer hracer => by
    obtain ⟨answer, rfl⟩ := hdone racer hracer
    exact h.done answer hracer
  have hrefused := h.refused_eq
  have hserved := h.served_pos
  have hhonest := hs.honest
  have hstatus := hs.status
  generalize s.loader = l', s.desk = desk, s.log = log', s.emitted = emitted at *
  cases hstatus with
  | closed _ hall =>
    -- Nobody was served, so the opener has not relented.
    have hle := length_le_of_refused hhonest hrelents List.suffix_rfl hall
    have hzero : ¬ 0 < (s.racers.map Racer.served).sum := fun hpos => hserved.1 hpos hnone
    rw [length_refusals hall] at hrefused
    omega
  | @opened _ earlier files library caller hrequests hall =>
    -- The last request was not refused, so there were `k` before it.
    have hearlier : earlier <:+ desk.requests := hrequests ▸ List.suffix_cons _ earlier
    have hle := length_le_of_refused hhonest hrelents hearlier hall
    have hlast : ⟨files, library.path, .ok library.handle⟩ :: earlier <:+ desk.requests :=
      hrequests ▸ List.suffix_rfl
    have hnot : ¬ earlier.length < k := fun hlt => by
      have hsome := (hhonest.refusal?_isSome_iff hrelents hlast).2 hlt
      simp [Request.refusal?] at hsome
    have hpos : 0 < (s.racers.map Racer.served).sum := hserved.2 (Option.some_ne_none _)
    rw [hrequests, List.filterMap_cons_none rfl, length_refusals hall] at hrefused
    rw [hrequests, List.length_cons]
    omega

end CompilerLink.Library
