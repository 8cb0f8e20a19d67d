import Mathlib
import CompilerLink.Proofs.Event.Run

/-! # What the rings keep

A ring of capacity `n` has the last `n` of the events that were put into it, by
`EventRing.toList_pushAll`. Which calls go to which ring depends on their level and on the limit of
the log, so after any calls the two rings have the last of the calls of their levels:
`EventLog.retains_of_calls`. -/

namespace CompilerLink

/-! ### The last members of a list -/

/-- `rtake` of an append needs only the `rtake` of what was there before. -/
theorem rtake_rtake_concat {α : Type} (l : List α) (n : Nat) (a : α) :
    (l.rtake n ++ [a]).rtake n = (l ++ [a]).rtake n := by
  cases n with
  | zero => rw [List.rtake_zero, List.rtake_zero]
  | succ n =>
    rw [List.rtake_concat_succ, List.rtake_concat_succ, List.rtake, List.rtake, List.rtake,
      List.drop_drop, List.length_drop]
    congr 2
    omega

/-- `rtake n` has at most `n` members. -/
theorem length_rtake_le {α : Type} (l : List α) (n : Nat) : (l.rtake n).length ≤ n := by
  rw [List.rtake, List.length_drop]
  omega

/-- `rtake n` of a list that is not longer is the list. -/
theorem rtake_of_length_le {α : Type} {l : List α} {n : Nat} (h : l.length ≤ n) :
    l.rtake n = l := by
  rw [List.rtake, Nat.sub_eq_zero_of_le h, List.drop_zero]

namespace EventRing

/-! ### One ring -/

/-- `push` events into a ring in order. -/
def pushAll (r : EventRing) (events : List Event) : EventRing := events.foldl push r

@[simp] theorem capacity_push (r : EventRing) (e : Event) : (r.push e).capacity = r.capacity := by
  rw [push]
  split
  · rfl
  · split <;> rfl

/-- `push` puts a new event behind the others, and drops the oldest if there is one too many. -/
theorem toList_push {r : EventRing} (hfit : r.entries.size ≤ r.capacity) (e : Event) :
    (r.push e).entries.toList = (r.entries.toList ++ [e]).rtake r.capacity := by
  have hlength : r.entries.toList.length = r.entries.size := Array.length_toList
  rw [push]
  split
  · -- Nothing fits.
    rename_i hzero
    have hnone : r.entries.toList = [] := List.eq_nil_of_length_eq_zero (by omega)
    rw [hzero, List.rtake_zero, hnone]
  · split
    · -- The ring is full.
      rename_i hpos hfull
      have hone : r.entries.toList.length + 1 - r.capacity = 1 := by omega
      have hextract : (r.entries.extract 1 r.entries.size).toList = r.entries.toList.drop 1 := by
        rw [Array.toList_extract, List.extract_eq_take_drop, ← hlength, ← List.length_drop,
          List.take_length]
      rw [List.rtake, List.length_append, List.length_singleton, hone,
        List.drop_append_of_le_length (by omega), Array.toList_push, hextract]
    · rw [rtake_of_length_le (by rw [List.length_append, List.length_singleton]; omega),
        Array.toList_push]

/-- `pushAll` leaves the last events that fit, by `toList_push` and `rtake_rtake_concat`. -/
theorem toList_pushAll {r : EventRing} (hfit : r.entries.size ≤ r.capacity)
    (events : List Event) :
    (r.pushAll events).entries.toList = (r.entries.toList ++ events).rtake r.capacity := by
  induction events using List.reverseRecOn with
  | nil =>
    rw [List.append_nil, rtake_of_length_le (by rwa [Array.length_toList])]
    rfl
  | append_singleton events e ih =>
    have hcapacity : (r.pushAll events).capacity = r.capacity := by
      rw [pushAll]
      exact List.foldlRecOn events push (motive := fun r' => r'.capacity = r.capacity) rfl
        fun r' hr' e _ => (capacity_push r' e).trans hr'
    -- The ring stays within its capacity, so the next `push` is subject to `toList_push`.
    have hfit' : (r.pushAll events).entries.size ≤ (r.pushAll events).capacity := by
      rw [← Array.length_toList, ih, hcapacity]
      exact length_rtake_le _ _
    have hpush := toList_push hfit' e
    rw [ih, hcapacity, rtake_rtake_concat, List.append_assoc] at hpush
    rw [pushAll, List.foldl_append]
    exact hpush

end EventRing

namespace Settings

/-- `tenfold` again and again multiplies by a power of ten, but never beyond the largest word. -/
theorem repeat_tenfold (n k : Nat) :
    Nat.repeat tenfold (k + 1) n = min (2 ^ 64 - 1) (n * 10 ^ (k + 1)) := by
  induction k with
  | zero =>
    rw [Nat.repeat, Nat.repeat, tenfold, wordMax]
    omega
  | succ k ih =>
    rw [Nat.repeat, ih, tenfold, wordMax, Nat.pow_succ 10 (k + 1), ← Nat.mul_assoc]
    omega

/-- `verboseCapacity` in closed form, where there is a second ring. -/
theorem verboseCapacity_eq {s : Settings} (hlevel : 2 ≤ s.logLevel) :
    s.verboseCapacity = min (2 ^ 64 - 1) (s.eventCapacity * 10 ^ (min s.logLevel 4 - 1)) := by
  have hlog : s.logLevel = s.eventLevel := by
    rw [logLevel] at hlevel ⊢
    split at hlevel
    · rw [if_pos ‹_›]
    · omega
  rw [hlog] at hlevel ⊢
  obtain ⟨k, hk⟩ : ∃ k, min s.eventLevel 4 - 1 = k + 1 := ⟨min s.eventLevel 4 - 2, by omega⟩
  rw [verboseCapacity, maxEventLevel, hk, repeat_tenfold]

end Settings

namespace EventLog

/-! ### Both rings -/

/-- The entries for the first ring of a log with a limit. -/
def coarseOf (limit : Nat) (calls : List Call) : List Event :=
  (calls.filter fun c => c.isKept limit ∧ c.level = 1).map Call.entry

/-- The entries for the second ring. -/
def verboseOf (limit : Nat) (calls : List Call) : List Event :=
  (calls.filter fun c => c.isKept limit ∧ c.level ≠ 1).map Call.entry

theorem coarseOf_append (limit : Nat) (calls later : List Call) :
    coarseOf limit (calls ++ later) = coarseOf limit calls ++ coarseOf limit later := by
  rw [coarseOf, List.filter_append, List.map_append]
  rfl

theorem verboseOf_append (limit : Nat) (calls later : List Call) :
    verboseOf limit (calls ++ later) = verboseOf limit calls ++ verboseOf limit later := by
  rw [verboseOf, List.filter_append, List.map_append]
  rfl

/-- A single call has an entry in `coarseOf` iff it is kept and of level one. -/
theorem coarseOf_singleton (limit : Nat) (c : Call) :
    coarseOf limit [c] = if c.isKept limit ∧ c.level = 1 then [c.entry] else [] := by
  rw [coarseOf, List.filter_singleton]
  by_cases h : c.isKept limit = true ∧ c.level = 1 <;> simp [h]

/-- A single call has an entry in `verboseOf` iff it is kept and of another level. -/
theorem verboseOf_singleton (limit : Nat) (c : Call) :
    verboseOf limit [c] = if c.isKept limit ∧ c.level ≠ 1 then [c.entry] else [] := by
  rw [verboseOf, List.filter_singleton]
  by_cases h : c.isKept limit = true ∧ c.level ≠ 1 <;> simp [h]

/-- `coarseOf` has the calls of level one that are not mere traces. -/
theorem coarseOf_eq {limit : Nat} (hlimit : 1 ≤ limit) (calls : List Call) :
    coarseOf limit calls =
      (calls.filter fun c => c.kind ≠ .trace ∧ c.level = 1).map Call.entry := by
  -- At level 1 the limit does not matter, as it is at least 1.
  have hsame : ∀ c : Call, (c.isKept limit = true ∧ c.level = 1) ↔
      (c.kind ≠ .trace ∧ c.level = 1) := by
    intro c
    rw [Call.isKept_iff]
    constructor
    · rintro ⟨⟨hkind, -, -⟩, hone⟩
      exact ⟨hkind, hone⟩
    · rintro ⟨hkind, hone⟩
      exact ⟨⟨hkind, by omega, by omega⟩, hone⟩
  simp only [coarseOf, hsame]

/-- `verboseOf` has the calls of the levels from two to the limit that are not mere traces. -/
theorem verboseOf_eq (limit : Nat) (calls : List Call) :
    verboseOf limit calls =
      (calls.filter fun c => c.kind ≠ .trace ∧ 2 ≤ c.level ∧ c.level ≤ limit).map Call.entry := by
  -- A level that is positive and not 1 is 2 or more.
  have hsame : ∀ c : Call, (c.isKept limit = true ∧ c.level ≠ 1) ↔
      (c.kind ≠ .trace ∧ 2 ≤ c.level ∧ c.level ≤ limit) := by
    intro c
    rw [Call.isKept_iff]
    constructor
    · rintro ⟨⟨hkind, hpos, hle⟩, hone⟩
      exact ⟨hkind, by omega, hle⟩
    · rintro ⟨hkind, htwo, hle⟩
      exact ⟨⟨hkind, by omega, hle⟩, by omega⟩
  simp only [verboseOf, hsame]

/-- `perform` pushes the entry of a call into the ring of its level, or into none. -/
theorem rings_perform (log : EventLog) (c : Call) :
    (log.perform c).state.events = log.events.map (·.pushAll (coarseOf log.logLevel [c])) ∧
      (log.perform c).state.verbose = log.verbose.map (·.pushAll (verboseOf log.logLevel [c])) := by
  rw [state_perform, coarseOf_singleton, verboseOf_singleton]
  cases hkept : c.isKept log.logLevel with
  | false => simp [EventRing.pushAll]
  | true =>
    by_cases hlevel : c.level = 1
    · simp [hlevel, EventRing.pushAll, record, Call.entry]
    · simp [hlevel, EventRing.pushAll, record, Call.entry]

/-- `performAll` pushes `coarseOf` and `verboseOf` into the two rings. -/
theorem rings_performAll (log : EventLog) (calls : List Call) :
    (log.performAll calls).state.events = log.events.map (·.pushAll (coarseOf log.logLevel calls)) ∧
      (log.performAll calls).state.verbose =
        log.verbose.map (·.pushAll (verboseOf log.logLevel calls)) := by
  induction calls generalizing log with
  | nil => exact ⟨Option.map_id'.symm, Option.map_id'.symm⟩
  | cons c calls ih =>
    obtain ⟨hevents, hverbose⟩ := ih (log.perform c).state
    obtain ⟨hevents₁, hverbose₁⟩ := log.rings_perform c
    rw [(log.levels_perform c).1] at hevents hverbose
    -- What is pushed for the first call comes before what is pushed for the rest.
    have hcoarse₂ : coarseOf log.logLevel (c :: calls) = _ := coarseOf_append _ [c] calls
    have hverbose₂ : verboseOf log.logLevel (c :: calls) = _ := verboseOf_append _ [c] calls
    rw [state_performAll_cons, hevents, hverbose, hevents₁, hverbose₁, Option.map_map,
      Option.map_map, hcoarse₂, hverbose₂]
    simp only [Function.comp_def, EventRing.pushAll, List.foldl_append, and_self]

/-- A fresh log has the last of `coarseOf` and `verboseOf` after some calls. -/
theorem kept_performAll (s : Settings) (console : Console) (calls : List Call) :
    ((ofSettings s console).performAll calls).state.coarseEvents =
        (if 1 ≤ s.logLevel then (coarseOf s.logLevel calls).rtake s.eventCapacity else []) ∧
      ((ofSettings s console).performAll calls).state.verboseEvents =
        (if 2 ≤ s.logLevel then (verboseOf s.logLevel calls).rtake s.verboseCapacity else []) := by
  obtain ⟨hevents, hverbose⟩ := rings_performAll (ofSettings s console) calls
  have hfirst : (ofSettings s console).events =
      if 1 ≤ s.logLevel then some ⟨"Compiler Bridge Events", s.eventCapacity, #[]⟩ else none := rfl
  have hsecond : (ofSettings s console).verbose =
      if 2 ≤ s.logLevel then some ⟨"Verbose Compiler Bridge Events", s.verboseCapacity, #[]⟩
      else none := rfl
  have hlimit : (ofSettings s console).logLevel = s.logLevel := rfl
  -- Each ring starts empty, so it has the last of what was pushed.
  rw [coarseEvents, verboseEvents, hevents, hverbose, hfirst, hsecond, hlimit]
  constructor
  · split
    · exact EventRing.toList_pushAll (Nat.zero_le _) _
    · rfl
  · split
    · exact EventRing.toList_pushAll (Nat.zero_le _) _
    · rfl

/-- `kept_performAll` for one call more. -/
theorem kept_perform (s : Settings) (console : Console) (calls : List Call) (c : Call) :
    (((ofSettings s console).performAll calls).state.perform c).state.coarseEvents =
        (if 1 ≤ s.logLevel then
          (coarseOf s.logLevel calls ++ coarseOf s.logLevel [c]).rtake s.eventCapacity
        else []) ∧
      (((ofSettings s console).performAll calls).state.perform c).state.verboseEvents =
        (if 2 ≤ s.logLevel then
          (verboseOf s.logLevel calls ++ verboseOf s.logLevel [c]).rtake s.verboseCapacity
        else []) := by
  have hlater := kept_performAll s console (calls ++ [c])
  rw [(performAll_append _ calls [c]).1, coarseOf_append, verboseOf_append] at hlater
  exact hlater

/-- What a log has after some calls that keeps events of the levels up to `limit`, and `capacity` of
them in its first ring. -/
structure Retains (limit capacity : Nat) (calls : List Call) (log : EventLog) : Prop where
  /-- The first ring has the last `capacity` events of level one. -/
  coarse_eq : 1 ≤ limit → log.coarseEvents =
    ((calls.filter fun c => c.kind ≠ .trace ∧ c.level = 1).map Call.entry).rtake capacity
  /-- The second ring has the last events of the other levels up to `limit`, up to ten times as many
  for each level. -/
  verbose_eq : 2 ≤ limit → log.verboseEvents =
    ((calls.filter fun c => c.kind ≠ .trace ∧ 2 ≤ c.level ∧ c.level ≤ limit).map
      Call.entry).rtake (min (2 ^ 64 - 1) (capacity * 10 ^ (min limit 4 - 1)))
  /-- A log that keeps nothing has no first ring. -/
  no_coarse : limit = 0 → log.coarseEvents = []
  /-- A log that keeps level one at most has no second ring. -/
  no_verbose : limit ≤ 1 → log.verboseEvents = []
  /-- A mere trace, and a call of level zero or above `limit`, changes neither ring. -/
  ignored : ∀ c : Call, c.kind = .trace ∨ c.level = 0 ∨ limit < c.level →
    (log.perform c).state.coarseEvents = log.coarseEvents ∧
      (log.perform c).state.verboseEvents = log.verboseEvents
  /-- A call of level one takes nothing away but the oldest events of the first ring. -/
  coarse_evicts : ∀ c : Call, c.kind ≠ .trace → c.level = 1 → 1 ≤ limit →
    (log.perform c).state.coarseEvents =
        (log.coarseEvents ++ [c.entry]).rtake capacity ∧
      (log.perform c).state.verboseEvents = log.verboseEvents
  /-- A call of another level takes nothing away but the oldest events of the second ring. -/
  verbose_evicts : ∀ c : Call, c.kind ≠ .trace → 2 ≤ c.level → c.level ≤ limit →
    (log.perform c).state.verboseEvents = (log.verboseEvents ++ [c.entry]).rtake
        (min (2 ^ 64 - 1) (capacity * 10 ^ (min limit 4 - 1))) ∧
      (log.perform c).state.coarseEvents = log.coarseEvents

/-- `Retains` holds after any calls of a log that was made from any settings. -/
theorem retains_of_calls (s : Settings) (console : Console) (calls : List Call) :
    Retains (if s.logEvents then s.eventLevel else 0) s.eventCapacity calls
      ((ofSettings s console).performAll calls).state := by
  show Retains s.logLevel s.eventCapacity calls _
  obtain ⟨hcoarse, hverbose⟩ := kept_performAll s console calls
  -- `ignored` and the two evictions compare a log with itself one call later.
  have hnext := kept_perform s console calls
  generalize ((ofSettings s console).performAll calls).state = log at hcoarse hverbose hnext
  constructor
  · intro hlevel
    rw [hcoarse, if_pos hlevel, coarseOf_eq hlevel]
  · intro hlevel
    rw [hverbose, if_pos hlevel, verboseOf_eq, Settings.verboseCapacity_eq hlevel]
  · intro hlevel
    rw [hcoarse, if_neg (by omega)]
  · intro hlevel
    rw [hverbose, if_neg (by omega)]
  · intro c hc
    have hkept : ¬ c.isKept s.logLevel = true := by
      rw [Call.isKept_iff]
      rintro ⟨hkind, hpos, hle⟩
      rcases hc with htrace | hzero | hlarge
      · exact hkind htrace
      · omega
      · omega
    have hfirst : coarseOf s.logLevel [c] = [] := by
      rw [coarseOf_singleton, if_neg fun h => hkept h.1]
    have hsecond : verboseOf s.logLevel [c] = [] := by
      rw [verboseOf_singleton, if_neg fun h => hkept h.1]
    rw [(hnext c).1, (hnext c).2, hfirst, hsecond, List.append_nil, List.append_nil, hcoarse,
      hverbose]
    exact ⟨rfl, rfl⟩
  · intro c hkind hlevel hlimit
    have hkept : c.isKept s.logLevel = true :=
      Call.isKept_iff.2 ⟨hkind, by omega, by omega⟩
    have hfirst : coarseOf s.logLevel [c] = [c.entry] := by
      rw [coarseOf_singleton, if_pos ⟨hkept, hlevel⟩]
    have hsecond : verboseOf s.logLevel [c] = [] := by
      rw [verboseOf_singleton, if_neg fun h => h.2 hlevel]
    rw [(hnext c).1, (hnext c).2, hfirst, hsecond, List.append_nil, hcoarse, hverbose,
      if_pos hlimit, if_pos hlimit, rtake_rtake_concat]
    exact ⟨rfl, rfl⟩
  · intro c hkind hlevel hlimit
    have hkept : c.isKept s.logLevel = true := Call.isKept_iff.2 ⟨hkind, by omega, hlimit⟩
    -- There is a verbose ring, as the level of the call needs one.
    have htwo : 2 ≤ s.logLevel := Nat.le_trans hlevel hlimit
    have hother : c.level ≠ 1 := by omega
    have hfirst : coarseOf s.logLevel [c] = [] := by
      rw [coarseOf_singleton, if_neg fun h => hother h.2]
    have hsecond : verboseOf s.logLevel [c] = [c.entry] := by
      rw [verboseOf_singleton, if_pos ⟨hkept, hother⟩]
    rw [(hnext c).1, (hnext c).2, hfirst, hsecond, List.append_nil, hcoarse, hverbose,
      if_pos htwo, if_pos htwo, ← Settings.verboseCapacity_eq htwo, rtake_rtake_concat]
    exact ⟨rfl, rfl⟩

/-- A ring for one event has the last one; what is only traced is not kept. -/
example :
    (((ofSettings { libraryDir := "/", eventLevel := 2, eventCapacity := 1 } .stdout).performAll
        [⟨.event, .main "0", 1, "a"⟩, ⟨.log, .main "1", 1, "b"⟩, ⟨.trace, .main "2", 1, "c"⟩,
          ⟨.event, .main "3", 2, "d"⟩, ⟨.event, .main "4", 3, "e"⟩]).state.coarseEvents.map
      Event.message) = ["b"] := by
  decide

end EventLog

end CompilerLink
