import CompilerLink.Proofs.Counter.Atomicity

/-! # Resizes that are run twice or not at all

A coordinator has to run a resize exactly once, and then the answer tells what became of the
counters (`Truthful`). The answer is that of the last run, though, and success without any: a
coordinator that skips a resize makes it answer success for nothing, and one that runs it again may
run out of arrays after the counters have got their new length. -/

namespace CompilerLink

/-- How often a coordinator runs the operation that it is handed. -/
def Coordinator.runs : Coordinator → Nat
  | .safepoint => 1
  | .foreign runs => runs

namespace Counter

/-! ### Once more -/

theorem Block.resizedTo_resizedTo (b : Block) (n : Nat) :
    (b.resizedTo n).resizedTo n = b.resizedTo n := by
  cases hlive : b.live with
  | false => rw [resizedTo_of_not_live hlive, resizedTo_of_not_live hlive]
  | true =>
    have hlive' := (b.resizedTo_frame n).2.2.trans hlive
    rw [resizedTo_of_live hlive', resizedTo_of_live hlive, resized_resized]

namespace Registry

variable {r : Registry} {n : Nat}

theorem fitted_fitted (r : Registry) (n : Nat) : (r.fitted n).fitted n = r.fitted n := by
  simp only [fitted, resized_resized, List.map_map, Function.comp_def, Block.resizedTo_resizedTo]

/-- `fitted` does not touch `liveCount`. -/
theorem liveCount_fitted (r : Registry) (n : Nat) : (r.fitted n).liveCount = r.liveCount := by
  have hlive : (r.fitted n).liveness = r.liveness := by
    rw [liveness, liveness, fitted, List.map_map]
    exact List.map_congr_left fun b _ => (b.resizedTo_frame n).2.2
  rw [liveCount_eq_count, liveCount_eq_count, hlive]

/-- `reserve` never raises a budget, whether the array fits or not. -/
theorem exists_reserve_le {budget : Option Nat} (n : Nat) :
    ∀ allowed ∈ budget, ∃ left ∈ (reserve budget n).2, left ≤ allowed := by
  rintro allowed rfl
  cases allowed with
  | zero => exact ⟨0, rfl, Nat.le_refl 0⟩
  | succ k => exact ⟨k, rfl, Nat.le_succ k⟩

/-- `reserveAll` never raises a budget. -/
theorem exists_reserveAll_le {budget : Option Nat} (n count : Nat) :
    ∀ allowed ∈ budget, ∃ left ∈ (reserveAll n count budget).2, left ≤ allowed := by
  induction count generalizing budget with
  | zero => exact fun allowed h => ⟨allowed, h, Nat.le_refl allowed⟩
  | succ count ih =>
    intro allowed h
    obtain ⟨middle, hmiddle, hle⟩ := exists_reserve_le n allowed h
    rw [reserveAll]
    cases hres : reserve budget n with
    | mk fits rest =>
      rw [hres] at hmiddle
      -- The reservations stop with the first that fails, and no later one is made.
      cases fits with
      | false => exact ⟨middle, hmiddle, hle⟩
      | true =>
        obtain ⟨left, hleft, hle'⟩ := ih middle hmiddle
        exact ⟨left, hleft, hle'.trans hle⟩

/-- A failed `resize` has no room for the next attempt at the same length either. -/
theorem not_hasRoom_resize (h : ¬ r.HasRoom n) : ¬ (r.resize n).state.HasRoom n := by
  obtain ⟨-, left, hleft⟩ := resize_of_not_hasRoom h
  have hbudget : (r.resize n).state.budget = (reserveAll n (1 + r.liveCount) r.budget).2 := by
    rw [(r.resize_eq n).1, attempt]
  rw [hleft] at hbudget ⊢
  rintro ⟨hn, hroom⟩
  refine h ⟨hn, fun allowed hallowed => ?_⟩
  obtain ⟨rest, hrest, hle⟩ := exists_reserveAll_le n (1 + r.liveCount) allowed hallowed
  have henough : 1 + r.liveCount ≤ rest := hroom rest (hbudget ▸ hrest)
  exact henough.trans hle

/-! ### Any number of runs -/

/-- What `runs` runs of a resize leave, and the answer of the last of them, or `answer` if there is
none. -/
def resizeAgain (n : Nat) :
    Nat → Registry → Except CounterFault Unit → Registry × Except CounterFault Unit
  | 0, r, answer => (r, answer)
  | runs + 1, r, _ => resizeAgain n runs (r.resize n).state (r.resize n).value

/-- Without `HasRoom` for the first run, every run fails and only the budget changes. -/
theorem resizeAgain_of_not_hasRoom (h : ¬ r.HasRoom n) (runs : Nat)
    (answer : Except CounterFault Unit) :
    ∃ left, resizeAgain n (runs + 1) r answer =
      ({ r with budget := left }, .error (.noRoom n)) := by
  obtain ⟨hvalue, left, hleft⟩ := resize_of_not_hasRoom h
  induction runs generalizing r answer left with
  | zero =>
    rw [resizeAgain, resizeAgain, hvalue, hleft]
    exact ⟨left, rfl⟩
  | succ runs ih =>
    -- A failure never makes room, so the next run fails as well.
    have hagain := not_hasRoom_resize h
    obtain ⟨hvalue', left', hleft'⟩ := resize_of_not_hasRoom hagain
    rw [resizeAgain]
    obtain ⟨last, hlast⟩ := ih hagain (r.resize n).value hvalue' left' hleft'
    rw [hleft] at hlast ⊢
    exact ⟨last, hlast⟩

/-- With `HasRoom` for the first run, later runs change nothing but the budget. -/
theorem resizeAgain_of_hasRoom (h : r.HasRoom n) (runs : Nat) (answer : Except CounterFault Unit) :
    ∃ left, (resizeAgain n (runs + 1) r answer).1 = { r.fitted n with budget := left } := by
  induction runs generalizing r answer with
  | zero =>
    rw [resizeAgain, resizeAgain, (resize_of_hasRoom h).2]
    exact ⟨_, rfl⟩
  | succ runs ih =>
    rw [resizeAgain, (resize_of_hasRoom h).2]
    -- The next run finds every array at its length already, or has no room and changes none.
    by_cases hagain : (r.resizedTo n).HasRoom n
    · obtain ⟨left, hleft⟩ := ih hagain (r.resize n).value
      have hfitted : (r.resizedTo n).fitted n =
          { r.fitted n with budget := (r.resizedTo n).budget } := by
        conv_rhs => rw [← fitted_fitted]
        rfl
      rw [hleft, hfitted]
      exact ⟨left, rfl⟩
    · obtain ⟨left, hleft⟩ := resizeAgain_of_not_hasRoom hagain runs (r.resize n).value
      rw [hleft]
      exact ⟨left, rfl⟩

/-- The last of several runs succeeds iff there is room for the arrays of all of them. -/
theorem resizeAgain_eq_ok_iff (r : Registry) (n runs : Nat) (answer : Except CounterFault Unit) :
    (resizeAgain n (runs + 1) r answer).2 = .ok () ↔
      n < arrayLimit ∧ ∀ allowed ∈ r.budget, (runs + 1) * (1 + r.liveCount) ≤ allowed := by
  induction runs generalizing r answer with
  | zero =>
    rw [resizeAgain, resizeAgain, resize_value_eq_ok_iff, HasRoom, Nat.zero_add, Nat.one_mul]
  | succ runs ih =>
    by_cases h : r.HasRoom n
    · have hcount : (r.resizedTo n).liveCount = r.liveCount := r.liveCount_fitted n
      rw [resizeAgain, (resize_of_hasRoom h).2, ih, hcount]
      refine and_congr_right fun _ => ?_
      -- The budget of the later runs is what the first one has left of it.
      constructor
      · intro hall allowed hb
        have hfirst := h.2 allowed hb
        have hrest := hall (allowed - (1 + r.liveCount)) (Option.map_eq_some_iff.2 ⟨_, hb, rfl⟩)
        rw [Nat.succ_mul]
        omega
      · intro hall left hb
        obtain ⟨allowed, hallowed, rfl⟩ := Option.map_eq_some_iff.1 hb
        have hboth := hall allowed hallowed
        rw [Nat.succ_mul] at hboth
        show _ ≤ allowed - (1 + r.liveCount)
        omega
    · obtain ⟨left, hleft⟩ := resizeAgain_of_not_hasRoom h (runs + 1) answer
      rw [hleft]
      refine iff_of_false (fun hok => nomatch hok) fun hall => h ⟨hall.1, fun allowed hb => ?_⟩
      exact (Nat.le_mul_of_pos_left _ (Nat.succ_pos _)).trans (hall.2 allowed hb)

/-- Whichever run is the last, it answers success or that there is no room. -/
theorem resizeAgain_answer (r : Registry) (n runs : Nat) {answer : Except CounterFault Unit}
    (h : answer = .ok () ∨ answer = .error (.noRoom n)) :
    (resizeAgain n runs r answer).2 = .ok () ∨
      (resizeAgain n runs r answer).2 = .error (.noRoom n) := by
  induction runs generalizing r answer with
  | zero => exact h
  | succ runs ih =>
    rw [resizeAgain]
    refine ih (r.resize n).state ?_
    -- The answer handed on is that of this run, which is one of the two again.
    by_cases hroom : r.HasRoom n
    · exact .inl (resize_of_hasRoom hroom).1
    · exact .inr (resize_of_not_hasRoom hroom).1

/-! ### Under a coordinator -/

section Coordinated

variable {pause : Pause}

/-- `resizeAll` under a coordinator is `resizeAgain`, as often as the coordinator runs it. -/
theorem resizeAll_eq (r : Registry) (pause : Pause) (n : Nat) :
    (r.resizeAll pause n).state.2 = (resizeAgain n pause.coordinator.runs r (.ok ())).1 ∧
      (r.resizeAll pause n).value = (resizeAgain n pause.coordinator.runs r (.ok ())).2 := by
  rw [resizeAll, Pause.execute]
  cases pause.coordinator with
  | safepoint => exact ⟨rfl, rfl⟩
  | foreign runs =>
    simp only [Outcome.within, Coordinator.runs]
    -- The induction needs the answer so far arbitrary, as each run replaces it.
    generalize (Except.ok () : Except CounterFault Unit) = answer
    induction runs generalizing r answer with
    | zero => exact ⟨rfl, rfl⟩
    | succ runs ih => exact ih (r.resize n).state (r.resize n).value

/-- A `resizeAll` that the coordinator does not run answers success and changes nothing. -/
theorem resizeAll_skipped (r : Registry) (hruns : pause.coordinator.runs = 0) (n : Nat) :
    (r.resizeAll pause n).value = .ok () ∧ (r.resizeAll pause n).state.2 = r := by
  obtain ⟨hstate, hvalue⟩ := r.resizeAll_eq pause n
  rw [hstate, hvalue, hruns]
  exact ⟨rfl, rfl⟩

/-- A `resizeAll` whose first run has no room fails and changes nothing but the budget. -/
theorem resizeAll_of_not_hasRoom (hruns : pause.coordinator.runs ≠ 0) (h : ¬ r.HasRoom n) :
    (r.resizeAll pause n).value = .error (.noRoom n) ∧
      ∃ left, (r.resizeAll pause n).state.2 = { r with budget := left } := by
  obtain ⟨hstate, hvalue⟩ := r.resizeAll_eq pause n
  obtain ⟨k, hk⟩ := Nat.exists_eq_add_one_of_ne_zero hruns
  obtain ⟨left, hleft⟩ := resizeAgain_of_not_hasRoom h k (.ok ())
  rw [hvalue, hstate, hk, hleft]
  exact ⟨rfl, left, rfl⟩

/-- A `resizeAll` whose first run has room fits the counters to the new length. -/
theorem resizeAll_of_hasRoom (hruns : pause.coordinator.runs ≠ 0) (h : r.HasRoom n) :
    ∃ left, (r.resizeAll pause n).state.2 = { r.fitted n with budget := left } := by
  obtain ⟨hstate, -⟩ := r.resizeAll_eq pause n
  obtain ⟨k, hk⟩ := Nat.exists_eq_add_one_of_ne_zero hruns
  rw [hstate, hk]
  exact resizeAgain_of_hasRoom h k (.ok ())

/-- `resizeAll` succeeds iff the length is below `arrayLimit` and the budget pays for all runs. -/
theorem resizeAll_eq_ok_iff (hruns : pause.coordinator.runs ≠ 0) :
    (r.resizeAll pause n).value = .ok () ↔ n < arrayLimit ∧
      ∀ allowed ∈ r.budget, pause.coordinator.runs * (1 + r.liveCount) ≤ allowed := by
  obtain ⟨-, hvalue⟩ := r.resizeAll_eq pause n
  obtain ⟨k, hk⟩ := Nat.exists_eq_add_one_of_ne_zero hruns
  rw [hvalue, hk]
  exact r.resizeAgain_eq_ok_iff n k _

/-- The only error of `resizeAll` is `noRoom`. -/
theorem resizeAll_eq_error (h : (r.resizeAll pause n).value ≠ .ok ()) :
    (r.resizeAll pause n).value = .error (.noRoom n) := by
  obtain ⟨-, hvalue⟩ := r.resizeAll_eq pause n
  rw [hvalue] at h ⊢
  exact (r.resizeAgain_answer n pause.coordinator.runs (.inl rfl)).resolve_left h

/-- A `resizeAll` that was run with success had room for its first run, whatever became of later
ones. -/
theorem hasRoom_of_ok (hruns : pause.coordinator.runs ≠ 0)
    (h : (r.resizeAll pause n).value = .ok ()) : r.HasRoom n := by
  by_contra hroom
  rw [(resizeAll_of_not_hasRoom hruns hroom).1] at h
  exact nomatch h

/-- A `resizeAll` that is run once fails only for want of room. -/
theorem not_hasRoom_of_ne_ok (hruns : pause.coordinator.runs = 1)
    (h : (r.resizeAll pause n).value ≠ .ok ()) : ¬ r.HasRoom n := by
  rintro ⟨hn, hbudget⟩
  have hne : pause.coordinator.runs ≠ 0 := by omega
  refine h ((resizeAll_eq_ok_iff hne).2 ⟨hn, fun allowed hallowed => ?_⟩)
  rw [hruns, Nat.one_mul]
  exact hbudget allowed hallowed

end Coordinated

/-- The size is `n`, and so are the lengths of the pool and of all live blocks. -/
structure AtLength (r : Registry) (n : Nat) : Prop where
  size_eq : r.size = n
  retired_length : r.retired.length = n
  live_length : ∀ b ∈ r.liveBlocks, b.values.length = n

/-- A `resizeAll` whose first run has room leaves everything `AtLength n`, `CutTo` what it was. -/
theorem WellFormed.resizeAll_of_hasRoom (wf : r.WellFormed) {pause : Pause}
    (hruns : pause.coordinator.runs ≠ 0) (h : r.HasRoom n) :
    (r.resizeAll pause n).state.2.AtLength n ∧ r.CutTo (r.resizeAll pause n).state.2 n := by
  -- Every run of the operation keeps the registry well-formed, so the whole does.
  have wf' : (r.resizeAll pause n).state.2.WellFormed :=
    resizeAll_induction n (fun _ wf => wf.resize n) pause r wf
  obtain ⟨hsize, hretired, hlength, hlive, hdead⟩ := wf.cutTo n
  obtain ⟨left, hleft⟩ := Registry.resizeAll_of_hasRoom hruns h
  rw [hleft] at wf' ⊢
  refine ⟨⟨rfl, wf'.retired_length, fun b hb => ?_⟩, ⟨hsize, hretired, hlength, hlive, hdead⟩⟩
  obtain ⟨k, hk, hblock⟩ := mem_liveBlocks.1 hb
  exact wf'.live_length hk hblock

end Registry

namespace Session

/-! ### What the answer tells -/

/-- The answer of a resize to `n` counters tells what became of them. -/
structure Truthful (before : Registry) (answer : Except CounterFault Unit) (after : Registry)
    (n : Nat) : Prop where
  /-- After success everything has the new length. -/
  of_ok : answer = .ok () → after.AtLength n
  /-- After a failure nothing but the budget has changed. -/
  of_error : answer ≠ .ok () → after.size = before.size ∧ after.retired = before.retired ∧
    after.blocks = before.blocks

/-- A resize that is not run exactly once may answer what is not `Truthful`: with two arrays for
each of two runs and three in all, the second run fails after the first has succeeded, and a resize
that is skipped succeeds. -/
theorem not_truthful :
    let s := (Session.start {} (Registry.empty 2 false)).run [.attach false, .limit (some 3)]
    let twice := s.registry.resizeAll { coordinator := .foreign 2 } 5
    let skipped := s.registry.resizeAll { coordinator := .foreign 0 } 5
    Registry.create 2 false = .ok (Registry.empty 2 false) ∧
      ¬ Truthful s.registry twice.value twice.state.2 5 ∧
      ¬ Truthful s.registry skipped.value skipped.state.2 5 := by
  refine ⟨rfl, fun h => ?_, fun h => ?_⟩
  · exact absurd (h.of_error (fun hok => nomatch hok)).1 (by decide)
  · exact absurd (h.of_ok rfl).size_eq (by decide)

/-- Perform operations in order, each under a pause of its own. -/
def runUnder (s : Session) (ops : List (Pause × Operation)) : Session :=
  ops.foldl (fun s (pause, op) => ({ s with pause } : Session).perform op) s

theorem Sound.runUnder {s : Session} (h : s.Sound) (ops : List (Pause × Operation)) :
    (s.runUnder ops).Sound := by
  induction ops generalizing s with
  | nil => exact h
  | cons op ops ih =>
    -- `Sound` does not mention the pause.
    have hpaused : ({ s with pause := op.1 } : Session).Sound := ⟨h.wf, h.roll⟩
    exact ih (hpaused.perform op.2)

/-- What a resize to `n` counters answers and leaves, by how often the coordinator runs it. -/
structure Accounted (s : Session) (pause : Pause) (n : Nat) : Prop where
  /-- Run exactly once, as coordinators have to, a resize is `Truthful`. -/
  once : pause.coordinator.runs = 1 →
    Truthful s.registry (s.registry.resizeAll pause n).value
      (s.registry.resizeAll pause n).state.2 n
  /-- Not run at all, it succeeds and changes nothing. -/
  skipped : pause.coordinator.runs = 0 → (s.registry.resizeAll pause n).value = .ok () ∧
    (s.registry.resizeAll pause n).state.2 = s.registry
  /-- Run at least once, it succeeds iff there is room for the arrays of all runs. -/
  ok_iff : pause.coordinator.runs ≠ 0 → ((s.registry.resizeAll pause n).value = .ok () ↔
    n < 2 ^ 44 ∧ ∀ allowed, s.registry.budget = some allowed →
      pause.coordinator.runs * (1 + s.registry.liveCount) ≤ allowed)
  /-- Run at least once, it has cut or filled up everything to the new length if it succeeds. -/
  of_ok : pause.coordinator.runs ≠ 0 → (s.registry.resizeAll pause n).value = .ok () →
    (s.registry.resizeAll pause n).state.2.AtLength n ∧
      s.registry.CutTo (s.registry.resizeAll pause n).state.2 n
  /-- Its only error is `noRoom`. -/
  of_error : (s.registry.resizeAll pause n).value ≠ .ok () →
    (s.registry.resizeAll pause n).value = .error (.noRoom n)
  /-- If the first run has no room, everything but the budget stays, and the last run fails
  as well. -/
  first_failed : pause.coordinator.runs ≠ 0 → ¬ s.registry.HasRoom n →
    (s.registry.resizeAll pause n).value = .error (.noRoom n) ∧
      ∃ left, (s.registry.resizeAll pause n).state.2 = { s.registry with budget := left }
  /-- If the first run has room, the resize is done, whatever the last run answers. -/
  first_succeeded : pause.coordinator.runs ≠ 0 → s.registry.HasRoom n →
    (s.registry.resizeAll pause n).state.2.AtLength n ∧
      s.registry.CutTo (s.registry.resizeAll pause n).state.2 n

/-- `Accounted` holds in every state that a registry can reach, under any coordinator and whichever
ones paused the threads before. -/
theorem accounted_of_run {size : Nat} {excludeCompiler : Bool} {r : Registry}
    (hr : Registry.create size excludeCompiler = .ok r) (ops : List (Pause × Operation))
    (pause : Pause) (n : Nat) : ((Session.start {} r).runUnder ops).Accounted pause n := by
  have wf := ((Sound.start hr {}).runUnder ops).wf
  generalize (Session.start {} r).runUnder ops = s at wf
  exact
    { once := fun hruns => by
        -- One run is at least one, so the lemmas on runs that are not skipped apply.
        have hne : pause.coordinator.runs ≠ 0 := by omega
        refine ⟨fun hok => (wf.resizeAll_of_hasRoom hne (Registry.hasRoom_of_ok hne hok)).1,
          fun herror => ?_⟩
        have hroom := Registry.not_hasRoom_of_ne_ok hruns herror
        obtain ⟨-, left, hleft⟩ := Registry.resizeAll_of_not_hasRoom hne hroom
        rw [hleft]
        exact ⟨rfl, rfl, rfl⟩
      skipped := fun hruns => s.registry.resizeAll_skipped hruns n
      ok_iff := Registry.resizeAll_eq_ok_iff
      of_ok := fun hne hok => wf.resizeAll_of_hasRoom hne (Registry.hasRoom_of_ok hne hok)
      of_error := Registry.resizeAll_eq_error
      first_failed := Registry.resizeAll_of_not_hasRoom
      first_succeeded := wf.resizeAll_of_hasRoom }

/-- `accounted_of_run` applies after a resize that one coordinator skipped, to one that the next
runs three times. -/
theorem accounted_of_three_runs :
    Registry.create 2 true = .ok (Registry.empty 2 true) ∧
      ((Session.start {} (Registry.empty 2 true)).runUnder
        [({}, .attach false), ({}, .add 0 1 5), ({ coordinator := .foreign 0 }, .resize 7),
          ({}, .limit (some 5))]).Accounted { coordinator := .foreign 3 } 4 :=
  ⟨rfl, accounted_of_run (rfl : Registry.create 2 true = _) _ _ 4⟩

end Session

end Counter

end CompilerLink
