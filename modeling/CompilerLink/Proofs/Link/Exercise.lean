import CompilerLink.Host.Scripted
import CompilerLink.Link.Exercise
import CompilerLink.Proofs.Counter.Crew
import CompilerLink.Proofs.Counter.Fleet
import CompilerLink.Proofs.Link.Creation

/-! # What an exercise counts

The workers of an exercise are a crew (`CompilerLink.Counter.Registry.staffed`), and the two halves
in which they detach are two parts that it is divided into (`everyOther_perm`). So every worker is
in the sums once, whether it has detached by then or not, and none is left over. -/

namespace CompilerLink

open Counter (Registry Session Order counterAt carryOutAll)

/-! ### Every other member -/

/-- `everyOther` of a list that begins with `a` takes `a` and goes on with `everyOther` behind its
neighbour. -/
theorem everyOther_cons {α : Type} (a : α) (l : List α) :
    everyOther (a :: l) = a :: everyOther (l.drop 1) := by
  cases l <;> rfl

/-- `everyOther` goes by places only, so `List.map` can be done before it or after it. -/
theorem map_everyOther {α β : Type} (f : α → β) (l : List α) :
    (everyOther l).map f = everyOther (l.map f) := by
  induction l using everyOther.induct with
  | case1 => rfl
  | case2 a => rfl
  | case3 a b rest ih => exact congrArg (f a :: ·) ih

/-- `everyOther` takes half of the members, rounded up. -/
theorem length_everyOther {α : Type} (l : List α) : (everyOther l).length = (l.length + 1) / 2 := by
  induction l using everyOther.induct with
  | case1 => simp [everyOther]
  | case2 a => simp [everyOther]
  | case3 a b rest ih =>
    simp only [everyOther, List.length_cons, ih]
    omega

/-- `everyOther` at even places and `everyOther` at odd places take all members between them. -/
theorem everyOther_perm {α : Type} (l : List α) :
    (everyOther l ++ everyOther (l.drop 1)).Perm l := by
  induction l with
  | nil => exact .refl _
  | cons a l ih =>
    -- Without the first member, the two parts have changed places.
    rw [everyOther_cons, List.cons_append]
    exact (List.perm_append_comm.trans ih).cons a

namespace Link

variable {η : Type}

/-! ### Workers -/

/-- `workAll` leaves the counters `staffed`, with each worker on the block that came next. -/
theorem workAll_eq (l : Link η) (clock : String) (increments : Nat) (numbers : List Nat) :
    (l.workAll clock increments numbers).state.counters =
        l.counters.staffed increments numbers.length ∧
      (l.workAll clock increments numbers).value.map (·.block) =
        List.range' l.counters.blocks.length numbers.length ∧
      (l.workAll clock increments numbers).state.pause = l.pause := by
  induction numbers generalizing l with
  | nil => exact ⟨by simp [workAll, Registry.staffed], rfl, rfl⟩
  | cons i numbers ih =>
    obtain ⟨hcounters, hblocks, hpause⟩ := ih (l.work clock increments i).state
    -- One worker is a crew of one, so the rest is the crew of the registry that it leaves.
    have hone : (l.work clock increments i).state.counters = _ := l.counters.bump_attach increments
    rw [hone] at hcounters hblocks
    refine ⟨?_, ?_, hpause⟩
    · show ((l.work clock increments i).state.workAll clock increments numbers).state.counters = _
      rw [hcounters]
      simp [Registry.staffed, List.range'_succ]
    · show l.counters.blocks.length ::
        ((l.work clock increments i).state.workAll clock increments numbers).value.map (·.block) = _
      rw [hblocks]
      simp [List.range'_succ]

/-- `detachAll` retires the blocks of the threads. -/
theorem detachAll_eq (l : Link η) (caller : Caller) (threads : List AttachedThread) :
    (l.detachAll caller threads).state.counters = l.counters.freeAll (threads.map (·.block)) ∧
      (l.detachAll caller threads).state.pause = l.pause := by
  induction threads generalizing l with
  | nil => exact ⟨rfl, rfl⟩
  | cons t threads ih => exact ih (l.detach caller t).state

/-! ### The resize -/

/-- The remark that `resizeOnRequest` makes. -/
def resizeRequested (n : Nat) (succeeded : Bool) : Diagnostic where
  severity := .info
  component := .exercise
  message := "Counter resize requested"
  fields := [("new_size", .number n), ("resized", .flag succeeded)]

/-- What becomes of a request to change the length of the counters of `r` if they have the length
`n` afterwards. -/
structure Answers (r : Registry) (request : Option Nat) (n : Nat) (emitted : List Emission) :
    Prop where
  /-- Without a request the counters keep their length. -/
  unasked : request = none → n = r.size
  /-- A request for which the registry `HasRoom` is granted, with a remark that says so. -/
  granted : ∀ m, request = some m → r.HasRoom m → n = m ∧
    .remark (resizeRequested m true) ∈ emitted
  /-- Any other request is refused, and the remark says that. -/
  refused : ∀ m, request = some m → ¬ r.HasRoom m → n = r.size ∧
    .remark (resizeRequested m false) ∈ emitted

/-- `Answers` holds of `resizeOnRequest` for the length to which it leaves the counters `fitted`. -/
theorem resizeOnRequest_answers {l : Link η} (hsafe : l.pause.coordinator = .safepoint)
    (wf : l.counters.WellFormed) (request : Option Nat) :
    ∃ n left, (l.resizeOnRequest request).state.counters =
        { l.counters.fitted n with budget := left } ∧
      Answers l.counters request n (l.resizeOnRequest request).emitted := by
  cases request with
  | none =>
    -- Counters that keep their length are those that are fitted to it.
    refine ⟨l.counters.size, l.counters.budget, ?_, fun _ => rfl, nofun, nofun⟩
    rw [wf.fitted_size]
    rfl
  | some m =>
    obtain ⟨hvalue, -, hstate⟩ := l.counters.resizeAll_safepoint hsafe m
    have hcounters : (l.resizeOnRequest (some m)).state.counters = (l.counters.resize m).state :=
      hstate
    -- The remark tells what the resize has answered.
    have htold : .remark (resizeRequested m (l.counters.resize m).value.isOk) ∈
        (l.resizeOnRequest (some m)).emitted := by
      rw [← hvalue]
      exact List.mem_append_right _ (List.mem_singleton_self _)
    by_cases hroom : l.counters.HasRoom m
    · obtain ⟨hok, hleft⟩ := Registry.resize_of_hasRoom hroom
      rw [hok] at htold
      refine ⟨m, _, hcounters.trans hleft, nofun, ?_, ?_⟩
      · rintro _ ⟨⟩ -
        exact ⟨rfl, htold⟩
      · rintro _ ⟨⟩ hnone
        exact absurd hroom hnone
    · obtain ⟨hfault, left, hleft⟩ := Registry.resize_of_not_hasRoom hroom
      rw [hfault] at htold
      refine ⟨l.counters.size, left, ?_, nofun, ?_, ?_⟩
      · rw [hcounters, hleft, wf.fitted_size]
      · rintro _ ⟨⟩ hsome
        exact absurd hsome hroom
      · rintro _ ⟨⟩ -
        exact ⟨rfl, htold⟩

/-! ### The whole exercise -/

/-- `exercise` in terms of its two halves of workers: it answers the totals of the registry
`midway`, and leaves that with the late half freed as well. -/
theorem exercise_eq {l : Link η} (hsafe : l.pause.coordinator = .safepoint)
    (wf : l.counters.WellFormed) (caller : Caller) (x : Exercise) :
    ∃ early late n left,
      (early ++ late).Perm (List.range' l.counters.blocks.length x.workers) ∧
        (l.exercise caller x).value =
          (l.counters.midway x.increments x.workers early n left).totals ∧
        (l.exercise caller x).state.counters =
          (l.counters.midway x.increments x.workers early n left).freeAll late ∧
        Answers ((l.counters.staffed x.increments x.workers).freeAll early) x.resize n
          (l.exercise caller x).emitted ∧
        late.length = x.workers / 2 := by
  obtain ⟨hstaffed, hblocks, hpause⟩ :=
    l.workAll_eq caller.clock x.increments (List.range x.workers)
  rw [List.length_range] at hstaffed hblocks
  -- In the order of the exercise, each step is replaced by what it leaves of the counters.
  unfold exercise
  dsimp only
  generalize l.workAll caller.clock x.increments (List.range x.workers) = worked at *
  obtain ⟨hearly, hpause'⟩ := worked.state.detachAll_eq caller (everyOther worked.value)
  rw [hstaffed, map_everyOther, hblocks] at hearly
  generalize worked.state.detachAll caller (everyOther worked.value) = gone at *
  have wfEarly : gone.state.counters.WellFormed := by
    rw [hearly]
    exact (wf.staffed x.increments x.workers).freeAll _
  obtain ⟨n, left, hresized, hanswers⟩ :=
    resizeOnRequest_answers (hpause'.trans hpause ▸ hsafe) wfEarly x.resize
  rw [hearly] at hresized hanswers
  generalize gone.state.resizeOnRequest x.resize = resized at *
  obtain ⟨hlate, -⟩ := resized.state.detachAll_eq caller (everyOther (worked.value.drop 1))
  rw [hresized, map_everyOther, List.map_drop, hblocks] at hlate
  refine ⟨_, _, n, left, everyOther_perm _, ?_, hlate, ?_, ?_⟩
  · rw [hresized]
    rfl
  · -- The remark on the resize is one of those that the exercise makes.
    have hmem : ∀ e ∈ resized.emitted, e ∈ worked.emitted ++ gone.emitted ++ resized.emitted ++
        (resized.state.detachAll caller (everyOther (worked.value.drop 1))).emitted := fun e he =>
      List.mem_append_left _ (List.mem_append_right _ he)
    exact ⟨hanswers.unasked,
      fun m hm hroom => (hanswers.granted m hm hroom).imp_right (hmem _),
      fun m hm hroom => (hanswers.refused m hm hroom).imp_right (hmem _)⟩
  · rw [length_everyOther, List.length_drop, List.length_range']
    omega

/-- What an exercise of a link comes to: every worker is counted once, below the old length of the
counters and the new one, and none is left over. -/
structure Exercised (l : Link η) (x : Exercise) (done : Outcome (Link η) (List Int64)) : Prop where
  /-- The counters keep their length unless a resize is asked for. -/
  unasked : x.resize = none → done.state.counters.size = l.counters.size
  /-- A resize is granted iff there is room for an array for the pool, one for each block that was
  live before and one for each worker of the second half. -/
  granted : ∀ n, x.resize = some n → n < 2 ^ 44 →
    (∀ allowed, l.counters.budget = some allowed →
      1 + (l.counters.liveCount + x.workers / 2) ≤ allowed) →
    done.state.counters.size = n ∧ .remark (resizeRequested n true) ∈ done.emitted
  /-- If there is no such room, the counters keep their length. -/
  refused : ∀ n, x.resize = some n →
    ¬ (n < 2 ^ 44 ∧ ∀ allowed, l.counters.budget = some allowed →
      1 + (l.counters.liveCount + x.workers / 2) ≤ allowed) →
    done.state.counters.size = l.counters.size ∧
      .remark (resizeRequested n false) ∈ done.emitted
  /-- There is a sum for each index. -/
  length_sums : done.value.length = done.state.counters.size
  /-- Each sum has what was there before and all increments of all workers, and is zero at the
  indices that are new. -/
  sums_eq : ∀ i < done.state.counters.size, counterAt done.value i =
    if i < l.counters.size then counterAt l.counters.totals i + x.workers * x.increments else 0
  /-- There is a retired value for each index. -/
  length_retired : done.state.counters.retired.length = done.state.counters.size
  /-- In the end the increments of all workers are retired. -/
  retired_eq : ∀ i < done.state.counters.size, counterAt done.state.counters.retired i =
    if i < l.counters.size then counterAt l.counters.retired i + x.workers * x.increments else 0
  /-- As many blocks are live as before. -/
  liveCount_eq : done.state.counters.liveCount = l.counters.liveCount
  /-- The blocks that were live before are those that are live afterwards. -/
  live_eq : done.state.counters.liveBlocks =
    l.counters.liveBlocks.map (·.resizedTo done.state.counters.size)

section Reachable

variable {ι : Type} [DecidableEq ι]

/-- `Exercised` holds of every `exercise` of a link whose counters are in a state that `carryOutAll`
can reach, if what it counts fits into a word together with what is there. -/
theorem exercised_of_run {size : ι → Nat} {excludeCompiler : ι → Bool} {r : ι → Registry}
    (hr : ∀ i, Registry.create (size i) (excludeCompiler i) = .ok (r i)) (pause : ι → Pause)
    (orders : List (Order ι)) (i : ι) {l : Link η}
    (hcounters : l.counters =
      (carryOutAll (fun i => Session.start (pause i) (r i)) orders i).registry)
    (hsafe : l.pause.coordinator = .safepoint) (caller : Caller) (x : Exercise)
    (hfit : ∀ i < l.counters.size, (counterAt l.counters.retired i).natAbs +
      (l.counters.countedBlocks.map fun b => (counterAt b.values i).natAbs).sum +
        x.workers * x.increments < 2 ^ 63) :
    Exercised l x (l.exercise caller x) := by
  have wf : l.counters.WellFormed := by
    rw [hcounters]
    exact (Counter.sound_of_orders hr pause orders i).wf
  have hweight : ∀ i, i < l.counters.size →
      l.counters.weight i + x.workers * x.increments ≤ Counter.maxCounter :=
    fun i hi => Nat.le_pred_of_lt (hfit i hi)
  obtain ⟨early, late, n, left, hparts, hvalue, hstate, hanswers, hhalf⟩ :=
    exercise_eq hsafe wf caller x
  generalize l.exercise caller x = done at *
  -- From here on the counters are those of a crew that leaves in two parts.
  have wfMidway := wf.midway x.increments x.workers early n left
  have wfDone : done.state.counters.WellFormed := hstate ▸ wfMidway.freeAll late
  have hsize : done.state.counters.size = n := by
    rw [hstate, Registry.size_freeAll]
    rfl
  have hlive : ((l.counters.midway x.increments x.workers early n left).freeAll late).liveBlocks =
      l.counters.liveBlocks.map (·.resizedTo n) := wf.liveBlocks_midway hparts n left
  have hroom : ∀ m, ((l.counters.staffed x.increments x.workers).freeAll early).HasRoom m ↔
      m < 2 ^ 44 ∧ ∀ allowed, l.counters.budget = some allowed →
        1 + (l.counters.liveCount + x.workers / 2) ≤ allowed := by
    intro m
    rw [Registry.HasRoom, wf.liveCount_freeAll_staffed hparts, hhalf, Registry.budget_freeAll]
    rfl
  exact
    { unasked := fun hnone => by
        rw [hsize, hanswers.unasked hnone, Registry.size_freeAll]
        rfl
      granted := fun m hm hlt hbudget => by
        rw [hsize]
        exact hanswers.granted m hm ((hroom m).2 ⟨hlt, hbudget⟩)
      refused := fun m hm hnot => by
        obtain ⟨hn, htold⟩ := hanswers.refused m hm (fun h => hnot ((hroom m).1 h))
        rw [hsize, hn, Registry.size_freeAll]
        exact ⟨rfl, htold⟩
      length_sums := by
        rw [hvalue, Registry.length_totals, hsize]
        rfl
      sums_eq := fun i hi => by
        rw [hvalue, (wf.counterAt_totals_midway (hsize ▸ hi) (hweight i) early left).2]
        -- An index that is new had nothing before, and the crew has not counted there.
        by_cases hold : i < l.counters.size
        · have hfits := (Nat.le_add_right _ _).trans (hweight i hold)
          rw [if_pos hold, if_pos hold, wf.counterAt_totals hfits, Nat.cast_mul]
        · have hnone := wf.mass_of_size_le (Nat.not_lt.1 hold)
          rw [if_neg hold, if_neg hold, hnone]
          rfl
      length_retired := wfDone.retired_length
      retired_eq := fun i hi => by
        rw [hstate, wf.counterAt_retired_midway hparts (hsize ▸ hi) (hweight i) left]
        by_cases hold : i < l.counters.size
        · rw [if_pos hold, if_pos hold, Nat.cast_mul]
        · have hnone := Counter.counterAt_of_length_le
            (wf.retired_length.trans_le (Nat.not_lt.1 hold))
          rw [if_neg hold, if_neg hold, hnone]
          rfl
      liveCount_eq := by
        rw [Registry.liveCount, hstate, hlive, List.length_map]
        rfl
      live_eq := by rw [hsize, hstate, hlive] }

end Reachable

/-- The first registry has a thread of the compiler and one that has counted; the block of a third
one is retired with the counts of a block of the other registry. Four more arrays can be had. -/
def beforeExercise : List (Order Bool) :=
  [.own false (.attach false), .own false (.attach true), .own false (.attach false),
    .own false (.add 0 1 (-7)), .own false (.add 1 1 40), .own false (.add 2 0 4),
    .own true (.attach false), .own true (.add 0 0 5), .hand false true 0,
    .own false (.limit (some 4))]

/-- `exercised_of_run` applies to three workers after `beforeExercise`, two of whom leave before the
counters grow, for which the arrays just suffice. -/
theorem exercised_of_three_workers :
    let counters := (carryOutAll (fun _ : Bool => Session.start {} (Registry.empty 2 true))
      beforeExercise false).registry
    let l : Link ScriptedHost :=
      { fresh { libraryDir := "/", counterSize := 2 } ⟨{}, .scripted [], .stdout, "1"⟩ with
        counters }
    (∀ _ : Bool, Registry.create 2 true = .ok (Registry.empty 2 true)) ∧
      l.pause.coordinator = .safepoint ∧
      (∀ i < l.counters.size, (counterAt l.counters.retired i).natAbs +
        (l.counters.countedBlocks.map fun b => (counterAt b.values i).natAbs).sum +
          3 * 6 < 2 ^ 63) ∧
      Exercised l ⟨3, 6, some 3⟩ (l.exercise (.main "0") ⟨3, 6, some 3⟩) ∧
      (l.exercise (.main "0") ⟨3, 6, some 3⟩).value = [27, 18, 0] ∧
      (l.exercise (.main "0") ⟨3, 6, some 3⟩).state.counters.retired = [23, 18, 0] ∧
      (l.exercise (.main "0") ⟨3, 6, some 3⟩).state.counters.liveCount = 2 := by
  intro counters l
  have hfit : ∀ i < l.counters.size, (counterAt l.counters.retired i).natAbs +
      (l.counters.countedBlocks.map fun b => (counterAt b.values i).natAbs).sum +
        3 * 6 < 2 ^ 63 := by decide
  exact ⟨fun _ => rfl, rfl, hfit,
    @exercised_of_run ScriptedHost Bool _ (fun _ => 2) (fun _ => true) _ (fun _ => rfl)
      (fun _ => {}) beforeExercise false l rfl rfl (.main "0") ⟨3, 6, some 3⟩ hfit,
    by decide, by decide, by decide⟩

end Link

end CompilerLink
