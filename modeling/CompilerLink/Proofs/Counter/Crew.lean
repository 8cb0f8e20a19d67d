import CompilerLink.Proofs.Counter.Headroom

/-! # Workers that come and go

A crew is a number of workers that attach one after the other, count the same on every counter and
leave in two parts, with a resize in between. What they have counted goes with them into the pool,
each worker's share once, as far as the resize leaves the counters. In between it is in the sums, by
`WellFormed.counterAt_totals_midway`, and afterwards in the pool, by
`WellFormed.counterAt_retired_midway`, whichever two parts the crew is divided into. -/

namespace CompilerLink.Counter

/-! ### Counting one by one -/

namespace Block

/-- One round of counting: `add` of one to each counter, in their order. -/
def countAll (b : Block) : Block :=
  (List.range b.values.length).foldl (fun b index => (b.add index 1).2) b

/-- After the first `n` counters of a round, `add` has added one to these and left the others. -/
theorem foldl_add_range (b : Block) {n : Nat} (hn : n ≤ b.values.length) :
    (List.range n).foldl (fun b index => (b.add index 1).2) b =
      { b with values := (b.values.take n).map (· + 1) ++ b.values.drop n } := by
  induction n with
  | zero => rfl
  | succ n ih =>
    have hlt : n < b.values.length := hn
    have hlength : ((b.values.take n).map (· + 1)).length = n := by
      rw [List.length_map, List.length_take_of_le hlt.le]
    -- The counter that comes next is the first of those that are left.
    have hnext : ((b.values.take n).map (· + 1) ++ b.values.drop n)[n]? = some b.values[n] := by
      rw [List.getElem?_append_right hlength.le, hlength, Nat.sub_self, List.getElem?_drop,
        Nat.add_zero, List.getElem?_eq_getElem hlt]
    rw [List.range_succ, List.foldl_append, ih hlt.le, List.foldl_cons, List.foldl_nil]
    simp only [add, hnext]
    rw [List.set_append_right _ _ hlength.le, hlength, Nat.sub_self, List.drop_eq_getElem_cons hlt,
      List.set_cons_zero, List.take_add_one, List.getElem?_eq_getElem hlt, Option.toList_some,
      List.map_append, List.append_assoc]
    rfl

/-- `bump` is `times` rounds of counting, one `add` after the other. -/
theorem bump_eq_iterate (b : Block) (times : Nat) : b.bump times = countAll^[times] b := by
  induction times with
  | zero => simp [bump]
  | succ times ih =>
    rw [Function.iterate_succ_apply', ← ih, countAll, foldl_add_range _ le_rfl, List.take_length,
      List.drop_length, List.append_nil]
    simp [bump, Int64.ofNat_add, Int64.add_assoc]

end Block

/-! ### Workers -/

/-- The block of a worker that has added one to each of its counters, `increments` times over. -/
def Block.ofWorker (size increments id : Nat) : Block :=
  { id, included := true, values := List.replicate size (Int64.ofNat increments) }

/-- `sumAt` and `weighAt` over the blocks of a crew are the share of one worker times the number of
workers, as long as that fits into a counter. -/
theorem sumAt_workers {size increments workers i : Nat}
    (hfit : i < size → workers * increments ≤ maxCounter) (first : Nat) :
    sumAt i ((List.range' first workers).map (.ofWorker size increments)) =
        (if i < size then workers * increments else 0 : Nat) ∧
      weighAt i ((List.range' first workers).map (.ofWorker size increments)) =
        if i < size then workers * increments else 0 := by
  have hshare : workers ≠ 0 → counterAt (List.replicate size (Int64.ofNat increments)) i =
      (if i < size then increments else 0 : Nat) := by
    intro hsome
    by_cases hi : i < size
    · -- One worker counts no more than all of them, so its increments fit into a word.
      have hle := hfit hi
      have hone := Nat.le_mul_of_pos_left increments (Nat.pos_of_ne_zero hsome)
      rw [maxCounter] at hle
      rw [counterAt, List.getElem?_replicate, if_pos hi, if_pos hi]
      exact Int64.toInt_ofNat_of_lt (by omega)
    · rw [if_neg hi]
      apply counterAt_of_length_le
      rw [List.length_replicate]
      omega
  simp only [sumAt, weighAt, List.map_map, Function.comp_def, Block.ofWorker, List.map_const',
    List.length_range', List.sum_replicate, nsmul_eq_mul, smul_eq_mul]
  by_cases hsome : workers = 0
  · simp [hsome]
  · rw [hshare hsome]
    by_cases hi : i < size <;> simp [hi]

namespace Registry

variable {r : Registry} {increments workers : Nat}

/-- The registry `r` once a crew has attached and counted. -/
def staffed (r : Registry) (increments workers : Nat) : Registry :=
  { r with
    blocks := r.blocks ++
      (List.range' r.blocks.length workers).map (.ofWorker r.size increments) }

/-- `attach` and `bump` append the block of one more worker. -/
theorem bump_attach (r : Registry) (increments : Nat) :
    (r.attach false).2.bump (r.attach false).1.id increments =
      { r with blocks := r.blocks ++ [.ofWorker r.size increments r.blocks.length] } := by
  have hworker : (r.nextBlock false).bump increments =
      .ofWorker r.size increments r.blocks.length := by
    simp [nextBlock, Block.bump, Block.ofWorker]
  -- The worker counts on the block that it was given, which is the last one.
  have hblocks : (r.blocks ++ [r.nextBlock false]).modify r.blocks.length (·.bump increments) =
      r.blocks ++ [(r.nextBlock false).bump increments] := by
    rw [List.modify_eq_set_getElem?, List.getElem?_concat_length]
    show (r.blocks ++ [r.nextBlock false]).set r.blocks.length _ = _
    rw [List.set_append_right _ _ (Nat.le_refl _), Nat.sub_self, List.set_cons_zero]
  rw [← hworker, ← hblocks]
  rfl

theorem WellFormed.staffed (wf : r.WellFormed) (increments workers : Nat) :
    (r.staffed increments workers).WellFormed := by
  -- A block of the new registry is an old one, or that of the worker with its number.
  have hcases : ∀ {k : Nat} {b : Block}, (r.staffed increments workers).blocks[k]? = some b →
      r.blocks[k]? = some b ∨ b = .ofWorker r.size increments k := by
    intro k b h
    rw [Registry.staffed, List.getElem?_append] at h
    split at h
    · exact .inl h
    · rename_i hk
      obtain ⟨id, hid, rfl⟩ := Option.map_eq_some_iff.1 (List.getElem?_map ▸ h)
      obtain ⟨hlt, hget⟩ := List.getElem?_eq_some_iff.1 hid
      rw [List.getElem_range'] at hget
      exact .inr (by congr 1; omega)
  refine ⟨wf.retired_length, fun h => ?_, fun h hlive => ?_⟩
  · rcases hcases h with h | rfl
    · exact wf.id_eq h
    · rfl
  · rcases hcases h with h | rfl
    · exact wf.live_length h hlive
    · exact List.length_replicate

/-- All blocks of the crew are live. -/
theorem liveBlocks_staffed (r : Registry) (increments workers : Nat) :
    (r.staffed increments workers).liveBlocks = r.liveBlocks ++
      (List.range' r.blocks.length workers).map (.ofWorker r.size increments) := by
  rw [liveBlocks, staffed, List.filter_append, ← liveBlocks]
  congr 1
  refine List.filter_eq_self.2 fun b hb => ?_
  obtain ⟨id, -, rfl⟩ := List.mem_map.1 hb
  rfl

/-- All blocks of the crew are counted, as no worker is a compiler thread. -/
theorem countedBlocks_staffed (r : Registry) (increments workers : Nat) :
    (r.staffed increments workers).countedBlocks = r.countedBlocks ++
      (List.range' r.blocks.length workers).map (.ofWorker r.size increments) := by
  rw [countedBlocks, liveBlocks_staffed, List.filter_append, ← countedBlocks]
  congr 1
  refine List.filter_eq_self.2 fun b hb => ?_
  obtain ⟨id, -, rfl⟩ := List.mem_map.1 hb
  rfl

/-- `weight` is zero past the `size` of a registry. -/
theorem WellFormed.weight_of_size_le (wf : r.WellFormed) {i : Nat} (hi : r.size ≤ i) :
    r.weight i = 0 := by
  have hpool : counterAt r.retired i = 0 :=
    counterAt_of_length_le (wf.retired_length.trans_le hi)
  -- No array is longer than `size`, so there is nothing to weigh past it.
  have hcounted : weighAt i r.countedBlocks = 0 := by
    refine List.sum_eq_zero fun w hw => ?_
    obtain ⟨b, hb, rfl⟩ := List.mem_map.1 hw
    have hlength := (wf.length_countedBlocks b hb).trans wf.retired_length
    rw [counterAt_of_length_le (hlength.trans_le hi)]
    rfl
  rw [weight, hpool, hcounted]
  rfl

/-- `mass` is zero past the `size` of a registry, as `weight` bounds it. -/
theorem WellFormed.mass_of_size_le (wf : r.WellFormed) {i : Nat} (hi : r.size ≤ i) :
    r.mass i = 0 := by
  have hnone := wf.weight_of_size_le hi
  have hcounted := natAbs_sumAt_le i r.countedBlocks
  unfold weight at hnone
  unfold mass
  omega

/-- `staffed` adds the counts of the crew to `mass` and keeps `weight` in range, if there is room
for them. -/
theorem WellFormed.mass_staffed (wf : r.WellFormed) {i : Nat}
    (hfit : i < r.size → r.weight i + workers * increments ≤ maxCounter) :
    (r.staffed increments workers).mass i =
        r.mass i + (if i < r.size then workers * increments else 0 : Nat) ∧
      (r.staffed increments workers).weight i ≤ maxCounter := by
  have hshare : i < r.size → workers * increments ≤ maxCounter :=
    fun hi => (Nat.le_add_left _ _).trans (hfit hi)
  obtain ⟨hsum, hweight⟩ := sumAt_workers hshare r.blocks.length
  constructor
  · rw [mass, mass, countedBlocks_staffed, sumAt, List.map_append, List.sum_append, ← sumAt,
      ← sumAt, hsum, ← add_assoc]
    rfl
  · rw [weight, countedBlocks_staffed, weighAt, List.map_append, List.sum_append, ← weighAt,
      ← weighAt, hweight, ← add_assoc]
    show r.weight i + _ ≤ maxCounter
    -- Past the `size` the crew counts nothing, so no room is needed there.
    by_cases hi : i < r.size
    · rw [if_pos hi]
      exact hfit hi
    · rw [if_neg hi, wf.weight_of_size_le (Nat.not_lt.1 hi)]
      exact Nat.zero_le _

/-! ### Leaving in two parts -/

section Discharge

variable {early late : List Nat}

/-- The numbers of the crew are the `workers` numbers that follow those of the blocks of `r`. -/
theorem mem_parts (hparts : (early ++ late).Perm (List.range' r.blocks.length workers))
    (id : Nat) : id ∈ early ++ late ↔ r.blocks.length ≤ id ∧ id < r.blocks.length + workers := by
  rw [hparts.mem_iff, List.mem_range'_1]

/-- The live blocks of `r` do not belong to the crew. -/
theorem WellFormed.not_mem_parts (wf : r.WellFormed)
    (hparts : (early ++ late).Perm (List.range' r.blocks.length workers)) {b : Block}
    (hb : b ∈ r.liveBlocks) : b.id ∉ early ++ late := by
  obtain ⟨k, hk, -⟩ := mem_liveBlocks.1 hb
  obtain ⟨hlt, -⟩ := List.getElem?_eq_some_iff.1 hk
  rw [mem_parts hparts, wf.id_eq hk]
  omega

/-- A filter that spares every number outside the crew spares all live blocks of `r`. -/
theorem WellFormed.filter_liveBlocks (wf : r.WellFormed)
    (hparts : (early ++ late).Perm (List.range' r.blocks.length workers)) {p : Block → Bool}
    (hp : ∀ b : Block, b.id ∉ early ++ late → p b = true) : r.liveBlocks.filter p = r.liveBlocks :=
  List.filter_eq_self.2 fun b hb => hp b (wf.not_mem_parts hparts hb)

/-- Of the `countedBlocks` of `staffed`, those numbered in `early ++ late` are the blocks of the
crew. -/
theorem WellFormed.filter_staffed (wf : r.WellFormed)
    (hparts : (early ++ late).Perm (List.range' r.blocks.length workers)) :
    ((r.staffed increments workers).countedBlocks.filter fun b => b.id ∈ early ++ late) =
      (List.range' r.blocks.length workers).map (.ofWorker r.size increments) := by
  -- The numbers in the parts are those of the crew, and no older block has one of them.
  have hothers : (r.countedBlocks.filter fun b => b.id ∈ early ++ late) = [] := by
    refine List.filter_eq_nil_iff.2 fun b hb => ?_
    rw [decide_eq_true_eq]
    exact wf.not_mem_parts hparts (List.mem_of_mem_filter hb)
  rw [countedBlocks_staffed, List.filter_append, hothers, List.nil_append]
  refine List.filter_eq_self.2 fun b hb => ?_
  obtain ⟨id, hid, rfl⟩ := List.mem_map.1 hb
  rw [decide_eq_true_eq]
  exact hparts.mem_iff.2 hid

/-- Once the first part has left, the blocks of `r` and of the second part are live. -/
theorem WellFormed.liveCount_freeAll_staffed (wf : r.WellFormed)
    (hparts : (early ++ late).Perm (List.range' r.blocks.length workers)) :
    ((r.staffed increments workers).freeAll early).liveCount = r.liveCount + late.length := by
  have hnodup : (early ++ late).Nodup := hparts.nodup_iff.2 (List.nodup_range' 1)
  have hapart := (List.nodup_append.1 hnodup).2.2
  -- Of the crew, those are left that are not in the first part.
  have hleft : ((List.range' r.blocks.length workers).filter fun id => ¬ id ∈ early).Perm late := by
    have hearly : (early.filter fun id => ¬ id ∈ early) = [] :=
      List.filter_eq_nil_iff.2 fun id hid => by simpa using hid
    have hlate : (late.filter fun id => ¬ id ∈ early) = late :=
      List.filter_eq_self.2 fun id hid => by simpa using fun h => hapart id h id hid rfl
    have hperm := hparts.symm.filter fun id => decide ¬ id ∈ early
    rwa [List.filter_append, hearly, hlate, List.nil_append] at hperm
  have hothers : (r.liveBlocks.filter fun b => ¬ b.id ∈ early) = r.liveBlocks := by
    apply wf.filter_liveBlocks hparts
    intro b hnot
    simp only [List.mem_append, not_or] at hnot
    simpa using hnot.1
  rw [liveCount, (wf.staffed increments workers).liveBlocks_freeAll, liveBlocks_staffed,
    List.filter_append, hothers, List.length_append, List.filter_map, List.length_map, liveCount]
  congr 1
  exact hleft.length_eq

/-- `freeAll` allocates no arrays, so it leaves the `budget`. -/
theorem budget_freeAll (r : Registry) (ids : List Nat) : (r.freeAll ids).budget = r.budget := by
  induction ids generalizing r with
  | nil => rfl
  | cons id ids ih =>
    apply (ih (r.freeOwn id)).trans
    unfold freeOwn
    cases r.blocks[id]? with
    | none => rfl
    | some b =>
      show (r.free b).budget = r.budget
      unfold free
      dsimp only
      -- Freeing allocates nothing, in any of its branches.
      split_ifs <;> rfl

/-- The registry `r` once its crew has attached, counted and left in part, and `resize` has then
fitted the counters to length `n`; `left` is the budget for arrays. -/
def midway (r : Registry) (increments workers : Nat) (early : List Nat) (n : Nat)
    (left : Option Nat) : Registry :=
  { ((r.staffed increments workers).freeAll early).fitted n with budget := left }

/-- `WellFormed` holds `midway`. -/
theorem WellFormed.midway (wf : r.WellFormed) (increments workers : Nat) (early : List Nat)
    (n : Nat) (left : Option Nat) : (r.midway increments workers early n left).WellFormed :=
  (((wf.staffed increments workers).freeAll early).resizedTo n).withBudget left

/-- Once both parts have left, the live blocks are those of `r`, resized. -/
theorem WellFormed.liveBlocks_midway (wf : r.WellFormed)
    (hparts : (early ++ late).Perm (List.range' r.blocks.length workers)) (n : Nat)
    (left : Option Nat) :
    ((r.midway increments workers early n left).freeAll late).liveBlocks =
      r.liveBlocks.map (·.resizedTo n) := by
  have hmidway : (r.midway increments workers early n left).liveBlocks =
      ((r.staffed increments workers).freeAll early).liveBlocks.map (·.resizedTo n) :=
    liveBlocks_fitted _ n
  -- A resize keeps the numbers, so both parts may as well leave before it.
  rw [(wf.midway increments workers early n left).liveBlocks_freeAll, hmidway,
    (wf.staffed increments workers).liveBlocks_freeAll, List.filter_map, List.filter_filter]
  simp only [Function.comp_def, id_resizedTo]
  rw [liveBlocks_staffed, List.filter_append]
  -- Every worker is in one part or the other, so none of the crew is left.
  have hcrew : (((List.range' r.blocks.length workers).map
      (Block.ofWorker r.size increments)).filter fun b =>
        decide (b.id ∉ late) && decide (b.id ∉ early)) = [] := by
    refine List.filter_eq_nil_iff.2 fun b hb => ?_
    obtain ⟨id, hid, rfl⟩ := List.mem_map.1 hb
    have hmem : id ∈ early ++ late := hparts.mem_iff.2 hid
    rw [List.mem_append] at hmem
    show ¬ (decide (id ∉ late) && decide (id ∉ early)) = true
    simp only [Bool.and_eq_true, decide_eq_true_eq]
    exact fun hnot => hmem.elim hnot.2 hnot.1
  -- The numbers of the crew come after those of the blocks before it, so all of these are left.
  have hothers : (r.liveBlocks.filter fun b =>
      decide (b.id ∉ late) && decide (b.id ∉ early)) = r.liveBlocks := by
    apply wf.filter_liveBlocks hparts
    intro b hnot
    simp only [List.mem_append, not_or] at hnot
    simp [hnot.1, hnot.2]
  rw [hcrew, hothers, List.append_nil]

section Shares

variable {n i : Nat}

/-- While the second part is still at work, every worker's share is in `totals`. -/
theorem WellFormed.counterAt_totals_midway (wf : r.WellFormed) (hi : i < n)
    (hfit : i < r.size → r.weight i + workers * increments ≤ maxCounter) (early : List Nat)
    (left : Option Nat) :
    (r.midway increments workers early n left).weight i ≤ maxCounter ∧
      counterAt (r.midway increments workers early n left).totals i =
        r.mass i + (if i < r.size then workers * increments else 0 : Nat) := by
  have wfStaffed := wf.staffed increments workers
  obtain ⟨hmass, hstaffed⟩ := wf.mass_staffed hfit
  obtain ⟨-, hearly⟩ := wfStaffed.counterAt_freeAll hstaffed early
  -- At a place that the resize leaves, sum and weight are those that it found.
  have hweight : (r.midway increments workers early n left).weight i =
      ((r.staffed increments workers).freeAll early).weight i := weight_fitted _ hi
  have hmidway : (r.midway increments workers early n left).mass i =
      ((r.staffed increments workers).freeAll early).mass i := mass_fitted _ hi
  have hfits : (r.midway increments workers early n left).weight i ≤ maxCounter := by omega
  refine ⟨hfits, ?_⟩
  rw [(wf.midway increments workers early n left).counterAt_totals hfits, hmidway,
    wfStaffed.mass_freeAll hstaffed, hmass]

/-- Once the second part has left as well, every worker's share is in the pool. -/
theorem WellFormed.counterAt_retired_midway (wf : r.WellFormed)
    (hparts : (early ++ late).Perm (List.range' r.blocks.length workers)) (hi : i < n)
    (hfit : i < r.size → r.weight i + workers * increments ≤ maxCounter) (left : Option Nat) :
    counterAt ((r.midway increments workers early n left).freeAll late).retired i =
      counterAt r.retired i + (if i < r.size then workers * increments else 0 : Nat) := by
  have wfStaffed := wf.staffed increments workers
  obtain ⟨-, hstaffed⟩ := wf.mass_staffed hfit
  obtain ⟨hfits, -⟩ := wf.counterAt_totals_midway hi hfit early left
  -- Two folds into the pool, before and after the resize, each of them exact as `weight` is in
  -- range.
  obtain ⟨hfirst, -⟩ := wfStaffed.counterAt_freeAll hstaffed early
  obtain ⟨hlast, -⟩ := (wf.midway increments workers early n left).counterAt_freeAll hfits late
  have hretired : (r.staffed increments workers).retired = r.retired := rfl
  have hpool : counterAt (r.midway increments workers early n left).retired i =
      counterAt ((r.staffed increments workers).freeAll early).retired i := by
    show counterAt (resized _ n) i = _
    rw [counterAt_resized, if_pos hi]
  have hcounted : (r.midway increments workers early n left).countedBlocks =
      ((r.staffed increments workers).freeAll early).countedBlocks.map (·.resizedTo n) :=
    countedBlocks_fitted _ n
  -- What the two parts take with them is what the whole crew has counted.
  have hboth := sumAt_filter_mem_append i early late (r.staffed increments workers).countedBlocks
  rw [wf.filter_staffed hparts, (sumAt_workers
    (fun hi => (Nat.le_add_left _ _).trans (hfit hi)) r.blocks.length).1] at hboth
  rw [hcounted, List.filter_map, sumAt_map_resizedTo hi, wfStaffed.countedBlocks_freeAll] at hlast
  simp only [Function.comp_def, id_resizedTo] at hlast
  rw [hlast, hpool, hfirst, hretired]
  omega

end Shares

end Discharge

end Registry

end CompilerLink.Counter
