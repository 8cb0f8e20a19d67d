import CompilerLink.Proofs.Counter.Atomicity
import CompilerLink.Proofs.Counter.Balance

/-! # Counts are conserved

In a run whose accepted deltas fit into a word, the totals of a registry are the tally of exactly
the deposits that belong to them and the pool is the tally of those that are in it, so retiring a
block neither loses nor doubles anything, and what is added to excluded or retired blocks shows up
nowhere. -/

namespace CompilerLink.Counter

/-! ### Totals -/

namespace Registry

/-- The `id`s of `Registry.countedBlocks`, the blocks that take part in `Registry.totals`. -/
def countedIds (r : Registry) : List Nat := r.countedBlocks.map (·.id)

/-- `Registry.countedBlocks` holds the blocks that are both `live` and `included`, and says at which
index of `blocks` each of them stands. -/
theorem mem_countedBlocks {r : Registry} {b : Block} :
    b ∈ r.countedBlocks ↔
      ∃ k : Nat, r.blocks[k]? = some b ∧ b.live = true ∧ b.included = true := by
  rw [countedBlocks, List.mem_filter, mem_liveBlocks]
  constructor
  · rintro ⟨⟨k, hb, hlive⟩, hincluded⟩
    exact ⟨k, hb, hlive, hincluded⟩
  · rintro ⟨k, hb, hlive, hincluded⟩
    exact ⟨⟨k, hb, hlive⟩, hincluded⟩

/-- `countedIds` inherits `Nodup` from the live blocks of a `WellFormed` registry. -/
theorem WellFormed.nodup_countedIds {r : Registry} (wf : r.WellFormed) : r.countedIds.Nodup :=
  wf.nodup_live.sublist (List.filter_sublist.map _)

/-- In a `WellFormed` registry `k ∈ countedIds` is a statement about the block at index `k`, since
that block's `id` is `k`. -/
theorem WellFormed.mem_countedIds {r : Registry} (wf : r.WellFormed) {k : Nat} {b : Block}
    (hb : r.blocks[k]? = some b) : k ∈ r.countedIds ↔ b.live = true ∧ b.included = true := by
  rw [countedIds, List.mem_map]
  constructor
  · rintro ⟨c, hc, hid⟩
    obtain ⟨j, hj, hcounted⟩ := mem_countedBlocks.1 hc
    -- The number of the counted block is its place, so it is the block at `k`.
    obtain rfl : j = k := (wf.id_eq hj).symm.trans hid
    rw [hb] at hj
    cases hj
    exact hcounted
  · intro hcounted
    exact ⟨b, mem_countedBlocks.2 ⟨k, hb, hcounted⟩, wf.id_eq hb⟩

end Registry

namespace Balanced

variable {r : Registry} {record : List Entry} {i : Nat}

/-- The `column` of the counted blocks is, block by block, the `tally` of the deposits made to that
block. -/
theorem column_countedBlocks (bal : Balanced r record i) (wf : r.WellFormed) (hi : i < r.size) :
    (column i r.countedBlocks).map (·.toInt) =
      r.countedIds.map fun k => tally (·.toInt) (· == k) (deposits i record) := by
  -- `column` drops a block that is too short; no live one is.
  have hlong : ∀ b ∈ r.countedBlocks, i < b.values.length := by
    intro b hb
    obtain ⟨k, hk, hlive, -⟩ := Registry.mem_countedBlocks.1 hb
    rw [wf.live_length hk hlive]
    exact hi
  rw [column_eq_map hlong, Registry.countedIds, List.map_map, List.map_map]
  apply List.map_congr_left
  intro b hb
  obtain ⟨k, hk, hlive, -⟩ := Registry.mem_countedBlocks.1 hb
  obtain rfl : b.id = k := wf.id_eq hk
  exact bal.block_eq hk hlive

/-- `inTotals` splits into `inPool` and membership in `countedIds`, which exclude each other
(`not_mem_countedIds`). -/
theorem inTotals_eq (wf : r.WellFormed) (roll : Roll r.liveness record)
    (lab : Labelled r.excludeCompiler r.inclusion record) {k : Nat} (hk : k < r.blocks.length) :
    inTotals r.excludeCompiler record k =
      (inPool r.excludeCompiler record k || decide (k ∈ r.countedIds)) := by
  have hb : r.blocks[k]? = some r.blocks[k] := List.getElem?_eq_getElem hk
  generalize r.blocks[k] = b at hb
  have hfreed := roll.wasFreed_eq hb
  have hcounted : decide (k ∈ r.countedIds) = (b.live && b.included) := by
    rw [Bool.eq_iff_iff, decide_eq_true_eq, wf.mem_countedIds hb, Bool.and_eq_true]
  rw [inPool, hcounted, hfreed]
  cases hlive : b.live with
  | false => simp
  | true =>
    -- What is live has not been retired, still less forgotten.
    have hkept : wasForgotten record k = false := by
      rw [← Bool.not_eq_true]
      intro h
      have := wasFreed_of_wasForgotten h
      rw [hfreed, hlive] at this
      cases this
    rw [inTotals, hkept, lab.wasIncluded_eq hb]
    simp

/-- A block that is `inPool` has been freed, so it is not in `countedIds`. -/
theorem not_mem_countedIds (wf : r.WellFormed) (roll : Roll r.liveness record) {k : Nat}
    (h : inPool r.excludeCompiler record k = true) : decide (k ∈ r.countedIds) = false := by
  rw [inPool, Bool.and_eq_true] at h
  refine decide_eq_false fun hmem => ?_
  rw [Registry.countedIds, List.mem_map] at hmem
  obtain ⟨b, hb, hid⟩ := hmem
  obtain ⟨j, hj, hlive, -⟩ := Registry.mem_countedBlocks.1 hb
  obtain rfl : j = k := (wf.id_eq hj).symm.trans hid
  -- The roll says freed, the registry says live.
  have hfreed := roll.wasFreed_eq hj
  rw [h.2, hlive] at hfreed
  cases hfreed

/-- The magnitudes of the pool and of the counted `column` together stay within `volume`, so no step
of `saturatingAdd` in `Registry.totals` saturates. -/
theorem natAbs_add_column_le (bal : Balanced r record i) (wf : r.WellFormed)
    (roll : Roll r.liveness record) (hi : i < r.size) :
    (counterAt r.retired i).natAbs +
      ((column i r.countedBlocks).map (·.toInt.natAbs)).sum ≤ volume i record := by
  have hdisjoint := fun k => not_mem_countedIds (k := k) wf roll
  have hpool := natAbs_tally_le (inPool r.excludeCompiler record) (deposits i record)
  -- Each counter of the column is bounded on its own; the bounds add up to a tally.
  have hcolumn : ((column i r.countedBlocks).map (·.toInt.natAbs)).sum ≤
      tally (·.toInt.natAbs) (fun k => decide (k ∈ r.countedIds)) (deposits i record) := by
    have hmap : (column i r.countedBlocks).map (·.toInt.natAbs) =
        r.countedIds.map fun k => (tally (·.toInt) (· == k) (deposits i record)).natAbs := by
      have h := congrArg (List.map Int.natAbs) (bal.column_countedBlocks wf hi)
      rwa [List.map_map, List.map_map] at h
    rw [hmap, tally_mem _ wf.nodup_countedIds]
    exact List.sum_le_sum fun k _ => natAbs_tally_le (· == k) (deposits i record)
  -- Both tallies are of disjoint sets of blocks, so one `volume` bounds their sum.
  have hall := tally_natAbs_le_volume
    (fun k => inPool r.excludeCompiler record k || decide (k ∈ r.countedIds)) i record
  rw [tally_or _ hdisjoint] at hall
  rw [bal.retired_eq]
  omega

/-- `Registry.totals` is the `tally` of the deposits that are `inTotals`, for a `Balanced` counter
whose `volume` fits into a word. -/
theorem toInt_totals (bal : Balanced r record i) (wf : r.WellFormed)
    (roll : Roll r.liveness record) (lab : Labelled r.excludeCompiler r.inclusion record)
    (hi : i < r.size) (hv : volume i record ≤ maxCounter) :
    (r.totals[i]?).map (·.toInt) =
      some (tally (·.toInt) (inTotals r.excludeCompiler record) (deposits i record)) := by
  have hdisjoint := fun k => not_mem_countedIds (k := k) wf roll
  have hcolumn := bal.column_countedBlocks wf hi
  have htally := tally_mem (·.toInt) wf.nodup_countedIds (deposits i record)
  -- The exact sum is the tally, split into the pool's part and the counted blocks' part.
  have hsum : tally (·.toInt) (inTotals r.excludeCompiler record) (deposits i record) =
      counterAt r.retired i + ((column i r.countedBlocks).map (·.toInt)).sum := by
    rw [bal.retired_eq, hcolumn, ← htally, ← tally_or _ hdisjoint]
    exact tally_congr _ fun d hd =>
      inTotals_eq wf roll lab (by simpa using lab.depositor_lt hd)
  have hfit := (bal.natAbs_add_column_le wf roll hi).trans hv
  rw [Registry.getElem?_totals, if_pos hi, Option.map_some,
    toInt_foldl_saturatingAdd _ _ hfit, hsum]
  rfl

end Balanced

/-! ### Deltas that nobody counts -/

/-- `List.set` at a member that `filter p` drops, to another that it drops, does not change the
`filter`. -/
theorem filter_set_of_neg {α : Type} {p : α → Bool} {l : List α} {i : Nat} {a a' : α}
    (ha : l[i]? = some a) (hp : p a = false) (hp' : p a' = false) :
    (l.set i a').filter p = l.filter p := by
  induction l generalizing i with
  | nil => rfl
  | cons x l ih =>
    cases i with
    -- The member fails `p` before and after, so the filter drops it both times.
    | zero =>
      rw [List.getElem?_cons_zero, Option.some.injEq] at ha
      rw [List.set_cons_zero, ha, List.filter_cons, List.filter_cons, hp, hp']
      rfl
    | succ i =>
      rw [List.getElem?_cons_succ] at ha
      rw [List.set_cons_succ, List.filter_cons, List.filter_cons, ih ha]

/-- `Registry.add` to a block that is excluded or freed changes neither `totals` nor `retired`. -/
theorem Registry.totals_add_of_not_counted {r : Registry} {id : Nat}
    (h : ∀ b, r.blocks[id]? = some b → (b.included && b.live) = false) (index : Nat)
    (delta : Int64) :
    (r.add id index delta).2.totals = r.totals ∧
      (r.add id index delta).2.retired = r.retired := by
  cases hb : r.blocks[id]? with
  | none => rw [add, hb]; exact ⟨rfl, rfl⟩
  | some b =>
    obtain ⟨-, hincluded, hlive, -⟩ := b.add_frame index delta
    -- The block stays filtered out, as `Block.add` keeps both of its flags.
    have hcounted : ({ r with blocks := r.blocks.set id (b.add index delta).2 } :
        Registry).countedBlocks = r.countedBlocks := by
      rw [countedBlocks, countedBlocks, liveBlocks, liveBlocks, List.filter_filter,
        List.filter_filter]
      exact filter_set_of_neg hb (h b hb) (by rw [hincluded, hlive, h b hb])
    rw [add_eq hb]
    refine ⟨?_, rfl⟩
    rw [totals, sumInto, hcounted]
    rfl

/-! ### Every run -/

namespace Session

/-- The invariant of a run under the safepoint: every counter is `Balanced` as long as its `volume`
fits into a word. -/
structure Kept (excludeCompiler : Bool) (s : Session) : Prop where
  /-- The registry is well formed and `record` has its roll right. -/
  sound : s.Sound
  /-- Blocks are only resized between operations. -/
  safe : s.pause.coordinator = .safepoint
  /-- The setting is the one that the registry was created with. -/
  exclude_eq : s.registry.excludeCompiler = excludeCompiler
  /-- Every deposit in `record` is labelled with the inclusion of its block. -/
  lab : Labelled excludeCompiler s.registry.inclusion s.record
  /-- Only a counter whose `volume` would overflow is exempt. -/
  bal : ∀ i, volume i s.record ≤ maxCounter → Balanced s.registry s.record i

namespace Kept

variable {excludeCompiler : Bool} {s : Session}

/-- `Kept` holds at the `start` of a session, on a registry without blocks. -/
theorem start {size : Nat} {r : Registry} (hr : Registry.create size excludeCompiler = .ok r)
    {pause : Pause} (hpause : pause.coordinator = .safepoint) :
    (Session.start pause r).Kept excludeCompiler := by
  have sound := Sound.start hr pause
  rw [Registry.create] at hr
  split at hr
  · cases hr
    -- With no block and no deposit everything stands at zero.
    have bal : ∀ i, Balanced (Registry.empty size excludeCompiler) [] i := fun i =>
      { above := fun _ => rfl
        block_eq := fun h => by cases h
        retired_eq := counterAt_replicate size i }
    exact ⟨sound, hpause, rfl, ⟨fun _ => rfl, fun h => absurd h List.not_mem_nil⟩,
      fun i _ => bal i⟩
  · cases hr

/-- `Kept` is preserved by every `Operation`. -/
theorem perform (kept : s.Kept excludeCompiler) (op : Operation) :
    (s.perform op).Kept excludeCompiler := by
  have sound := kept.sound.perform op
  have safe := (coordinator_perform s op).trans kept.safe
  obtain ⟨⟨wf, roll⟩, hpause, rfl, lab, bal⟩ := kept
  -- Only `attach`, `add`, `free`, `resize` and `forget` touch counters; the other two change
  -- `record` alone.
  cases op with
  | attach compilerThread =>
    refine ⟨sound, safe, rfl, ?_, fun i hv => (bal i hv).attach lab compilerThread⟩
    show Labelled _ (s.registry.attach compilerThread).2.inclusion
      (.attached s.registry.blocks.length compilerThread :: s.record)
    rw [Registry.inclusion_attach, ← Registry.length_inclusion]
    exact lab.attached compilerThread
  | add id index delta =>
    rw [Session.perform] at sound safe ⊢
    split
    · rename_i hid
      rw [if_pos hid] at sound safe
      refine ⟨sound, safe, s.registry.excludeCompiler_add id index delta, ?_, fun i hv => ?_⟩
      · show Labelled _ (s.registry.add id index delta).2.inclusion _
        rw [Registry.inclusion_add]
        exact lab.added (by rw [Registry.length_inclusion]; exact hid) index delta _
      · -- The bound is on the record with this deposit, so it holds of the one before.
        exact (bal i ((volume_le_cons ..).trans hv)).add wf roll hid index delta hv
    · exact ⟨⟨wf, roll⟩, hpause, rfl, lab, bal⟩
  | free id =>
    rw [Session.perform] at sound safe ⊢
    split
    · rename_i hid
      rw [if_pos hid] at sound safe
      refine ⟨sound, safe, (s.registry.freeOwn_frame id).2, ?_, fun i hv => ?_⟩
      · show Labelled _ (s.registry.freeOwn id).inclusion _
        rw [Registry.inclusion_freeOwn wf]
        exact lab.cons (fun _ => rfl) fun _ _ h => h
      · exact (bal i hv).free wf lab roll hid hv
    · exact ⟨⟨wf, roll⟩, hpause, rfl, lab, bal⟩
  | resize n =>
    -- Under the safepoint every block takes part in the pause, so `resizeAll` is `resize`.
    obtain ⟨hvalue, -, hstate⟩ := s.registry.resizeAll_safepoint hpause n
    rw [Session.perform] at sound safe ⊢
    rw [hvalue, hstate] at sound safe ⊢
    refine ⟨sound, safe, s.registry.excludeCompiler_resize n, ?_, fun i hv => ?_⟩
    · show Labelled _ (s.registry.resize n).state.inclusion _
      rw [Registry.inclusion_resize]
      exact lab.resized n _
    · exact (bal i ((volume_le_cons ..).trans hv)).resize n
  | forget =>
    exact ⟨sound, safe, rfl, lab.cons (fun _ => rfl) (fun _ _ h => h),
      fun i hv => (bal i hv).forget⟩
  | collect buffer =>
    exact ⟨sound, safe, rfl, lab.cons (fun _ => rfl) (fun _ _ h => h),
      fun i hv => ⟨(bal i hv).above, (bal i hv).block_eq, (bal i hv).retired_eq⟩⟩
  | limit allowed =>
    exact ⟨sound, safe, rfl, lab.cons (fun _ => rfl) (fun _ _ h => h),
      fun i hv => ⟨(bal i hv).above, (bal i hv).block_eq, (bal i hv).retired_eq⟩⟩

/-- `Kept` is preserved by a whole list of operations, by `run_induction`. -/
theorem run (kept : s.Kept excludeCompiler) (ops : List Operation) :
    (s.run ops).Kept excludeCompiler :=
  run_induction (fun _ op h => h.perform op) ops s kept

/-- `Registry.freeOwn` leaves `totals` as they are: it moves the counts of a block into the pool. -/
theorem totals_freeOwn (kept : s.Kept excludeCompiler)
    (hv : ∀ i, volume i s.record ≤ maxCounter) (id : Nat) :
    (s.registry.freeOwn id).totals = s.registry.totals := by
  by_cases hid : id < s.registry.blocks.length
  · have kept' := kept.perform (.free id)
    rw [Session.perform, if_pos hid] at kept'
    have hsize := (s.registry.freeOwn_frame id).1
    apply List.ext_getElem?
    intro i
    by_cases hi : i < s.registry.size
    · -- Both totals are the same tally, as a retirement is no deposit.
      have hold := (kept.bal i (hv i)).toInt_totals kept.sound.wf kept.sound.roll
        (kept.exclude_eq ▸ kept.lab) hi (hv i)
      have hnew := (kept'.bal i (hv i)).toInt_totals kept'.sound.wf kept'.sound.roll
        (kept'.exclude_eq ▸ kept'.lab) (hsize ▸ hi) (hv i)
      rw [kept.exclude_eq] at hold
      rw [kept'.exclude_eq] at hnew
      exact Option.map_injective (fun _ _ => Int64.toInt_inj.1) (hnew.trans hold.symm)
    · rw [Registry.getElem?_totals, Registry.getElem?_totals, hsize, if_neg hi, if_neg hi]
  · have hnone : s.registry.blocks[id]? = none := List.getElem?_eq_none (Nat.not_lt.1 hid)
    rw [Registry.freeOwn, hnone]
    rfl

end Kept

/-- The registry of a session reports what its ledger `record` says. -/
structure Conserves (excludeCompiler : Bool) (s : Session) : Prop where
  /-- `totals` is the `tally` of the deposits that are `inTotals`. -/
  totals_eq : ∀ i < s.registry.size, (s.registry.totals[i]?).map (·.toInt) =
    some (tally (·.toInt) (inTotals excludeCompiler s.record) (deposits i s.record))
  /-- The pool is the `tally` of the deposits that are `inPool`. -/
  retired_eq : ∀ i < s.registry.size, (s.registry.retired[i]?).map (·.toInt) =
    some (tally (·.toInt) (inPool excludeCompiler s.record) (deposits i s.record))
  /-- `freeOwn`, applied to a live or to a freed block, neither loses nor doubles anything. -/
  free_totals : ∀ id, (s.registry.freeOwn id).totals = s.registry.totals
  /-- `add` to a block that is excluded or freed changes neither `totals` nor `retired`. -/
  add_uncounted : ∀ id, wasIncluded excludeCompiler s.record id = false ∨ .freed id ∈ s.record →
    ∀ index delta, (s.registry.add id index delta).2.totals = s.registry.totals ∧
      (s.registry.add id index delta).2.retired = s.registry.retired
  /-- `collect` overwrites a buffer of the right length with `totals`. -/
  collect_eq : ∀ buffer : List Int64, buffer.length = s.registry.size →
    s.registry.collect buffer = .ok s.registry.totals

/-- `Conserves` holds after every run under the safepoint in which, counter by counter, the accepted
deltas fit into a word. -/
theorem conserves_of_run {size : Nat} {excludeCompiler : Bool} {r : Registry}
    (hr : Registry.create size excludeCompiler = .ok r) {pause : Pause}
    (hpause : pause.coordinator = .safepoint) (ops : List Operation)
    (hv : ∀ i, volume i ((Session.start pause r).run ops).record ≤ 2 ^ 63 - 1) :
    ((Session.start pause r).run ops).Conserves excludeCompiler := by
  have kept := (Kept.start hr hpause).run ops
  generalize (Session.start pause r).run ops = s at kept hv
  have wf := kept.sound.wf
  have roll := kept.sound.roll
  have lab := kept.lab
  have hexclude := kept.exclude_eq
  exact
    { totals_eq := fun i hi => by
        -- The ledger has the sum of the deposits, and within the bound no sum is cut off.
        have h := (kept.bal i (hv i)).toInt_totals wf roll (hexclude ▸ lab) hi (hv i)
        rwa [hexclude] at h
      retired_eq := fun i hi => by
        have h := (kept.bal i (hv i)).retired_eq
        rw [hexclude, counterAt] at h
        rw [← wf.retired_length] at hi
        rw [List.getElem?_eq_getElem hi] at h ⊢
        exact congrArg some h
      free_totals := kept.totals_freeOwn hv
      add_uncounted := fun id h index delta => by
        refine Registry.totals_add_of_not_counted (fun b hb => ?_) index delta
        -- Excluded blocks fail the first flag of the filter, freed ones the second.
        rcases h with h | h
        · rw [← lab.wasIncluded_eq hb, h, Bool.false_and]
        · rw [← wasFreed_eq_true_iff, roll.wasFreed_eq hb, Bool.not_eq_true'] at h
          rw [h, Bool.and_false]
      collect_eq := fun buffer => Registry.collect_of_length_eq }

/-- A run with blocks freed twice and fed afterwards, a compiler thread's block, resizes that cut
counters off, put them back or fail, and a pool that is forgotten in between. -/
def busyDay : List Operation :=
  [.attach false, .attach true, .attach false, .add 0 1 5, .add 0 0 (-2), .add 1 1 9, .add 2 1 11,
    .free 0, .free 0, .add 0 1 100, .forget, .resize 1, .resize 3, .add 2 1 4, .free 2,
    .limit (some 0), .resize 0, .attach false, .add 3 1 8]

/-- `conserves_of_run` applies to `busyDay`: `totals` show nothing of the hundred that block 0 was
given after its `free`, nor of what a `resize` cut off. -/
theorem conserves_of_busyDay :
    Registry.create 2 true = .ok (Registry.empty 2 true) ∧
      ({} : Pause).coordinator = .safepoint ∧
      (∀ i, volume i ((Session.start {} (Registry.empty 2 true)).run busyDay).record
        ≤ 2 ^ 63 - 1) ∧
      ((Session.start {} (Registry.empty 2 true)).run busyDay).Conserves true ∧
      ((Session.start {} (Registry.empty 2 true)).run busyDay).registry.totals = [0, 12, 0] := by
  -- The record is computed once, so that `volume` unfolds over a list and not over a run.
  have hrecord : ((Session.start {} (Registry.empty 2 true)).run busyDay).record =
      [.added 3 1 8 true, .attached 3 false, .resized 0 false, .limited (some 0), .freed 2,
        .added 2 1 4 true, .resized 3 true, .resized 1 true, .forgotten, .added 0 1 100 true,
        .freed 0, .freed 0, .added 2 1 11 true, .added 1 1 9 true, .added 0 0 (-2) true,
        .added 0 1 5 true, .attached 2 false, .attached 1 true, .attached 0 false] := by
    decide
  have hv : ∀ i, volume i ((Session.start {} (Registry.empty 2 true)).run busyDay).record
      ≤ 2 ^ 63 - 1 := by
    intro i
    rw [hrecord]
    simp only [volume]
    by_cases h0 : 0 = i
    · subst h0
      decide
    · by_cases h1 : 1 = i
      · subst h1
        decide
      · simp only [if_neg h0, if_neg h1, Nat.zero_add, Nat.zero_le]
  exact ⟨rfl, rfl, hv,
    conserves_of_run (rfl : Registry.create 2 true = _) (rfl : ({} : Pause).coordinator = _) _ hv,
    by decide⟩

end Session

end CompilerLink.Counter
