import CompilerLink.Proofs.Counter.Ceiling
import CompilerLink.Proofs.Counter.Fleet
import CompilerLink.Proofs.Counter.Repetition

/-! # Resizes in succession

What resizes that succeed one after the other leave of an array depends on two of their lengths
only: the least one, up to which the old counters are kept, and the last one, up to which zeros
follow (`registry_run_resizes`). So a counter that was cut off never comes back. Sums are taken
place by place, so it makes no difference whether the counters are resized and then summed up or
the other way round (`Registry.totalsInOrder_trimmed`), wherever the sums run into the end of the
range. -/

namespace CompilerLink.Counter

/-! ### One array -/

/-- The first `kept` counters of an array, filled up with zeros to length `n`. -/
def trimmed (values : List Int64) (kept n : Nat) : List Int64 :=
  values.take kept ++ List.replicate (n - kept) 0

/-- One place of a `trimmed` array: an old counter, a zero, or none at all. -/
theorem getElem?_trimmed {values : List Int64} {kept n : Nat} (hlength : kept ≤ values.length)
    (hn : kept ≤ n) (i : Nat) :
    (trimmed values kept n)[i]? =
      if i < kept then values[i]? else if i < n then some 0 else none := by
  have htake : (values.take kept).length = kept := by
    simp only [List.length_take]
    omega
  unfold trimmed
  -- The three ranges are the two halves of the append and what is past both.
  by_cases hi : i < kept
  · rw [List.getElem?_append_left (by omega), List.getElem?_take_of_lt hi, if_pos hi]
  · rw [List.getElem?_append_right (by omega), htake, List.getElem?_replicate, if_neg hi]
    by_cases hin : i < n
    · rw [if_pos (by omega), if_pos hin]
    · rw [if_neg (by omega), if_neg hin]

/-- `trimmed` to the length that an array has is the array. -/
theorem trimmed_of_length_eq {values : List Int64} {n : Nat} (h : values.length = n) :
    trimmed values n n = values := by
  simp [trimmed, ← h]

/-- `resized` of a `trimmed` array keeps what fits of the counters that were kept so far. -/
theorem resized_trimmed {values : List Int64} {kept m : Nat} (hlength : kept ≤ values.length)
    (hm : kept ≤ m) (n : Nat) :
    resized (trimmed values kept m) n = trimmed values (min kept n) n := by
  apply List.ext_getElem?
  intro i
  rw [getElem?_resized, getElem?_trimmed hlength hm, getElem?_trimmed (by omega) (by omega)]
  by_cases hn : i < n
  · by_cases hkept : i < kept
    · have hget : values[i]? = some values[i] := List.getElem?_eq_getElem (by omega)
      simp [hn, hkept, hget]
    · -- A zero stays a zero, and zeros are what follows behind the array.
      have hzero : (if i < m then some (0 : Int64) else none).getD 0 = 0 := by split <;> rfl
      simp [hn, hkept, hzero]
  · simp [hn]

/-- `counterAt` reads zero past what a `trimmed` array has kept. -/
theorem counterAt_trimmed {values : List Int64} {kept n i : Nat} (hlength : kept ≤ values.length)
    (hn : kept ≤ n) (hi : kept ≤ i) : counterAt (trimmed values kept n) i = 0 := by
  rw [counterAt, getElem?_trimmed hlength hn, if_neg (by omega)]
  split <;> rfl

/-! ### The whole registry -/

/-- `Counter.trimmed` on the values of a live block. -/
def Block.trimmed (kept n : Nat) (b : Block) : Block :=
  b.withValues fun b => Counter.trimmed b.values kept n

/-- `trimmed` changes the values of a live block. -/
theorem Block.trimmed_of_live {b : Block} (h : b.live = true) (kept n : Nat) :
    b.trimmed kept n = { b with values := Counter.trimmed b.values kept n } := by
  rw [trimmed, withValues, if_pos h]

/-- `trimmed` leaves a block that is not live. -/
theorem Block.trimmed_of_not_live {b : Block} (h : b.live = false) (kept n : Nat) :
    b.trimmed kept n = b := by
  rw [trimmed, withValues, h]
  rfl

/-- `trimmed` does not change whether a block is live. -/
theorem Block.live_trimmed (b : Block) (kept n : Nat) : (b.trimmed kept n).live = b.live := by
  rw [trimmed, withValues]
  split <;> rfl

namespace Registry

variable {r : Registry} {kept m n : Nat}

/-- `Counter.trimmed` on the pool and all live blocks, with the size set to `n`. -/
def trimmed (r : Registry) (kept n : Nat) : Registry :=
  { r with
    size := n
    retired := Counter.trimmed r.retired kept n
    blocks := r.blocks.map (·.trimmed kept n) }

/-- `trimmed` to the present size is the registry. -/
theorem WellFormed.trimmed_size (wf : r.WellFormed) : r.trimmed r.size r.size = r := by
  have hblocks : r.blocks.map (·.trimmed r.size r.size) = r.blocks.map id := by
    apply wf.map_blocks_congr
    · intro b hlive hlength
      rw [Block.trimmed_of_live hlive, trimmed_of_length_eq hlength, id]
    · intro b hdead
      rw [Block.trimmed_of_not_live hdead, id]
  rw [List.map_id] at hblocks
  rw [trimmed, hblocks, trimmed_of_length_eq wf.retired_length]

/-- `fitted` of a `trimmed` registry keeps what fits of the counters that were kept so far. -/
theorem WellFormed.fitted_trimmed (wf : r.WellFormed) (hkept : kept ≤ r.size) (hm : kept ≤ m)
    (n : Nat) : (r.trimmed kept m).fitted n = r.trimmed (min kept n) n := by
  have hblocks : (r.blocks.map (·.trimmed kept m)).map (·.resizedTo n) =
      r.blocks.map (·.trimmed (min kept n) n) := by
    rw [List.map_map]
    -- Only live blocks have values to cut; freed ones are kept as they are by both.
    apply wf.map_blocks_congr
    · intro b hlive hlength
      have hlive' := (b.live_trimmed kept m).trans hlive
      rw [Function.comp_apply, Block.resizedTo_of_live hlive', Block.trimmed_of_live hlive,
        Block.trimmed_of_live hlive, resized_trimmed (by omega) hm]
    · intro b hdead
      have hdead' := (b.live_trimmed kept m).trans hdead
      rw [Function.comp_apply, Block.resizedTo_of_not_live hdead', Block.trimmed_of_not_live hdead,
        Block.trimmed_of_not_live hdead]
  have hretired := wf.retired_length
  simp only [fitted, trimmed, hblocks, resized_trimmed (hkept.trans hretired.ge) hm]

/-- `liveBlocks` of a `trimmed` registry are the live blocks, trimmed. -/
theorem liveBlocks_trimmed (r : Registry) (kept n : Nat) :
    (r.trimmed kept n).liveBlocks =
      r.liveBlocks.map fun b => { b with values := Counter.trimmed b.values kept n } := by
  have hsame : ∀ b : Block, ((·.live) ∘ Block.trimmed kept n) b = b.live :=
    fun b => b.live_trimmed kept n
  rw [liveBlocks, liveBlocks, trimmed, List.filter_map, List.filter_congr fun b _ => hsame b]
  apply List.map_congr_left
  intro b hb
  exact Block.trimmed_of_live (List.mem_filter.1 hb).2 kept n

/-! ### Sums -/

/-- `saturatingAdd` over zeros is zero. -/
theorem foldl_saturatingAdd_zero {vs : List Int64} (h : ∀ v ∈ vs, v = 0) :
    vs.foldl saturatingAdd 0 = 0 := by
  induction vs with
  | nil => rfl
  | cons v vs ih =>
    obtain ⟨rfl, hrest⟩ := List.forall_mem_cons.1 h
    have hzero : saturatingAdd 0 0 = 0 := rfl
    rw [List.foldl_cons, hzero, ih hrest]

/-- `totalsInOrder` of a `trimmed` registry are `totalsInOrder`, trimmed: summing up and cutting off
commute place by place, also where the sums saturate. -/
theorem WellFormed.totalsInOrder_trimmed (wf : r.WellFormed) (hkept : kept ≤ r.size)
    (hn : kept ≤ n) {order : List Block} (horder : order.Perm r.liveBlocks) :
    (r.trimmed kept n).totalsInOrder
        (order.map fun b => { b with values := Counter.trimmed b.values kept n }) =
      Counter.trimmed (r.totalsInOrder order) kept n := by
  have hlength : ∀ b ∈ order.filter (·.included), b.values.length = r.size := by
    intro b hb
    obtain ⟨k, hk, hlive⟩ := mem_liveBlocks.1 (horder.subset (List.mem_of_mem_filter hb))
    exact wf.live_length hk hlive
  have hretired := wf.retired_length
  have hsums : kept ≤ (r.totalsInOrder order).length := by
    rw [totalsInOrder, length_foldl_addInto, length_copyInto, List.length_replicate]
    exact hkept
  apply List.ext_getElem?
  intro i
  rw [getElem?_trimmed hsums hn, totalsInOrder, totalsInOrder, List.filter_map,
    getElem?_foldl_addInto, getElem?_foldl_addInto, getElem?_copyInto, getElem?_copyInto,
    List.getElem?_replicate, List.getElem?_replicate]
  simp only [Function.comp_def]
  generalize order.filter (·.included) = counted at hlength
  -- The column of a place is that of the old blocks, all zeros, or empty.
  have hcolumn : column i (counted.map fun b =>
        { b with values := Counter.trimmed b.values kept n }) =
      counted.filterMap fun b =>
        if i < kept then b.values[i]? else if i < n then some 0 else none := by
    rw [column, List.filterMap_map]
    apply List.filterMap_congr
    intro b hb
    exact getElem?_trimmed (hkept.trans (hlength b hb).ge) hn i
  have hpool : (r.trimmed kept n).retired[i]? = _ :=
    getElem?_trimmed (hkept.trans hretired.ge) hn i
  have hsize : (r.trimmed kept n).size = n := rfl
  rw [hcolumn, hpool, hsize]
  by_cases hi : i < kept
  · -- A place that has been kept all along has the same column as before.
    have hin : i < n := by omega
    have hold : i < r.size := by omega
    simp only [hi, hin, hold, if_true]
    rfl
  · by_cases hin : i < n
    · -- Any other place has a column of zeros, and none in the pool.
      have hzeros : (counted.filterMap fun _ => some 0).foldl saturatingAdd 0 = 0 :=
        foldl_saturatingAdd_zero (by simp)
      simp only [hi, hin, if_true, if_false, Option.map_some, Option.getD_some, hzeros]
    · simp only [hi, hin, if_false, Option.map_none]

/-- `WellFormed.totalsInOrder_trimmed` in the order of `liveBlocks`. -/
theorem WellFormed.totals_trimmed (wf : r.WellFormed) (hkept : kept ≤ r.size) (hn : kept ≤ n) :
    (r.trimmed kept n).totals = Counter.trimmed r.totals kept n := by
  rw [← totalsInOrder_liveBlocks, ← totalsInOrder_liveBlocks, liveBlocks_trimmed]
  exact wf.totalsInOrder_trimmed hkept hn (.refl _)

end Registry

/-! ### Resizes one after the other -/

/-- The least of some numbers, as `List.foldl min`, is characterised by what is below it. -/
theorem le_foldl_min_iff (ns : List Nat) (a k : Nat) :
    k ≤ ns.foldl min a ↔ k ≤ a ∧ ∀ n ∈ ns, k ≤ n := by
  induction ns generalizing a with
  | nil => simp
  | cons n ns ih => rw [List.foldl_cons, ih, List.forall_mem_cons, Nat.le_min, and_assoc]

/-- A number that is not above the others of a list decides `List.foldl min` over the list. -/
theorem foldl_min_eq {ns : List Nat} {m : Nat} (hm : m ∈ ns) (hleast : ∀ n ∈ ns, m ≤ n)
    (a : Nat) : ns.foldl min a = min a m := by
  obtain ⟨hle, hall⟩ := (le_foldl_min_iff ns a _).1 (Nat.le_refl _)
  have hge : min a m ≤ ns.foldl min a :=
    (le_foldl_min_iff ns a _).2
      ⟨Nat.min_le_left a m, fun n hn => (Nat.min_le_right a m).trans (hleast n hn)⟩
  have hlem := hall m hm
  omega

namespace Session

variable {s : Session}

/-- A succession of resizes all of which succeed. -/
def Resizes : Session → List Nat → Prop
  | _, [] => True
  | s, n :: ns =>
    (s.registry.resizeAll s.pause n).value = .ok () ∧ (s.perform (.resize n)).Resizes ns

/-- A succession of resizes leaves the registry `trimmed` to the least of the lengths and to the
last of them. -/
theorem registry_run_resizes {r : Registry} (wf : r.WellFormed) {kept m : Nat}
    (hkept : kept ≤ r.size) (hm : kept ≤ m) (hruns : s.pause.coordinator.runs ≠ 0)
    {budget : Option Nat} (hs : s.registry = { r.trimmed kept m with budget }) {ns : List Nat}
    (h : s.Resizes ns) :
    ∃ left, (s.run (ns.map .resize)).registry =
      { r.trimmed (ns.foldl min kept) (ns.getLastD m) with budget := left } := by
  induction ns generalizing s kept m budget with
  | nil => exact ⟨budget, hs⟩
  | cons n ns ih =>
    obtain ⟨hok, hrest⟩ := h
    obtain ⟨left, hleft⟩ := Registry.resizeAll_of_hasRoom hruns (Registry.hasRoom_of_ok hruns hok)
    have hruns' : (s.perform (.resize n)).pause.coordinator.runs ≠ 0 := by
      rw [coordinator_perform]
      exact hruns
    -- The invariant is that the state is `trimmed`; one more resize lowers what is kept.
    have hnext : (s.perform (.resize n)).registry =
        { r.trimmed (min kept n) n with budget := left } := by
      show (s.registry.resizeAll s.pause n).state.2 = _
      rw [hleft, hs, ← wf.fitted_trimmed hkept hm n]
      rfl
    rw [List.foldl_cons, List.getLastD_cons]
    exact ih (by omega) (Nat.min_le_right kept n) hruns' hnext hrest

/-- Without a limit to the arrays, resizes to lengths below `arrayLimit` all succeed. -/
theorem resizes_of_no_limit (hruns : s.pause.coordinator.runs ≠ 0)
    (hbudget : s.registry.budget = none) {ns : List Nat} (hns : ∀ n ∈ ns, n < arrayLimit) :
    s.Resizes ns := by
  induction ns generalizing s with
  | nil => trivial
  | cons n ns ih =>
    obtain ⟨hn, hrest⟩ := List.forall_mem_cons.1 hns
    have hok : (s.registry.resizeAll s.pause n).value = .ok () := by
      refine (Registry.resizeAll_eq_ok_iff hruns).2 ⟨hn, fun allowed hallowed => ?_⟩
      rw [hbudget] at hallowed
      exact nomatch hallowed
    -- The next resize needs an unlimited budget as well, and no run of this one takes from it.
    have hnone : (s.perform (.resize n)).registry.budget = none := by
      refine Registry.resizeAll_induction (P := fun r => r.budget = none) n ?_ s.pause s.registry
        hbudget
      intro r hr
      rw [(Registry.resize_of_hasRoom ⟨hn, by simp [hr]⟩).2]
      show r.budget.map _ = none
      rw [hr]
      rfl
    refine ⟨hok, ih ?_ hnone hrest⟩
    rw [coordinator_perform]
    exact hruns

/-- Resizes that succeed are to lengths below `arrayLimit`. -/
theorem Resizes.lt_arrayLimit (hruns : s.pause.coordinator.runs ≠ 0) {ns : List Nat}
    (h : s.Resizes ns) : ∀ n ∈ ns, n < arrayLimit := by
  induction ns generalizing s with
  | nil => simp
  | cons n ns ih =>
    obtain ⟨hok, hrest⟩ := h
    refine List.forall_mem_cons.2 ⟨(Registry.hasRoom_of_ok hruns hok).1, ih ?_ hrest⟩
    rw [coordinator_perform]
    exact hruns

/-! ### Every state of a run -/

/-- What resizes to lengths `ns`, the last of which is `n`, come to: of every array the counters
below its old length and below all of `ns` are kept, and zeros follow. -/
structure Composes (s : Session) (ns : List Nat) (n : Nat) : Prop where
  /-- The size is the last length. -/
  size_eq : (s.run (ns.map .resize)).registry.size = n
  /-- The pool keeps the counters below the least length, and zeros follow. -/
  retired_eq : (s.run (ns.map .resize)).registry.retired =
    s.registry.retired.take (ns.foldl min s.registry.size) ++
      List.replicate (n - ns.foldl min s.registry.size) 0
  /-- So does every live block. -/
  live_eq : (s.run (ns.map .resize)).registry.liveBlocks = s.registry.liveBlocks.map fun b =>
    { b with
      values := b.values.take (ns.foldl min s.registry.size) ++
        List.replicate (n - ns.foldl min s.registry.size) 0 }
  /-- Blocks that are not live are left. -/
  dead_eq : ∀ (k : Nat) (b : Block), s.registry.blocks[k]? = some b → b.live = false →
    (s.run (ns.map .resize)).registry.blocks[k]? = some b
  /-- What one of the resizes has cut off stays cut off. -/
  cut_off : ∀ m ∈ ns, ∀ i, m ≤ i → counterAt (s.run (ns.map .resize)).registry.retired i = 0 ∧
    ∀ b ∈ (s.run (ns.map .resize)).registry.liveBlocks, counterAt b.values i = 0
  /-- Given the arrays for it, a resize to the least length and one to the last come to the same,
  whatever the budget. -/
  two_suffice : ∀ m ∈ ns, (∀ n' ∈ ns, m ≤ n') → (s.perform (.limit none)).Resizes [m, n] ∧
    ∀ allowed, (s.perform (.limit allowed)).Resizes [m, n] →
      ∃ left, ((s.perform (.limit allowed)).run [.resize m, .resize n]).registry =
        (s.run (ns.map .resize)).registry.setBudget left
  /-- A resize to the present length changes no counter, whether it succeeds or not. -/
  same_size : ∃ left, (s.perform (.resize s.registry.size)).registry = s.registry.setBudget left
  /-- `totals` are trimmed as the counters are. -/
  totals_eq : (s.run (ns.map .resize)).registry.totals =
    s.registry.totals.take (ns.foldl min s.registry.size) ++
      List.replicate (n - ns.foldl min s.registry.size) 0
  /-- So are `totalsInOrder`, for any order in which the live blocks may be met, before
  and after. -/
  totalsInOrder_eq : ∀ order, order.Perm s.registry.liveBlocks →
    (s.run (ns.map .resize)).registry.totalsInOrder (order.map fun b =>
        { b with
          values := b.values.take (ns.foldl min s.registry.size) ++
            List.replicate (n - ns.foldl min s.registry.size) 0 }) =
      (s.registry.totalsInOrder order).take (ns.foldl min s.registry.size) ++
        List.replicate (n - ns.foldl min s.registry.size) 0

section Fleet

variable {ι : Type} [DecidableEq ι]

/-- `carryOutAll` does not change the coordinator of a registry. -/
theorem coordinator_carryOutAll (w : ι → Session) (orders : List (Order ι)) (i : ι) :
    (carryOutAll w orders i).pause.coordinator = (w i).pause.coordinator :=
  carryOutAll_induction (P := fun s => s.pause.coordinator = (w i).pause.coordinator)
    (fun s op h => (coordinator_perform s op).trans h) (fun _ _ h => h) rfl orders

/-- `Composes` holds in every state that a registry can reach, also if it is handed blocks of
others, for resizes that all succeed under a coordinator that runs them. -/
theorem composes_of_run {size : ι → Nat} {excludeCompiler : ι → Bool} {r : ι → Registry}
    (hr : ∀ i, Registry.create (size i) (excludeCompiler i) = .ok (r i)) {pause : ι → Pause} {i : ι}
    (hruns : (pause i).coordinator.runs ≠ 0) (orders : List (Order ι)) {ns : List Nat}
    (hne : ns ≠ [])
    (h : (carryOutAll (fun i => start (pause i) (r i)) orders i).Resizes ns) :
    (carryOutAll (fun i => start (pause i) (r i)) orders i).Composes ns (ns.getLast hne) := by
  have wf := (sound_of_orders hr pause orders i).wf
  have hpause : (carryOutAll (fun i => start (pause i) (r i)) orders i).pause.coordinator.runs ≠
      0 := by
    rw [coordinator_carryOutAll]
    exact hruns
  generalize carryOutAll (fun i => start (pause i) (r i)) orders i = s at wf hpause h
  have hlast : ns.getLastD s.registry.size = ns.getLast hne := by
    rw [List.getLastD_eq_getLast?, List.getLast?_eq_some_getLast hne, Option.getD_some]
  obtain ⟨hkept, hall⟩ := (le_foldl_min_iff ns s.registry.size _).1 (Nat.le_refl _)
  have hn := hall _ (List.getLast_mem hne)
  -- Nothing has been cut off in the beginning, whatever the budget is.
  have hstart : ∀ allowed, s.registry.setBudget allowed =
      { s.registry.trimmed s.registry.size s.registry.size with budget := allowed } := by
    intro allowed
    rw [wf.trimmed_size]
    rfl
  -- All fields are about this one registry: cut to the least length, and filled up to the last.
  obtain ⟨left, hleft⟩ := registry_run_resizes wf (Nat.le_refl _) (Nat.le_refl _) hpause
    (hstart s.registry.budget) h
  rw [hlast] at hleft
  have hlive := s.registry.liveBlocks_trimmed (ns.foldl min s.registry.size) (ns.getLast hne)
  have hlimit : ∀ allowed, (s.perform (.limit allowed)).pause.coordinator.runs ≠ 0 :=
    fun allowed => hpause
  exact
    { size_eq := by rw [hleft]; rfl
      retired_eq := by rw [hleft]; rfl
      live_eq := by rw [hleft]; exact hlive
      dead_eq := fun k b hb hdead => by
        rw [hleft]
        show (s.registry.blocks.map _)[k]? = some b
        rw [List.getElem?_map, hb, Option.map_some, Block.trimmed_of_not_live hdead]
      cut_off := fun m hm i hi => by
        have hkept' := (hall m hm).trans hi
        rw [hleft]
        refine ⟨counterAt_trimmed (hkept.trans wf.retired_length.ge) hn hkept', fun b hb => ?_⟩
        obtain ⟨old, hold, rfl⟩ := List.mem_map.1 (hlive ▸ hb)
        obtain ⟨k, hk, hold⟩ := Registry.mem_liveBlocks.1 hold
        exact counterAt_trimmed (hkept.trans (wf.live_length hk hold).ge) hn hkept'
      two_suffice := fun m hm hleast => by
        have hshort := h.lt_arrayLimit hpause
        refine ⟨resizes_of_no_limit (hlimit none) rfl ?_, fun allowed htwo => ?_⟩
        · simpa using ⟨hshort m hm, hshort _ (List.getLast_mem hne)⟩
        · obtain ⟨left', hleft'⟩ := registry_run_resizes wf (Nat.le_refl _) (Nat.le_refl _)
            (hlimit allowed) (hstart allowed) htwo
          -- Both ways the same counters are kept, as the last length is not below the least one.
          have hmin : [m, ns.getLast hne].foldl min s.registry.size =
              ns.foldl min s.registry.size := by
            have hle := hleast _ (List.getLast_mem hne)
            rw [foldl_min_eq hm hleast]
            simp only [List.foldl_cons, List.foldl_nil]
            omega
          rw [hmin] at hleft'
          refine ⟨left', ?_⟩
          rw [hleft]
          exact hleft'
      same_size := by
        show ∃ left, (s.registry.resizeAll s.pause s.registry.size).state.2 = _
        -- Whether there is room or not, only the budget can change.
        by_cases hroom : s.registry.HasRoom s.registry.size
        · obtain ⟨left', hleft'⟩ := Registry.resizeAll_of_hasRoom hpause hroom
          have hfitted := wf.fitted_trimmed (Nat.le_refl _) (Nat.le_refl _) s.registry.size
          rw [Nat.min_self, wf.trimmed_size] at hfitted
          rw [hleft', hfitted]
          exact ⟨left', rfl⟩
        · obtain ⟨-, left', hleft'⟩ := Registry.resizeAll_of_not_hasRoom hpause hroom
          exact ⟨left', hleft'⟩
      totals_eq := by
        rw [hleft]
        exact wf.totals_trimmed hkept hn
      totalsInOrder_eq := fun order horder => by
        rw [hleft]
        exact wf.totalsInOrder_trimmed hkept hn horder }

/-- Two blocks of the first registry that are past `Int64.maxValue` together; a third one is freed
in place of a block of the other registry. -/
def crowded : List (Order Bool) :=
  [.own false (.attach false), .own false (.attach true), .own false (.attach false),
    .own false (.add 1 1 Int64.maxValue), .own false (.add 2 1 7), .own false (.add 1 0 4),
    .own true (.attach false), .own true (.add 0 1 (-3)), .hand false true 0]

/-- `composes_of_run` applies to `crowded`: the counters shrink, grow and shrink again, and the
largest counter does not come back. -/
theorem composes_of_crowded :
    let w := carryOutAll (fun _ : Bool => start {} (Registry.empty 3 false)) crowded
    (∀ _ : Bool, Registry.create 3 false = .ok (Registry.empty 3 false)) ∧
      ({} : Pause).coordinator.runs ≠ 0 ∧ (w false).Resizes [1, 4, 2] ∧
      (w false).Composes [1, 4, 2] 2 ∧
      (w false).registry.totals = [4, Int64.maxValue, 0] ∧
      ((w false).run ([1, 4, 2].map .resize)).registry.totals = [4, 0] := by
  intro w
  have hruns : ({} : Pause).coordinator.runs ≠ 0 := Nat.one_ne_zero
  have hresizes : (w false).Resizes [1, 4, 2] := ⟨rfl, rfl, rfl, trivial⟩
  exact ⟨fun _ => rfl, hruns, hresizes,
    @composes_of_run Bool _ (fun _ => 3) (fun _ => false) _ (fun _ => rfl) (fun _ => {}) false hruns
      crowded _ (List.cons_ne_nil _ _) hresizes,
    by decide, by decide⟩

end Fleet

end Session

end CompilerLink.Counter
