import CompilerLink.Proofs.Counter.Ceiling

/-! # Sums that fit into a word

`Registry.weight` adds up the absolute values of all that is summed up at a place. As long as it is
within the range of a counter, no sum runs into the end of the range, whatever the signs are: the
totals are the exact sum, and blocks that are retired add exactly what they count to the pool
(`WellFormed.counterAt_freeAll`). -/

namespace CompilerLink.Counter

/-! ### One place -/

/-- The sum of the absolute values of `counterAt · i` over blocks. -/
def weighAt (i : Nat) (blocks : List Block) : Nat :=
  (blocks.map fun b => (counterAt b.values i).natAbs).sum

/-- `weighAt` bounds `sumAt` in absolute value. -/
theorem natAbs_sumAt_le (i : Nat) (blocks : List Block) :
    (sumAt i blocks).natAbs ≤ weighAt i blocks := by
  induction blocks with
  | nil => exact Nat.le_refl 0
  | cons b blocks ih =>
    simp only [sumAt, weighAt, List.map_cons, List.sum_cons] at ih ⊢
    omega

/-- `weighAt` splits along a property, as `sumAt` does in `sumAt_filter_add`. -/
theorem weighAt_filter_add (i : Nat) (p : Block → Prop) [DecidablePred p] (blocks : List Block) :
    weighAt i (blocks.filter fun b => p b) + weighAt i (blocks.filter fun b => ¬ p b) =
      weighAt i blocks :=
  List.sum_map_filter_add_sum_map_filter_not p _ blocks

/-- Folding blocks with `addInto` into a pool that is not shorter is exact, if the absolute values
fit into a word together. -/
theorem counterAt_foldl_addInto {i : Nat} {pool : List Int64} {blocks : List Block}
    (hlength : ∀ b ∈ blocks, b.values.length ≤ pool.length)
    (hfit : (counterAt pool i).natAbs + weighAt i blocks ≤ maxCounter) :
    counterAt (blocks.foldl (fun pool b => addInto pool b.values) pool) i =
      counterAt pool i + sumAt i blocks := by
  induction blocks generalizing pool with
  | nil => exact (Int.add_zero _).symm
  | cons b blocks ih =>
    obtain ⟨hb, hrest⟩ := List.forall_mem_cons.1 hlength
    simp only [weighAt, List.map_cons, List.sum_cons] at hfit ih
    -- The bound has room for the first block and, by what is left of it, for all others.
    have hsum := counterAt_addInto (i := i) hb (by omega)
    have hall := @ih (addInto pool b.values) (by simpa only [length_addInto] using hrest)
      (by omega)
    rw [List.foldl_cons, hall, hsum, sumAt, sumAt, List.map_cons, List.sum_cons]
    omega

/-- `copyInto` an array of the same length leaves nothing of what was there. -/
theorem copyInto_of_length_eq {out values : List Int64} (h : out.length = values.length) :
    copyInto out values = values := by
  apply List.ext_getElem?
  intro i
  rw [getElem?_copyInto]
  by_cases hi : i < values.length
  · rw [List.getElem?_eq_getElem hi, List.getElem?_eq_getElem (by omega)]
    rfl
  · rw [List.getElem?_eq_none (by omega : out.length ≤ i), List.getElem?_eq_none (by omega)]
    rfl

namespace Registry

variable {r : Registry} {i : Nat}

/-- The sum of the absolute values of all that goes into `totals` at place `i`. -/
def weight (r : Registry) (i : Nat) : Nat :=
  (counterAt r.retired i).natAbs + weighAt i r.countedBlocks

/-- `totals` are the exact `mass` at every place whose `weight` fits into a word. -/
theorem WellFormed.counterAt_totals (wf : r.WellFormed) (hfit : r.weight i ≤ maxCounter) :
    counterAt r.totals i = r.mass i := by
  have hpool : copyInto (List.replicate r.size 0) r.retired = r.retired :=
    copyInto_of_length_eq (List.length_replicate.trans wf.retired_length.symm)
  rw [← totalsInOrder_liveBlocks, totalsInOrder, hpool]
  exact counterAt_foldl_addInto (fun b hb => (wf.length_countedBlocks b hb).le) hfit

/-! ### Retiring blocks -/

/-- `freeOwn` adds exactly what the block counts to the pool, if the `weight` fits into a word. -/
theorem WellFormed.counterAt_freeOwn (wf : r.WellFormed) (hfit : r.weight i ≤ maxCounter)
    (id : Nat) :
    counterAt (r.freeOwn id).retired i =
      counterAt r.retired i + sumAt i (r.countedBlocks.filter fun b => b.id = id) := by
  rw [wf.retired_freeOwn]
  apply counterAt_foldl_addInto
  · intro b hb
    exact (wf.length_countedBlocks b (List.mem_of_mem_filter hb)).le
  · -- The part of the weight that belongs to this block fits if all of it does.
    have hpart := weighAt_filter_add i (fun b => b.id = id) r.countedBlocks
    unfold weight at hfit
    omega

/-- `freeOwn` does not raise the `weight`: the pool takes a sum, which is at most the sum of the
absolute values. -/
theorem WellFormed.weight_freeOwn_le (wf : r.WellFormed) (hfit : r.weight i ≤ maxCounter)
    (id : Nat) : (r.freeOwn id).weight i ≤ r.weight i := by
  have hpart := weighAt_filter_add i (fun b => b.id = id) r.countedBlocks
  have hmoved := natAbs_sumAt_le i (r.countedBlocks.filter fun b => b.id = id)
  rw [weight, weight, wf.counterAt_freeOwn hfit, wf.countedBlocks_freeOwn]
  omega

/-- `freeAll ids` drops the blocks numbered in `ids` from `liveBlocks`. -/
theorem WellFormed.liveBlocks_freeAll (wf : r.WellFormed) (ids : List Nat) :
    (r.freeAll ids).liveBlocks = r.liveBlocks.filter fun b => ¬ b.id ∈ ids := by
  induction ids generalizing r with
  | nil => exact (List.filter_eq_self.2 fun b _ => by simp).symm
  | cons id ids ih =>
    -- The induction is on the numbers, as each of them filters what the earlier ones have left.
    have hrest := ih (wf.freeOwn id)
    rw [wf.liveBlocks_freeOwn, List.filter_filter] at hrest
    rw [show r.freeAll (id :: ids) = (r.freeOwn id).freeAll ids from rfl, hrest]
    apply List.filter_congr
    intro b _
    by_cases hid : b.id = id <;> simp [hid]

/-- `freeAll ids` drops the blocks numbered in `ids` from `countedBlocks`. -/
theorem WellFormed.countedBlocks_freeAll (wf : r.WellFormed) (ids : List Nat) :
    (r.freeAll ids).countedBlocks = r.countedBlocks.filter fun b => ¬ b.id ∈ ids := by
  rw [countedBlocks, countedBlocks, wf.liveBlocks_freeAll, List.filter_filter, List.filter_filter]
  exact List.filter_congr fun b _ => Bool.and_comm ..

/-- `freeAll ids` adds exactly what the counted blocks among `ids` count to the pool, each of them
once, and does not raise the `weight`. -/
theorem WellFormed.counterAt_freeAll (wf : r.WellFormed) (hfit : r.weight i ≤ maxCounter)
    (ids : List Nat) :
    counterAt (r.freeAll ids).retired i =
        counterAt r.retired i + sumAt i (r.countedBlocks.filter fun b => b.id ∈ ids) ∧
      (r.freeAll ids).weight i ≤ r.weight i := by
  induction ids generalizing r with
  | nil =>
    have hnone : (r.countedBlocks.filter fun b => b.id ∈ []) = [] :=
      List.filter_eq_nil_iff.2 fun b _ => by simp
    rw [hnone]
    exact ⟨(Int.add_zero _).symm, Nat.le_refl _⟩
  | cons id ids ih =>
    -- A number that comes up again later in `ids` finds no counted block any more.
    have hsplit := sumAt_filter_mem_append i [id] ids r.countedBlocks
    simp only [List.singleton_append, List.mem_singleton] at hsplit
    have hle := wf.weight_freeOwn_le hfit id
    obtain ⟨hrest, hweight⟩ := ih (wf.freeOwn id) (hle.trans hfit)
    rw [wf.counterAt_freeOwn hfit, wf.countedBlocks_freeOwn] at hrest
    refine ⟨?_, hweight.trans hle⟩
    show counterAt ((r.freeOwn id).freeAll ids).retired i = _
    omega

/-- `mass` is preserved by `freeAll`, if the `weight` fits into a word. -/
theorem WellFormed.mass_freeAll (wf : r.WellFormed) (hfit : r.weight i ≤ maxCounter)
    (ids : List Nat) : (r.freeAll ids).mass i = r.mass i := by
  have hsplit := sumAt_filter_add i (fun b => b.id ∈ ids) r.countedBlocks
  rw [mass, mass, (wf.counterAt_freeAll hfit ids).1, wf.countedBlocks_freeAll]
  omega

/-! ### Resizing -/

variable {n : Nat}

/-- `Block.resizedTo` keeps the number of a block. -/
theorem id_resizedTo (b : Block) (n : Nat) : (b.resizedTo n).id = b.id := (b.resizedTo_frame n).1

/-- `fitted` resizes the `liveBlocks` and makes no other block live. -/
theorem liveBlocks_fitted (r : Registry) (n : Nat) :
    (r.fitted n).liveBlocks = r.liveBlocks.map (·.resizedTo n) := by
  rw [liveBlocks, liveBlocks, fitted, List.filter_map]
  congr 1
  apply List.filter_congr
  intro b _
  exact (b.resizedTo_frame n).2.2

/-- `fitted` resizes the `countedBlocks` and makes no other block counted. -/
theorem countedBlocks_fitted (r : Registry) (n : Nat) :
    (r.fitted n).countedBlocks = r.countedBlocks.map (·.resizedTo n) := by
  rw [countedBlocks, countedBlocks, liveBlocks_fitted, List.filter_map]
  congr 1
  apply List.filter_congr
  intro b _
  exact (b.resizedTo_frame n).2.1

/-- `Block.resizedTo n` leaves the counters below `n`. -/
theorem counterAt_resizedTo (b : Block) (hi : i < n) :
    counterAt (b.resizedTo n).values i = counterAt b.values i := by
  cases hlive : b.live with
  | true => rw [Block.resizedTo_of_live hlive, counterAt_resized, if_pos hi]
  | false => rw [Block.resizedTo_of_not_live hlive]

/-- `sumAt i` is not changed by resizing to a length above `i`. -/
theorem sumAt_map_resizedTo (hi : i < n) (blocks : List Block) :
    sumAt i (blocks.map (·.resizedTo n)) = sumAt i blocks := by
  simp only [sumAt, List.map_map, Function.comp_def, counterAt_resizedTo _ hi]

/-- `mass` at place `i` is not changed by fitting to a length above `i`. -/
theorem mass_fitted (r : Registry) (hi : i < n) : (r.fitted n).mass i = r.mass i := by
  rw [mass, mass, countedBlocks_fitted, sumAt_map_resizedTo hi, fitted, counterAt_resized,
    if_pos hi]

/-- `weight` at place `i` is not changed by fitting to a length above `i`. -/
theorem weight_fitted (r : Registry) (hi : i < n) : (r.fitted n).weight i = r.weight i := by
  rw [weight, weight, countedBlocks_fitted, fitted, counterAt_resized, if_pos hi]
  simp only [weighAt, List.map_map, Function.comp_def, counterAt_resizedTo _ hi]

end Registry

end CompilerLink.Counter
