import CompilerLink.Proofs.Counter.Conservation

/-! # Sums that run into the end of the range

A chain of saturating additions depends on its order if the signs are mixed, as a sum that has run
into the end of the range comes back from there. Where no counter is negative it does not: it is the
exact sum, or the largest counter if that is less.

`Registry.mass` is the exact sum at a place, and `Registry.NonNegAt` says that nothing negative is
summed up there. Retiring a block moves a counter from one summand to another and may run into the
end of the range on the way, which makes no difference to a sum that is cut off there anyway. -/

namespace CompilerLink.Counter

/-! ### Sums of counters that are not negative -/

/-- `Int64.toInt_lt` with `maxCounter` for the largest counter. -/
theorem toInt_le_maxCounter (a : Int64) : a.toInt ≤ maxCounter := by
  have hlt := a.toInt_lt
  rw [maxCounter]
  omega

/-- `saturatingAdd` of two counters that are not negative is their exact sum, cut off at
`maxCounter`. -/
theorem toInt_saturatingAdd_of_nonneg {a b : Int64} (ha : 0 ≤ a.toInt) (hb : 0 ≤ b.toInt) :
    (saturatingAdd a b).toInt = min (maxCounter : Int) (a.toInt + b.toInt) := by
  have hmin : Int64.minValue.toInt = -2 ^ 63 := rfl
  have hmax : Int64.maxValue.toInt = maxCounter := rfl
  by_cases h : a.toInt + b.toInt ≤ maxCounter
  · rw [min_eq_right h, toInt_saturatingAdd (by omega)]
  · rw [min_eq_left (by omega), saturatingAdd, Int64.ofIntClamp, dif_pos (by omega),
      dif_neg (by omega), hmax]

/-- A chain of `saturatingAdd` over counters that are not negative is the exact sum, cut off at
`maxCounter`, in whatever order the summands come. -/
theorem toInt_foldl_saturatingAdd_of_nonneg (vs : List Int64) {a : Int64} (ha : 0 ≤ a.toInt)
    (hvs : ∀ v ∈ vs, 0 ≤ v.toInt) :
    (vs.foldl saturatingAdd a).toInt =
      min (maxCounter : Int) (a.toInt + (vs.map (·.toInt)).sum) := by
  induction vs generalizing a with
  | nil =>
    have hle := toInt_le_maxCounter a
    simp only [List.foldl_nil, List.map_nil, List.sum_nil]
    omega
  | cons v vs ih =>
    obtain ⟨hv, hrest⟩ := List.forall_mem_cons.1 hvs
    have hsum := toInt_saturatingAdd_of_nonneg ha hv
    have hnonneg : 0 ≤ (vs.map (·.toInt)).sum := List.sum_nonneg (by simpa using hrest)
    -- The first sum is not negative either, so the hypothesis applies to the rest of the chain.
    rw [List.foldl_cons, ih (by omega) hrest, hsum, List.map_cons, List.sum_cons]
    omega

/-- With mixed signs the order matters. -/
example : [1, -1].foldl saturatingAdd Int64.maxValue = Int64.maxValue - 1 ∧
    [-1, 1].foldl saturatingAdd Int64.maxValue = Int64.maxValue := by decide

/-! ### One place -/

/-- No counter exceeds `maxCounter`, including the zero that `counterAt` reads past the end. -/
theorem counterAt_le_maxCounter (values : List Int64) (i : Nat) :
    counterAt values i ≤ maxCounter :=
  toInt_le_maxCounter _

/-- `addInto` of an array that is not longer, at a place where neither is negative. -/
theorem counterAt_addInto_of_nonneg {out values : List Int64} {i : Nat}
    (hlen : values.length ≤ out.length) (hout : 0 ≤ counterAt out i)
    (hvalues : 0 ≤ counterAt values i) :
    counterAt (addInto out values) i =
      min (maxCounter : Int) (counterAt out i + counterAt values i) := by
  by_cases hi : i < values.length
  · have hgetOut : out[i]? = some out[i] := List.getElem?_eq_getElem (by omega)
    have hgetValues : values[i]? = some values[i] := List.getElem?_eq_getElem hi
    rw [counterAt, hgetOut] at hout
    rw [counterAt, hgetValues] at hvalues
    rw [counterAt, counterAt, counterAt, getElem?_addInto, hgetOut, hgetValues]
    exact toInt_saturatingAdd_of_nonneg hout hvalues
  · -- Nothing is added where the shorter array has no counter.
    have hnone : values[i]? = none := List.getElem?_eq_none (by omega)
    have hsame : counterAt (addInto out values) i = counterAt out i := by
      rw [counterAt, counterAt, getElem?_addInto, hnone]
      cases out[i]? <;> rfl
    have hle := counterAt_le_maxCounter out i
    rw [hsame, counterAt_of_length_le (Nat.not_lt.1 hi)]
    omega

/-- The exact sum of `counterAt · i` over blocks. -/
def sumAt (i : Nat) (blocks : List Block) : Int := (blocks.map (counterAt ·.values i)).sum

/-- `sumAt` is not negative if none of its summands is. -/
theorem sumAt_nonneg {i : Nat} {blocks : List Block}
    (h : ∀ b ∈ blocks, 0 ≤ counterAt b.values i) : 0 ≤ sumAt i blocks :=
  List.sum_nonneg (by simpa using h)

/-- `sumAt` splits along a property into the blocks that have it and those that do not. -/
theorem sumAt_filter_add (i : Nat) (p : Block → Prop) [DecidablePred p] (blocks : List Block) :
    sumAt i (blocks.filter fun b => p b) + sumAt i (blocks.filter fun b => ¬ p b) =
      sumAt i blocks :=
  List.sum_map_filter_add_sum_map_filter_not p _ blocks

/-- `sumAt` over the blocks of `ids ++ later` counts those of `ids` first and then those of `later`
that are left, so that a number on both lists counts once. -/
theorem sumAt_filter_mem_append (i : Nat) (ids later : List Nat) (blocks : List Block) :
    sumAt i (blocks.filter fun b => b.id ∈ ids ++ later) =
      sumAt i (blocks.filter fun b => b.id ∈ ids) +
        sumAt i ((blocks.filter fun b => ¬ b.id ∈ ids).filter fun b => b.id ∈ later) := by
  have hfirst : (blocks.filter fun b => b.id ∈ ids ++ later).filter (fun b => b.id ∈ ids) =
      blocks.filter fun b => b.id ∈ ids := by
    rw [List.filter_filter]
    refine List.filter_congr fun b _ => ?_
    by_cases hid : b.id ∈ ids <;> simp [hid]
  have hothers : (blocks.filter fun b => b.id ∈ ids ++ later).filter (fun b => ¬ b.id ∈ ids) =
      (blocks.filter fun b => ¬ b.id ∈ ids).filter fun b => b.id ∈ later := by
    rw [List.filter_filter, List.filter_filter]
    refine List.filter_congr fun b _ => ?_
    by_cases hid : b.id ∈ ids <;> simp [hid]
  -- The blocks of both lists of numbers are divided by whether the first list has them.
  rw [← hfirst, ← hothers, sumAt_filter_add]

/-- Folding blocks with `addInto` into a pool that is not shorter adds their `sumAt`, cut off at
`maxCounter`, where none of them is negative. -/
theorem counterAt_foldl_addInto_of_nonneg {i : Nat} {pool : List Int64} {blocks : List Block}
    (hpool : 0 ≤ counterAt pool i)
    (h : ∀ b ∈ blocks, b.values.length ≤ pool.length ∧ 0 ≤ counterAt b.values i) :
    counterAt (blocks.foldl (fun pool b => addInto pool b.values) pool) i =
      min (maxCounter : Int) (counterAt pool i + sumAt i blocks) := by
  induction blocks generalizing pool with
  | nil =>
    have hle := counterAt_le_maxCounter pool i
    show counterAt pool i = min (maxCounter : Int) (counterAt pool i + 0)
    omega
  | cons b blocks ih =>
    obtain ⟨⟨hlength, hnonneg⟩, hrest⟩ := List.forall_mem_cons.1 h
    have hsum := counterAt_addInto_of_nonneg hlength hpool hnonneg
    have hlater := sumAt_nonneg fun b hb => (hrest b hb).2
    -- Cutting off at each step is the same as cutting off once, as no later block takes anything
    -- away.
    have hall := @ih (addInto pool b.values) (by omega)
      (by simpa only [length_addInto] using hrest)
    rw [List.foldl_cons, hall, hsum, sumAt, sumAt, List.map_cons, List.sum_cons, ← sumAt]
    omega

/-- The sum of a `column` is `sumAt`: a block without that counter is missing from the first and
adds zero to the second. -/
theorem sum_column (i : Nat) (blocks : List Block) :
    ((column i blocks).map (·.toInt)).sum = sumAt i blocks := by
  induction blocks with
  | nil => rfl
  | cons b blocks ih =>
    rw [column] at ih
    rw [column, List.filterMap_cons, sumAt, List.map_cons, List.sum_cons, ← sumAt, counterAt]
    cases b.values[i]? with
    | none => rw [ih, Option.getD_none, Int64.toInt_zero, zero_add]
    | some v => rw [List.map_cons, List.sum_cons, ih, Option.getD_some]

/-- `toInt_foldl_saturatingAdd_of_nonneg` for the `column` that `Registry.totals` sums up. -/
theorem toInt_foldl_column {i : Nat} {blocks : List Block} {a : Int64} (ha : 0 ≤ a.toInt)
    (h : ∀ b ∈ blocks, 0 ≤ counterAt b.values i) :
    ((column i blocks).foldl saturatingAdd a).toInt =
      min (maxCounter : Int) (a.toInt + sumAt i blocks) := by
  have hcolumn : ∀ v ∈ column i blocks, 0 ≤ v.toInt := by
    intro v hv
    obtain ⟨b, hb, hget⟩ := List.mem_filterMap.1 hv
    have hnonneg := h b hb
    rwa [counterAt, hget] at hnonneg
  rw [toInt_foldl_saturatingAdd_of_nonneg _ ha hcolumn, sum_column]

namespace Registry

variable {r : Registry} {i : Nat}

/-- The exact sum of all that goes into `totals` at place `i`: the pool and the counted blocks. -/
def mass (r : Registry) (i : Nat) : Int := counterAt r.retired i + sumAt i r.countedBlocks

/-- No summand of `mass r i` is negative. -/
structure NonNegAt (r : Registry) (i : Nat) : Prop where
  retired : 0 ≤ counterAt r.retired i
  counted : ∀ b ∈ r.countedBlocks, 0 ≤ counterAt b.values i

/-! ### Totals in any order -/

/-- `totals` as they would be, had the live blocks been met in `order`. -/
def totalsInOrder (r : Registry) (order : List Block) : List Int64 :=
  (order.filter (·.included)).foldl (fun sum b => addInto sum b.values)
    (copyInto (List.replicate r.size 0) r.retired)

/-- `totals` meets the live blocks in the order of `liveBlocks`. -/
theorem totalsInOrder_liveBlocks (r : Registry) : r.totalsInOrder r.liveBlocks = r.totals := by
  rw [totalsInOrder, totals, sumInto, List.map_replicate, countedBlocks]

/-- `addInto` keeps the length of the array it adds to, whatever it adds. -/
theorem length_foldl_addInto (blocks : List Block) (out : List Int64) :
    (blocks.foldl (fun sum b => addInto sum b.values) out).length = out.length := by
  induction blocks generalizing out with
  | nil => rfl
  | cons b blocks ih => rw [List.foldl_cons, ih, length_addInto]

/-- `totals` has one entry for each of the `size` counters. -/
theorem length_totals (r : Registry) : r.totals.length = r.size := by
  rw [← totalsInOrder_liveBlocks, totalsInOrder, length_foldl_addInto, length_copyInto,
    List.length_replicate]

/-- In whatever `order`, an entry of `totals` is the exact `mass`, cut off at `maxCounter`. -/
theorem NonNegAt.toInt_totalsInOrder (h : r.NonNegAt i) (hi : i < r.size) {order : List Block}
    (horder : order.Perm r.liveBlocks) :
    ((r.totalsInOrder order)[i]?).map (·.toInt) = some (min (maxCounter : Int) (r.mass i)) := by
  -- A permutation survives the filter, and `sumAt` is invariant under it.
  have hperm : (order.filter (·.included)).Perm r.countedBlocks := horder.filter _
  have hsum : sumAt i (order.filter (·.included)) = sumAt i r.countedBlocks :=
    (hperm.map _).sum_eq
  have hcounted : ∀ b ∈ order.filter (·.included), 0 ≤ counterAt b.values i :=
    fun b hb => h.counted b (hperm.subset hb)
  rw [totalsInOrder, getElem?_foldl_addInto, getElem?_copyInto, List.getElem?_replicate,
    if_pos hi, Option.map_some, Option.map_some, Option.map_some,
    toInt_foldl_column h.retired hcounted, hsum]
  rfl

/-- `NonNegAt.toInt_totalsInOrder` in the order of `liveBlocks`. -/
theorem NonNegAt.toInt_totals (h : r.NonNegAt i) (hi : i < r.size) :
    (r.totals[i]?).map (·.toInt) = some (min (maxCounter : Int) (r.mass i)) := by
  rw [← totalsInOrder_liveBlocks]
  exact h.toInt_totalsInOrder hi (.refl _)

/-- `NonNegAt.toInt_totals`, read through `counterAt`. -/
theorem NonNegAt.counterAt_totals (h : r.NonNegAt i) (hi : i < r.size) :
    counterAt r.totals i = min (maxCounter : Int) (r.mass i) := by
  obtain ⟨v, hv, htotal⟩ := Option.map_eq_some_iff.1 (h.toInt_totals hi)
  rw [counterAt, hv, ← htotal]
  rfl

/-! ### Retiring blocks -/

/-- Replacing the member at index `k` by one that `filter p` drops is the same as filtering with `q`
afterwards, if `q` tells exactly that member from the others. -/
theorem filter_set_eq_filter {α : Type} {p q : α → Bool} {l : List α} {k : Nat} {a' : α}
    (hp : p a' = false) (hq : ∀ j a, l[j]? = some a → (q a = true ↔ j ≠ k)) :
    (l.set k a').filter p = (l.filter p).filter q := by
  induction l generalizing k with
  | nil => rfl
  | cons a l ih =>
    cases k with
    | zero =>
      -- All members behind the first one pass `q`.
      have hrest : l.filter p = (l.filter p).filter q := by
        refine (List.filter_eq_self.2 fun b hb => ?_).symm
        obtain ⟨j, hj⟩ := List.getElem?_of_mem (List.mem_of_mem_filter hb)
        exact (hq (j + 1) b hj).2 (Nat.succ_ne_zero j)
      have ha : q a = false := by
        rw [← Bool.not_eq_true, hq 0 a rfl]
        exact fun h => h rfl
      rw [List.set_cons_zero, List.filter_cons_of_neg (by simp [hp]), hrest, List.filter_cons]
      split
      · rw [List.filter_cons_of_neg (by simp [ha])]
      · rfl
    | succ k =>
      -- The member that changes stands further on, so the first one stays and passes `q`.
      have ha : q a = true := (hq 0 a rfl).2 (Nat.succ_ne_zero k).symm
      have hrest := ih (k := k) fun j b hj =>
        (hq (j + 1) b hj).trans (not_congr Nat.succ_inj)
      rw [List.set_cons_succ, List.filter_cons, List.filter_cons, hrest]
      split
      · rw [List.filter_cons_of_pos ha]
      · rfl

/-- `countedBlocks` with its two nested filters written as one. -/
theorem countedBlocks_eq (r : Registry) :
    r.countedBlocks = r.blocks.filter fun b => b.included && b.live :=
  List.filter_filter

/-- `freeOwn id` drops the block numbered `id` from `liveBlocks` and no other. -/
theorem WellFormed.liveBlocks_freeOwn (wf : r.WellFormed) (id : Nat) :
    (r.freeOwn id).liveBlocks = r.liveBlocks.filter fun b => ¬ b.id = id := by
  by_cases h : ∃ b, r.blocks[id]? = some b ∧ b.live = true
  · obtain ⟨b, hb, hlive⟩ := h
    rw [wf.freeOwn_eq hb hlive, liveBlocks, liveBlocks]
    refine filter_set_eq_filter rfl fun j a ha => ?_
    rw [decide_eq_true_eq, wf.id_eq ha]
  · -- Nothing is retired, so all live blocks have other numbers.
    have hsame : r.freeOwn id = r := by
      cases hb : r.blocks[id]? with
      | none => rw [Registry.freeOwn, hb]; rfl
      | some b =>
        have hlive : b.live = false := by
          rw [← Bool.not_eq_true]
          exact fun hlive => h ⟨b, hb, hlive⟩
        exact wf.freeOwn_of_not_live hb hlive
    rw [hsame]
    refine (List.filter_eq_self.2 fun b hb => ?_).symm
    obtain ⟨k, hk, hlive⟩ := mem_liveBlocks.1 hb
    rw [decide_eq_true_eq, wf.id_eq hk]
    rintro rfl
    exact h ⟨b, hk, hlive⟩

/-- `freeOwn id` drops the block numbered `id` from `countedBlocks` and no other. -/
theorem WellFormed.countedBlocks_freeOwn (wf : r.WellFormed) (id : Nat) :
    (r.freeOwn id).countedBlocks = r.countedBlocks.filter fun b => ¬ b.id = id := by
  rw [countedBlocks, countedBlocks, wf.liveBlocks_freeOwn, List.filter_filter, List.filter_filter]
  exact List.filter_congr fun b _ => Bool.and_comm ..

/-- At most one of the `countedBlocks` is numbered `id`: the block at index `id`, if it
is counted. -/
theorem WellFormed.filter_countedBlocks (wf : r.WellFormed) {id : Nat} {b : Block}
    (hb : r.blocks[id]? = some b) :
    (r.countedBlocks.filter fun c => c.id = id) =
      if b.live && b.included then [b] else [] := by
  have hmem : ∀ c, c ∈ r.countedBlocks.filter (fun c => c.id = id) ↔
      c = b ∧ (b.live && b.included) = true := by
    intro c
    rw [List.mem_filter, decide_eq_true_eq, mem_countedBlocks, Bool.and_eq_true]
    -- The number of a block is its place, so a counted block with the number is `b` itself.
    constructor
    · rintro ⟨⟨k, hk, hcounted⟩, hid⟩
      obtain rfl : k = id := (wf.id_eq hk).symm.trans hid
      obtain rfl : c = b := Option.some.inj (hk.symm.trans hb)
      exact ⟨rfl, hcounted⟩
    · rintro ⟨rfl, hcounted⟩
      exact ⟨⟨id, hb, hcounted⟩, wf.id_eq hb⟩
  -- A list without duplicates whose members are all the same has at most one.
  have hnodup : (r.countedBlocks.filter fun c => c.id = id).Nodup :=
    (wf.nodup_countedIds.of_map _).filter _
  generalize r.countedBlocks.filter (fun c => c.id = id) = l at hmem hnodup
  split
  · rename_i hcounted
    exact List.perm_singleton.1 ((List.perm_ext_iff_of_nodup hnodup (List.nodup_singleton b)).2
      fun c => by rw [hmem, List.mem_singleton]; exact and_iff_left hcounted)
  · rename_i hcounted
    exact List.eq_nil_iff_forall_not_mem.2 fun c hc => hcounted ((hmem c).1 hc).2

/-- `freeOwn id` folds the block numbered `id` into the pool, if it is among the `countedBlocks`. -/
theorem WellFormed.retired_freeOwn (wf : r.WellFormed) (id : Nat) :
    (r.freeOwn id).retired =
      (r.countedBlocks.filter fun b => b.id = id).foldl (fun pool b => addInto pool b.values)
        r.retired := by
  cases hb : r.blocks[id]? with
  -- Freeing a number that was never given out folds nothing, and no block has that number.
  | none =>
    have hnone : (r.countedBlocks.filter fun b => b.id = id) = [] := by
      refine List.filter_eq_nil_iff.2 fun b hmem => ?_
      obtain ⟨k, hk, -⟩ := mem_countedBlocks.1 hmem
      rw [decide_eq_true_eq, wf.id_eq hk]
      rintro rfl
      exact nomatch hb.symm.trans hk
    rw [Registry.freeOwn, hb, hnone]
    rfl
  | some b =>
    rw [wf.filter_countedBlocks hb]
    cases hlive : b.live with
    | false =>
      rw [wf.freeOwn_of_not_live hb hlive]
      rfl
    | true =>
      rw [wf.freeOwn_eq hb hlive]
      cases hincluded : b.included <;> rfl

/-- Every one of the `countedBlocks` is as long as the pool. -/
theorem WellFormed.length_countedBlocks (wf : r.WellFormed) :
    ∀ b ∈ r.countedBlocks, b.values.length = r.retired.length := by
  intro b hb
  obtain ⟨k, hk, hlive, -⟩ := mem_countedBlocks.1 hb
  exact (wf.live_length hk hlive).trans wf.retired_length.symm

/-- `freeOwn` adds what the block counts to the pool, cut off at `maxCounter`. -/
theorem NonNegAt.counterAt_freeOwn (h : r.NonNegAt i) (wf : r.WellFormed) (id : Nat) :
    counterAt (r.freeOwn id).retired i =
      min (maxCounter : Int)
        (counterAt r.retired i + sumAt i (r.countedBlocks.filter fun b => b.id = id)) := by
  rw [wf.retired_freeOwn]
  refine counterAt_foldl_addInto_of_nonneg h.retired fun b hb => ?_
  have hcounted := List.mem_of_mem_filter hb
  exact ⟨(wf.length_countedBlocks b hcounted).le, h.counted b hcounted⟩

/-- `freeOwn` preserves `mass`, unless the pool is cut off; then `mass` is past `maxCounter` before
and after. -/
theorem NonNegAt.min_mass_freeOwn (h : r.NonNegAt i) (wf : r.WellFormed) (id : Nat) :
    min (maxCounter : Int) ((r.freeOwn id).mass i) = min (maxCounter : Int) (r.mass i) := by
  have hpool := h.counterAt_freeOwn wf id
  have hsplit := sumAt_filter_add i (fun b => b.id = id) r.countedBlocks
  have hrest : 0 ≤ sumAt i (r.countedBlocks.filter fun b => ¬ b.id = id) :=
    sumAt_nonneg fun b hb => h.counted b (List.mem_of_mem_filter hb)
  rw [mass, mass, wf.countedBlocks_freeOwn, hpool]
  omega

/-- `NonNegAt` is preserved by `freeOwn`: the pool takes a sum of summands that were
not negative. -/
theorem NonNegAt.freeOwn (h : r.NonNegAt i) (wf : r.WellFormed) (id : Nat) :
    (r.freeOwn id).NonNegAt i where
  retired := by
    -- What goes to the pool is a sum of counters that are not negative.
    have hpart : 0 ≤ sumAt i (r.countedBlocks.filter fun b => b.id = id) :=
      sumAt_nonneg fun b hb => h.counted b (List.mem_of_mem_filter hb)
    have hretired := h.retired
    rw [h.counterAt_freeOwn wf]
    omega
  counted b hb := by
    rw [wf.countedBlocks_freeOwn] at hb
    exact h.counted b (List.mem_of_mem_filter hb)

/-- Free blocks by their numbers, one `freeOwn` after the other. -/
def freeAll (r : Registry) (ids : List Nat) : Registry := ids.foldl Registry.freeOwn r

theorem WellFormed.freeAll (wf : r.WellFormed) (ids : List Nat) : (r.freeAll ids).WellFormed := by
  induction ids generalizing r with
  | nil => exact wf
  | cons id ids ih => exact ih (wf.freeOwn id)

/-- `freeAll` does not touch the number of counters. -/
theorem size_freeAll (r : Registry) (ids : List Nat) : (r.freeAll ids).size = r.size := by
  induction ids generalizing r with
  | nil => rfl
  | cons id ids ih => exact (ih (r.freeOwn id)).trans (r.freeOwn_frame id).1

/-- `freeAll` preserves `NonNegAt`, and `mass` as far as `maxCounter`. -/
theorem NonNegAt.freeAll (h : r.NonNegAt i) (wf : r.WellFormed) (ids : List Nat) :
    (r.freeAll ids).NonNegAt i ∧
      min (maxCounter : Int) ((r.freeAll ids).mass i) = min (maxCounter : Int) (r.mass i) := by
  induction ids generalizing r with
  | nil => exact ⟨h, rfl⟩
  | cons id ids ih =>
    obtain ⟨hnonneg, hmass⟩ := ih (h.freeOwn wf id) (wf.freeOwn id)
    exact ⟨hnonneg, hmass.trans (h.min_mass_freeOwn wf id)⟩

/-- `freeAll ids` adds the exact sum of the counted blocks among `ids` to the pool, cut off at
`maxCounter`, in whatever order `ids` names them and however often. -/
theorem NonNegAt.counterAt_freeAll (h : r.NonNegAt i) (wf : r.WellFormed) (ids : List Nat) :
    counterAt (r.freeAll ids).retired i =
      min (maxCounter : Int)
        (counterAt r.retired i + sumAt i (r.countedBlocks.filter fun b => b.id ∈ ids)) := by
  induction ids generalizing r with
  | nil =>
    have hle := counterAt_le_maxCounter r.retired i
    have hnone : (r.countedBlocks.filter fun b => b.id ∈ []) = [] :=
      List.filter_eq_nil_iff.2 fun b _ => by simp
    rw [hnone]
    show counterAt r.retired i = min (maxCounter : Int) (counterAt r.retired i + 0)
    omega
  | cons id ids ih =>
    -- Of the blocks to be retired one goes first; what it leaves is split by number once more.
    have hsplit := sumAt_filter_mem_append i [id] ids r.countedBlocks
    simp only [List.singleton_append, List.mem_singleton] at hsplit
    have hnonneg : 0 ≤ sumAt i ((r.countedBlocks.filter fun b => ¬ b.id = id).filter
        fun b => b.id ∈ ids) :=
      sumAt_nonneg fun b hb =>
        h.counted b (List.mem_of_mem_filter (List.mem_of_mem_filter hb))
    have hrest := ih (h.freeOwn wf id) (wf.freeOwn id)
    rw [h.counterAt_freeOwn wf, wf.countedBlocks_freeOwn] at hrest
    show counterAt ((r.freeOwn id).freeAll ids).retired i = _
    omega

end Registry

end CompilerLink.Counter
