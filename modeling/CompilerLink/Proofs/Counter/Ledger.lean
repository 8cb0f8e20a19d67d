import CompilerLink.Proofs.Counter.Run

/-! # The ledger of a run

What the counters of a registry should say can be read off the record of a run, without looking at
the registry. At counter `i` a run has `deposits`: the deltas that blocks have taken while they were
live, since the counter was last cut off. A deposit belongs to the totals if its block is included
and was not forgotten after it had been retired, and it is in the pool if the block has been retired
as well.

A `tally` sums the deposits of some of the blocks; tallies of disjoint sets of blocks add up. -/

namespace CompilerLink.Counter

/-! ### Reading the record -/

/-- The record has a `freed` entry for the block. -/
def wasFreed (record : List Entry) (id : Nat) : Bool :=
  record.any fun
    | .freed k => k = id
    | _ => false

/-- The deltas taken at counter `i` by blocks that were live, since the counter was last cut off by
a resize, each with the number of its block, newest first. -/
def deposits (i : Nat) : List Entry → List (Nat × Int64)
  | [] => []
  | .added id index delta true :: earlier =>
    if index = i ∧ wasFreed earlier id = false then (id, delta) :: deposits i earlier
    else deposits i earlier
  | .resized n true :: earlier => if n ≤ i then [] else deposits i earlier
  | _ :: earlier => deposits i earlier

/-- The sum of the absolute values of all deltas ever taken at counter `i`. As long as it is at most
`maxCounter`, nothing wraps around or saturates. -/
def volume (i : Nat) : List Entry → Nat
  | [] => 0
  | .added _ index delta true :: earlier =>
    (if index = i then delta.toInt.natAbs else 0) + volume i earlier
  | _ :: earlier => volume i earlier

/-- The record has an `attached` entry for the block that the totals do not leave out. -/
def wasIncluded (excludeCompiler : Bool) (record : List Entry) (id : Nat) : Bool :=
  record.any fun
    | .attached k compilerThread => k = id && !(excludeCompiler && compilerThread)
    | _ => false

/-- `wasFreed` held when the retired counts were last forgotten. -/
def wasForgotten (record : List Entry) (id : Nat) : Bool :=
  wasFreed (record.dropWhile (· != .forgotten)) id

/-- The deposits of the block belong to the totals: `wasIncluded` and not `wasForgotten`. -/
def inTotals (excludeCompiler : Bool) (record : List Entry) (id : Nat) : Bool :=
  wasIncluded excludeCompiler record id && !wasForgotten record id

/-- The deposits of the block are in the pool: `inTotals` and `wasFreed`. -/
def inPool (excludeCompiler : Bool) (record : List Entry) (id : Nat) : Bool :=
  inTotals excludeCompiler record id && wasFreed record id

/-- `wasFreed` as membership in the record. -/
theorem wasFreed_eq_true_iff {record : List Entry} {id : Nat} :
    wasFreed record id = true ↔ .freed id ∈ record := by
  rw [wasFreed, List.any_eq_true]
  constructor
  · rintro ⟨e, he, h⟩
    cases e <;> simp only [Bool.false_eq_true, decide_eq_true_eq] at h
    exact h ▸ he
  · intro h
    exact ⟨_, h, decide_eq_true rfl⟩

/-! ### Tallies -/

section Tally

variable {M : Type} [AddCommMonoid M]

/-- The sum of `f` over the deposits of the blocks in `p`. With `toInt` it is a balance, with the
absolute value a bound for it. -/
def tally (f : Int64 → M) (p : Nat → Bool) (ds : List (Nat × Int64)) : M :=
  ((ds.filter fun d => p d.1).map fun d => f d.2).sum

variable (f : Int64 → M)

@[simp] theorem tally_nil (p : Nat → Bool) : tally f p [] = 0 := rfl

theorem tally_cons (p : Nat → Bool) (d : Nat × Int64) (ds : List (Nat × Int64)) :
    tally f p (d :: ds) = (if p d.1 then f d.2 else 0) + tally f p ds := by
  rw [tally, List.filter_cons]
  split
  · rw [List.map_cons, List.sum_cons, tally]
  · rw [zero_add, tally]

/-- `tally` depends on `p` only at the blocks that made a deposit. -/
theorem tally_congr {p q : Nat → Bool} {ds : List (Nat × Int64)}
    (h : ∀ d ∈ ds, p d.1 = q d.1) : tally f p ds = tally f q ds := by
  rw [tally, tally, List.filter_congr h]

/-- `tally` is zero if no depositor is in `p`. -/
theorem tally_eq_zero {p : Nat → Bool} {ds : List (Nat × Int64)}
    (h : ∀ d ∈ ds, p d.1 = false) : tally f p ds = 0 := by
  rw [tally, List.filter_eq_nil_iff.2 fun d hd => by rw [h d hd]; exact Bool.false_ne_true]
  rfl

/-- `tally` over the union of disjoint `p` and `q` is the sum of both. -/
theorem tally_or {p q : Nat → Bool} (h : ∀ id, p id = true → q id = false)
    (ds : List (Nat × Int64)) :
    tally f (fun id => p id || q id) ds = tally f p ds + tally f q ds := by
  induction ds with
  | nil => exact (add_zero 0).symm
  | cons d ds ih =>
    rw [tally_cons, tally_cons, tally_cons, ih]
    -- The deposit goes to the first sum, or else, by disjointness, possibly to the second.
    by_cases hp : p d.1 = true
    · rw [hp, h _ hp, Bool.true_or, if_pos rfl, if_neg Bool.false_ne_true, zero_add, add_assoc]
    · rw [Bool.not_eq_true] at hp
      rw [hp, Bool.false_or, if_neg Bool.false_ne_true, zero_add, add_left_comm]

/-- `tally` over a list of numbers without duplicates is the sum of the tallies of each number. -/
theorem tally_mem {ids : List Nat} (hnodup : ids.Nodup) (ds : List (Nat × Int64)) :
    tally f (fun id => decide (id ∈ ids)) ds = (ids.map fun k => tally f (· == k) ds).sum := by
  induction ids with
  | nil => exact tally_eq_zero f fun d _ => rfl
  | cons k ids ih =>
    obtain ⟨hk, hids⟩ := List.nodup_cons.1 hnodup
    have hsplit : (fun id => decide (id ∈ k :: ids)) =
        fun id => (id == k) || decide (id ∈ ids) := by
      funext id
      rw [Bool.eq_iff_iff, decide_eq_true_eq, List.mem_cons, Bool.or_eq_true, beq_iff_eq,
        decide_eq_true_eq]
    -- The head is not in the tail, so `tally_or` applies.
    have hdisjoint : ∀ id, (id == k) = true → decide (id ∈ ids) = false := by
      intro id hid
      rw [beq_iff_eq] at hid
      rw [hid]
      exact decide_eq_false hk
    rw [hsplit, tally_or f hdisjoint, ih hids, List.map_cons, List.sum_cons]

end Tally

/-- The absolute value of a `tally` is at most the `tally` of the absolute values. -/
theorem natAbs_tally_le (p : Nat → Bool) (ds : List (Nat × Int64)) :
    (tally (·.toInt) p ds).natAbs ≤ tally (·.toInt.natAbs) p ds := by
  induction ds with
  | nil => exact Nat.le_refl 0
  | cons d ds ih =>
    rw [tally_cons, tally_cons]
    split <;> omega

/-- The `tally` of absolute values is at most the `volume`, whichever blocks it is over. -/
theorem tally_natAbs_le_volume (p : Nat → Bool) (i : Nat) (record : List Entry) :
    tally (·.toInt.natAbs) p (deposits i record) ≤ volume i record := by
  fun_induction deposits i record with
  | case1 => exact Nat.le_refl 0
  | case2 id index delta earlier h ih =>
    rw [tally_cons, volume, if_pos h.1]
    show (if p id then delta.toInt.natAbs else 0) + _ ≤ _
    split <;> omega
  | case3 id index delta earlier h ih =>
    rw [volume]
    omega
  -- The counter was cut off, so it has no deposits.
  | case4 n earlier h => exact Nat.zero_le _
  | case5 n earlier h ih =>
    rw [volume]
    · exact ih
    · exact fun _ _ _ h => nomatch h
  | case6 e earlier hadded hresized ih =>
    rw [volume]
    · exact ih
    · exact fun id index delta he => hadded id index delta he

end CompilerLink.Counter
