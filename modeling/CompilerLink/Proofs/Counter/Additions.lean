import CompilerLink.Proofs.Counter.Representation

/-! # Additions

An `Addition` is a delta on its way to a counter of a block. Crediting it modifies one counter of
one block, so additions can be credited in any order, and also before or after the arrays are
resized, as long as these have the counter to begin with.

`Registry.view` is all that one counter contributes to a registry. What is credited to other
counters does not show in it, and it decides what the totals are at that counter. -/

namespace CompilerLink.Counter

/-- A `delta` for counter `index` of the block with number `id`. -/
structure Addition where
  id : Nat
  index : Nat
  delta : Int64
  deriving DecidableEq

/-- `List.modify` by `f` seen through `g` is `List.modify` by `h`, if `g` turns `f` into `h` at the
entry that is modified. -/
theorem map_modify {α β : Type} {f : α → α} {g : α → β} {h : β → β} {l : List α} {i : Nat}
    (hi : ∀ a, l[i]? = some a → g (f a) = h (g a)) :
    (l.modify i f).map g = (l.map g).modify i h := by
  apply List.ext_getElem?
  intro j
  rw [List.getElem?_map, List.getElem?_modify, List.getElem?_modify, List.getElem?_map]
  -- Place by place; only place `i` is modified on either side.
  cases hj : l[j]? with
  | none => rfl
  | some a =>
    by_cases hij : i = j
    · subst hij
      simp only [Option.map_eq_map, Option.map_some, if_true, hi a hj]
    · simp only [Option.map_eq_map, Option.map_some, if_neg hij]

/-! ### Crediting a block -/

namespace Block

/-- `Block.add` without its answer: the block with the delta added, if it has the counter. -/
def credit (b : Block) (a : Addition) : Block := (b.add a.index a.delta).2

/-- `Block.credit` is `List.modify` of the counter, which says nothing about a counter that is not
there. -/
theorem credit_eq (b : Block) (a : Addition) :
    b.credit a = { b with values := b.values.modify a.index (· + a.delta) } := by
  rw [credit, add]
  -- `Block.add` asks whether there is such a counter, `List.modify` does not have to.
  split
  · rename_i v hv
    rw [List.modify_eq_set_getElem?, hv]
    rfl
  · rename_i hv
    rw [List.modify_eq_self (List.getElem?_eq_none_iff.1 hv)]

/-- Two calls of `Block.credit` commute, wrapping around included. -/
theorem credit_comm (b : Block) (a c : Addition) :
    (b.credit a).credit c = (b.credit c).credit a := by
  simp only [credit_eq]
  congr 1
  -- Deltas for different counters do not meet; those for one counter are summed up either way.
  by_cases h : a.index = c.index
  · rw [h, List.modify_modify_eq, List.modify_modify_eq]
    congr 1
    funext v
    show v + a.delta + c.delta = v + c.delta + a.delta
    rw [Int64.add_assoc, Int64.add_comm a.delta, Int64.add_assoc]
  · rw [List.modify_modify_ne _ _ _ h]

theorem resizedTo_credit {b : Block} {a : Addition}
    (hold : b.live = true → a.index < b.values.length) (n : Nat) :
    (b.credit a).resizedTo n = (b.resizedTo n).credit a := by
  obtain ⟨-, -, hlive', -⟩ := b.add_frame a.index a.delta
  rw [← credit] at hlive'
  -- Only live blocks are resized.
  by_cases hlive : b.live = true
  · rw [resizedTo_of_live (hlive'.trans hlive), resizedTo_of_live hlive, credit_eq, credit_eq,
      resized_modify (hold hlive)]
  · rw [Bool.not_eq_true] at hlive
    rw [resizedTo_of_not_live (hlive'.trans hlive), resizedTo_of_not_live hlive]

end Block

/-! ### Crediting a registry -/

namespace Registry

/-- `Registry.add` without its answer: the registry after an addition. -/
def credit (r : Registry) (a : Addition) : Registry := (r.add a.id a.index a.delta).2

/-- `credit` for one addition after the other. -/
def creditAll (r : Registry) (adds : List Addition) : Registry := adds.foldl credit r

/-- `Registry.credit` is `List.modify` of the block with number `a.id`. -/
theorem credit_eq (r : Registry) (a : Addition) :
    r.credit a = { r with blocks := r.blocks.modify a.id (·.credit a) } := by
  rw [credit]
  cases hb : r.blocks[a.id]? with
  | none => rw [add, hb, List.modify_eq_self (List.getElem?_eq_none_iff.1 hb)]
  | some b =>
    rw [add_eq hb, List.modify_eq_set_getElem?, hb]
    rfl

/-- `credit a` changes the block with number `a.id` and no other. -/
theorem getElem?_credit (r : Registry) (a : Addition) (k : Nat) :
    (r.credit a).blocks[k]? =
      if a.id = k then (r.blocks[k]?).map (·.credit a) else r.blocks[k]? := by
  rw [credit_eq, List.getElem?_modify]
  split
  · rfl
  · exact Option.map_id'

/-- Two calls of `Registry.credit` commute. -/
theorem credit_comm (r : Registry) (a c : Addition) :
    (r.credit a).credit c = (r.credit c).credit a := by
  simp only [credit_eq]
  congr 1
  -- The same block by `Block.credit_comm`; different blocks do not meet.
  by_cases h : a.id = c.id
  · rw [h, List.modify_modify_eq, List.modify_modify_eq]
    congr 1
    funext b
    exact b.credit_comm a c
  · rw [List.modify_modify_ne _ _ _ h]

/-- `creditAll` gives the same for additions in any order, as `credit_comm` lets neighbours change
places. -/
theorem creditAll_perm {adds adds' : List Addition} (h : adds.Perm adds') (r : Registry) :
    r.creditAll adds = r.creditAll adds' :=
  h.foldl_eq' (fun a _ c _ r => credit_comm r a c) r

theorem WellFormed.credit {r : Registry} (wf : r.WellFormed) (a : Addition) :
    (r.credit a).WellFormed := wf.add a.id a.index a.delta

@[simp] theorem budget_credit (r : Registry) (a : Addition) :
    (r.credit a).budget = r.budget := by rw [credit_eq]

@[simp] theorem size_credit (r : Registry) (a : Addition) : (r.credit a).size = r.size := by
  rw [credit_eq]

@[simp] theorem retired_credit (r : Registry) (a : Addition) :
    (r.credit a).retired = r.retired := by rw [credit_eq]

/-- `credit` leaves which blocks are live and which are included. -/
theorem liveness_credit (r : Registry) (a : Addition) : (r.credit a).liveness = r.liveness :=
  r.liveness_add a.id a.index a.delta

/-- `isLive` of every number is as before `credit`. -/
theorem isLive_credit (r : Registry) (a : Addition) (k : Nat) :
    (r.credit a).isLive k = r.isLive k := by
  rw [Bool.eq_iff_iff, isLive_eq_true_iff, isLive_eq_true_iff, liveness_credit]

/-- `creditAll` leaves the number of live blocks. -/
theorem liveCount_creditAll (r : Registry) (adds : List Addition) :
    (r.creditAll adds).liveCount = r.liveCount := by
  induction adds generalizing r with
  | nil => rfl
  | cons a adds ih =>
    refine (ih (r.credit a)).trans ?_
    rw [liveCount_eq_count, liveCount_eq_count, liveness_credit]

theorem size_creditAll (r : Registry) (adds : List Addition) :
    (r.creditAll adds).size = r.size := by
  induction adds generalizing r with
  | nil => rfl
  | cons a adds ih => exact (ih (r.credit a)).trans (r.size_credit a)

theorem retired_creditAll (r : Registry) (adds : List Addition) :
    (r.creditAll adds).retired = r.retired := by
  induction adds generalizing r with
  | nil => rfl
  | cons a adds ih => exact (ih (r.credit a)).trans (r.retired_credit a)

/-! ### Crediting and resizing -/

/-- The registry has at least `m` counters in every live block, which is what lets additions below
`m` go before or after a resize. -/
def Spans (r : Registry) (m : Nat) : Prop :=
  ∀ (k : Nat) (b : Block), r.blocks[k]? = some b → b.live = true → m ≤ b.values.length

/-- `Spans` is kept by `credit`, as no block changes its length. -/
theorem Spans.credit {r : Registry} {m : Nat} (h : r.Spans m) (a : Addition) :
    (r.credit a).Spans m := by
  intro k b hb hlive
  rw [getElem?_credit] at hb
  split at hb
  · -- The block that was credited is as long and as live as it was.
    obtain ⟨old, hold, rfl⟩ := Option.map_eq_some_iff.1 hb
    obtain ⟨-, -, hlive', hlength⟩ := old.add_frame a.index a.delta
    rw [Block.credit] at hlive ⊢
    rw [hlength]
    exact h k old hold (hlive' ▸ hlive)
  · exact h k b hb hlive

theorem fitted_credit {r : Registry} {m : Nat} {a : Addition} (h : r.Spans m)
    (hindex : a.index < m) (n : Nat) : (r.credit a).fitted n = (r.fitted n).credit a := by
  rw [credit_eq, credit_eq, fitted, fitted]
  have hblocks : (r.blocks.modify a.id (·.credit a)).map (·.resizedTo n) =
      (r.blocks.map (·.resizedTo n)).modify a.id (·.credit a) :=
    map_modify fun b hb => Block.resizedTo_credit
      (fun hlive => Nat.lt_of_lt_of_le hindex (h a.id b hb hlive)) n
  rw [hblocks]

/-- `credit` commutes with `attempt`, whether the attempt succeeds or not: it leaves the `budget`
that decides. -/
theorem attempt_credit {r : Registry} {m : Nat} {a : Addition} (h : r.Spans m)
    (hindex : a.index < m) (n count : Nat) :
    (r.credit a).attempt n count = (r.attempt n count).credit a := by
  rw [attempt, attempt, budget_credit]
  split
  · rw [fitted_credit h hindex n, credit_eq, credit_eq]
  · rw [credit_eq, credit_eq]

/-! ### One counter -/

/-- Counter `i` of the block with number `k`, if there are both. -/
def counter (r : Registry) (k i : Nat) : Option Int64 := (r.blocks[k]?).bind (·.values[i]?)

/-- The part of a registry that counter `i` of the totals depends on: the entry of the pool and, for
each block, whether it is live, whether it is included, and its entry. -/
def view (r : Registry) (i : Nat) : Option Int64 × List (Bool × Bool × Option Int64) :=
  (r.retired[i]?, r.blocks.map fun b => (b.live, b.included, b.values[i]?))

/-- `credit a` shows in the `view` of counter `a.index` only, and there at place `a.id`. -/
theorem view_credit (r : Registry) (a : Addition) (i : Nat) :
    (r.credit a).view i = ((r.view i).1, (r.view i).2.modify a.id fun face =>
      (face.1, face.2.1, if a.index = i then face.2.2.map (· + a.delta) else face.2.2)) := by
  rw [view, view, retired_credit, credit_eq]
  congr 1
  apply map_modify
  intro b _
  obtain ⟨-, hincluded, hlive, -⟩ := b.add_frame a.index a.delta
  rw [Block.credit, hlive, hincluded, b.getElem?_add]

/-- Registries with the same `view` of counter `i` have the same one after the same additions. -/
theorem view_creditAll_congr {r r' : Registry} {i : Nat} (h : r.view i = r'.view i)
    (adds : List Addition) : (r.creditAll adds).view i = (r'.creditAll adds).view i := by
  induction adds generalizing r r' with
  | nil => exact h
  | cons a adds ih =>
    apply ih
    rw [view_credit, view_credit, h]

/-- `view` determines `counter`. -/
theorem counter_eq_of_view {r r' : Registry} {i : Nat} (h : r.view i = r'.view i) (k : Nat) :
    r.counter k i = r'.counter k i := by
  have hfaces := congrArg (fun v => (v.2[k]?).bind (·.2.2)) h
  simp only [view, List.getElem?_map, Option.bind_map] at hfaces
  exact hfaces

/-- `view` determines the entry of `totals`, if both registries have the counter. -/
theorem totals_eq_of_view {r r' : Registry} {i : Nat} (h : r.view i = r'.view i)
    (hi : i < r.size) (hi' : i < r'.size) : r.totals[i]? = r'.totals[i]? := by
  -- The column of the counted blocks can be read off the faces in the view.
  have hcolumn : ∀ s : Registry, column i s.countedBlocks =
      (s.view i).2.filterMap fun face => if face.1 && face.2.1 then face.2.2 else none := by
    intro s
    rw [column, countedBlocks, liveBlocks, List.filter_filter, List.filterMap_filter, view,
      List.filterMap_map]
    apply List.filterMap_congr
    intro b _
    rw [Bool.and_comm]
    rfl
  rw [getElem?_totals, getElem?_totals, if_pos hi, if_pos hi', hcolumn, hcolumn, h]
  have hpool : r.retired[i]? = r'.retired[i]? := congrArg Prod.fst h
  rw [hpool]

/-- The deltas that `adds` have for counter `i` of the block with number `k`. -/
def deltasAt (k i : Nat) (adds : List Addition) : List Int :=
  (adds.filter fun a => a.id = k ∧ a.index = i).map (·.delta.toInt)

/-- `credit a` adds the delta to `counter a.id a.index`, wrapping around, and leaves all other
counters. -/
theorem counter_credit (r : Registry) (a : Addition) (k i : Nat) :
    (r.credit a).counter k i =
      if a.id = k ∧ a.index = i then (r.counter k i).map (· + a.delta) else r.counter k i := by
  rw [counter, counter, getElem?_credit]
  -- Another block is not touched; of the block itself, the addition to its values decides.
  by_cases hid : a.id = k
  · rw [if_pos hid]
    cases r.blocks[k]? with
    | none => simp
    | some b =>
      simp only [Option.map_some, Option.bind_some, Block.credit, b.getElem?_add]
      by_cases hindex : a.index = i
      · rw [if_pos hindex, if_pos ⟨hid, hindex⟩]
      · rw [if_neg hindex, if_neg fun h => hindex h.2]
  · rw [if_neg hid, if_neg fun h => hid h.1]

/-- `creditAll` adds the sum of `deltasAt k i` to `counter k i`. The sum is over integers; what
wraps around is the result. -/
theorem counter_creditAll (r : Registry) (adds : List Addition) (k i : Nat) :
    (r.creditAll adds).counter k i =
      (r.counter k i).map fun v => Int64.ofInt (v.toInt + (deltasAt k i adds).sum) := by
  induction adds generalizing r with
  | nil =>
    rw [creditAll, List.foldl_nil]
    simp [deltasAt]
  | cons a adds ih =>
    rw [creditAll, List.foldl_cons, ← creditAll, ih, counter_credit, deltasAt, deltasAt]
    -- The first addition is for this counter or for another one.
    by_cases h : a.id = k ∧ a.index = i
    · rw [if_pos h, List.filter_cons_of_pos (by simpa using h), List.map_cons, List.sum_cons,
        Option.map_map]
      congr 1
      funext v
      -- The first sum has wrapped around already; `Int64.ofInt` of the whole sum is the same.
      rw [Function.comp_apply, ← Int.add_assoc, Int64.ofInt_add, Int64.ofInt_add,
        Int64.ofInt_add, Int64.ofInt_toInt, Int64.ofInt_toInt, Int64.ofInt_toInt]
    · rw [if_neg h, List.filter_cons_of_neg (by simpa using h)]

end Registry

end CompilerLink.Counter
