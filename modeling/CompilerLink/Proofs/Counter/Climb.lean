import CompilerLink.Proofs.Counter.Ceiling

/-! # Totals that never go back

From a state in which nothing negative is summed up at a place, attaching, retiring, collecting and
adding deltas that are not negative keep it so, and none of them lowers the exact sum there below
the largest counter. So the values collected at that place never go back, however large they are and
however the counts are spread over pool and live blocks. -/

namespace CompilerLink.Counter

/-! ### What a step does to the sum -/

/-- `Block.add` of a delta that is not negative does not lower a counter that has room for it. -/
theorem Block.le_counterAt_add {b : Block} {index i : Nat} {delta : Int64}
    (h : index = i → 0 ≤ delta.toInt ∧ counterAt b.values i + delta.toInt ≤ maxCounter) :
    counterAt b.values i ≤ counterAt (b.add index delta).2.values i := by
  by_cases hi : index = i
  · obtain ⟨hdelta, hroom⟩ := h hi
    have hget := b.getElem?_add index delta i
    rw [if_pos hi] at hget
    rw [counterAt, counterAt, hget]
    rw [counterAt, maxCounter] at hroom
    cases hv : b.values[i]? with
    | none => exact Int.le_refl _
    | some v =>
      rw [hv, Option.getD_some] at hroom
      have hlow := v.le_toInt
      -- The sum stays below the ceiling, so the word does not wrap around.
      have hexact : (v + delta).toInt = v.toInt + delta.toInt := by
        rw [Int64.toInt_add]
        exact Int.bmod_eq_of_le (by omega) (by omega)
      rw [Option.map_some, Option.getD_some, Option.getD_some, hexact]
      omega
  · rw [b.counterAt_add_of_ne hi]

/-- `List.set` at a member, to one that weighs no less and passes the filter iff the member did,
does not lower the sum over the filtered list. -/
theorem sum_filter_set_le {α : Type} {p : α → Bool} {f : α → Int} {l : List α} {k : Nat} {a a' : α}
    (ha : l[k]? = some a) (hp : p a' = p a) (hf : f a ≤ f a') :
    ((l.filter p).map f).sum ≤ (((l.set k a').filter p).map f).sum := by
  induction l generalizing k with
  | nil => exact nomatch ha
  | cons b l ih =>
    cases k with
    | zero =>
      obtain rfl : b = a := by simpa using ha
      rw [List.set_cons_zero, List.filter_cons, List.filter_cons, hp]
      split
      · -- Both pass the filter, so one summand is replaced by a larger one.
        rw [List.map_cons, List.map_cons, List.sum_cons, List.sum_cons]
        omega
      · exact Int.le_refl _
    | succ k =>
      have hrest := ih (k := k) (by simpa using ha)
      rw [List.set_cons_succ, List.filter_cons, List.filter_cons]
      split
      · rw [List.map_cons, List.map_cons, List.sum_cons, List.sum_cons]
        omega
      · exact hrest

namespace Registry

variable {r : Registry} {i : Nat}

/-- `attach` appends the new block to `countedBlocks`, if it is `included`. -/
theorem countedBlocks_attach (r : Registry) (compilerThread : Bool) :
    (r.attach compilerThread).2.countedBlocks =
      r.countedBlocks ++ [r.nextBlock compilerThread].filter (·.included) := by
  rw [countedBlocks, liveBlocks, attach, List.filter_append, List.filter_append]
  rfl

/-- Every counter of a block that `attach` creates stands at zero. -/
theorem counterAt_nextBlock (r : Registry) (compilerThread : Bool) (i : Nat) :
    counterAt (r.nextBlock compilerThread).values i = 0 :=
  counterAt_replicate r.size i

theorem NonNegAt.attach (h : r.NonNegAt i) (compilerThread : Bool) :
    (r.attach compilerThread).2.NonNegAt i where
  retired := h.retired
  counted b hb := by
    rw [countedBlocks_attach, List.mem_append] at hb
    rcases hb with hb | hb
    · exact h.counted b hb
    · rw [List.mem_singleton.1 (List.mem_of_mem_filter hb), counterAt_nextBlock]

/-- `mass` is preserved by `attach`, as the new block stands at zero. -/
theorem mass_attach (r : Registry) (compilerThread : Bool) (i : Nat) :
    (r.attach compilerThread).2.mass i = r.mass i := by
  -- The new block adds nothing, counted or not, as all its counters are zero.
  have hzero : sumAt i ([r.nextBlock compilerThread].filter (·.included)) = 0 := by
    rw [List.filter_singleton]
    cases (r.nextBlock compilerThread).included with
    | false => rfl
    | true =>
      show sumAt i [r.nextBlock compilerThread] = 0
      rw [sumAt, List.map_singleton, List.sum_singleton, counterAt_nextBlock]
  rw [mass, mass, countedBlocks_attach, sumAt, List.map_append, List.sum_append, ← sumAt, ← sumAt,
    hzero, add_zero]
  rfl

/-- `add id index delta` does not lower what is summed up at place `i`: it goes to another place, or
the delta is not negative and the block's own counter has room for it. -/
def RoomFor (r : Registry) (i id index : Nat) (delta : Int64) : Prop :=
  index = i → 0 ≤ delta.toInt ∧
    ∀ b, r.blocks[id]? = some b → counterAt b.values i + delta.toInt ≤ maxCounter

/-- `Block.le_counterAt_add` for the block that an `add` with `RoomFor` goes to. -/
theorem RoomFor.le_counterAt {id index : Nat} {delta : Int64} (hroom : r.RoomFor i id index delta)
    {b : Block} (hb : r.blocks[id]? = some b) :
    counterAt b.values i ≤ counterAt (b.add index delta).2.values i :=
  Block.le_counterAt_add fun hi => ⟨(hroom hi).1, (hroom hi).2 b hb⟩

/-- `NonNegAt` is preserved by an `add` that has `RoomFor` its delta. -/
theorem NonNegAt.add (h : r.NonNegAt i) {id index : Nat} {delta : Int64}
    (hroom : r.RoomFor i id index delta) : (r.add id index delta).2.NonNegAt i := by
  cases hb : r.blocks[id]? with
  | none => rw [Registry.add, hb]; exact h
  | some b =>
    obtain ⟨-, hincluded, hlive, -⟩ := b.add_frame index delta
    rw [add_eq hb]
    refine ⟨h.retired, fun c hc => ?_⟩
    obtain ⟨k, hk, hcounted⟩ := mem_countedBlocks.1 hc
    -- Either the block that was added to, which was counted before, or another one.
    rcases getElem?_set_eq_some hk with ⟨-, rfl⟩ | ⟨-, hk⟩
    · rw [hlive, hincluded] at hcounted
      have hold := h.counted b (mem_countedBlocks.2 ⟨id, hb, hcounted⟩)
      exact hold.trans (hroom.le_counterAt hb)
    · exact h.counted c (mem_countedBlocks.2 ⟨k, hk, hcounted⟩)

/-- `mass` is not lowered by an `add` that has `RoomFor` its delta. -/
theorem mass_le_add {id index : Nat} {delta : Int64} (hroom : r.RoomFor i id index delta) :
    r.mass i ≤ (r.add id index delta).2.mass i := by
  cases hb : r.blocks[id]? with
  | none => rw [Registry.add, hb]
  | some b =>
    obtain ⟨-, hincluded, hlive, -⟩ := b.add_frame index delta
    -- An addition changes no flag, so the same blocks are counted before and after.
    have hsame : ((b.add index delta).2.included && (b.add index delta).2.live) =
        (b.included && b.live) := by rw [hincluded, hlive]
    have hsum := sum_filter_set_le (p := fun b : Block => b.included && b.live)
      (f := (counterAt ·.values i)) hb hsame (hroom.le_counterAt hb)
    rw [add_eq hb, mass, mass, countedBlocks_eq, countedBlocks_eq]
    exact Int.add_le_add_left hsum _

end Registry

/-! ### What a run does to it -/

namespace Session

variable {s : Session} {i : Nat}

/-- `perform (.free id)` is `freeOwn id` whether or not the number has been given out, as `freeOwn`
does nothing to an unknown number. -/
theorem registry_perform_free (s : Session) (id : Nat) :
    (s.perform (.free id)).registry = s.registry.freeOwn id := by
  rw [perform]
  split
  · rfl
  · rename_i hid
    rw [Registry.freeOwn, List.getElem?_eq_none (Nat.not_lt.1 hid)]
    rfl

/-- A run of `free` operations is `freeAll`. -/
theorem registry_run_free (s : Session) (ids : List Nat) :
    (s.run (ids.map .free)).registry = s.registry.freeAll ids := by
  induction ids generalizing s with
  | nil => rfl
  | cons id ids ih =>
    rw [Registry.freeAll, List.foldl_cons, ← registry_perform_free, ← Registry.freeAll]
    exact ih (s.perform (.free id))

/-- An operation that attaches, frees, collects or adds with `RoomFor` its delta. What is added at
other places than `i` does not matter. -/
def Gentle (i : Nat) (s : Session) : Operation → Prop
  | .attach _ => True
  | .add id index delta => s.registry.RoomFor i id index delta
  | .free _ => True
  | .collect _ => True
  | .resize _ => False
  | .forget => False
  | .limit _ => False

/-- A run of operations each of which is `Gentle` in the state that it is performed in. -/
def Climbs (i : Nat) : Session → List Operation → Prop
  | _, [] => True
  | s, op :: ops => s.Gentle i op ∧ (s.perform op).Climbs i ops

/-- What an operation collects: a list of `totals` at most one long. -/
def collected (s : Session) : Operation → List (List Int64)
  | .collect buffer => (s.registry.collect buffer).toOption.toList
  | _ => []

/-- What a run collects, in order. -/
def collections : Session → List Operation → List (List Int64)
  | _, [] => []
  | s, op :: ops => s.collected op ++ (s.perform op).collections ops

/-- An operation collects nothing, or `totals` once. -/
theorem collected_eq (s : Session) (op : Operation) :
    s.collected op = [] ∨ s.collected op = [s.registry.totals] := by
  cases op with
  | collect buffer =>
    by_cases hlen : buffer.length = s.registry.size
    · rw [collected, Registry.collect_of_length_eq hlen]
      exact .inr rfl
    · rw [collected, Registry.collect, if_neg hlen]
      exact .inl rfl
  | _ => exact .inl rfl

/-- Whatever an operation collects is `totals`. -/
theorem eq_totals_of_mem {op : Operation} {out : List Int64} (h : out ∈ s.collected op) :
    out = s.registry.totals := by
  rcases s.collected_eq op with hnone | hone
  · exact absurd (hnone ▸ h) List.not_mem_nil
  · exact List.mem_singleton.1 (hone ▸ h)

/-- A `Gentle` operation preserves `size` and `NonNegAt`, and does not lower `mass` below where it
was or below `maxCounter`. -/
theorem Gentle.perform {op : Operation} (hg : s.Gentle i op) (sound : s.Sound)
    (h : s.registry.NonNegAt i) :
    (s.perform op).registry.size = s.registry.size ∧ (s.perform op).registry.NonNegAt i ∧
      min (maxCounter : Int) (s.registry.mass i) ≤ (s.perform op).registry.mass i := by
  -- Each admissible operation has its own lemma about `mass`; the excluded ones contradict
  -- `Gentle`.
  cases op with
  | attach compilerThread =>
    refine ⟨rfl, h.attach compilerThread, ?_⟩
    show _ ≤ (s.registry.attach compilerThread).2.mass i
    rw [Registry.mass_attach]
    exact min_le_right _ _
  | add id index delta =>
    rw [Session.perform]
    split
    · exact ⟨s.registry.size_add id index delta, h.add hg,
        (min_le_right _ _).trans (Registry.mass_le_add hg)⟩
    · exact ⟨rfl, h, min_le_right _ _⟩
  | free id =>
    rw [registry_perform_free]
    refine ⟨(s.registry.freeOwn_frame id).1, h.freeOwn sound.wf id, ?_⟩
    rw [← h.min_mass_freeOwn sound.wf id]
    exact min_le_right _ _
  | collect buffer => exact ⟨rfl, h, min_le_right _ _⟩
  | resize n => exact hg.elim
  | forget => exact hg.elim
  | limit allowed => exact hg.elim

/-- Whatever a run that `Climbs` collects has the length `size` and is at least `mass` before the
run, cut off at `maxCounter`. -/
theorem Climbs.le_collections {ops : List Operation} (hc : s.Climbs i ops) (sound : s.Sound)
    (hi : i < s.registry.size) (h : s.registry.NonNegAt i) {out : List Int64}
    (hout : out ∈ s.collections ops) :
    out.length = s.registry.size ∧
      min (maxCounter : Int) (s.registry.mass i) ≤ counterAt out i := by
  induction ops generalizing s with
  | nil => exact absurd hout List.not_mem_nil
  | cons op ops ih =>
    obtain ⟨hg, hrest⟩ := hc
    obtain ⟨hsize, hnonneg, hmass⟩ := hg.perform sound h
    rw [collections, List.mem_append] at hout
    -- Collected by the first operation, or by the rest of the run, where `mass` is no lower.
    rcases hout with hout | hout
    · rw [eq_totals_of_mem hout, Registry.length_totals, h.counterAt_totals hi]
      exact ⟨rfl, Int.le_refl _⟩
    · obtain ⟨hlength, hle⟩ := ih hrest (sound.perform op) (hsize ▸ hi) hnonneg hout
      exact ⟨hlength.trans hsize, (le_min (min_le_left _ _) hmass).trans hle⟩

/-- The values that a run that `Climbs` collects at place `i` are in ascending order. -/
theorem Climbs.pairwise {ops : List Operation} (hc : s.Climbs i ops) (sound : s.Sound)
    (hi : i < s.registry.size) (h : s.registry.NonNegAt i) :
    (s.collections ops).Pairwise fun earlier later => counterAt earlier i ≤ counterAt later i := by
  induction ops generalizing s with
  | nil => exact .nil
  | cons op ops ih =>
    obtain ⟨hg, hrest⟩ := hc
    obtain ⟨hsize, hnonneg, hmass⟩ := hg.perform sound h
    have hlater := ih hrest (sound.perform op) (hsize ▸ hi) hnonneg
    have hone : (s.collected op).Pairwise fun earlier later =>
        counterAt earlier i ≤ counterAt later i := by
      rcases s.collected_eq op with hnone | hone
      · rw [hnone]
        exact .nil
      · rw [hone]
        exact List.pairwise_singleton _ _
    rw [collections, List.pairwise_append]
    -- What the first operation collects is compared with everything after it by `le_collections`.
    refine ⟨hone, hlater, fun earlier hearlier later hout => ?_⟩
    obtain ⟨-, hle⟩ := hrest.le_collections (sound.perform op) (hsize ▸ hi) hnonneg hout
    rw [eq_totals_of_mem hearlier, h.counterAt_totals hi]
    exact (le_min (min_le_left _ _) hmass).trans hle

/-! ### Every state of a run -/

/-- `totals` at place `i` are the exact sum, cut off at the largest counter: in whatever order the
blocks are met, whichever of them have been freed, and without ever going back. -/
structure CutOffAt (s : Session) (i : Nat) : Prop where
  /-- The total is the smaller of `2 ^ 63 - 1` and the exact sum of the pool and the
  counted blocks. -/
  totals_eq : (s.registry.totals[i]?).map (·.toInt) =
    some (min (2 ^ 63 - 1) (counterAt s.registry.retired i +
      (s.registry.countedBlocks.map (counterAt ·.values i)).sum))
  /-- `totalsInOrder` does not depend on the order of the live blocks. -/
  any_order : ∀ order, order.Perm s.registry.liveBlocks →
    (s.registry.totalsInOrder order)[i]? = s.registry.totals[i]?
  /-- Freeing blocks, in whatever order, leaves the total. -/
  free_totals : ∀ ids : List Nat,
    (s.run (ids.map .free)).registry.totals[i]? = s.registry.totals[i]?
  /-- The pool takes the exact sum of the counted blocks that are freed, cut off likewise. -/
  free_retired : ∀ ids : List Nat, ((s.run (ids.map .free)).registry.retired[i]?).map (·.toInt) =
    some (min (2 ^ 63 - 1) (counterAt s.registry.retired i +
      ((s.registry.countedBlocks.filter fun b => b.id ∈ ids).map (counterAt ·.values i)).sum))
  /-- The pool depends on which blocks are freed, not on the order in which they are. -/
  free_order : ∀ ids ids' : List Nat, (∀ id, id ∈ ids ↔ id ∈ ids') →
    (s.run (ids.map .free)).registry.retired[i]? = (s.run (ids'.map .free)).registry.retired[i]?
  /-- Every collection of a run that `Climbs` has `size` entries. -/
  collections_length : ∀ ops, s.Climbs i ops → ∀ out ∈ s.collections ops,
    out.length = s.registry.size
  /-- A run that `Climbs` collects values in ascending order. -/
  never_back : ∀ ops, s.Climbs i ops →
    (s.collections ops).Pairwise fun earlier later => counterAt earlier i ≤ counterAt later i

/-- `CutOffAt` holds in every reachable state, at every place where nothing negative is
summed up. -/
theorem cutOffAt_of_run {size : Nat} {excludeCompiler : Bool} {r : Registry}
    (hr : Registry.create size excludeCompiler = .ok r) (pause : Pause) (ops : List Operation)
    {i : Nat} (hi : i < ((Session.start pause r).run ops).registry.size)
    (hretired : 0 ≤ counterAt ((Session.start pause r).run ops).registry.retired i)
    (hcounted : ∀ b ∈ ((Session.start pause r).run ops).registry.countedBlocks,
      0 ≤ counterAt b.values i) :
    ((Session.start pause r).run ops).CutOffAt i := by
  have sound := (Sound.start hr pause).run ops
  generalize (Session.start pause r).run ops = s at sound hi hretired hcounted
  have h : s.registry.NonNegAt i := ⟨hretired, hcounted⟩
  have wf := sound.wf
  -- `free_retired` and `free_order` are both read off the pool after `freeAll`.
  have hpool : ∀ ids : List Nat, ((s.registry.freeAll ids).retired[i]?).map (·.toInt) =
      some (min (maxCounter : Int) (counterAt s.registry.retired i +
        sumAt i (s.registry.countedBlocks.filter fun b => b.id ∈ ids))) := by
    intro ids
    have hlt : i < (s.registry.freeAll ids).retired.length := by
      rw [(wf.freeAll ids).retired_length, s.registry.size_freeAll]
      exact hi
    rw [← h.counterAt_freeAll wf ids, counterAt, List.getElem?_eq_getElem hlt]
    rfl
  -- Words with the same value are the same word.
  have hinj : ∀ {a b : Option Int64}, a.map (·.toInt) = b.map (·.toInt) → a = b :=
    fun hab => Option.map_injective (fun _ _ => Int64.toInt_inj.1) hab
  exact
    { totals_eq := h.toInt_totals hi
      any_order := fun order horder =>
        hinj ((h.toInt_totalsInOrder hi horder).trans (h.toInt_totals hi).symm)
      free_totals := fun ids => by
        -- Freeing moves summands into the pool, and leaves the exact sum and so the totals.
        obtain ⟨hnonneg, hmass⟩ := h.freeAll wf ids
        have hnew := hnonneg.toInt_totals (by rwa [s.registry.size_freeAll])
        rw [registry_run_free]
        exact hinj (hnew.trans (hmass ▸ (h.toInt_totals hi).symm))
      free_retired := fun ids => by
        rw [registry_run_free]
        exact hpool ids
      free_order := fun ids ids' hids => by
        have hsame : (s.registry.countedBlocks.filter fun b => b.id ∈ ids) =
            s.registry.countedBlocks.filter fun b => b.id ∈ ids' :=
          List.filter_congr fun b _ => by simp only [hids]
        rw [registry_run_free, registry_run_free]
        exact hinj ((hpool ids).trans (hsame ▸ (hpool ids').symm))
      collections_length := fun ops hc out hout => (hc.le_collections sound hi h hout).1
      never_back := fun ops hc => hc.pairwise sound hi h }

/-- Two blocks, one of them at `Int64.maxValue`. -/
def fullCounter : List Operation :=
  [.attach false, .attach true, .add 0 0 Int64.maxValue, .add 1 0 7]

/-- `cutOffAt_of_run` applies to `fullCounter`, whose two blocks are together past the largest
counter, before and after one of them is freed. -/
theorem cutOffAt_of_fullCounter :
    Registry.create 1 false = .ok (Registry.empty 1 false) ∧
      ((Session.start {} (Registry.empty 1 false)).run fullCounter).CutOffAt 0 ∧
      ((Session.start {} (Registry.empty 1 false)).run fullCounter).Climbs 0
        [.collect [0], .free 0, .attach false, .add 2 0 1, .collect [5]] ∧
      ((Session.start {} (Registry.empty 1 false)).run fullCounter).collections
        [.collect [0], .free 0, .attach false, .add 2 0 1, .collect [5]] =
          [[Int64.maxValue], [Int64.maxValue]] :=
  ⟨rfl,
    cutOffAt_of_run (rfl : Registry.create 1 false = _) {} fullCounter (by decide) (by decide)
      (by decide),
    ⟨trivial, trivial, trivial, fun _ => ⟨by decide, fun b hb => by cases hb; decide⟩, trivial,
      trivial⟩,
    by decide⟩

end Session

end CompilerLink.Counter
