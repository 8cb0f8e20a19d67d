import CompilerLink.Proofs.Counter.Representation
import CompilerLink.Proofs.Counter.Ledger

/-! # The balance of one counter

At one counter each live block stands at the tally of its own deposits and the pool at the tally of
the deposits that are in the pool (`Balanced`). Attaching, adding, retiring, resizing and forgetting
move counts between the live blocks and the pool, cut them off or drop them, and every one of them
keeps the balance as long as the volume fits into a word, so that nothing wraps or saturates. -/

namespace CompilerLink.Counter

/-! ### What an entry changes in the ledger -/

/-- `wasForgotten` implies `wasFreed`. -/
theorem wasFreed_of_wasForgotten {record : List Entry} {id : Nat}
    (h : wasForgotten record id = true) : wasFreed record id = true := by
  rw [wasForgotten, wasFreed_eq_true_iff] at h
  exact wasFreed_eq_true_iff.2 ((List.dropWhile_sublist _).subset h)

/-- An `attached` entry does not change `wasIncluded` of other blocks. -/
theorem wasIncluded_attached {excludeCompiler compilerThread : Bool} {record : List Entry}
    {k id : Nat} (h : k ≠ id) :
    wasIncluded excludeCompiler (.attached k compilerThread :: record) id =
      wasIncluded excludeCompiler record id := by
  show (decide (k = id) && _ || wasIncluded excludeCompiler record id) = _
  rw [decide_eq_false h, Bool.false_and, Bool.false_or]

/-- The first `freed` entry of a block adds it to `inPool` if it `wasIncluded`. -/
theorem inPool_freed {excludeCompiler : Bool} {record : List Entry} {id : Nat}
    (hnew : wasFreed record id = false) (k : Nat) :
    inPool excludeCompiler (.freed id :: record) k =
      (inPool excludeCompiler record k ||
        (wasIncluded excludeCompiler record id && k == id)) := by
  have htotals : inTotals excludeCompiler (.freed id :: record) k =
    inTotals excludeCompiler record k := rfl
  rw [inPool, inPool, htotals]
  by_cases hk : k = id
  · have hfreed : wasFreed (.freed id :: record) k = true :=
      wasFreed_eq_true_iff.2 (hk ▸ List.mem_cons_self)
    -- Only what has been retired can have been forgotten.
    have hkept : wasForgotten record id = false := by
      rw [← Bool.not_eq_true]
      exact fun h => Bool.false_ne_true (hnew.symm.trans (wasFreed_of_wasForgotten h))
    rw [hfreed, hk, hnew, beq_self_eq_true, inTotals, hkept, Bool.not_false, Bool.and_true,
      Bool.and_false, Bool.and_true, Bool.false_or]
  · -- Another block: the entry is not about it.
    have hfreed : wasFreed (.freed id :: record) k = wasFreed record k := by
      show (decide (id = k) || wasFreed record k) = _
      rw [decide_eq_false (Ne.symm hk), Bool.false_or]
    rw [hfreed, beq_false_of_ne hk, Bool.and_false, Bool.or_false]

/-- A further `freed` entry leaves `inPool`. -/
theorem inPool_freed_again {excludeCompiler : Bool} {record : List Entry} {id : Nat}
    (hold : wasFreed record id = true) (k : Nat) :
    inPool excludeCompiler (.freed id :: record) k = inPool excludeCompiler record k := by
  have hfreed : wasFreed (.freed id :: record) k = wasFreed record k := by
    show (decide (id = k) || wasFreed record k) = _
    by_cases hk : id = k
    · rw [← hk, hold, Bool.or_true]
    · rw [decide_eq_false hk, Bool.false_or]
  rw [inPool, inPool, hfreed]
  rfl

/-- No block is `inPool` right after the retired counts were forgotten. -/
theorem inPool_forgotten (excludeCompiler : Bool) (record : List Entry) (k : Nat) :
    inPool excludeCompiler (.forgotten :: record) k = false := by
  have h : wasForgotten (.forgotten :: record) k = wasFreed (.forgotten :: record) k := rfl
  rw [inPool, inTotals, h]
  cases wasFreed (.forgotten :: record) k <;> simp

/-- `volume` only grows. -/
theorem volume_le_cons (i : Nat) (e : Entry) (record : List Entry) :
    volume i record ≤ volume i (e :: record) := by
  cases e with
  | added id index delta accepted =>
    cases accepted with
    | true => exact Nat.le_add_left ..
    | false => exact Nat.le_refl _
  | _ => exact Nat.le_refl _

/-- A deposit is an old one or comes from the `added` entry in front, if its delta was taken. -/
theorem mem_deposits_cons {i : Nat} {e : Entry} {record : List Entry} {d : Nat × Int64}
    (h : d ∈ deposits i (e :: record)) :
    d ∈ deposits i record ∨ ∃ index delta, e = .added d.1 index delta true := by
  cases e with
  | added id index delta accepted =>
    cases accepted with
    | false => exact .inl h
    | true =>
      rw [deposits] at h
      split at h
      · rcases List.mem_cons.1 h with rfl | h
        · exact .inr ⟨index, delta, rfl⟩
        · exact .inl h
      · exact .inl h
  | resized n succeeded =>
    cases succeeded with
    | false => exact .inl h
    | true =>
      -- A resize takes deposits away at most.
      rw [deposits] at h
      split at h
      · exact absurd h List.not_mem_nil
      · exact .inl h
  | _ => exact .inl h

/-! ### Who is included -/

namespace Registry

/-- The `included` flag of each block, in the order of their numbers. -/
def inclusion (r : Registry) : List Bool := r.blocks.map (·.included)

/-- `inclusion` has one flag per block. -/
@[simp] theorem length_inclusion (r : Registry) : r.inclusion.length = r.blocks.length :=
  List.length_map ..

theorem excludeCompiler_add (r : Registry) (id index : Nat) (delta : Int64) :
    (r.add id index delta).2.excludeCompiler = r.excludeCompiler := by
  rw [add]
  split <;> rfl

/-- `freeOwn` leaves `size` and the policy. -/
theorem freeOwn_frame (r : Registry) (id : Nat) :
    (r.freeOwn id).size = r.size ∧ (r.freeOwn id).excludeCompiler = r.excludeCompiler := by
  cases hb : r.blocks[id]? with
  | none => rw [freeOwn, hb]; exact ⟨rfl, rfl⟩
  | some b =>
    have hfree : r.freeOwn id = r.free b := by rw [freeOwn, hb]; rfl
    rw [hfree, free]
    -- Freeing writes the pool and one block, and neither is in the frame.
    split
    · dsimp only
      split <;> exact ⟨rfl, rfl⟩
    · exact ⟨rfl, rfl⟩

/-- `resize` leaves the policy, whether it succeeds or not. -/
theorem excludeCompiler_resize (r : Registry) (n : Nat) :
    (r.resize n).state.excludeCompiler = r.excludeCompiler := by
  by_cases h : r.HasRoom n
  · rw [(resize_of_hasRoom h).2]
    rfl
  · obtain ⟨-, left, hleft⟩ := resize_of_not_hasRoom h
    rw [hleft]

/-- `attach` adds one flag, which the policy and the kind of thread decide. -/
theorem inclusion_attach (r : Registry) (compilerThread : Bool) :
    (r.attach compilerThread).2.inclusion =
      r.inclusion ++ [!(r.excludeCompiler && compilerThread)] := by
  rw [inclusion, attach, List.map_append]
  rfl

theorem inclusion_add (r : Registry) (id index : Nat) (delta : Int64) :
    (r.add id index delta).2.inclusion = r.inclusion :=
  map_blocks_add (fun b => (b.add_frame index delta).2.1) r id

theorem inclusion_freeOwn {r : Registry} (wf : r.WellFormed) (id : Nat) :
    (r.freeOwn id).inclusion = r.inclusion := by
  cases hb : r.blocks[id]? with
  | none => rw [freeOwn, hb]; rfl
  | some b =>
    cases hlive : b.live with
    | true =>
      rw [wf.freeOwn_eq hb hlive]
      exact map_set_eq_map hb rfl
    | false => rw [wf.freeOwn_of_not_live hb hlive]

theorem inclusion_resize (r : Registry) (n : Nat) :
    (r.resize n).state.inclusion = r.inclusion :=
  map_blocks_resize (fun b => (b.resizedTo_frame n).2.1) r

end Registry

/-- `wasIncluded` agrees with the labels, which stand for `inclusion`, and no deposit is under a
number beyond them. -/
structure Labelled (excludeCompiler : Bool) (labels : List Bool) (record : List Entry) :
    Prop where
  included_eq : ∀ k, wasIncluded excludeCompiler record k = (labels[k]?).getD false
  depositor_lt : ∀ {i : Nat} {d : Nat × Int64}, d ∈ deposits i record → d.1 < labels.length

namespace Labelled

variable {excludeCompiler : Bool} {labels : List Bool} {record : List Entry}

/-- `Labelled` is kept by an attachment, with one more label. -/
theorem attached (lab : Labelled excludeCompiler labels record) (compilerThread : Bool) :
    Labelled excludeCompiler (labels ++ [!(excludeCompiler && compilerThread)])
      (.attached labels.length compilerThread :: record) where
  included_eq k := by
    -- An old block, the new one, or a number that is still to come.
    rcases Nat.lt_trichotomy k labels.length with hk | rfl | hk
    · rw [wasIncluded_attached (Nat.ne_of_gt hk), List.getElem?_append_left hk, lab.included_eq]
    · show (decide (labels.length = labels.length) && _ || wasIncluded _ record _) = _
      rw [lab.included_eq, List.getElem?_concat_length,
        List.getElem?_eq_none (Nat.le_refl labels.length), decide_eq_true rfl, Bool.true_and,
        Option.getD_none, Bool.or_false, Option.getD_some]
    · have hnone : (labels ++ [!(excludeCompiler && compilerThread)])[k]? = none :=
        List.getElem?_eq_none (by rw [List.length_append, List.length_singleton]; omega)
      rw [wasIncluded_attached (Nat.ne_of_lt hk), lab.included_eq, hnone,
        List.getElem?_eq_none (Nat.le_of_lt hk)]
  depositor_lt h := by
    have hlt := lab.depositor_lt h
    rw [List.length_append]
    omega

/-- `Labelled` is kept by an addition to an attached block. -/
theorem added (lab : Labelled excludeCompiler labels record) {id : Nat} (hid : id < labels.length)
    (index : Nat) (delta : Int64) (accepted : Bool) :
    Labelled excludeCompiler labels (.added id index delta accepted :: record) where
  included_eq := lab.included_eq
  depositor_lt h := by
    rcases mem_deposits_cons h with h | ⟨_, _, he⟩
    · exact lab.depositor_lt h
    · cases he
      exact hid

/-- `Labelled` is kept by an entry that attaches no block and deposits nothing. -/
theorem cons (lab : Labelled excludeCompiler labels record) {e : Entry}
    (hincluded : ∀ k, wasIncluded excludeCompiler (e :: record) k =
      wasIncluded excludeCompiler record k)
    (hdeposits : ∀ i, deposits i (e :: record) ⊆ deposits i record) :
    Labelled excludeCompiler labels (e :: record) where
  included_eq k := (hincluded k).trans (lab.included_eq k)
  depositor_lt {i _} h := lab.depositor_lt (hdeposits i h)

/-- `Labelled` is kept by a resize, which takes deposits away at most. -/
theorem resized (lab : Labelled excludeCompiler labels record) (n : Nat) (succeeded : Bool) :
    Labelled excludeCompiler labels (.resized n succeeded :: record) := by
  refine lab.cons (fun _ => rfl) fun i d h => ?_
  rcases mem_deposits_cons h with h | ⟨_, _, he⟩
  · exact h
  · cases he

/-- `wasIncluded` is the `included` flag of the block. -/
theorem wasIncluded_eq {r : Registry} (lab : Labelled excludeCompiler r.inclusion record)
    {k : Nat} {b : Block} (hb : r.blocks[k]? = some b) :
    wasIncluded excludeCompiler record k = b.included := by
  rw [lab.included_eq, Registry.inclusion, List.getElem?_map, hb]
  rfl

end Labelled

/-! ### The balance of one counter -/

/-- The invariant of counter `i`: each live block has the `tally` of its own deposits there and the
pool has the `tally` of those that are `inPool`. -/
structure Balanced (r : Registry) (record : List Entry) (i : Nat) : Prop where
  above : r.size ≤ i → deposits i record = []
  block_eq : ∀ {k : Nat} {b : Block}, r.blocks[k]? = some b → b.live = true →
    counterAt b.values i = tally (·.toInt) (· == k) (deposits i record)
  retired_eq : counterAt r.retired i =
    tally (·.toInt) (inPool r.excludeCompiler record) (deposits i record)

/-- `wasFreed` is the negation of the `live` flag. -/
theorem Roll.wasFreed_eq {r : Registry} {record : List Entry} (roll : Roll r.liveness record)
    {k : Nat} {b : Block} (hb : r.blocks[k]? = some b) : wasFreed record k = !b.live := by
  obtain ⟨hlt, -⟩ := List.getElem?_eq_some_iff.1 hb
  have hlive : r.liveness[k]? = some b.live := by
    rw [Registry.liveness, List.getElem?_map, hb, Option.map_some]
  have hiff := roll.live_iff k
  rw [hlive, Option.some.injEq, Registry.length_liveness, ← wasFreed_eq_true_iff] at hiff
  rw [Bool.eq_iff_iff, Bool.not_eq_true', ← Bool.not_eq_true, hiff]
  exact ⟨fun h hlive => hlive.2 h, fun h => Decidable.of_not_not fun hnot => h ⟨hlt, hnot⟩⟩

namespace Balanced

variable {r : Registry} {record : List Entry} {i : Nat}

theorem attach (bal : Balanced r record i)
    (lab : Labelled r.excludeCompiler r.inclusion record) (compilerThread : Bool) :
    Balanced (r.attach compilerThread).2 (.attached r.blocks.length compilerThread :: record)
      i where
  above := bal.above
  block_eq {k b} hb hlive := by
    rcases Registry.WellFormed.getElem?_attach hb with hb | ⟨rfl, rfl⟩
    · exact bal.block_eq hb hlive
    · -- Nobody can have deposited under a number that was not taken.
      have hnone : tally (·.toInt) (· == r.blocks.length) (deposits i record) = 0 :=
        tally_eq_zero _ fun d hd =>
          beq_false_of_ne (Nat.ne_of_lt (by simpa using lab.depositor_lt hd))
      exact (counterAt_replicate r.size i).trans hnone.symm
  retired_eq := by
    refine bal.retired_eq.trans (tally_congr _ fun d hd => ?_)
    have hne : r.blocks.length ≠ d.1 := Nat.ne_of_gt (by simpa using lab.depositor_lt hd)
    rw [inPool, inPool, inTotals, inTotals]
    show _ = (wasIncluded r.excludeCompiler _ d.1 && _ && _)
    rw [wasIncluded_attached hne]
    rfl

/-- `Balanced` is kept by `Block.add` to counter `i` of a live block, if the `volume` has room for
the delta. -/
theorem deposit (bal : Balanced r record i) (wf : r.WellFormed) (roll : Roll r.liveness record)
    {id : Nat} {b : Block} (hb : r.blocks[id]? = some b) (hlive : b.live = true) {delta : Int64}
    (hi : i < b.values.length) (hv : delta.toInt.natAbs + volume i record ≤ maxCounter) :
    Balanced { r with blocks := r.blocks.set id (b.add i delta).2 }
      (.added id i delta true :: record) i := by
  have hkept : wasFreed record id = false := by rw [roll.wasFreed_eq hb, hlive]; rfl
  have hdeposits : deposits i (.added id i delta true :: record) =
      (id, delta) :: deposits i record :=
    if_pos ⟨rfl, hkept⟩
  -- The counter is a tally, so the volume has room for it beside the delta.
  have hfit : (counterAt b.values i).natAbs + delta.toInt.natAbs ≤ maxCounter := by
    have h1 := natAbs_tally_le (· == id) (deposits i record)
    have h2 := tally_natAbs_le_volume (· == id) i record
    rw [bal.block_eq hb hlive]
    omega
  refine ⟨fun hsize => ?_, fun {k c} hc hclive => ?_, ?_⟩
  · have hlen := wf.live_length hb hlive
    exact absurd hi (by rw [hlen]; exact Nat.not_lt.2 hsize)
  · rw [hdeposits, tally_cons]
    -- The block that took the delta, or one that makes no new deposit.
    rcases getElem?_set_eq_some hc with ⟨rfl, rfl⟩ | ⟨hk, hc⟩
    · rw [Block.counterAt_add b hi hfit, bal.block_eq hb hlive, beq_self_eq_true, if_pos rfl,
        Int.add_comm]
    · rw [bal.block_eq hc hclive, beq_false_of_ne (Ne.symm hk), if_neg Bool.false_ne_true,
        Int.zero_add]
  · -- The pool does not see the deposit before the block is retired.
    have hout : inPool r.excludeCompiler record id = false := by
      rw [inPool, hkept, Bool.and_false]
    rw [hdeposits, tally_cons]
    show _ = (if inPool r.excludeCompiler record id = true then delta.toInt else 0) + _
    rw [hout, if_neg Bool.false_ne_true, Int.zero_add]
    exact bal.retired_eq

/-- `Balanced` is kept by `add`, whether the delta is taken or not, by whom and at which counter. -/
theorem add (bal : Balanced r record i) (wf : r.WellFormed) (roll : Roll r.liveness record)
    {id : Nat} (hid : id < r.blocks.length) (index : Nat) (delta : Int64)
    (hv : volume i (.added id index delta (r.add id index delta).1 :: record) ≤ maxCounter) :
    Balanced (r.add id index delta).2
      (.added id index delta (r.add id index delta).1 :: record) i := by
  have hb : r.blocks[id]? = some r.blocks[id] := List.getElem?_eq_getElem hid
  generalize r.blocks[id] = b at hb
  cases hadd : (r.add id index delta).1 with
  | false =>
    rw [Registry.add_snd_of_rejected hadd]
    exact ⟨bal.above, bal.block_eq, bal.retired_eq⟩
  | true =>
    rw [hadd] at hv
    rw [Registry.add_eq hb] at hadd ⊢
    have hlt : index < b.values.length := (b.add_fst_eq_true_iff index delta).1 hadd
    -- Only a live block at counter `i` makes a deposit.
    by_cases hdeposit : index = i ∧ b.live = true
    · obtain ⟨rfl, hlive⟩ := hdeposit
      rw [volume, if_pos rfl] at hv
      exact bal.deposit wf roll hb hlive hlt hv
    · -- The delta went to another counter or to a block that nobody counts any more.
      have hdeposits : deposits i (.added id index delta true :: record) = deposits i record := by
        refine if_neg fun h => hdeposit ⟨h.1, ?_⟩
        have hfreed := h.2
        rw [roll.wasFreed_eq hb, Bool.not_eq_false'] at hfreed
        exact hfreed
      refine ⟨fun hsize => hdeposits.trans (bal.above hsize), fun {k c} hc hclive => ?_, ?_⟩
      · rw [hdeposits]
        rcases getElem?_set_eq_some hc with ⟨rfl, rfl⟩ | ⟨-, hc⟩
        · have hlive : b.live = true := (b.add_frame index delta).2.2.1 ▸ hclive
          rw [Block.counterAt_add_of_ne b fun h => hdeposit ⟨h, hlive⟩]
          exact bal.block_eq hb hlive
        · exact bal.block_eq hc hclive
      · rw [hdeposits]
        exact bal.retired_eq

/-- The pool after `addInto` of a live block is at the `tally` of the pool and the
block together. -/
theorem counterAt_addInto_retired (bal : Balanced r record i) (wf : r.WellFormed)
    (roll : Roll r.liveness record) {id : Nat} {b : Block} (hb : r.blocks[id]? = some b)
    (hlive : b.live = true) (hv : volume i record ≤ maxCounter) :
    counterAt (addInto r.retired b.values) i =
      tally (·.toInt) (fun k => inPool r.excludeCompiler record k || k == id)
        (deposits i record) := by
  -- A deposit of a live block is not in the pool, so the tallies do not overlap.
  have hdisjoint : ∀ k, inPool r.excludeCompiler record k = true → (k == id) = false := by
    intro k hk
    refine beq_false_of_ne fun h => ?_
    rw [h, inPool, roll.wasFreed_eq hb, hlive, Bool.not_true, Bool.and_false] at hk
    exact Bool.false_ne_true hk
  -- The sum is exact, as both tallies together are within the `volume`.
  have hfit : (counterAt r.retired i).natAbs + (counterAt b.values i).natAbs ≤ maxCounter := by
    have h1 := natAbs_tally_le (inPool r.excludeCompiler record) (deposits i record)
    have h2 := natAbs_tally_le (· == id) (deposits i record)
    have h3 := tally_or (·.toInt.natAbs) hdisjoint (deposits i record)
    have h4 := tally_natAbs_le_volume
      (fun k => inPool r.excludeCompiler record k || k == id) i record
    rw [bal.retired_eq, bal.block_eq hb hlive]
    omega
  have hlen : b.values.length ≤ r.retired.length :=
    Nat.le_of_eq ((wf.live_length hb hlive).trans wf.retired_length.symm)
  rw [counterAt_addInto hlen hfit, bal.retired_eq, bal.block_eq hb hlive, tally_or _ hdisjoint]

/-- `Balanced` is kept by `freeOwn`: the deposits of the block move from its own tally to that of
the pool. -/
theorem free (bal : Balanced r record i) (wf : r.WellFormed)
    (lab : Labelled r.excludeCompiler r.inclusion record)
    (roll : Roll r.liveness record) {id : Nat} (hid : id < r.blocks.length)
    (hv : volume i record ≤ maxCounter) :
    Balanced (r.freeOwn id) (.freed id :: record) i := by
  have hb : r.blocks[id]? = some r.blocks[id] := List.getElem?_eq_getElem hid
  generalize r.blocks[id] = b at hb
  have hfreed := roll.wasFreed_eq hb
  cases hlive : b.live with
  | false =>
    -- The block was retired before, so its deposits are where they were.
    rw [hlive] at hfreed
    rw [wf.freeOwn_of_not_live hb hlive]
    refine ⟨bal.above, bal.block_eq, bal.retired_eq.trans ?_⟩
    exact (tally_congr _ fun d _ => inPool_freed_again hfreed d.1).symm
  | true =>
    rw [hlive] at hfreed
    rw [wf.freeOwn_eq hb hlive]
    refine ⟨bal.above, fun {k c} hc hclive => ?_, ?_⟩
    · rcases getElem?_set_eq_some hc with ⟨-, rfl⟩ | ⟨-, hc⟩
      · cases hclive
      · exact bal.block_eq hc hclive
    · -- The record now has the included deposits of the block in the pool as well.
      have hpool : tally (·.toInt) (inPool r.excludeCompiler (.freed id :: record))
          (deposits i record) = tally (·.toInt) (fun k => inPool r.excludeCompiler record k ||
            (b.included && k == id)) (deposits i record) := by
        rw [← lab.wasIncluded_eq hb]
        exact tally_congr _ fun d _ => inPool_freed hfreed d.1
      refine Eq.trans ?_ hpool.symm
      show counterAt (if b.included = true then addInto r.retired b.values else r.retired) i = _
      cases b.included with
      | false => simpa using bal.retired_eq
      | true =>
        simp only [Bool.true_and, if_true]
        exact bal.counterAt_addInto_retired wf roll hb hlive hv

/-- `Balanced` is kept by `resizedTo`, which cuts the counter off together with its deposits or
keeps both. -/
theorem resizedTo (bal : Balanced r record i) (n : Nat) :
    Balanced (r.resizedTo n) (.resized n true :: record) i := by
  have hblock : ∀ {k : Nat} {c : Block}, (r.resizedTo n).blocks[k]? = some c → c.live = true →
      ∃ b, r.blocks[k]? = some b ∧ b.live = true ∧
        counterAt c.values i = if i < n then counterAt b.values i else 0 := by
    intro k c hc hclive
    obtain ⟨b, hb, rfl⟩ := Option.map_eq_some_iff.1 (List.getElem?_map ▸ hc)
    have hlive : b.live = true := (b.resizedTo_frame n).2.2 ▸ hclive
    rw [Block.resizedTo_of_live hlive]
    exact ⟨b, hb, hlive, counterAt_resized ..⟩
  have hretired := counterAt_resized r.retired n i
  by_cases hn : n ≤ i
  · -- The counter is cut off, and its deposits with it.
    have hdeposits : deposits i (.resized n true :: record) = [] := if_pos hn
    have hlt : ¬ i < n := Nat.not_lt.2 hn
    refine ⟨fun _ => hdeposits, fun {k c} hc hclive => ?_, ?_⟩
    · obtain ⟨b, -, -, hvalue⟩ := hblock hc hclive
      rw [hdeposits, hvalue, if_neg hlt, tally_nil]
    · rw [hdeposits, tally_nil]
      exact hretired.trans (if_neg hlt)
  · -- The counter is kept, and so are its deposits.
    have hdeposits : deposits i (.resized n true :: record) = deposits i record := if_neg hn
    have hlt : i < n := Nat.not_le.1 hn
    refine ⟨fun hsize => absurd hsize hn, fun {k c} hc hclive => ?_, ?_⟩
    · obtain ⟨b, hb, hlive, hvalue⟩ := hblock hc hclive
      rw [hdeposits, hvalue, if_pos hlt]
      exact bal.block_eq hb hlive
    · rw [hdeposits]
      exact (hretired.trans (if_pos hlt)).trans bal.retired_eq

/-- `Balanced` is kept by `resize`, whether it succeeds or not. -/
theorem resize (bal : Balanced r record i) (n : Nat) :
    Balanced (r.resize n).state (.resized n (r.resize n).value.isOk :: record) i := by
  by_cases h : r.HasRoom n
  · rw [(Registry.resize_of_hasRoom h).1, (Registry.resize_of_hasRoom h).2]
    exact bal.resizedTo n
  · obtain ⟨herror, left, hleft⟩ := Registry.resize_of_not_hasRoom h
    rw [herror, hleft]
    exact ⟨bal.above, bal.block_eq, bal.retired_eq⟩

/-- `Balanced` is kept by `freeGlobal`: the pool is zero and has no deposits. -/
theorem forget (bal : Balanced r record i) : Balanced r.freeGlobal (.forgotten :: record) i where
  above := bal.above
  block_eq := bal.block_eq
  retired_eq := by
    -- By `inPool_forgotten` nothing is left in the pool according to the record.
    have hpool : tally (·.toInt) (inPool r.excludeCompiler (.forgotten :: record))
        (deposits i record) = 0 :=
      tally_eq_zero _ fun d _ => inPool_forgotten r.excludeCompiler record d.1
    refine Eq.trans ?_ hpool.symm
    show counterAt (r.retired.map fun _ => 0) i = 0
    rw [counterAt, List.getElem?_map]
    cases r.retired[i]? <;> rfl

end Balanced

end CompilerLink.Counter
