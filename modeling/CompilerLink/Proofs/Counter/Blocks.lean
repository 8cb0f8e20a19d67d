import CompilerLink.Proofs.Counter.Run
import CompilerLink.Proofs.Lists

/-! # What an operation does to the blocks

`Registry.WellFormed` is what the operations of a registry rely on and keep: the pool and the live
blocks are as long as `size` says, and a block's number is its place. Adding to a block and retiring
one replace a single block; a resize replaces the live ones. -/

namespace CompilerLink.Counter

/-! ### One block -/

namespace Block

/-- `Block.add` succeeds exactly below the length of `values`. -/
theorem add_fst_eq_true_iff (b : Block) (index : Nat) (delta : Int64) :
    (b.add index delta).1 = true ↔ index < b.values.length := by
  rw [add]
  split
  · rename_i v hv
    obtain ⟨hlt, -⟩ := List.getElem?_eq_some_iff.1 hv
    exact ⟨fun _ => hlt, fun _ => rfl⟩
  · rename_i hv
    have hle := List.getElem?_eq_none_iff.1 hv
    exact ⟨fun h => Bool.noConfusion h, fun h => absurd h (by omega)⟩

/-- `Block.add` at an index beyond `values` fails and leaves the block as it is. -/
theorem add_of_length_le {b : Block} {index : Nat} (h : b.values.length ≤ index)
    (delta : Int64) : b.add index delta = (false, b) := by
  rw [add, List.getElem?_eq_none h]

/-- `Block.add` leaves `id`, `included`, `live` and the length of `values`. -/
theorem add_frame (b : Block) (index : Nat) (delta : Int64) :
    (b.add index delta).2.id = b.id ∧ (b.add index delta).2.included = b.included ∧
      (b.add index delta).2.live = b.live ∧
      (b.add index delta).2.values.length = b.values.length := by
  rw [add]
  split
  · exact ⟨rfl, rfl, rfl, List.length_set ..⟩
  · exact ⟨rfl, rfl, rfl, rfl⟩

/-- Entry `i` after `Block.add` at `index`: the sum if `i = index`, and as before otherwise. This
holds also where the addition fails. -/
theorem getElem?_add (b : Block) (index : Nat) (delta : Int64) (i : Nat) :
    (b.add index delta).2.values[i]? =
      if index = i then (b.values[i]?).map (· + delta) else b.values[i]? := by
  rw [add]
  -- There is such a counter, or `add` fails and both sides are `none` at `index`.
  split
  · rename_i v hv
    obtain ⟨hlt, -⟩ := List.getElem?_eq_some_iff.1 hv
    simp only [List.getElem?_set, if_pos hlt]
    by_cases hi : index = i
    · rw [if_pos hi, if_pos hi, ← hi, hv]
      rfl
    · rw [if_neg hi, if_neg hi]
  · rename_i hv
    by_cases hi : index = i
    · rw [if_pos hi, ← hi, hv]
      rfl
    · rw [if_neg hi]

theorem counterAt_add_of_ne (b : Block) {index i : Nat} (h : index ≠ i) (delta : Int64) :
    counterAt (b.add index delta).2.values i = counterAt b.values i := by
  rw [counterAt, getElem?_add, if_neg h, counterAt]

/-- `Block.add` is exact, by `toInt_add_of_natAbs_le`, if the absolute values come to at most
`maxCounter`. -/
theorem counterAt_add (b : Block) {index : Nat} {delta : Int64} (hlt : index < b.values.length)
    (h : (counterAt b.values index).natAbs + delta.toInt.natAbs ≤ maxCounter) :
    counterAt (b.add index delta).2.values index = counterAt b.values index + delta.toInt := by
  rw [counterAt, List.getElem?_eq_getElem hlt] at h
  rw [counterAt, getElem?_add, if_pos rfl, counterAt, List.getElem?_eq_getElem hlt]
  exact toInt_add_of_natAbs_le h

/-- `Block.resizedTo` leaves `id`, `included` and `live`. -/
theorem resizedTo_frame (b : Block) (n : Nat) :
    (b.resizedTo n).id = b.id ∧ (b.resizedTo n).included = b.included ∧
      (b.resizedTo n).live = b.live := by
  rw [resizedTo, withValues]
  split <;> exact ⟨rfl, rfl, rfl⟩

/-- `resizedTo n` of a live block resizes its `values`. -/
theorem resizedTo_of_live {b : Block} (h : b.live = true) (n : Nat) :
    b.resizedTo n = { b with values := resized b.values n } := by
  rw [resizedTo, withValues, if_pos h]

/-- `resizedTo n` of a retired block is the block. -/
theorem resizedTo_of_not_live {b : Block} (h : b.live = false) (n : Nat) :
    b.resizedTo n = b := by
  rw [resizedTo, withValues, h]
  rfl

end Block

/-! ### The operations on a registry -/

namespace Registry

/-- `Registry.add` to an existing block is `Block.add` at its place. -/
theorem add_eq {r : Registry} {id : Nat} {b : Block} (hb : r.blocks[id]? = some b) (index : Nat)
    (delta : Int64) :
    r.add id index delta =
      ((b.add index delta).1, { r with blocks := r.blocks.set id (b.add index delta).2 }) := by
  rw [add, hb]

theorem size_add (r : Registry) (id index : Nat) (delta : Int64) :
    (r.add id index delta).2.size = r.size := by
  rw [add]
  split <;> rfl

/-- `isLive` of the number of an existing block is its `live` flag. -/
theorem isLive_eq {r : Registry} {id : Nat} {b : Block} (hb : r.blocks[id]? = some b) :
    r.isLive id = b.live := by
  rw [isLive, hb]
  rfl

/-- `isLive` implies that there is such a block. -/
theorem exists_of_isLive {r : Registry} {id : Nat} (h : r.isLive id = true) :
    ∃ b, r.blocks[id]? = some b ∧ b.live = true := by
  rw [isLive] at h
  cases hb : r.blocks[id]? with
  | none => rw [hb] at h; exact nomatch h
  | some b => rw [hb] at h; exact ⟨b, rfl, h⟩

/-- `detach` replaces the block by one that is not live. -/
theorem detach_eq {r : Registry} {id : Nat} {b : Block} (hb : r.blocks[id]? = some b) :
    r.detach id = { r with blocks := r.blocks.set id { b with live := false } } := by
  rw [detach, List.modify_eq_set_getElem?, hb]
  rfl

/-- `free` does nothing if the number of the donor is not that of a live block. -/
theorem free_of_not_isLive {r : Registry} {donor : Block} (h : r.isLive donor.id = false) :
    r.free donor = r := by
  rw [free, h]
  rfl

/-- `Registry.add` leaves the registry as it is if it answers `false`. -/
theorem add_snd_of_rejected {r : Registry} {id index : Nat} {delta : Int64}
    (h : (r.add id index delta).1 = false) : (r.add id index delta).2 = r := by
  cases hb : r.blocks[id]? with
  | none => rw [add, hb]
  | some b =>
    obtain ⟨hlt, hget⟩ := List.getElem?_eq_some_iff.1 hb
    rw [add_eq hb] at h ⊢
    -- The answer is that of `Block.add`, so the block has no such counter.
    have hle : b.values.length ≤ index := by
      rw [← Nat.not_lt, ← b.add_fst_eq_true_iff index delta, h]
      exact Bool.false_ne_true
    rw [Block.add_of_length_le hle, ← hget, List.set_getElem_self]

/-- `Registry.add` keeps whatever `f` the addition to a single block keeps. Instances are `liveness`
and `inclusion`. -/
theorem map_blocks_add {α : Type} {f : Block → α} {index : Nat} {delta : Int64}
    (hf : ∀ b : Block, f (b.add index delta).2 = f b) (r : Registry) (id : Nat) :
    (r.add id index delta).2.blocks.map f = r.blocks.map f := by
  cases hb : r.blocks[id]? with
  | none => rw [add, hb]
  | some b =>
    rw [add_eq hb]
    exact map_set_eq_map hb (hf b)

/-- `Registry.resize` keeps whatever `f` the resize of a single block keeps, whether it succeeds or
not. -/
theorem map_blocks_resize {α : Type} {f : Block → α} {n : Nat}
    (hf : ∀ b : Block, f (b.resizedTo n) = f b) (r : Registry) :
    (r.resize n).state.blocks.map f = r.blocks.map f := by
  -- With room all blocks are resized; without, they are untouched.
  by_cases h : r.HasRoom n
  · rw [(resize_of_hasRoom h).2, resizedTo, fitted, List.map_map]
    exact List.map_congr_left fun b _ => hf b
  · obtain ⟨-, left, hleft⟩ := resize_of_not_hasRoom h
    rw [hleft]

/-- A member of `liveBlocks` is a live block at some place. -/
theorem mem_liveBlocks {r : Registry} {b : Block} :
    b ∈ r.liveBlocks ↔ ∃ k : Nat, r.blocks[k]? = some b ∧ b.live = true := by
  rw [liveBlocks, List.mem_filter, List.mem_iff_getElem?]
  exact exists_and_right.symm

/-- The representation invariant of a `Registry`: the pool and the live blocks have `size` counters,
and a block is found under its `id`. Every operation below keeps it. -/
structure WellFormed (r : Registry) : Prop where
  retired_length : r.retired.length = r.size
  id_eq : ∀ {k : Nat} {b : Block}, r.blocks[k]? = some b → b.id = k
  live_length : ∀ {k : Nat} {b : Block}, r.blocks[k]? = some b → b.live = true →
    b.values.length = r.size

namespace WellFormed

variable {r : Registry}

/-- `free` of a donor whose number is live retires that block and, if the donor is `included`, folds
its values into the pool. The special case of `free` for a registry without counters disappears, as
its pool is empty. -/
theorem free_eq (wf : r.WellFormed) {donor b : Block} (hb : r.blocks[donor.id]? = some b)
    (hlive : b.live = true) :
    r.free donor =
      { r with
        blocks := r.blocks.set donor.id { b with live := false }
        retired := if donor.included then addInto r.retired donor.values else r.retired } := by
  rw [Registry.free, isLive_eq hb, hlive, if_pos rfl]
  simp only [detach_eq hb]
  cases donor.included with
  | false => simp
  | true =>
    -- Folding into a pool without counters makes no difference to it.
    by_cases hsize : r.size = 0
    · have hnil : r.retired = [] := List.eq_nil_of_length_eq_zero (wf.retired_length.trans hsize)
      simp [hsize, hnil, addInto, combine]
    · simp [hsize]

/-- `freeOwn` of a live block is `free_eq` with the block as its own donor. -/
theorem freeOwn_eq (wf : r.WellFormed) {id : Nat} {b : Block} (hb : r.blocks[id]? = some b)
    (hlive : b.live = true) :
    r.freeOwn id =
      { r with
        blocks := r.blocks.set id { b with live := false }
        retired := if b.included then addInto r.retired b.values else r.retired } := by
  obtain rfl : b.id = id := wf.id_eq hb
  have hfree : r.freeOwn b.id = r.free b := by rw [freeOwn, hb]; rfl
  rw [hfree, wf.free_eq hb hlive]

/-- `freeOwn` of a retired block does nothing. -/
theorem freeOwn_of_not_live (wf : r.WellFormed) {id : Nat} {b : Block}
    (hb : r.blocks[id]? = some b) (hlive : b.live = false) : r.freeOwn id = r := by
  have hid : b.id = id := wf.id_eq hb
  have hfree : r.freeOwn id = r.free b := by rw [freeOwn, hb]; rfl
  rw [hfree]
  exact free_of_not_isLive (by rw [hid, isLive_eq hb, hlive])

/-- The numbers of the blocks are `0, 1, …` in order. -/
theorem map_id (wf : r.WellFormed) : r.blocks.map (·.id) = List.range r.blocks.length := by
  apply List.ext_getElem?
  intro k
  rw [List.getElem?_map]
  -- At each place both lists have the place, or end there.
  cases hb : r.blocks[k]? with
  | none =>
    rw [List.getElem?_eq_none (by simpa using List.getElem?_eq_none_iff.1 hb)]
    rfl
  | some b =>
    obtain ⟨hlt, -⟩ := List.getElem?_eq_some_iff.1 hb
    rw [List.getElem?_range hlt, Option.map_some, wf.id_eq hb]

/-- No two live blocks have the same number. -/
theorem nodup_live (wf : r.WellFormed) : (r.liveBlocks.map (·.id)).Nodup := by
  -- These are some of the numbers of all blocks, which just count up.
  have hsub : (r.liveBlocks.map (·.id)).Sublist (r.blocks.map (·.id)) :=
    List.filter_sublist.map _
  rw [wf.map_id] at hsub
  exact List.nodup_range.sublist hsub

/-- `isLive id` says that some live block has the number `id`. -/
theorem isLive_iff (wf : r.WellFormed) (id : Nat) :
    r.isLive id = true ↔ ∃ b ∈ r.liveBlocks, b.id = id := by
  constructor
  · intro h
    obtain ⟨b, hb, hlive⟩ := exists_of_isLive h
    exact ⟨b, mem_liveBlocks.2 ⟨id, hb, hlive⟩, wf.id_eq hb⟩
  · rintro ⟨b, hmem, hid⟩
    obtain ⟨k, hb, hlive⟩ := mem_liveBlocks.1 hmem
    -- A block cannot stand at a place other than its number.
    obtain rfl : k = id := (wf.id_eq hb).symm.trans hid
    rw [isLive_eq hb, hlive]

/-- `Registry.add` to a live block succeeds exactly at the counters below `size`. -/
theorem add_fst_eq_true_iff (wf : r.WellFormed) (id : Nat) (hlive : r.isLive id = true)
    (index : Nat) (delta : Int64) : (r.add id index delta).1 = true ↔ index < r.size := by
  obtain ⟨b, hb, hb'⟩ := exists_of_isLive hlive
  rw [add_eq hb, ← wf.live_length hb hb']
  exact b.add_fst_eq_true_iff index delta

/-- `WellFormed` holds of the empty registry. -/
theorem empty (size : Nat) (excludeCompiler : Bool) : (empty size excludeCompiler).WellFormed where
  retired_length := List.length_replicate
  id_eq := fun h => nomatch h
  live_length := fun h => nomatch h

/-- A block of the registry after `attach` was there before, or it is `nextBlock` at the end. -/
theorem getElem?_attach {compilerThread : Bool} {k : Nat} {b : Block}
    (h : (r.attach compilerThread).2.blocks[k]? = some b) :
    r.blocks[k]? = some b ∨ k = r.blocks.length ∧ b = r.nextBlock compilerThread := by
  simp only [attach, List.getElem?_append] at h
  -- The new block comes last, so any other place was there before.
  split at h
  · exact .inl h
  · rename_i hk
    rw [List.getElem?_singleton] at h
    split at h
    · exact .inr ⟨by omega, (Option.some.inj h).symm⟩
    · exact nomatch h

theorem attach (wf : r.WellFormed) (compilerThread : Bool) :
    (r.attach compilerThread).2.WellFormed where
  retired_length := wf.retired_length
  id_eq h := by
    rcases getElem?_attach h with h | ⟨hk, rfl⟩
    · exact wf.id_eq h
    · exact hk.symm
  live_length h hlive := by
    rcases getElem?_attach h with h | ⟨-, rfl⟩
    · exact wf.live_length h hlive
    · -- The new block was made with one value for each counter.
      exact List.length_replicate

/-- `WellFormed` is kept when a block is replaced by one with the same number that, if it is live,
has `size` counters. -/
theorem set (wf : r.WellFormed) {id : Nat} {b : Block} (hid : b.id = id)
    (hlen : b.live = true → b.values.length = r.size) :
    ({ r with blocks := r.blocks.set id b } : Registry).WellFormed where
  retired_length := wf.retired_length
  id_eq h := by
    rcases getElem?_set_eq_some h with ⟨rfl, rfl⟩ | ⟨-, h⟩
    · exact hid
    · exact wf.id_eq h
  live_length h hlive := by
    rcases getElem?_set_eq_some h with ⟨-, rfl⟩ | ⟨-, h⟩
    · exact hlen hlive
    · exact wf.live_length h hlive

theorem add (wf : r.WellFormed) (id index : Nat) (delta : Int64) :
    (r.add id index delta).2.WellFormed := by
  cases hb : r.blocks[id]? with
  | none => rw [Registry.add, hb]; exact wf
  | some b =>
    obtain ⟨hid, -, hlive, hlen⟩ := b.add_frame index delta
    rw [add_eq hb]
    -- By `add_frame` the number and the length are what they were.
    refine wf.set (hid.trans (wf.id_eq hb)) fun h => ?_
    rw [hlen]
    exact wf.live_length hb (hlive ▸ h)

/-- `WellFormed` is kept by `free`, whoever the donor is. -/
theorem free (wf : r.WellFormed) (donor : Block) : (r.free donor).WellFormed := by
  cases hlive : r.isLive donor.id with
  | false => rw [free_of_not_isLive hlive]; exact wf
  | true =>
    obtain ⟨b, hb, hb'⟩ := exists_of_isLive hlive
    have hid : b.id = donor.id := wf.id_eq hb
    -- `set` asks for the length of live blocks only, and this one is retired.
    have hset := wf.set (b := { b with live := false }) hid fun h => nomatch h
    rw [wf.free_eq hb hb']
    refine ⟨?_, hset.id_eq, hset.live_length⟩
    show (if donor.included then addInto r.retired donor.values else r.retired).length = r.size
    split
    · rw [length_addInto, wf.retired_length]
    · exact wf.retired_length

theorem freeOwn (wf : r.WellFormed) (id : Nat) : (r.freeOwn id).WellFormed := by
  rw [Registry.freeOwn]
  cases r.blocks[id]? with
  | none => exact wf
  | some b => exact wf.free b

/-- Functions agree on all blocks of a `WellFormed` registry if they agree on live blocks of length
`size` and on retired blocks. -/
theorem map_blocks_congr (wf : r.WellFormed) {f g : Block → Block}
    (hlive : ∀ b : Block, b.live = true → b.values.length = r.size → f b = g b)
    (hdead : ∀ b : Block, b.live = false → f b = g b) :
    r.blocks.map f = r.blocks.map g := by
  apply List.map_congr_left
  intro b hb
  obtain ⟨k, hk⟩ := List.getElem?_of_mem hb
  cases h : b.live with
  | true => exact hlive b h (wf.live_length hk h)
  | false => exact hdead b h

/-- `fitted` to the present `size` is the registry itself. -/
theorem fitted_size (wf : r.WellFormed) : r.fitted r.size = r := by
  have hblocks : r.blocks.map (·.resizedTo r.size) = r.blocks.map id := by
    apply wf.map_blocks_congr
    · intro b hlive hlength
      rw [Block.resizedTo_of_live hlive, resized_of_length_eq hlength, id]
    · intro b hdead
      exact Block.resizedTo_of_not_live hdead r.size
  rw [List.map_id] at hblocks
  rw [fitted, hblocks, resized_of_length_eq wf.retired_length]

theorem resizedTo (wf : r.WellFormed) (n : Nat) : (r.resizedTo n).WellFormed where
  retired_length := length_resized ..
  id_eq {k b} h := by
    -- Every block is the resized form of an old one.
    obtain ⟨old, hold, rfl⟩ := Option.map_eq_some_iff.1 (List.getElem?_map ▸ h)
    rw [(old.resizedTo_frame n).1]
    exact wf.id_eq hold
  live_length {k b} h hlive := by
    obtain ⟨old, hold, rfl⟩ := Option.map_eq_some_iff.1 (List.getElem?_map ▸ h)
    rw [(old.resizedTo_frame n).2.2] at hlive
    rw [Block.resizedTo_of_live hlive]
    exact length_resized ..

/-- `WellFormed` does not depend on the `budget`. -/
theorem withBudget (wf : r.WellFormed) (left : Option Nat) :
    ({ r with budget := left } : Registry).WellFormed :=
  ⟨wf.retired_length, wf.id_eq, wf.live_length⟩

/-- `WellFormed` is kept by `resize`, whether it succeeds or not. -/
theorem resize (wf : r.WellFormed) (n : Nat) : (r.resize n).state.WellFormed := by
  by_cases h : r.HasRoom n
  · rw [(resize_of_hasRoom h).2]
    exact wf.resizedTo n
  · obtain ⟨-, left, hleft⟩ := resize_of_not_hasRoom h
    rw [hleft]
    exact wf.withBudget left

theorem freeGlobal (wf : r.WellFormed) : r.freeGlobal.WellFormed where
  retired_length := (List.length_map ..).trans wf.retired_length
  id_eq := wf.id_eq
  live_length := wf.live_length

end WellFormed

end Registry

end CompilerLink.Counter
