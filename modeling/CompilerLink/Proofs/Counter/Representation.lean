import CompilerLink.Proofs.Counter.Blocks

/-! # The representation of a registry

A registry stores the length of its counters three times over, in `size`, in the pool and in every
live block, and it stores which blocks are live in the blocks themselves. Both stay consistent in
every run, whoever pauses the threads:

* the lengths, numbers and places agree (`Session.Sound.wf`);
* the `liveness` of the blocks is what the record of the run says (`Roll`): a block is live from its
  attachment to its first retirement, and never again. -/

namespace CompilerLink.Counter

/-! ### Liveness -/

namespace Registry

/-- The `live` flag of each block, in the order of their numbers. -/
def liveness (r : Registry) : List Bool := r.blocks.map (·.live)

/-- `liveness` has one flag per block. -/
@[simp] theorem length_liveness (r : Registry) : r.liveness.length = r.blocks.length :=
  List.length_map ..

/-- `liveCount` counts the flags that are set. -/
theorem liveCount_eq_count (r : Registry) : r.liveCount = r.liveness.count true := by
  rw [liveCount, liveBlocks, liveness, List.count, List.countP_map, List.countP_eq_length_filter]
  congr 1
  apply List.filter_congr
  intro b _
  simp

/-- `isLive k` says that flag `k` is set. -/
theorem isLive_eq_true_iff (r : Registry) (k : Nat) :
    r.isLive k = true ↔ r.liveness[k]? = some true := by
  rw [isLive, liveness, List.getElem?_map]
  cases r.blocks[k]? <;> simp

/-- `attach` adds one flag, which is set. -/
theorem liveness_attach (r : Registry) (compilerThread : Bool) :
    (r.attach compilerThread).2.liveness = r.liveness ++ [true] := by
  rw [liveness, attach, List.map_append]
  rfl

theorem liveness_add (r : Registry) (id index : Nat) (delta : Int64) :
    (r.add id index delta).2.liveness = r.liveness :=
  map_blocks_add (fun b => (b.add_frame index delta).2.2.1) r id

/-- `free donor` clears the flag with the number of the donor, which may be clear already or not
there. -/
theorem liveness_free (r : Registry) (donor : Block) :
    (r.free donor).liveness = r.liveness.set donor.id false := by
  -- No such block, a live one, or one that was retired before.
  cases hb : r.blocks[donor.id]? with
  | none =>
    have hlive : r.isLive donor.id = false := by rw [isLive, hb]; rfl
    have hlen : r.liveness.length ≤ donor.id := by
      rw [length_liveness]
      exact List.getElem?_eq_none_iff.1 hb
    rw [free_of_not_isLive hlive, List.set_eq_of_length_le hlen]
  | some b =>
    cases hlive : b.live with
    | true =>
      have hdetach : (r.free donor).blocks = r.blocks.set donor.id { b with live := false } := by
        rw [free, isLive_eq hb, hlive, if_pos rfl, detach_eq hb]
        dsimp only
        split <;> rfl
      rw [liveness, hdetach, List.map_set, liveness]
    | false =>
      have hsame := map_set_eq_map (f := Block.live) hb rfl
      rw [free_of_not_isLive ((isLive_eq hb).trans hlive), liveness, ← hlive, ← List.map_set, hsame]

/-- `freeOwn id` clears flag `id`. -/
theorem liveness_freeOwn {r : Registry} (wf : r.WellFormed) (id : Nat) :
    (r.freeOwn id).liveness = r.liveness.set id false := by
  rw [freeOwn]
  cases hb : r.blocks[id]? with
  | none =>
    -- There is no such flag, so setting it changes nothing.
    have hlen : r.liveness.length ≤ id := by
      rw [length_liveness]
      exact List.getElem?_eq_none_iff.1 hb
    exact (List.set_eq_of_length_le hlen).symm
  | some b =>
    obtain rfl : b.id = id := wf.id_eq hb
    exact r.liveness_free b

theorem liveness_resize (r : Registry) (n : Nat) : (r.resize n).state.liveness = r.liveness :=
  map_blocks_resize (fun b => (b.resizedTo_frame n).2.2) r

/-- `resizeAll` leaves `liveness`, whoever pauses. -/
theorem liveness_resizeAll (r : Registry) (pause : Pause) (n : Nat) :
    (r.resizeAll pause n).state.2.liveness = r.liveness :=
  resizeAll_induction (P := fun r' => r'.liveness = r.liveness) n
    (fun r' h => (liveness_resize r' n).trans h) pause r rfl

end Registry

/-! ### What the record says -/

/-- The number of `attached` entries. -/
def attachments (record : List Entry) : Nat := record.countP fun
  | .attached _ _ => true
  | _ => false

/-- The numbers in the `freed` entries, one for every try. -/
def freedIds (record : List Entry) : List Nat := record.filterMap fun
  | .freed id => some id
  | _ => none

/-- `freedIds` has a number exactly if there is a `freed` entry for it. -/
theorem mem_freedIds {record : List Entry} {id : Nat} :
    id ∈ freedIds record ↔ .freed id ∈ record := by
  rw [freedIds, List.mem_filterMap]
  constructor
  · rintro ⟨e, he, h⟩
    cases e <;> simp only [reduceCtorEq, Option.some.injEq] at h
    exact h ▸ he
  · intro h
    exact ⟨_, h, rfl⟩

/-- The flags that the record calls for: one per attachment, and set as long as there is no `freed`
entry. -/
structure Roll (flags : List Bool) (record : List Entry) : Prop where
  length_eq : flags.length = attachments record
  live_iff : ∀ k, flags[k]? = some true ↔ k < flags.length ∧ .freed k ∉ record
  freed_lt : ∀ k, .freed k ∈ record → k < flags.length
  /-- A block that was freed twice is counted once, hence `dedup`. -/
  count_eq : flags.count true + (freedIds record).dedup.length = attachments record

namespace Roll

variable {flags : List Bool} {record : List Entry}

/-- `Roll` holds at the beginning. -/
theorem nil : Roll [] [] where
  length_eq := rfl
  live_iff k := by simp
  freed_lt k h := absurd h List.not_mem_nil
  count_eq := rfl

/-- `Roll` is kept by an attachment, with one more flag. -/
theorem attached (roll : Roll flags record) (id : Nat) (compilerThread : Bool) :
    Roll (flags ++ [true]) (.attached id compilerThread :: record) where
  length_eq := by
    rw [List.length_append, roll.length_eq, attachments, attachments,
      List.countP_cons_of_pos rfl]
    rfl
  live_iff k := by
    simp only [List.mem_cons, reduceCtorEq, false_or, List.length_append, List.length_singleton]
    -- An old block, the new one, or none.
    rcases Nat.lt_trichotomy k flags.length with hk | rfl | hk
    · rw [List.getElem?_append_left hk, roll.live_iff]
      exact and_congr_left fun _ => iff_of_true hk (by omega)
    · rw [List.getElem?_concat_length]
      exact iff_of_true rfl ⟨by omega, fun h => absurd (roll.freed_lt _ h) (by omega)⟩
    · have hnone : (flags ++ [true])[k]? = none := List.getElem?_eq_none (by simp; omega)
      rw [hnone]
      exact iff_of_false (fun h => nomatch h) fun h => absurd h.1 (by omega)
  freed_lt k h := by
    have hk := roll.freed_lt k (by simpa using h)
    rw [List.length_append]
    omega
  count_eq := by
    have hcount := roll.count_eq
    have hids : freedIds (.attached id compilerThread :: record) = freedIds record := rfl
    rw [hids, List.count_append, List.count_singleton_self, attachments,
      List.countP_cons_of_pos rfl, ← attachments]
    omega

/-- `Roll` is kept by a retirement of any attached block, also a second one. -/
theorem freed (roll : Roll flags record) {id : Nat} (hid : id < flags.length) :
    Roll (flags.set id false) (.freed id :: record) where
  length_eq := (List.length_set ..).trans roll.length_eq
  live_iff k := by
    rw [List.getElem?_set, List.length_set, List.mem_cons, Entry.freed.injEq]
    -- Flag `id` is cleared and the entry is about it; about other flags the entry says nothing.
    by_cases hk : id = k
    · rw [if_pos hk, if_pos hid]
      exact iff_of_false (fun h => nomatch h) fun h => h.2 (.inl hk.symm)
    · rw [if_neg hk, roll.live_iff]
      exact and_congr_right fun _ => not_congr ⟨.inr, fun h => h.resolve_left (Ne.symm hk)⟩
  freed_lt k h := by
    rw [List.length_set]
    rcases List.mem_cons.1 h with h | h
    · rw [Entry.freed.injEq] at h
      exact h ▸ hid
    · exact roll.freed_lt k h
  count_eq := by
    have hcount := roll.count_eq
    have hsame : attachments (.freed id :: record) = attachments record := rfl
    have hids : freedIds (.freed id :: record) = id :: freedIds record := rfl
    rw [hsame, hids]
    -- Only the first retirement of a block changes the two counts.
    by_cases hlive : flags[id] = true
    · -- The flag was set, so the number is new in `freedIds`.
      have hnew : id ∉ freedIds record := fun h =>
        ((roll.live_iff id).1 (List.getElem?_eq_some_iff.2 ⟨hid, hlive⟩)).2 (mem_freedIds.1 h)
      have hpos : 0 < flags.count true :=
        List.count_pos_iff.2 (hlive ▸ List.getElem_mem hid)
      rw [List.dedup_cons_of_notMem hnew, List.length_cons, List.count_set hid, hlive]
      simp only [beq_self_eq_true, if_true, Bool.false_eq_true, beq_iff_eq, if_false]
      omega
    · -- The flag was clear, so by `live_iff` the number is in `freedIds` already.
      have hfalse : flags[id] = false := by simpa using hlive
      have hold : id ∈ freedIds record := by
        rw [mem_freedIds]
        by_contra hnot
        have hsome := (roll.live_iff id).2 ⟨hid, hnot⟩
        rw [List.getElem?_eq_getElem hid, hfalse] at hsome
        exact nomatch hsome
      rw [List.dedup_cons_of_mem hold, ← hfalse, List.set_getElem_self]
      exact hcount

/-- `Roll` is kept by all entries but `attached` and `freed`. -/
theorem cons (roll : Roll flags record) {e : Entry} (hattached : attachments [e] = 0)
    (hfreed : freedIds [e] = []) : Roll flags (e :: record) := by
  have hcount : attachments (e :: record) = attachments record := by
    rw [← List.singleton_append, attachments, List.countP_append, ← attachments, hattached,
      Nat.zero_add, attachments]
  have hids : freedIds (e :: record) = freedIds record := by
    rw [← List.singleton_append, freedIds, List.filterMap_append, ← freedIds, hfreed]
    rfl
  -- Neither the attachments nor the freed numbers change, so each field can be rewritten to what it
  -- was.
  have hmem : ∀ k, .freed k ∈ e :: record ↔ .freed k ∈ record := fun k => by
    rw [← mem_freedIds, hids, mem_freedIds]
  refine ⟨by rw [hcount, roll.length_eq], fun k => ?_, fun k h => ?_, ?_⟩
  · rw [hmem, roll.live_iff]
  · exact roll.freed_lt k ((hmem k).1 h)
  · rw [hcount, hids, roll.count_eq]

end Roll

/-! ### Every run -/

namespace Session

/-- The invariant of a run: `WellFormed`, and the `liveness` that the record calls for. -/
structure Sound (s : Session) : Prop where
  wf : s.registry.WellFormed
  roll : Roll s.registry.liveness s.record

namespace Sound

/-- `Sound` holds of a registry that was just created. -/
theorem start {size : Nat} {excludeCompiler : Bool} {r : Registry}
    (hr : Registry.create size excludeCompiler = .ok r) (pause : Pause) :
    (Session.start pause r).Sound := by
  rw [Registry.create] at hr
  split at hr
  · cases hr
    exact ⟨.empty size excludeCompiler, .nil⟩
  · exact nomatch hr

/-- `Sound` is kept by `perform`, for every kind of `Operation`. -/
theorem perform {s : Session} (h : s.Sound) (op : Operation) : (s.perform op).Sound := by
  obtain ⟨wf, roll⟩ := h
  cases op with
  | attach compilerThread =>
    exact ⟨wf.attach compilerThread,
      Registry.liveness_attach s.registry compilerThread ▸ roll.attached _ _⟩
  | add id index delta =>
    rw [Session.perform]
    split
    · refine ⟨wf.add id index delta, ?_⟩
      -- Additions leave `liveness`, and their entries say nothing about it.
      show Roll (s.registry.add id index delta).2.liveness _
      rw [Registry.liveness_add]
      exact roll.cons rfl rfl
    · exact ⟨wf, roll⟩
  | free id =>
    rw [Session.perform]
    split
    · rename_i hid
      refine ⟨wf.freeOwn id, ?_⟩
      -- The flag is cleared as the entry says.
      show Roll (s.registry.freeOwn id).liveness _
      rw [Registry.liveness_freeOwn wf]
      exact roll.freed (by rw [Registry.length_liveness]; exact hid)
    · exact ⟨wf, roll⟩
  | resize n =>
    refine ⟨Registry.resizeAll_induction n (fun _ wf => wf.resize n) s.pause s.registry wf, ?_⟩
    show Roll (s.registry.resizeAll s.pause n).state.2.liveness _
    rw [Registry.liveness_resizeAll]
    exact roll.cons rfl rfl
  | forget => exact ⟨wf.freeGlobal, roll.cons rfl rfl⟩
  | collect buffer => exact ⟨wf, roll.cons rfl rfl⟩
  | limit allowed =>
    exact ⟨wf.withBudget allowed, roll.cons rfl rfl⟩

theorem run {s : Session} (h : s.Sound) (ops : List Operation) : (s.run ops).Sound :=
  run_induction (fun _ op h => h.perform op) ops s h

/-- `isLive` is false of a number with a `freed` entry. -/
theorem isLive_eq_false {s : Session} (h : s.Sound) {id : Nat} (hid : .freed id ∈ s.record) :
    s.registry.isLive id = false := by
  rw [← Bool.not_eq_true, Registry.isLive_eq_true_iff, h.roll.live_iff]
  exact fun hlive => hlive.2 hid

end Sound

/-- What `Sound` comes to for those who use a registry: size, pool, blocks and record agree with one
another. -/
structure Consistent (s : Session) : Prop where
  retired_length : s.registry.retired.length = s.registry.size
  /-- Live blocks are as long as the pool, whether they are included or not. -/
  live_length : ∀ b ∈ s.registry.liveBlocks, b.values.length = s.registry.size
  /-- A block stands at the place of its `id`. -/
  id_eq_key : ∀ (k : Nat) (b : Block), s.registry.blocks[k]? = some b → b.id = k
  isLive_iff : ∀ id, s.registry.isLive id = true ↔ ∃ b ∈ s.registry.liveBlocks, b.id = id
  live_nodup : (s.registry.liveBlocks.map (·.id)).Nodup
  /-- Numbers stay below the `id` that `attach` gives to the next block. -/
  id_lt_next : ∀ b ∈ s.registry.blocks, ∀ compilerThread,
    b.id < (s.registry.attach compilerThread).1.id
  /-- `isLive` is false of a freed block, now and after every run. -/
  freed_for_good : ∀ id, .freed id ∈ s.record → ∀ later, (s.run later).registry.isLive id = false
  freed_le_attached : (freedIds s.record).dedup.length ≤ attachments s.record
  liveCount_eq :
    s.registry.liveCount = attachments s.record - (freedIds s.record).dedup.length
  /-- `add` to a live block succeeds exactly below `size`. -/
  add_iff : ∀ id, s.registry.isLive id = true → ∀ index delta,
    (s.registry.add id index delta).1 = true ↔ index < s.registry.size
  /-- `add` changes nothing if it fails. -/
  add_rejected : ∀ id index delta, (s.registry.add id index delta).1 = false →
    (s.registry.add id index delta).2 = s.registry

/-- A registry is `Consistent` in every state that it can reach, whoever pauses and whatever the
budget is. -/
theorem consistent_of_run {size : Nat} {excludeCompiler : Bool} {r : Registry}
    (hr : Registry.create size excludeCompiler = .ok r) (pause : Pause) (ops : List Operation) :
    ((Session.start pause r).run ops).Consistent := by
  have sound := (Sound.start hr pause).run ops
  generalize (Session.start pause r).run ops = s at sound
  have wf := sound.wf
  -- `freed_le_attached` and `liveCount_eq` are both read off this balance.
  have hcount : s.registry.liveCount + (freedIds s.record).dedup.length =
      attachments s.record := by
    rw [Registry.liveCount_eq_count]
    exact sound.roll.count_eq
  exact
    { retired_length := wf.retired_length
      live_length := fun b hb => by
        obtain ⟨k, hk, hlive⟩ := Registry.mem_liveBlocks.1 hb
        exact wf.live_length hk hlive
      id_eq_key := fun k b hk => wf.id_eq hk
      isLive_iff := wf.isLive_iff
      live_nodup := wf.nodup_live
      id_lt_next := fun b hb _ => by
        obtain ⟨k, hk⟩ := List.getElem?_of_mem hb
        obtain ⟨hlt, -⟩ := List.getElem?_eq_some_iff.1 hk
        exact (wf.id_eq hk).trans_lt hlt
      freed_for_good := fun id hid later =>
        (sound.run later).isLive_eq_false (mem_record_run later hid)
      freed_le_attached := by omega
      liveCount_eq := by omega
      add_iff := wf.add_fst_eq_true_iff
      add_rejected := fun id index delta => Registry.add_snd_of_rejected }

/-- `Consistent` after a run with two threads, one of them freed twice, in which one resize succeeds
and one fails. -/
theorem consistent_of_short_run :
    Registry.create 2 true = .ok (Registry.empty 2 true) ∧
      ((Session.start {} (Registry.empty 2 true)).run
        [.attach false, .attach true, .add 0 1 5, .add 0 2 7, .free 0, .resize 3, .free 0,
          .limit (some 1), .resize 9, .add 1 2 4]).Consistent :=
  ⟨rfl, consistent_of_run (rfl : Registry.create 2 true = _) _ _⟩

end Session

end CompilerLink.Counter
