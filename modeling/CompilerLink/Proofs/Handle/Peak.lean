import CompilerLink.Proofs.Handle.InUse
import CompilerLink.Proofs.Handle.SlotMap

/-! # How far a handle table grows

An allocation takes the lowest slot that is free, by `isLeast_allocate`, and adds one only where all
are taken. So a table has as many slots as it has ever had in use at a time, by `isGreatest_run`.

`outstanding` reads off a record which handles are still good, without a look at the table. They are
all different, and they are the ones in use. -/

namespace CompilerLink.HandleTable

variable {t t' : HandleTable}

/-! ### Allocations -/

/-- `allocate` takes the lowest slot that is free. -/
theorem isLeast_allocate (t : HandleTable) (m : MetadataId) :
    IsLeast {i | t.get? ⟨i⟩ = none} (t.allocate m).1.slot := by
  refine ⟨t.get?_allocate_fst m, fun i hfree => ?_⟩
  -- A slot below would be taken.
  by_contra hlt
  have htaken : ∃ hi : i < t.slots.length, t.slots[i] ≠ none := by
    rw [allocate] at hlt
    cases hfind : t.slots.findIdx? Option.isNone with
    | none =>
      have hi : i < t.slots.length := by simpa [hfind] using hlt
      have hsome := List.findIdx?_eq_none_iff.1 hfind _ (List.getElem_mem hi)
      exact ⟨hi, fun hnone => by simp [hnone] at hsome⟩
    | some j =>
      obtain ⟨hj, -, hbelow⟩ := List.findIdx?_eq_some_iff_getElem.1 hfind
      have hij : i < j := by simpa [hfind] using hlt
      exact ⟨Nat.lt_trans hij hj, by simpa using hbelow i hij⟩
  obtain ⟨hi, hsome⟩ := htaken
  have hget : (t.slots[i]?).join = none := hfree
  rw [List.getElem?_eq_getElem hi] at hget
  exact hsome hget

/-- `liveCount` is at most the number of slots. -/
theorem liveCount_le_length (t : HandleTable) : t.liveCount ≤ t.slots.length :=
  List.countP_le_length

/-- `allocate` adds one to `liveCount`. -/
theorem liveCount_allocate (t : HandleTable) (m : MetadataId) :
    (t.allocate m).2.liveCount = t.liveCount + 1 := by
  rw [allocate]
  cases hfind : t.slots.findIdx? Option.isNone with
  | none => simp [liveCount]
  | some i =>
    obtain ⟨hi, hnone, -⟩ := List.findIdx?_eq_some_iff_getElem.1 hfind
    have hempty : t.slots[i].isSome = false := by simpa using hnone
    simp [liveCount, List.countP_set hi, hempty]

/-- `allocate` adds a slot only where all are taken. -/
theorem length_allocate (t : HandleTable) (m : MetadataId) :
    (t.allocate m).2.slots.length = max (t.liveCount + 1) t.slots.length := by
  rw [allocate]
  cases hfind : t.slots.findIdx? Option.isNone with
  -- No slot is free, so all of them count.
  | none =>
    have hfull : t.liveCount = t.slots.length := by
      refine List.countP_eq_length.2 fun slot hslot => ?_
      simpa using List.findIdx?_eq_none_iff.1 hfind slot hslot
    simp [hfull]
  -- The free slot does not count, so there is room below the number of slots.
  | some i =>
    obtain ⟨hi, hnone, -⟩ := List.findIdx?_eq_some_iff_getElem.1 hfind
    have hroom : t.liveCount < t.slots.length := by
      refine Nat.lt_of_le_of_ne t.liveCount_le_length fun hfull => ?_
      have hsome := List.countP_eq_length.1 hfull _ (List.getElem_mem hi)
      simp [Option.isNone_iff_eq_none.1 hnone] at hsome
    show (t.slots.set i (some m)).length = _
    rw [List.length_set]
    omega

/-! ### Slots that are cleared -/

/-- How many of the slots `inUse` in `t` are free in `t'`. -/
def cleared (t t' : HandleTable) : Nat := t.inUse.countP fun h => (t'.get? h).isNone

/-- There are as many handles `inUse` as `liveCount` says. -/
theorem length_inUse (t : HandleTable) : t.inUse.length = t.liveCount := by
  have hlength := congrArg List.length t.map_get?_inUse
  rwa [List.length_map, List.length_map, length_live] at hlength

/-- What only clears slots lowers `liveCount` by as many as are `cleared`. -/
theorem liveCount_add_cleared (hclears : ∀ h, t'.get? h = none ∨ t'.get? h = t.get? h) :
    t'.liveCount + cleared t t' = t.liveCount := by
  -- What is in use afterwards is the part of `t.inUse` that was not cleared.
  have hkept : t'.inUse.Perm (t.inUse.filter fun h => (t'.get? h).isSome) := by
    rw [List.perm_ext_iff_of_nodup t'.nodup_inUse (t.nodup_inUse.filter _)]
    intro h
    rw [List.mem_filter, mem_inUse, mem_inUse]
    rcases hclears h with hnone | hsame
    · simp [hnone]
    · simp [hsame]
  have hparts := List.length_eq_countP_add_countP (fun h => (t'.get? h).isSome) (l := t.inUse)
  rw [← length_inUse, hkept.length_eq, ← List.countP_eq_length_filter, ← length_inUse, hparts,
    cleared]
  congr 1
  refine List.countP_congr fun h _ => ?_
  simp

/-- `release` lowers `liveCount` by what is `cleared`. -/
theorem liveCount_release (t : HandleTable) (h : Handle) :
    (t.release h).liveCount + cleared t (t.release h) = t.liveCount := by
  apply liveCount_add_cleared
  intro h'
  rw [get?_release]
  by_cases hh : h' = h
  · exact .inl (if_pos hh)
  · exact .inr (if_neg hh)

/-- `sweep` lowers `liveCount` by what is `cleared`. -/
theorem liveCount_sweep (t : HandleTable) (catalog : Catalog) :
    (t.sweep catalog).state.liveCount + cleared t (t.sweep catalog).state = t.liveCount := by
  apply liveCount_add_cleared
  intro h
  rw [get?_sweep]
  cases t.get? h with
  | none => exact .inl rfl
  | some m =>
    -- A handle of unloaded metadata is cleared, and any other leads where it led.
    cases hm : catalog.isUnloaded m with
    | true => exact .inl (by simp [Option.filter, hm])
    | false => exact .inr (by simp [Option.filter, hm])

/-- As many slots are `isStale` as a `sweep` has `cleared`. -/
theorem countP_isStale (t : HandleTable) (catalog : Catalog) :
    t.slots.countP (isStale catalog) = cleared t (t.sweep catalog).state := by
  have hstale : t.slots.countP (isStale catalog) = t.live.countP catalog.isUnloaded := by
    rw [live, List.countP_filterMap]
    refine List.countP_congr fun slot _ => ?_
    cases slot <;> simp [isStale]
  have hstay : (t.sweep catalog).state.liveCount =
      t.live.countP fun m => !catalog.isUnloaded m := by
    rw [← length_live, live_sweep, List.countP_eq_length_filter]
  -- What is live is unloaded or not, and the sweep keeps what is not.
  have hparts : t.liveCount =
      t.live.countP catalog.isUnloaded + t.live.countP fun m => !catalog.isUnloaded m := by
    rw [← length_live, List.length_eq_countP_add_countP catalog.isUnloaded]
    simp
  have hall := t.liveCount_sweep catalog
  omega

/-- `sweep` reports how many slots it has `cleared`. -/
theorem emitted_sweep (t : HandleTable) (catalog : Catalog) :
    (t.sweep catalog).emitted =
      [.remark {
        severity := .debug
        component := .endpoint
        message := "Cleared unloaded metadata handles"
        fields := [("cleared", .number (cleared t (t.sweep catalog).state))] }] := by
  rw [← countP_isStale]
  rfl

namespace Session

variable {s : Session}

/-! ### One operation -/

/-- An operation other than `allocate` lowers `liveCount` by what is `cleared`. -/
theorem liveCount_perform {op : Operation} (hop : ∀ m, op ≠ .allocate m) (s : Session) :
    (s.perform op).table.liveCount + cleared s.table (s.perform op).table =
      s.table.liveCount := by
  -- Where the table does not change, nothing is cleared.
  have hsame : s.table.liveCount + cleared s.table s.table = s.table.liveCount :=
    liveCount_add_cleared fun h => .inr rfl
  cases op with
  | make name => exact hsame
  | unload m =>
    rw [perform]
    split <;> exact hsame
  | allocate m => exact absurd rfl (hop m)
  | release h => exact s.table.liveCount_release h
  | get h => exact hsame
  | sweep => exact s.table.liveCount_sweep s.catalog

/-- `perform` adds slots only for more use than ever before. -/
theorem length_perform (s : Session) (op : Operation) :
    (s.perform op).table.slots.length =
      max (s.perform op).table.liveCount s.table.slots.length := by
  -- A table that does not change has its own number of slots, which is at least what it has live.
  have hsame := (Nat.max_eq_right s.table.liveCount_le_length).symm
  cases op with
  | make name => exact hsame
  | unload m =>
    rw [perform]
    split <;> exact hsame
  | allocate m =>
    rw [perform]
    split
    · show (s.table.allocate m).2.slots.length =
        max (s.table.allocate m).2.liveCount s.table.slots.length
      rw [length_allocate, liveCount_allocate]
    · exact hsame
  | release h =>
    have hlength : (s.table.release h).slots.length = s.table.slots.length := List.length_set
    have hle := (s.table.release h).liveCount_le_length
    show (s.table.release h).slots.length = max (s.table.release h).liveCount _
    omega
  | get h => exact hsame
  | sweep =>
    have hlength : (s.table.sweep s.catalog).state.slots.length = s.table.slots.length :=
      List.length_map _
    have hle := (s.table.sweep s.catalog).state.liveCount_le_length
    show (s.table.sweep s.catalog).state.slots.length =
      max (s.table.sweep s.catalog).state.liveCount _
    omega

/-! ### The most that was ever in use -/

/-- The values of `liveCount` at the times of a run. -/
def liveCounts (ops : List Operation) : Set Nat :=
  {n | ∃ earlier, earlier <+: ops ∧ (run {} earlier).table.liveCount = n}

/-- `run` with one operation more is one `perform` more. -/
theorem run_concat (s : Session) (ops : List Operation) (op : Operation) :
    s.run (ops ++ [op]) = (s.run ops).perform op := by
  rw [run, List.foldl_append]
  rfl

/-- One operation more adds one value to `liveCounts`. -/
theorem liveCounts_concat (ops : List Operation) (op : Operation) :
    liveCounts (ops ++ [op]) =
      insert ((run {} ops).perform op).table.liveCount (liveCounts ops) := by
  ext n
  simp only [liveCounts, Set.mem_ofPred_eq, Set.mem_insert_iff, List.prefix_concat_iff]
  -- The new time is the last one, or it is a time of the run before.
  constructor
  · rintro ⟨earlier, rfl | hearlier, rfl⟩
    · rw [run_concat]
      exact .inl rfl
    · exact .inr ⟨earlier, hearlier, rfl⟩
  · rintro (rfl | ⟨earlier, hearlier, rfl⟩)
    · exact ⟨ops ++ [op], .inl rfl, by rw [run_concat]⟩
    · exact ⟨earlier, .inr hearlier, rfl⟩

/-- A table has as many slots as the greatest of its `liveCounts`. -/
theorem isGreatest_run (ops : List Operation) :
    IsGreatest (liveCounts ops) (run {} ops).table.slots.length := by
  induction ops using List.reverseRecOn with
  | nil =>
    refine ⟨⟨[], List.prefix_rfl, rfl⟩, ?_⟩
    rintro n ⟨earlier, hearlier, rfl⟩
    rw [List.prefix_nil.1 hearlier]
    exact Nat.le_refl _
  | append_singleton ops op ih =>
    -- The new length is the maximum of the old one and the value that is added.
    rw [liveCounts_concat, run_concat, length_perform]
    exact ih.insert _

/-! ### Handles that are still good -/

deriving instance DecidableEq for Entry

/-- The handles that have been given out and not been released, nor lost to a sweep after their
metadata was unloaded, as the record has it. -/
def outstanding : List Entry → List (Handle × MetadataId)
  | [] => []
  | .allocated m h :: earlier => (h, m) :: outstanding earlier
  | .released h :: earlier => (outstanding earlier).filter fun given => given.1 ≠ h
  | .swept :: earlier => (outstanding earlier).filter fun given => .unloaded given.2 ∉ earlier
  | .made _ :: earlier => outstanding earlier
  | .unloaded _ :: earlier => outstanding earlier
  | .got _ _ :: earlier => outstanding earlier

/-- The handles that are `outstanding` are those that the table knows. -/
structure Accounted (s : Session) : Prop where
  recorded : s.Recorded
  mem_iff : ∀ h m, (h, m) ∈ outstanding s.record ↔ s.table.get? h = some m
  nodup : ((outstanding s.record).map Prod.fst).Nodup
  /-- No handle was given out beyond the slots. -/
  issued_lt : ∀ m h, .allocated m h ∈ s.record → h.slot < s.table.slots.length

namespace Accounted

variable {s : Session}

/-- `Accounted` holds at the start, where no handle has been given out. -/
theorem start : ({} : Session).Accounted where
  recorded := .start
  mem_iff h m := by
    constructor
    · intro hmem
      exact absurd hmem List.not_mem_nil
    · intro hget
      cases hget
  nodup := .nil
  issued_lt m h hmem := absurd hmem List.not_mem_nil

/-- `Accounted` is preserved by an operation that gives no handle out and filters those that are
`outstanding` by `P`. -/
theorem thin (hs : s.Accounted) {s' : Session} (hrecorded : s'.Recorded)
    {P : Handle × MetadataId → Bool}
    (houtstanding : outstanding s'.record = (outstanding s.record).filter P)
    (hget : ∀ h m, s'.table.get? h = some m ↔ s.table.get? h = some m ∧ P (h, m) = true)
    (hissued : ∀ m h, .allocated m h ∈ s'.record → .allocated m h ∈ s.record)
    (hlength : s.table.slots.length ≤ s'.table.slots.length) : s'.Accounted where
  recorded := hrecorded
  mem_iff h m := by rw [houtstanding, List.mem_filter, hs.mem_iff, hget]
  nodup := by
    rw [houtstanding]
    exact hs.nodup.sublist (List.filter_sublist.map _)
  issued_lt m h hmem := Nat.lt_of_lt_of_le (hs.issued_lt m h (hissued m h hmem)) hlength

/-- `Accounted` is preserved by an entry that leaves the table and what is `outstanding`. -/
theorem note (hs : s.Accounted) {s' : Session} (hrecorded : s'.Recorded)
    (htable : s'.table = s.table) (houtstanding : outstanding s'.record = outstanding s.record)
    (hissued : ∀ m h, .allocated m h ∈ s'.record → .allocated m h ∈ s.record) :
    s'.Accounted := by
  refine hs.thin hrecorded (P := fun _ => true) ?_ (fun h m => ?_) hissued ?_
  · rw [houtstanding, List.filter_true]
  · rw [htable, and_iff_left rfl]
  · rw [htable]

/-- `Accounted` is preserved by `allocate`, whose handle is none of those that are `outstanding`. -/
theorem allocate (hs : s.Accounted) (m : MetadataId) :
    ({ s with
        table := (s.table.allocate m).2
        record := .allocated m (s.table.allocate m).1 :: s.record } : Session).Accounted where
  recorded := hs.recorded.allocate m
  mem_iff h n := by
    rw [outstanding, List.mem_cons, hs.mem_iff, get?_allocate]
    by_cases hh : h = (s.table.allocate m).1
    · subst hh
      rw [get?_allocate_fst]
      simp [eq_comm]
    · simp [hh]
  nodup := by
    rw [outstanding, List.map_cons, List.nodup_cons]
    -- The new handle led nowhere, so it was not outstanding.
    refine ⟨fun hmem => ?_, hs.nodup⟩
    obtain ⟨⟨h, n⟩, hgood, hh⟩ := List.mem_map.1 hmem
    have hfirst : h = (s.table.allocate m).1 := hh
    rw [hs.mem_iff, hfirst, get?_allocate_fst] at hgood
    exact nomatch hgood
  issued_lt n h hmem := by
    rcases List.mem_cons.1 hmem with hnew | hold
    · obtain ⟨rfl, rfl⟩ := Entry.allocated.inj hnew
      -- A handle beyond the slots would lead nowhere, and the new one leads to `m`.
      by_contra hge
      have hnone := get?_of_length_le (Nat.not_lt.1 hge)
      rw [get?_allocate, if_pos rfl] at hnone
      exact nomatch hnone
    · have hlt := hs.issued_lt n h hold
      show h.slot < (s.table.allocate m).2.slots.length
      rw [length_allocate]
      omega

/-- `Accounted` is preserved by `release`, which filters by the handle. -/
theorem release (hs : s.Accounted) (h : Handle) :
    ({ s with table := s.table.release h, record := .released h :: s.record } :
      Session).Accounted := by
  refine hs.thin (hs.recorded.release h) rfl (fun h' m => ?_) (fun m h' hmem => ?_) ?_
  · rw [get?_release]
    by_cases hh : h' = h
    · simp [hh]
    · simp [hh]
  · simpa using hmem
  · exact Nat.le_of_eq List.length_set.symm

/-- `Accounted` is preserved by `sweep`, which filters by what the record has as unloaded. -/
theorem sweep (hs : s.Accounted) :
    ({ s with table := (s.table.sweep s.catalog).state, record := .swept :: s.record } :
      Session).Accounted := by
  refine hs.thin hs.recorded.sweep rfl (fun h m => ?_) (fun m h hmem => ?_) ?_
  · have hmark : s.catalog.isUnloaded m = false ↔ .unloaded m ∉ s.record := by
      rw [← hs.recorded.isUnloaded_iff, Bool.not_eq_true]
    rw [get?_sweep, Option.filter_eq_some_iff, Bool.not_eq_true', hmark, decide_eq_true_iff]
  · simpa using hmem
  · exact Nat.le_of_eq (List.length_map _).symm

/-- `Accounted` is preserved by every operation. -/
theorem perform (hs : s.Accounted) (op : Operation) : (s.perform op).Accounted := by
  have hrecorded := hs.recorded.perform op
  -- Only three operations write slots; the others leave what is outstanding.
  cases op with
  | make name =>
    exact hs.note hrecorded rfl rfl fun m h hmem => by simpa [Session.perform] using hmem
  | unload n =>
    rw [Session.perform] at hrecorded ⊢
    split at hrecorded
    · rename_i hn
      rw [if_pos hn]
      exact hs.note hrecorded rfl rfl fun m h hmem => by simpa using hmem
    · rename_i hn
      rwa [if_neg hn]
  | allocate m =>
    rw [Session.perform]
    split
    · exact hs.allocate m
    · exact hs
  | release h => exact hs.release h
  | get h =>
    exact hs.note hrecorded rfl rfl fun m h hmem => by simpa [Session.perform] using hmem
  | sweep => exact hs.sweep

theorem run (hs : s.Accounted) (ops : List Operation) : (s.run ops).Accounted :=
  run_induction (fun _ op hs => hs.perform op) ops s hs

/-- As many handles are `outstanding` as `liveCount` says. -/
theorem length_outstanding (hs : s.Accounted) :
    (outstanding s.record).length = s.table.liveCount := by
  -- Both lists are without duplicates and have the same members.
  have hsame : ((outstanding s.record).map Prod.fst).Perm s.table.inUse := by
    rw [List.perm_ext_iff_of_nodup hs.nodup s.table.nodup_inUse]
    intro h
    rw [mem_inUse, Option.isSome_iff_exists, List.mem_map]
    constructor
    · rintro ⟨⟨h, m⟩, hgood, rfl⟩
      exact ⟨m, (hs.mem_iff h m).1 hgood⟩
    · rintro ⟨m, hget⟩
      exact ⟨(h, m), (hs.mem_iff h m).2 hget, rfl⟩
  rw [← length_inUse, ← hsame.length_eq, List.length_map]

end Accounted

/-! ### Every run -/

/-- What is known of a table after some operations, besides what its handles lead to. -/
structure LeastFree (ops : List Operation) (s : Session) : Prop where
  /-- `allocate` takes the lowest slot that is not in use. -/
  isLeast : ∀ m, IsLeast {i | s.table.get? ⟨i⟩ = none} (s.table.allocate m).1.slot
  /-- The handles that are `outstanding` at the same time are all different. -/
  nodup : ((outstanding s.record).map Prod.fst).Nodup
  /-- They are the handles in use, and lead to what they were given out for. -/
  outstanding_iff : ∀ h m, (h, m) ∈ outstanding s.record ↔ s.table.get? h = some m
  /-- There are `liveCount` of them. -/
  length_outstanding : (outstanding s.record).length = s.table.liveCount
  /-- There are as many slots as were in use when most were. -/
  isGreatest : IsGreatest (liveCounts ops) s.table.slots.length
  /-- No handle was ever given out beyond that. -/
  issued_lt : ∀ m h peak, .allocated m h ∈ s.record → IsGreatest (liveCounts ops) peak →
    h.slot < peak
  /-- `allocate` takes one slot more into use. -/
  allocate_grows : ∀ m, (s.table.allocate m).2.liveCount = s.table.liveCount + 1
  /-- Everything else takes as many out of use as are `cleared`. -/
  others_shrink : ∀ op, (∀ m, op ≠ .allocate m) →
    (s.perform op).table.liveCount + cleared s.table (s.perform op).table = s.table.liveCount
  /-- `sweep` reports how many it has `cleared`. -/
  sweep_reports : (s.table.sweep s.catalog).emitted =
    [.remark {
      severity := .debug
      component := .endpoint
      message := "Cleared unloaded metadata handles"
      fields := [("cleared", .number (cleared s.table (s.table.sweep s.catalog).state))] }]

/-- `LeastFree` holds in every state that a table can reach. -/
theorem leastFree_of_run (ops : List Operation) : LeastFree ops (run {} ops) := by
  have hs : (run {} ops).Accounted := Accounted.start.run ops
  have hpeak := isGreatest_run ops
  constructor
  · exact (run {} ops).table.isLeast_allocate
  · exact hs.nodup
  · exact hs.mem_iff
  · exact hs.length_outstanding
  · exact hpeak
  · intro m h peak hissued hgreatest
    -- There is one greatest value, so the bound is on the number of slots.
    rw [hgreatest.unique hpeak]
    exact hs.issued_lt m h hissued
  · exact (run {} ops).table.liveCount_allocate
  · intro op hop
    exact liveCount_perform hop _
  · exact (run {} ops).table.emitted_sweep _

end Session

end CompilerLink.HandleTable
