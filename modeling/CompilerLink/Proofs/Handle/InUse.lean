import CompilerLink.Proofs.Handle.Slots

/-! # The handles in use

`HandleTable.inUse` lists the handles that lead somewhere, in slot order. A walk of the table is the
list of what they lead to, by `map_get?_inUse`. A sweep takes out of the walk what is unloaded and
leaves the rest in order, by `live_sweep`; when there is nothing to take out it leaves the table as
it is, by `sweep_of_loaded`. -/

namespace CompilerLink.HandleTable

variable {t : HandleTable} {h : Handle}

/-- The handles that `get?` leads somewhere, in slot order. -/
def inUse (t : HandleTable) : List Handle :=
  ((List.range t.slots.length).map Handle.mk).filter fun h => (t.get? h).isSome

/-- `inUse` has exactly the handles with a `get?`. -/
theorem mem_inUse : h ∈ t.inUse ↔ (t.get? h).isSome = true := by
  rw [inUse, List.mem_filter, and_iff_right_iff_imp]
  intro hsome
  have hlt : h.slot < t.slots.length := by
    by_contra hge
    rw [get?_of_length_le (Nat.not_lt.1 hge)] at hsome
    exact nomatch hsome
  exact List.mem_map.2 ⟨h.slot, List.mem_range.2 hlt, rfl⟩

/-- `inUse` is in ascending order of slots. -/
theorem pairwise_inUse (t : HandleTable) : t.inUse.Pairwise fun h h' => h.slot < h'.slot := by
  apply List.Pairwise.filter
  rw [List.pairwise_map]
  exact List.pairwise_lt_range

/-- `inUse` names no handle twice. -/
theorem nodup_inUse (t : HandleTable) : t.inUse.Nodup :=
  t.pairwise_inUse.imp fun hlt heq => Nat.ne_of_lt hlt (congrArg Handle.slot heq)

/-- Each handle stands in `inUse` once if it leads somewhere, and not at all otherwise. -/
theorem count_inUse (t : HandleTable) (h : Handle) :
    t.inUse.count h = if (t.get? h).isSome then 1 else 0 := by
  rw [t.nodup_inUse.count]
  simp only [mem_inUse]

/-- `get?` along all slots is `slots`. -/
theorem map_get?_range (t : HandleTable) :
    ((List.range t.slots.length).map Handle.mk).map t.get? = t.slots := by
  apply List.ext_getElem?
  intro i
  rw [List.getElem?_map, List.getElem?_map]
  by_cases hi : i < t.slots.length
  · rw [List.getElem?_range hi, List.getElem?_eq_getElem hi]
    simp only [get?, Option.map_some, List.getElem?_eq_getElem hi, Option.join_some]
  · rw [List.getElem?_eq_none (by simpa using hi), List.getElem?_eq_none (by simpa using hi)]
    rfl

/-- `get?` along `inUse` is the walk `live`. -/
theorem map_get?_inUse (t : HandleTable) : t.inUse.map t.get? = t.live.map some := by
  have hfull : ∀ slots : List (Option MetadataId),
      slots.filter Option.isSome = (slots.filterMap id).map some := by
    intro slots
    induction slots with
    | nil => rfl
    | cons slot slots ih => cases slot <;> simp [ih]
  -- Filtering the handles that lead somewhere is filtering the slots that are full.
  calc t.inUse.map t.get?
      = (((List.range t.slots.length).map Handle.mk).map t.get?).filter Option.isSome := by
        rw [List.filter_map]
        rfl
    _ = t.slots.filter Option.isSome := by rw [map_get?_range]
    _ = t.live.map some := hfull t.slots

/-- The walk `live` is as long as `liveCount` says. -/
theorem length_live (t : HandleTable) : t.live.length = t.liveCount :=
  List.length_filterMap_eq_countP

/-- The walk `live` has exactly the metadata that some handle leads to. -/
theorem mem_live {m : MetadataId} : m ∈ t.live ↔ ∃ h, t.get? h = some m := by
  have hmem : m ∈ t.live ↔ some m ∈ t.inUse.map t.get? := by
    rw [map_get?_inUse]
    simp
  rw [hmem, List.mem_map]
  constructor
  · rintro ⟨h, -, hget⟩
    exact ⟨h, hget⟩
  · rintro ⟨h, hget⟩
    exact ⟨h, mem_inUse.2 (hget ▸ rfl), hget⟩

/-! ### Sweeps -/

/-- `sweep` filters the unloaded metadata out of `live`, and keeps the order. -/
theorem live_sweep (t : HandleTable) (catalog : Catalog) :
    (t.sweep catalog).state.live = t.live.filter fun m => !catalog.isUnloaded m := by
  rw [live, live, sweep, List.filterMap_map, List.filter_filterMap]
  apply List.filterMap_congr
  intro slot _
  cases slot with
  | none => rfl
  | some m => cases hm : catalog.isUnloaded m <;> simp [isStale, hm, Option.filter]

/-- `sweep` leaves a table as it is whose `live` metadata is all loaded. -/
theorem sweep_of_loaded {catalog : Catalog}
    (hloaded : ∀ m ∈ t.live, catalog.isUnloaded m = false) : (t.sweep catalog).state = t := by
  -- No slot is stale, so `sweep` rewrites each by itself.
  have hsame : ∀ slot ∈ t.slots, (if isStale catalog slot then none else slot) = slot := by
    intro slot hslot
    cases slot with
    | none => exact ite_self none
    | some m =>
      have hm : m ∈ t.live := List.mem_filterMap.2 ⟨some m, hslot, rfl⟩
      exact if_neg (by simp [isStale, hloaded m hm])
  have hslots : t.slots.map (fun slot => if isStale catalog slot then none else slot) = t.slots :=
    (List.map_congr_left hsame).trans (List.map_id _)
  rw [sweep, hslots]

end CompilerLink.HandleTable
