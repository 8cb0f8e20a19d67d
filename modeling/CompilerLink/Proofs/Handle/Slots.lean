import Mathlib
import CompilerLink.Handle.Table

/-! # What handles lead to

A table is seen through `HandleTable.get?` alone. Each operation has one lemma that says what it
does to this view: an allocation fills a slot that was empty, a release and a sweep empty slots, and
all other handles lead to what they led to before. -/

namespace CompilerLink

namespace Catalog

/-- `markUnloaded` marks nothing else, and nothing at all if the metadata does not exist. -/
theorem isUnloaded_markUnloaded (c : Catalog) (m n : MetadataId) :
    (c.markUnloaded m).isUnloaded n = true ↔
      c.isUnloaded n = true ∨ n = m ∧ m < c.entries.length := by
  simp only [isUnloaded, markUnloaded, List.getElem?_modify]
  by_cases hmn : m = n
  · subst hmn
    cases he : c.entries[m]? with
    | none => simpa using he
    | some e =>
      obtain ⟨hm, -⟩ := List.getElem?_eq_some_iff.1 he
      simp [hm]
  · simp [hmn, Ne.symm hmn]

/-- `add` makes metadata that is loaded, and unloads none. -/
theorem isUnloaded_add (c : Catalog) (name : String) (m : MetadataId) :
    (c.add name).2.isUnloaded m = c.isUnloaded m := by
  simp only [isUnloaded, add, List.getElem?_append]
  split
  · rfl
  · rename_i hm
    have hnone : c.entries[m]? = none := List.getElem?_eq_none (by omega)
    rw [hnone]
    cases hlast : m - c.entries.length with
    | zero => rfl
    | succ k => rfl

end Catalog

namespace HandleTable

variable {t : HandleTable} {h : Handle}

/-- `get?` of a handle that names no slot leads nowhere. -/
theorem get?_of_length_le (hslot : t.slots.length ≤ h.slot) : t.get? h = none := by
  rw [get?, List.getElem?_eq_none hslot]
  rfl

/-- The slot that `allocate` takes is empty or new. -/
theorem get?_allocate_fst (t : HandleTable) (m : MetadataId) : t.get? (t.allocate m).1 = none := by
  rw [allocate]
  cases hfind : t.slots.findIdx? Option.isNone with
  | none => exact get?_of_length_le (Nat.le_refl _)
  | some i =>
    obtain ⟨hi, hnone, -⟩ := List.findIdx?_eq_some_iff_getElem.1 hfind
    have hempty : t.slots[i]? = some none := by
      rw [List.getElem?_eq_getElem hi, Option.isNone_iff_eq_none.1 hnone]
    simp only [get?, hempty]
    rfl

/-- `allocate` changes `get?` for the handle that it answers and for no other. -/
theorem get?_allocate (t : HandleTable) (m : MetadataId) (h : Handle) :
    (t.allocate m).2.get? h = if h = (t.allocate m).1 then some m else t.get? h := by
  obtain ⟨slot⟩ := h
  rw [allocate]
  cases hfind : t.slots.findIdx? Option.isNone with
  | none =>
    -- All slots are taken: the new one stands behind them.
    simp only [get?, Handle.mk.injEq, List.getElem?_append]
    split
    · rw [if_neg (by omega)]
    · split
      · simp [*]
      · rename_i hge hne
        rw [List.getElem?_eq_none (by simp; omega), List.getElem?_eq_none (by omega)]
  -- The first empty slot is filled in place.
  | some i =>
    obtain ⟨hi, -⟩ := List.findIdx?_eq_some_iff_getElem.1 hfind
    simp only [get?, Handle.mk.injEq, List.getElem?_set, hi, if_true]
    by_cases hslot : i = slot
    · simp [hslot]
    · simp [hslot, Ne.symm hslot]

/-- `release` changes `get?` for the handle that is released and for no other. -/
theorem get?_release (t : HandleTable) (h h' : Handle) :
    (t.release h).get? h' = if h' = h then none else t.get? h' := by
  obtain ⟨slot⟩ := h
  obtain ⟨slot'⟩ := h'
  simp only [get?, release, Handle.mk.injEq, List.getElem?_set]
  by_cases hslot : slot = slot'
  · subst hslot
    simp only [if_true]
    split <;> rfl
  · simp [hslot, Ne.symm hslot]

/-- `release` of a handle that leads nowhere leaves the table as it is. -/
theorem release_of_get?_eq_none (hnone : t.get? h = none) : t.release h = t := by
  have hset : t.slots.set h.slot none = t.slots := by
    cases hslot : t.slots[h.slot]? with
    | none => exact List.set_eq_of_length_le (List.getElem?_eq_none_iff.1 hslot)
    | some content =>
      rw [get?, hslot] at hnone
      obtain ⟨hlt, heq⟩ := List.getElem?_eq_some_iff.1 hslot
      have hcontent : t.slots[h.slot] = none := heq.trans hnone
      rw [← hcontent, List.set_getElem_self]
  rw [release, hset]

/-- `sweep` changes `get?` for the handles of unloaded metadata and for no others. -/
theorem get?_sweep (t : HandleTable) (catalog : Catalog) (h : Handle) :
    (t.sweep catalog).state.get? h = (t.get? h).filter fun m => !catalog.isUnloaded m := by
  simp only [get?, sweep, List.getElem?_map]
  cases t.slots[h.slot]? with
  | none => rfl
  | some content =>
    cases content with
    | none => rfl
    | some m => cases hm : catalog.isUnloaded m <;> simp [isStale, hm, Option.filter]

end HandleTable

end CompilerLink
