import CompilerLink.Proofs.Handle.Slots

/-! # A handle table is a map from slots to metadata

A `HandleTable.Session` is a table in use, with the host's metadata and the record of what was done,
newest entry first. Handles are any numbers: they may be stale or come from another table.

`LeadsTo h m record` says that the last entry of the record that wrote the slot of `h` is an
allocation of `m` that answered `h`. A table looks exactly like this after every run. -/

namespace CompilerLink.HandleTable

/-- What can be done with a table and the metadata that it may hold. -/
inductive Operation where
  /-- The host makes metadata. -/
  | make (name : String)
  /-- The class loader of some metadata dies. -/
  | unload (m : MetadataId)
  | allocate (m : MetadataId)
  | release (h : Handle)
  | get (h : Handle)
  | sweep

/-- An operation that was carried out, with what it answered. -/
inductive Entry where
  | made (m : MetadataId)
  | unloaded (m : MetadataId)
  | allocated (m : MetadataId) (h : Handle)
  | released (h : Handle)
  | got (h : Handle) (answer : Option MetadataId)
  | swept

/-- A table in use. -/
structure Session where
  table : HandleTable := {}
  catalog : Catalog := {}
  /-- What was carried out, newest first. -/
  record : List Entry := []

namespace Session

/-- Carry out an operation. Metadata that has not been made cannot be named. -/
def perform (s : Session) : Operation → Session
  | .make name =>
    { s with
      catalog := (s.catalog.add name).2
      record := .made (s.catalog.add name).1 :: s.record }
  | .unload m =>
    if m < s.catalog.entries.length then
      { s with catalog := s.catalog.markUnloaded m, record := .unloaded m :: s.record }
    else s
  | .allocate m =>
    if m < s.catalog.entries.length then
      { s with
        table := (s.table.allocate m).2
        record := .allocated m (s.table.allocate m).1 :: s.record }
    else s
  | .release h => { s with table := s.table.release h, record := .released h :: s.record }
  | .get h => { s with record := .got h (s.table.get? h) :: s.record }
  | .sweep => { s with table := (s.table.sweep s.catalog).state, record := .swept :: s.record }

def run (s : Session) (ops : List Operation) : Session := ops.foldl perform s

/-- A property that every `perform` preserves is preserved by `run`. -/
theorem run_induction {P : Session → Prop} (hstep : ∀ s op, P s → P (s.perform op))
    (ops : List Operation) (s : Session) (hs : P s) : P (s.run ops) := by
  induction ops generalizing s with
  | nil => exact hs
  | cons op ops ih => exact ih (s.perform op) (hstep s op hs)

end Session

/-! ### What a record says of a handle -/

/-- Whether an entry writes the slot of `h` while that holds `m`, given the entries before it. A
sweep writes to slots of unloaded metadata only. -/
inductive Entry.Writes (h : Handle) (m : MetadataId) (earlier : List Entry) : Entry → Prop where
  | allocated (n : MetadataId) : Writes h m earlier (.allocated n h)
  | released : Writes h m earlier (.released h)
  | swept (hunloaded : .unloaded m ∈ earlier) : Writes h m earlier .swept

/-- The last entry that wrote the slot of `h` is an allocation of `m` that answered `h`. -/
inductive LeadsTo (h : Handle) (m : MetadataId) : List Entry → Prop where
  | allocated (earlier : List Entry) : LeadsTo h m (.allocated m h :: earlier)
  | later {e : Entry} {earlier : List Entry} (hbefore : LeadsTo h m earlier)
      (hnot : ¬ e.Writes h m earlier) : LeadsTo h m (e :: earlier)

/-- `LeadsTo` after one more entry: it is that allocation, or it does not write the slot. -/
theorem leadsTo_cons {h : Handle} {m : MetadataId} {e : Entry} {earlier : List Entry} :
    LeadsTo h m (e :: earlier) ↔
      e = .allocated m h ∨ LeadsTo h m earlier ∧ ¬ e.Writes h m earlier := by
  constructor
  · intro hleads
    cases hleads with
    | allocated => exact .inl rfl
    | later hbefore hnot => exact .inr ⟨hbefore, hnot⟩
  · rintro (rfl | ⟨hbefore, hnot⟩)
    · exact .allocated earlier
    · exact .later hbefore hnot

namespace Session

/-- The table and the catalog are what the `record` says. -/
structure Recorded (s : Session) : Prop where
  /-- Metadata is marked iff it has been unloaded at some time. -/
  isUnloaded_iff : ∀ m, s.catalog.isUnloaded m = true ↔ .unloaded m ∈ s.record
  /-- Handles lead to what the last write of their slot put there. -/
  get?_iff : ∀ h m, s.table.get? h = some m ↔ LeadsTo h m s.record

namespace Recorded

variable {s : Session}

/-- `Recorded` holds at the start, where nothing leads anywhere. -/
theorem start : ({} : Session).Recorded where
  isUnloaded_iff m := by simp [Catalog.isUnloaded]
  get?_iff h m := by
    constructor
    · intro hget
      cases hget
    · intro hleads
      cases hleads

/-- An entry that writes no slot preserves the field `get?_iff`. -/
theorem get?_iff_cons (hrec : s.Recorded) {e : Entry} (hnew : ∀ m h, e ≠ .allocated m h)
    (hnot : ∀ h m, ¬ e.Writes h m s.record) (h : Handle) (m : MetadataId) :
    s.table.get? h = some m ↔ LeadsTo h m (e :: s.record) := by
  rw [hrec.get?_iff, leadsTo_cons]
  simp [hnew, hnot]

/-- An entry that unloads nothing preserves the field `isUnloaded_iff`. -/
theorem isUnloaded_iff_cons (hrec : s.Recorded) {e : Entry} (hnew : ∀ m, e ≠ .unloaded m)
    (m : MetadataId) : s.catalog.isUnloaded m = true ↔ .unloaded m ∈ e :: s.record := by
  rw [hrec.isUnloaded_iff, List.mem_cons]
  simp [(hnew m).symm]

/-- `Recorded` is preserved by `markUnloaded`, which does not touch the table. -/
theorem unload (hrec : s.Recorded) {m : MetadataId} (hm : m < s.catalog.entries.length) :
    ({ s with catalog := s.catalog.markUnloaded m, record := .unloaded m :: s.record } :
      Session).Recorded where
  isUnloaded_iff n := by
    rw [Catalog.isUnloaded_markUnloaded, hrec.isUnloaded_iff, List.mem_cons, Entry.unloaded.injEq]
    tauto
  get?_iff := hrec.get?_iff_cons (fun _ _ => nofun) (fun _ _ => nofun)

/-- `Recorded` is preserved by `allocate`, as the slot that it writes led nowhere. -/
theorem allocate (hrec : s.Recorded) (m : MetadataId) :
    ({ s with
        table := (s.table.allocate m).2
        record := .allocated m (s.table.allocate m).1 :: s.record } : Session).Recorded where
  isUnloaded_iff := hrec.isUnloaded_iff_cons fun _ => nofun
  get?_iff h n := by
    rw [leadsTo_cons, ← hrec.get?_iff, get?_allocate]
    by_cases hh : h = (s.table.allocate m).1
    · rw [if_pos hh]
      constructor
      · intro hm
        rw [hh, Option.some.inj hm]
        exact .inl rfl
      · rintro (hnew | ⟨hold, -⟩)
        · rw [(Entry.allocated.inj hnew).1]
        · rw [hh, get?_allocate_fst] at hold
          exact nomatch hold
    · rw [if_neg hh]
      constructor
      · intro hold
        refine .inr ⟨hold, fun hwrites => ?_⟩
        cases hwrites
        -- The newest entry wrote the slot of another handle.
        exact hh rfl
      · rintro (hnew | ⟨hold, -⟩)
        · exact absurd (Entry.allocated.inj hnew).2.symm hh
        · exact hold

theorem release (hrec : s.Recorded) (h : Handle) :
    ({ s with table := s.table.release h, record := .released h :: s.record } :
      Session).Recorded where
  isUnloaded_iff := hrec.isUnloaded_iff_cons fun _ => nofun
  get?_iff h' m := by
    rw [leadsTo_cons, ← hrec.get?_iff, get?_release]
    -- The released handle has lost its slot, and the entry writes no other one.
    by_cases hh : h' = h
    · subst hh
      simp [Entry.Writes.released]
    · have hnot : ¬ (Entry.released h).Writes h' m s.record := by
        intro hwrites
        cases hwrites
        exact hh rfl
      simp [hh, hnot]

/-- `Recorded` is preserved by `sweep`, which writes the slots whose metadata the record has as
unloaded. -/
theorem sweep (hrec : s.Recorded) :
    ({ s with table := (s.table.sweep s.catalog).state, record := .swept :: s.record } :
      Session).Recorded where
  isUnloaded_iff := hrec.isUnloaded_iff_cons fun _ => nofun
  get?_iff h m := by
    have hwrites : Entry.Writes h m s.record .swept ↔ .unloaded m ∈ s.record :=
      ⟨fun hwrites => by cases hwrites; assumption, .swept⟩
    rw [leadsTo_cons, ← hrec.get?_iff, get?_sweep, hwrites, ← hrec.isUnloaded_iff,
      Option.filter_eq_some_iff]
    simp

/-- `Recorded` is preserved by every operation. -/
theorem perform (hrec : s.Recorded) (op : Operation) : (s.perform op).Recorded := by
  -- Three operations write slots and have a lemma each; the others only add to the record.
  cases op with
  | make name =>
    refine ⟨fun m => ?_, hrec.get?_iff_cons (fun _ _ => nofun) (fun _ _ => nofun)⟩
    rw [Session.perform, Catalog.isUnloaded_add]
    exact hrec.isUnloaded_iff_cons (e := .made _) (fun _ => nofun) m
  | unload m =>
    rw [Session.perform]
    split
    · exact hrec.unload ‹_›
    · exact hrec
  | allocate m =>
    rw [Session.perform]
    split
    · exact hrec.allocate m
    · exact hrec
  | release h => exact hrec.release h
  | get h =>
    exact ⟨hrec.isUnloaded_iff_cons (fun _ => nofun),
      hrec.get?_iff_cons (fun _ _ => nofun) (fun _ _ => nofun)⟩
  | sweep => exact hrec.sweep

theorem run (hrec : s.Recorded) (ops : List Operation) : (s.run ops).Recorded :=
  run_induction (fun _ op hrec => hrec.perform op) ops s hrec

/-- The only operations that take away what a handle leads to are its `release` and a `sweep` after
the metadata was unloaded. -/
theorem get?_perform (hrec : s.Recorded) {h : Handle} {m : MetadataId}
    (hget : s.table.get? h = some m) (op : Operation)
    (hrelease : op ≠ .release h) (hsweep : op = .sweep → .unloaded m ∉ s.record) :
    (s.perform op).table.get? h = some m := by
  cases op with
  | make name => exact hget
  | unload n =>
    rw [Session.perform]
    split <;> exact hget
  | allocate n =>
    rw [Session.perform]
    split
    · -- The slot that is filled led nowhere, so it is another one.
      have hne : h ≠ (s.table.allocate n).1 := by
        rintro rfl
        rw [get?_allocate_fst] at hget
        exact nomatch hget
      show (s.table.allocate n).2.get? h = some m
      rw [get?_allocate, if_neg hne, hget]
    · exact hget
  | release h' =>
    have hne : h ≠ h' := fun heq => hrelease (heq ▸ rfl)
    show (s.table.release h').get? h = some m
    rw [get?_release, if_neg hne, hget]
  | get h' => exact hget
  -- The metadata was never unloaded, so the sweep passes it by.
  | sweep =>
    have hloaded : s.catalog.isUnloaded m = false := by
      rw [← Bool.not_eq_true, hrec.isUnloaded_iff]
      exact hsweep rfl
    show (s.table.sweep s.catalog).state.get? h = some m
    rw [get?_sweep, hget]
    simp [Option.filter, hloaded]

end Recorded

/-! ### Every run -/

/-- The table refines a partial map from slots to metadata. -/
structure IsSlotMap (s : Session) : Prop where
  /-- A handle leads to what the last write of its slot put there. -/
  get?_iff : ∀ h m, s.table.get? h = some m ↔ LeadsTo h m s.record
  /-- Nothing but its `release`, or a `sweep` once its metadata is unloaded, clears a slot, and no
  operation puts other metadata in the place of some. -/
  kept_or_cleared : ∀ op h m, s.table.get? h = some m →
    (s.perform op).table.get? h = some m ∨
      (s.perform op).table.get? h = none ∧
        (op = .release h ∨ op = .sweep ∧ s.catalog.isUnloaded m = true)
  /-- A handle that is released leads nowhere. -/
  release_clears : ∀ h, (s.table.release h).get? h = none
  /-- So does a handle of unloaded metadata after a `sweep`. -/
  sweep_clears : ∀ h m, s.table.get? h = some m → s.catalog.isUnloaded m = true →
    (s.table.sweep s.catalog).state.get? h = none
  /-- Metadata is marked iff it has been unloaded at some time. -/
  isUnloaded_iff : ∀ m, s.catalog.isUnloaded m = true ↔ .unloaded m ∈ s.record
  /-- The mark alone hides nothing. -/
  unload_hides_nothing : ∀ m, (s.perform (.unload m)).table = s.table
  /-- Live handles of loaded metadata are not disturbed by what happens to others. -/
  undisturbed : ∀ op h m, s.table.get? h = some m → s.catalog.isUnloaded m = false →
    op ≠ .release h → (s.perform op).table.get? h = some m
  /-- `release` of a handle that leads nowhere has no effect. -/
  release_nothing : ∀ h, s.table.get? h = none → s.table.release h = s.table
  /-- Looking a handle up has no effect. -/
  get_keeps : ∀ h, (s.perform (.get h)).table = s.table
  /-- A handle that names no slot leads nowhere. -/
  beyond : ∀ h, s.table.slots.length ≤ h.slot → s.table.get? h = none

/-- `IsSlotMap` holds in every state that a table can reach. -/
theorem isSlotMap_of_run (ops : List Operation) : (run {} ops).IsSlotMap := by
  have hrec : (run {} ops).Recorded := Recorded.start.run ops
  generalize run {} ops = s at hrec
  have hclear : ∀ h m, s.table.get? h = some m → s.catalog.isUnloaded m = true →
      (s.table.sweep s.catalog).state.get? h = none := by
    intro h m hget hunloaded
    rw [get?_sweep, hget]
    simp [Option.filter, hunloaded]
  have hrelease : ∀ h, (s.table.release h).get? h = none := fun h => by
    rw [get?_release, if_pos rfl]
  exact
    { get?_iff := hrec.get?_iff
      kept_or_cleared := by
        intro op h m hget
        by_cases hop : op = .release h
        · subst hop
          exact .inr ⟨hrelease h, .inl rfl⟩
        · -- If it is neither the release nor a sweep of unloaded metadata, the slot is kept.
          by_cases hsweep : op = .sweep ∧ s.catalog.isUnloaded m = true
          · obtain ⟨rfl, hunloaded⟩ := hsweep
            exact .inr ⟨hclear h m hget hunloaded, .inr ⟨rfl, hunloaded⟩⟩
          · refine .inl (hrec.get?_perform hget op hop fun heq hmem => hsweep ⟨heq, ?_⟩)
            exact (hrec.isUnloaded_iff m).2 hmem
      release_clears := hrelease
      sweep_clears := hclear
      isUnloaded_iff := hrec.isUnloaded_iff
      unload_hides_nothing := by
        intro m
        rw [perform]
        split <;> rfl
      undisturbed := by
        intro op h m hget hloaded hop
        refine hrec.get?_perform hget op hop fun _ hmem => ?_
        rw [(hrec.isUnloaded_iff m).2 hmem] at hloaded
        exact nomatch hloaded
      release_nothing := fun h => release_of_get?_eq_none
      get_keeps := fun h => rfl
      beyond := fun h => get?_of_length_le }

/-- A slot is released twice, used again and swept; a handle from elsewhere does no harm. -/
example :
    (run {} [.make "A", .make "B", .allocate 0, .allocate 1, .release ⟨0⟩, .release ⟨0⟩,
      .release ⟨7⟩, .allocate 1, .unload 0, .unload 1, .allocate 0, .sweep]).table =
      ⟨[none, none, none]⟩ := by
  decide

end Session

end CompilerLink.HandleTable
