import CompilerLink.Proofs.Counter.Additions

/-! # Resizes among running threads

A `Traffic` is a registry whose counters are resized while threads go on adding. An addition is one
step, which waits until its block is not locked. A resize is many steps: it locks the live blocks
one after the other, copies the pool and the blocks into new arrays, installs these one after the
other, unlocks the blocks and sets the size. Resizes are made one at a time, as each has a pause of
its own.

`Phase.Fits` is what a resize relies on between its steps. An array that was copied from a block is
up to date until it is installed, because the block stays locked for so long. -/

namespace CompilerLink.Counter

/-- How far the resize in progress has come. -/
inductive Phase where
  /-- No resize is in progress. -/
  | idle
  /-- The blocks `held` are locked; those `waiting` are yet to be. -/
  | locking (n : Nat) (held waiting : List Nat)
  /-- All live blocks are locked. The pool and the blocks `staged` are copied; those `waiting` are
  yet to be. -/
  | copying (n : Nat) (pool : List Int64) (staged : List (Nat × List Int64)) (waiting : List Nat)
  /-- The pool is installed, and so are the arrays of the blocks `installed`, but not those
  `staged`. -/
  | installing (n : Nat) (installed : List Nat) (staged : List (Nat × List Int64))
  /-- The resize is over; `size` is to be set if it succeeded. -/
  | unlocking (size : Option Nat) (held : List Nat)

namespace Phase

/-- The blocks that are locked in a phase. -/
def locks : Phase → List Nat
  | idle => []
  | locking _ held _ => held
  | copying _ _ staged waiting => staged.map (·.1) ++ waiting
  | installing _ installed staged => installed ++ staged.map (·.1)
  | unlocking _ held => held

/-- The size that the resize in progress is going to set. -/
def target : Phase → Option Nat
  | idle => none
  | locking n _ _ => some n
  | copying n _ _ _ => some n
  | installing n _ _ => some n
  | unlocking size _ => size

end Phase

namespace Registry

/-- `Block.values` of a block by its number. -/
def valuesOf (r : Registry) (id : Nat) : List Int64 := (r.blocks[id]?).elim [] (·.values)

/-- Give a block other `values`. -/
def put (r : Registry) (id : Nat) (values : List Int64) : Registry :=
  { r with blocks := r.blocks.modify id fun b => { b with values } }

end Registry

/-- One step of a resize, from a registry in some phase to a registry in the next. An array is
copied only if `reserve` has one to give; else the resize gives up with nothing installed. -/
inductive Advance (r : Registry) : Phase → Registry → Phase → Prop where
  | lock (n : Nat) (held : List Nat) (id : Nat) (waiting : List Nat) :
      Advance r (.locking n held (id :: waiting)) r (.locking n (held ++ [id]) waiting)
  | copyPool (n : Nat) (held : List Nat) {left : Option Nat}
      (hfits : reserve r.budget n = (true, left)) :
      Advance r (.locking n held [])
        { r with budget := left } (.copying n (resized r.retired n) [] held)
  | giveUpPool (n : Nat) (held : List Nat) {left : Option Nat}
      (hfull : reserve r.budget n = (false, left)) :
      Advance r (.locking n held []) { r with budget := left } (.unlocking none held)
  | copy (n : Nat) (pool : List Int64) (staged : List (Nat × List Int64)) (id : Nat)
      (waiting : List Nat) {left : Option Nat} (hfits : reserve r.budget n = (true, left)) :
      Advance r (.copying n pool staged (id :: waiting))
        { r with budget := left }
        (.copying n pool (staged ++ [(id, resized (r.valuesOf id) n)]) waiting)
  | giveUp (n : Nat) (pool : List Int64) (staged : List (Nat × List Int64)) (id : Nat)
      (waiting : List Nat) {left : Option Nat} (hfull : reserve r.budget n = (false, left)) :
      Advance r (.copying n pool staged (id :: waiting))
        { r with budget := left } (.unlocking none (staged.map (·.1) ++ id :: waiting))
  | installPool (n : Nat) (pool : List Int64) (staged : List (Nat × List Int64)) :
      Advance r (.copying n pool staged []) { r with retired := pool } (.installing n [] staged)
  | install (n : Nat) (installed : List Nat) (id : Nat) (values : List Int64)
      (staged : List (Nat × List Int64)) :
      Advance r (.installing n installed ((id, values) :: staged))
        (r.put id values) (.installing n (installed ++ [id]) staged)
  | release (n : Nat) (installed : List Nat) :
      Advance r (.installing n installed []) r (.unlocking (some n) installed)
  | unlock (size : Option Nat) (id : Nat) (held : List Nat) :
      Advance r (.unlocking size (id :: held)) r (.unlocking size held)
  | setSize (n : Nat) : Advance r (.unlocking (some n) []) { r with size := n } .idle
  | leave : Advance r (.unlocking none []) r .idle

/-- A registry that is being resized and added to. -/
structure Traffic where
  registry : Registry
  /-- At most one resize is in progress, as each has a pause of its own. -/
  phase : Phase := .idle
  /-- The sizes that are still to be set. -/
  sizes : List Nat
  /-- What each thread is still to add, in its order. -/
  threads : List (List Addition)
  /-- What was added and whether the thread was told that it was, newest first. -/
  answers : List (Addition × Bool) := []

/-- A step of a `Traffic` is the next one of any thread or of the resizes, whosever turn it is. -/
inductive Step : Traffic → Traffic → Prop where
  /-- A thread makes its next addition, to a block that is not locked. -/
  | add {t : Traffic} {k : Nat} {a : Addition} {rest : List Addition}
      (hnext : t.threads[k]? = some (a :: rest)) (hfree : a.id ∉ t.phase.locks) :
      Step t { t with
        registry := t.registry.credit a
        threads := t.threads.set k rest
        answers := (a, (t.registry.add a.id a.index a.delta).1) :: t.answers }
  /-- A resize begins; in which order it takes the live blocks is up to it. -/
  | start {t : Traffic} {n : Nat} {sizes : List Nat} {order : List Nat}
      (hidle : t.phase = .idle) (hnext : t.sizes = n :: sizes)
      (horder : order.Perm (t.registry.liveBlocks.map (·.id))) :
      Step t { t with phase := .locking n [] order, sizes }
  /-- The resize in progress goes on. -/
  | resize {t : Traffic} {registry : Registry} {phase : Phase}
      (hnext : Advance t.registry t.phase registry phase) : Step t { t with registry, phase }

/-- Any number of `Step`s. -/
abbrev Steps : Traffic → Traffic → Prop := Relation.ReflTransGen Step

namespace Traffic

/-- No resize is in progress, and there are no sizes and no additions left. -/
structure Finished (t : Traffic) : Prop where
  idle : t.phase = .idle
  no_sizes : t.sizes = []
  no_additions : t.threads.flatten = []

end Traffic

/-! ### What a resize relies on -/

namespace Registry

/-- The numbers `ids` are those of the live blocks. -/
def Lists (r : Registry) (ids : List Nat) : Prop := ∀ k, k ∈ ids ↔ r.isLive k = true

/-- Blocks have their numbers, and the live ones have `n` counters if they are `installed` and
`size` otherwise. -/
def Measures (r : Registry) (n : Nat) (installed : List Nat) : Prop :=
  ∀ (k : Nat) (b : Block), r.blocks[k]? = some b →
    b.id = k ∧ (b.live = true → b.values.length = if k ∈ installed then n else r.size)

/-- Each array that is `staged` is what `resized` makes of its block now. -/
def UpToDate (r : Registry) (n : Nat) (staged : List (Nat × List Int64)) : Prop :=
  ∀ c ∈ staged, c.2 = resized (r.valuesOf c.1) n

end Registry

/-- What a resize relies on in each phase: the blocks it has listed are the live ones, and its
copies are still those of the registry. -/
def Phase.Fits (r : Registry) : Phase → Prop
  | idle => r.WellFormed
  | locking _ held waiting => r.WellFormed ∧ r.Lists (held ++ waiting)
  | copying n pool staged waiting =>
    r.WellFormed ∧ r.Lists (staged.map (·.1) ++ waiting) ∧ pool = resized r.retired n ∧
      r.UpToDate n staged
  | installing n installed staged =>
    r.retired.length = n ∧ r.Measures n installed ∧ r.Lists (installed ++ staged.map (·.1)) ∧
      r.UpToDate n staged
  | unlocking none _ => r.WellFormed
  | unlocking (some n) _ => ({ r with size := n } : Registry).WellFormed

namespace Registry

variable {r : Registry}

/-! ### Additions to blocks that are not locked -/

/-- `credit` does not change the values of other blocks. -/
theorem valuesOf_credit_of_ne {a : Addition} {k : Nat} (h : a.id ≠ k) :
    (r.credit a).valuesOf k = r.valuesOf k := by
  rw [valuesOf, valuesOf, getElem?_credit, if_neg h]

theorem Lists.credit {ids : List Nat} (h : r.Lists ids) (a : Addition) :
    (r.credit a).Lists ids := by
  intro k
  rw [isLive_credit]
  exact h k

/-- `Measures` is preserved by `credit`, which adds to a counter and keeps the length. -/
theorem Measures.credit {n : Nat} {installed : List Nat} (h : r.Measures n installed)
    (a : Addition) : (r.credit a).Measures n installed := by
  intro k b hb
  rw [r.size_credit]
  rw [getElem?_credit] at hb
  split at hb
  · -- An addition keeps the number, the flags and the length of its block.
    obtain ⟨old, hold, rfl⟩ := Option.map_eq_some_iff.1 hb
    obtain ⟨hid, -, hlive, hlength⟩ := old.add_frame a.index a.delta
    rw [Block.credit, hid, hlive, hlength]
    exact h k old hold
  · exact h k b hb

/-- `UpToDate` is preserved by a `credit` to a block that is not `staged`. -/
theorem UpToDate.credit {n : Nat} {staged : List (Nat × List Int64)} (h : r.UpToDate n staged)
    {a : Addition} (hfree : a.id ∉ staged.map (·.1)) : (r.credit a).UpToDate n staged := by
  intro c hc
  have hne : a.id ≠ c.1 := fun heq => hfree (heq ▸ List.mem_map_of_mem hc)
  rw [valuesOf_credit_of_ne hne]
  exact h c hc

end Registry

/-- `Phase.Fits` is preserved by a `credit` to a block that is not locked. -/
theorem Phase.Fits.credit {r : Registry} {p : Phase} (h : p.Fits r) {a : Addition}
    (hfree : a.id ∉ p.locks) : p.Fits (r.credit a) := by
  cases p with
  | idle => exact Registry.WellFormed.credit h a
  | locking n held waiting => exact ⟨h.1.credit a, h.2.credit a⟩
  | copying n pool staged waiting =>
    obtain ⟨wf, hlists, hpool, hstaged⟩ := h
    -- What has been copied is locked, so the addition goes elsewhere.
    rw [locks, List.mem_append, not_or] at hfree
    refine ⟨wf.credit a, hlists.credit a, ?_, hstaged.credit hfree.1⟩
    rw [r.retired_credit, hpool]
  | installing n installed staged =>
    obtain ⟨hretired, hlengths, hlists, hstaged⟩ := h
    rw [locks, List.mem_append, not_or] at hfree
    refine ⟨?_, hlengths.credit a, hlists.credit a, hstaged.credit hfree.2⟩
    rw [r.retired_credit, hretired]
  | unlocking size held =>
    cases size with
    | none => exact Registry.WellFormed.credit h a
    | some n =>
      have hcredit := Registry.WellFormed.credit h a
      rw [Registry.credit_eq] at hcredit
      rw [Registry.credit_eq]
      exact hcredit

/-! ### Steps of a resize -/

namespace Registry

variable {r : Registry}

/-- `put` does not change which blocks are live. -/
theorem liveness_put (r : Registry) (id : Nat) (values : List Int64) :
    (r.put id values).liveness = r.liveness := by
  have hmap : (r.blocks.modify id fun b => { b with values }).map (·.live) =
      (r.blocks.map (·.live)).modify id fun live => live := map_modify fun _ _ => rfl
  rw [liveness, put, hmap]
  exact List.modify_id id r.liveness

/-- `put` changes the values of the block numbered `id` and no other block. -/
theorem getElem?_put (r : Registry) (id : Nat) (values : List Int64) (k : Nat) :
    (r.put id values).blocks[k]? =
      if id = k then (r.blocks[k]?).map fun b => { b with values } else r.blocks[k]? := by
  rw [put, List.getElem?_modify]
  split
  · rfl
  · exact Option.map_id'

/-- `valuesOf` is `values` of the block at index `k`. -/
theorem valuesOf_eq {k : Nat} {b : Block} (hb : r.blocks[k]? = some b) :
    r.valuesOf k = b.values := by
  rw [valuesOf, hb]
  rfl

/-- `UpToDate` is preserved by installing the first array: other blocks keep their values, and a
second copy of the same block is the same array. -/
theorem UpToDate.put {n id : Nat} {values : List Int64} {staged : List (Nat × List Int64)}
    (h : r.UpToDate n ((id, values) :: staged)) (hid : r.isLive id = true) :
    (r.put id values).UpToDate n staged := by
  intro c hc
  obtain ⟨b, hb, -⟩ := exists_of_isLive hid
  have hvalues : values = resized (r.valuesOf id) n := h (id, values) List.mem_cons_self
  rw [h c (List.mem_cons_of_mem _ hc), valuesOf, valuesOf, getElem?_put]
  by_cases heq : id = c.1
  · -- A second copy of the block is the array that is installed.
    rw [if_pos heq, ← heq, hb, Option.map_some, Option.elim_some, Option.elim_some, hvalues,
      valuesOf_eq hb, resized_resized]
  · rw [if_neg heq]

/-- `put` does not change whether a block is live. -/
theorem isLive_put (r : Registry) (id : Nat) (values : List Int64) (k : Nat) :
    (r.put id values).isLive k = r.isLive k := by
  rw [Bool.eq_iff_iff, isLive_eq_true_iff, isLive_eq_true_iff, liveness_put]

/-- `Measures` is preserved by installing an array of the new length. -/
theorem Measures.put {n id : Nat} {values : List Int64} {installed : List Nat}
    (h : r.Measures n installed) (hn : values.length = n) :
    (r.put id values).Measures n (installed ++ [id]) := by
  intro k b hb
  simp only [List.mem_append, List.mem_singleton]
  rw [getElem?_put] at hb
  -- The block that was put has the new length, and the others had the right one before.
  by_cases hk : id = k
  · rw [if_pos hk] at hb
    obtain ⟨old, hold, rfl⟩ := Option.map_eq_some_iff.1 hb
    rw [if_pos (Or.inr hk.symm)]
    exact ⟨(h k old hold).1, fun _ => hn⟩
  · rw [if_neg hk] at hb
    simp only [Ne.symm hk, or_false]
    exact h k b hb

/-- `Measures` with all live blocks `installed` is `WellFormed` at the new size. -/
theorem Measures.wellFormed {n : Nat} {installed : List Nat} (hretired : r.retired.length = n)
    (h : r.Measures n installed) (hlists : r.Lists installed) :
    ({ r with size := n } : Registry).WellFormed where
  retired_length := hretired
  id_eq hb := (h _ _ hb).1
  live_length {k b} hb hlive := by
    have hk : k ∈ installed := (hlists k).2 ((isLive_eq hb).trans hlive)
    have hlength := (h k b hb).2 hlive
    rwa [if_pos hk] at hlength

end Registry

/-- `Phase.Fits` is preserved by every step of a resize. -/
theorem Phase.Fits.advance {r r' : Registry} {p p' : Phase} (h : p.Fits r)
    (hstep : Advance r p r' p') : p'.Fits r' := by
  -- Phases before `installing` keep the registry well formed; from `installing` on `Measures` takes
  -- over.
  cases hstep with
  | lock n held id waiting =>
    obtain ⟨wf, hlists⟩ := h
    refine ⟨wf, ?_⟩
    rw [List.append_assoc]
    exact hlists
  | copyPool n held hfits =>
    obtain ⟨wf, hlists⟩ := h
    rw [List.append_nil] at hlists
    exact ⟨wf.withBudget _, hlists, rfl, fun _ hc => absurd hc List.not_mem_nil⟩
  | giveUpPool n held hfull => exact h.1.withBudget _
  | copy n pool staged id waiting hfits =>
    obtain ⟨wf, hlists, hpool, hstaged⟩ := h
    refine ⟨wf.withBudget _, ?_, hpool, fun c hc => ?_⟩
    · rw [List.map_append, List.append_assoc]
      exact hlists
    · rcases List.mem_append.1 hc with hc | hc
      · exact hstaged c hc
      · rw [List.mem_singleton.1 hc]
        rfl
  | giveUp n pool staged id waiting hfull => exact h.1.withBudget _
  | installPool n pool staged =>
    obtain ⟨wf, hlists, hpool, hstaged⟩ := h
    rw [List.append_nil] at hlists
    have hlength : pool.length = n := by rw [hpool, length_resized]
    refine ⟨hlength, fun k b hb => ⟨wf.id_eq hb, ?_⟩, hlists, hstaged⟩
    -- No block is installed yet.
    rw [if_neg List.not_mem_nil]
    exact wf.live_length hb
  | install n installed id values staged =>
    obtain ⟨hretired, hlengths, hlists, hstaged⟩ := h
    have hid : r.isLive id = true :=
      (hlists id).1 (List.mem_append_right _ List.mem_cons_self)
    have hvalues : values = resized (r.valuesOf id) n := hstaged (id, values) List.mem_cons_self
    have hlength : values.length = n := by rw [hvalues, length_resized]
    refine ⟨hretired, hlengths.put hlength, fun k => ?_, hstaged.put hid⟩
    rw [r.isLive_put, List.append_assoc]
    exact hlists k
  | release n installed =>
    obtain ⟨hretired, hlengths, hlists, -⟩ := h
    rw [List.map_nil, List.append_nil] at hlists
    exact hlengths.wellFormed hretired hlists
  | unlock size id held => cases size <;> exact h
  | setSize n => exact h
  | leave => exact h

/-! ### Every step -/

namespace Traffic

/-- The invariant of a traffic in which no array is to have fewer than `m` counters. -/
structure Sound (m : Nat) (t : Traffic) : Prop where
  /-- The resize in progress finds the registry as it left it, additions aside. -/
  fits : t.phase.Fits t.registry
  /-- The present size is not below `m`. -/
  le_size : m ≤ t.registry.size
  /-- Nor is the size that the resize in progress is going to set. -/
  le_target : ∀ n ∈ t.phase.target, m ≤ n
  /-- Nor is any size that is still to come. -/
  le_sizes : ∀ n ∈ t.sizes, m ≤ n

/-- In a `Sound` traffic live blocks have at least `m` counters, in the middle of a resize
as well. -/
theorem Sound.spans {m : Nat} {t : Traffic} (h : t.Sound m) : t.registry.Spans m := by
  obtain ⟨fits, hsize, htarget, -⟩ := h
  have hlong : t.registry.WellFormed → t.registry.Spans m := fun wf k b hb hlive => by
    rw [wf.live_length hb hlive]
    exact hsize
  generalize t.registry = r at fits hsize hlong
  -- Whatever the phase, a live block has its old length or its new one.
  cases hp : t.phase with
  | idle => rw [hp] at fits; exact hlong fits
  | locking n held waiting => rw [hp] at fits; exact hlong fits.1
  | copying n pool staged waiting => rw [hp] at fits; exact hlong fits.1
  -- A block that was installed has the new length, and the others have the old one.
  | installing n installed staged =>
    rw [hp] at fits htarget
    intro k b hb hlive
    rw [(fits.2.1 k b hb).2 hlive]
    split
    · exact htarget n rfl
    · exact hsize
  | unlocking size held =>
    rw [hp] at fits htarget
    cases size with
    | none => exact hlong fits
    | some n =>
      intro k b hb hlive
      have hlength : b.values.length = n := Registry.WellFormed.live_length fits hb hlive
      rw [hlength]
      exact htarget n rfl

/-- A step of a resize keeps its target, gives it up, or makes it the size. -/
theorem le_of_advance {r r' : Registry} {p p' : Phase} (hstep : Advance r p r' p') {m : Nat}
    (hsize : m ≤ r.size) (htarget : ∀ n ∈ p.target, m ≤ n) :
    m ≤ r'.size ∧ ∀ n ∈ p'.target, m ≤ n := by
  have hnone : ∀ n ∈ (none : Option Nat), m ≤ n := fun n hn => by cases hn
  cases hstep with
  | giveUpPool n held hfull => exact ⟨hsize, hnone⟩
  | giveUp n pool staged id waiting hfull => exact ⟨hsize, hnone⟩
  | setSize n => exact ⟨htarget n rfl, hnone⟩
  | _ => exact ⟨hsize, htarget⟩

/-- `Sound` is preserved by every `Step`. -/
theorem Sound.step {m : Nat} {t t' : Traffic} (h : t.Sound m) (hstep : Step t t') :
    t'.Sound m := by
  obtain ⟨fits, hsize, htarget, hsizes⟩ := h
  cases hstep with
  | add hnext hfree =>
    refine ⟨fits.credit hfree, ?_, htarget, hsizes⟩
    rw [Registry.size_credit]
    exact hsize
  | start hidle hnext horder =>
    rename_i n sizes order
    rw [hidle] at fits
    rw [hnext] at hsizes
    refine ⟨⟨fits, fun k => ?_⟩, hsize, fun n' hn' => ?_, fun n' hn' => ?_⟩
    · -- The order has the live blocks, whatever order it is.
      rw [List.nil_append, horder.mem_iff, List.mem_map, Registry.WellFormed.isLive_iff fits]
    · cases hn'
      exact hsizes n List.mem_cons_self
    · exact hsizes n' (List.mem_cons_of_mem n hn')
  | resize hnext =>
    obtain ⟨hsize', htarget'⟩ := le_of_advance hnext hsize htarget
    exact ⟨fits.advance hnext, hsize', htarget', hsizes⟩

theorem Sound.steps {m : Nat} {t t' : Traffic} (h : t.Sound m) (hsteps : Steps t t') :
    t'.Sound m := by
  induction hsteps with
  | refl => exact h
  | tail _ hstep ih => exact ih.step hstep

/-- A property that every `Step` from a `Sound` state preserves holds after any number of steps. -/
theorem Sound.induction {m : Nat} {t t' : Traffic} {P : Traffic → Prop} (h : t.Sound m)
    (hstep : ∀ u u', u.Sound m → Step u u' → P u → P u') (hP : P t) (hsteps : Steps t t') :
    P t' := by
  induction hsteps with
  | refl => exact hP
  | tail hbefore hlast ih => exact hstep _ _ (h.steps hbefore) hlast ih

end Traffic

end CompilerLink.Counter
