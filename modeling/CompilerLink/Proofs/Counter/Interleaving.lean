import CompilerLink.Proofs.Counter.Progress

/-! # No increment is lost

Two things can be said of a traffic at any time, and no step changes them, so at the end they
are what they were at the beginning:

* `Traffic.settled`  the registry once all additions that are left have been credited; a resize
                     never changes how it looks at a counter that no resize cuts off
* `Traffic.outlook`  the registry once the resize in progress and all that are left have been made
                     as well; if no addition is to a counter that a resize cuts off, it stays the
                     same altogether

So whatever the order of steps, it ends as if the additions had been made first and the resizes,
each at a stroke, after them. -/

namespace CompilerLink.Counter

/-! ### What an addition is told -/

namespace Traffic

/-- A `Traffic` in which nothing has been done yet. -/
def start (r : Registry) (threads : List (List Addition)) (sizes : List Nat) : Traffic :=
  { registry := r, sizes, threads }

/-- All additions, those that have been answered and those that are still to be made. -/
def additions (t : Traffic) : List Addition := t.answers.map (·.1) ++ t.threads.flatten

/-- Every addition to one of the first `m` counters of a live block was answered `true`. -/
def Answered (m : Nat) (t : Traffic) : Prop :=
  ∀ e ∈ t.answers, e.1.index < m → t.registry.isLive e.1.id = true → e.2 = true

end Traffic

/-- A `Step` makes each addition once: it moves at most one from its thread to the answers. -/
theorem Step.additions_perm {t t' : Traffic} (hstep : Step t t') :
    t'.additions.Perm t.additions := by
  cases hstep with
  | add hnext hfree =>
    -- The addition moves from the front of its thread to the front of the answers.
    have hperm := (flatten_perm_set hnext).symm.append_left (t.answers.map (·.1))
    exact List.perm_middle.symm.trans hperm
  | start hidle hnext horder => exact List.Perm.refl _
  | resize hnext => exact List.Perm.refl _

theorem Steps.additions_perm {t t' : Traffic} (hsteps : Steps t t') :
    t'.additions.Perm t.additions := by
  induction hsteps with
  | refl => exact List.Perm.refl _
  | tail _ hstep ih => exact hstep.additions_perm.trans ih

/-- `Answered` is preserved by every `Step` from a `Sound` state. -/
theorem Traffic.Answered.step {m : Nat} {t t' : Traffic} (h : t.Answered m) (sound : t.Sound m)
    (hstep : Step t t') : t'.Answered m := by
  intro e he hindex hlive
  -- Which blocks are live does not depend on the step, so the answers so far stand.
  rw [Registry.isLive_eq_true_iff, hstep.liveness_eq, ← Registry.isLive_eq_true_iff] at hlive
  cases hstep with
  | add hnext hfree =>
    rename_i k a rest
    rcases List.mem_cons.1 he with rfl | he
    · -- The block has the counter at any time, also when it has just been cut.
      obtain ⟨b, hb, hblive⟩ := Registry.exists_of_isLive hlive
      have hlength := sound.spans a.id b hb hblive
      show (t.registry.add a.id a.index a.delta).1 = true
      rw [Registry.add_eq hb]
      exact (b.add_fst_eq_true_iff a.index a.delta).2 (Nat.lt_of_lt_of_le hindex hlength)
    · exact h e he hindex hlive
  | start hidle hnext horder => exact h e he hindex hlive
  | resize hnext => exact h e he hindex hlive

/-! ### One counter -/

/-- `Registry.put` does not change the `view` of a counter that the new array has taken over from
the block. -/
theorem Registry.view_put {r : Registry} {id i : Nat} {values : List Int64}
    (h : ∀ b, r.blocks[id]? = some b → values[i]? = b.values[i]?) :
    (r.put id values).view i = r.view i := by
  have hmap : (r.blocks.modify id fun b => { b with values }).map
      (fun b => (b.live, b.included, b.values[i]?)) =
        (r.blocks.map fun b => (b.live, b.included, b.values[i]?)).modify id fun face => face :=
    map_modify fun b hb => by rw [h b hb]
  rw [view, view, put, hmap]
  exact congrArg (Prod.mk _) (List.modify_id id _)

/-- `Advance` does not change the `view` of counter `i`, if neither the size nor the target of the
resize cuts it off. -/
theorem Phase.Fits.view_eq {r r' : Registry} {p p' : Phase} (h : p.Fits r)
    (hstep : Advance r p r' p') {i : Nat} (hsize : i < r.size) (htarget : ∀ n ∈ p.target, i < n) :
    r'.view i = r.view i := by
  -- Only the two steps that install an array touch counters.
  cases hstep with
  | installPool n pool staged =>
    obtain ⟨wf, -, hpool, -⟩ := h
    have hi : i < r.retired.length := wf.retired_length ▸ hsize
    have hretired : pool[i]? = r.retired[i]? := by
      rw [hpool, getElem?_resized_of_lt hi (htarget n rfl)]
    exact congrArg (fun v => (v, (r.view i).2)) hretired
  | install n installed id values staged =>
    obtain ⟨-, hlengths, hlists, hstaged⟩ := h
    have hvalues : values = resized (r.valuesOf id) n := hstaged (id, values) List.mem_cons_self
    have hid : r.isLive id = true :=
      (hlists id).1 (List.mem_append_right _ List.mem_cons_self)
    refine Registry.view_put fun b hb => ?_
    -- The block has the counter, whether it has its new array already or not.
    have hlength := (hlengths id b hb).2 ((Registry.isLive_eq hb).symm.trans hid)
    have hi : i < b.values.length := by
      rw [hlength]
      split
      · exact htarget n rfl
      · exact hsize
    rw [hvalues, Registry.valuesOf_eq hb, getElem?_resized_of_lt hi (htarget n rfl)]
  | _ => rfl

namespace Traffic

/-- The registry once every addition that is left has been credited. -/
def settled (t : Traffic) : Registry := t.registry.creditAll t.threads.flatten

/-- Crediting the next addition of a thread first leaves `settled`, as `creditAll` does not depend
on the order. -/
theorem settled_set {t : Traffic} {k : Nat} {a : Addition} {rest : List Addition}
    (hnext : t.threads[k]? = some (a :: rest)) :
    (t.registry.credit a).creditAll (t.threads.set k rest).flatten = t.settled :=
  (Registry.creditAll_perm (flatten_perm_set hnext) t.registry).symm

/-- The `view` of counter `i` in `settled` is preserved by every `Step`. -/
theorem Sound.view_step {m : Nat} {t t' : Traffic} (h : t.Sound m) (hstep : Step t t') {i : Nat}
    (hi : i < m) : t'.settled.view i = t.settled.view i := by
  cases hstep with
  | add hnext hfree => exact congrArg (Registry.view · i) (settled_set hnext)
  | start hidle hnext horder => rfl
  -- Additions go to the same blocks before and after, so equal views stay equal under `creditAll`.
  | resize hnext =>
    have hsize := Nat.lt_of_lt_of_le hi h.le_size
    have htarget := fun n hn => Nat.lt_of_lt_of_le hi (h.le_target n hn)
    exact Registry.view_creditAll_congr (h.fits.view_eq hnext hsize htarget) t.threads.flatten

theorem Sound.view_steps {m : Nat} {t t' : Traffic} (h : t.Sound m) (hsteps : Steps t t')
    {i : Nat} (hi : i < m) : t'.settled.view i = t.settled.view i :=
  h.induction (P := fun u => u.settled.view i = t.settled.view i)
    (fun _ _ sound hstep hu => (sound.view_step hstep hi).trans hu) rfl hsteps

end Traffic

/-! ### The whole registry -/

/-- The registry once the resize in progress is through: from where it stands, the number of arrays
that it has yet to allocate decides whether it succeeds. -/
def Phase.finish (r : Registry) : Phase → Registry
  | idle => r
  | locking n held waiting => r.attempt n (held.length + waiting.length + 1)
  | copying n _ _ waiting => r.attempt n waiting.length
  | installing n _ _ => r.fitted n
  | unlocking none _ => r
  | unlocking (some n) _ => r.fitted n

namespace Registry

variable {r : Registry}

/-- An `attempt` that has allocated its first array is an `attempt` for one array less. -/
theorem attempt_of_reserved {n : Nat} {left : Option Nat} (h : reserve r.budget n = (true, left))
    (count : Nat) : ({ r with budget := left } : Registry).attempt n count =
      r.attempt n (count + 1) := by
  rw [attempt, attempt, reserveAll, h]
  split <;> rfl

/-- An `attempt` whose first array does not fit leaves everything but the budget. -/
theorem attempt_of_not_reserved {n : Nat} {left : Option Nat}
    (h : reserve r.budget n = (false, left)) (count : Nat) :
    r.attempt n (count + 1) = { r with budget := left } := by
  rw [attempt, reserveAll, h]
  rfl

/-- `fitted` does not see whether the up-to-date array of a block has been installed already. -/
theorem fitted_put {n id : Nat} {values : List Int64} (hid : r.isLive id = true)
    (hvalues : values = resized (r.valuesOf id) n) : (r.put id values).fitted n = r.fitted n := by
  -- Resizing is idempotent, so a block with its new array and one without end up the same.
  have hmap : (r.blocks.modify id fun b => { b with values }).map (·.resizedTo n) =
      (r.blocks.map (·.resizedTo n)).modify id fun b => b := by
    refine map_modify fun b hb => ?_
    have hlive : b.live = true := (isLive_eq hb).symm.trans hid
    have hput : ({ b with values } : Block).resizedTo n = { b with values := resized values n } :=
      Block.resizedTo_of_live (b := { b with values }) hlive n
    rw [hput, hvalues, valuesOf_eq hb, resized_resized, Block.resizedTo_of_live hlive]
  rw [fitted, fitted, put, hmap]
  exact congrArg (fun blocks => { r.fitted n with blocks }) (List.modify_id id _)

end Registry

theorem Phase.finish_credit (p : Phase) {r : Registry} {m : Nat} {a : Addition}
    (h : r.Spans m) (hindex : a.index < m) :
    p.finish (r.credit a) = (p.finish r).credit a := by
  -- What is left to do is a resize, the installation of what was staged, or the unlocking.
  cases p with
  | idle => rfl
  | locking n held waiting => exact Registry.attempt_credit h hindex n _
  | copying n pool staged waiting => exact Registry.attempt_credit h hindex n _
  | installing n installed staged => exact Registry.fitted_credit h hindex n
  | unlocking size held =>
    cases size with
    | none => rfl
    | some n => exact Registry.fitted_credit h hindex n

/-- `Phase.finish_credit` for a list of additions. -/
theorem Phase.finish_creditAll (p : Phase) {r : Registry} {m : Nat} {adds : List Addition}
    (h : r.Spans m) (hadds : ∀ a ∈ adds, a.index < m) :
    p.finish (r.creditAll adds) = (p.finish r).creditAll adds := by
  induction adds generalizing r with
  | nil => rfl
  | cons a adds ih =>
    have hrest : ∀ c ∈ adds, c.index < m := fun c hc => hadds c (List.mem_cons_of_mem a hc)
    show p.finish ((r.credit a).creditAll adds) = ((p.finish r).credit a).creditAll adds
    rw [ih (h.credit a) hrest, p.finish_credit h (hadds a List.mem_cons_self)]

/-- `Phase.finish` is invariant under `Advance`. -/
theorem Phase.Fits.finish_eq {r r' : Registry} {p p' : Phase} (h : p.Fits r)
    (hstep : Advance r p r' p') : p'.finish r' = p.finish r := by
  -- Locks and copies do not change what is to come; each array that is allocated is one less to
  -- allocate.
  cases hstep with
  | lock n held id waiting =>
    have hcount : (held ++ [id]).length + waiting.length + 1 =
        held.length + (id :: waiting).length + 1 := by
      rw [List.length_append, List.length_cons, List.length_cons, List.length_nil]
      omega
    exact congrArg (r.attempt n) hcount
  | copyPool n held hfits => exact Registry.attempt_of_reserved hfits held.length
  | giveUpPool n held hfull =>
    exact (Registry.attempt_of_not_reserved hfull held.length).symm
  | copy n pool staged id waiting hfits =>
    exact Registry.attempt_of_reserved hfits waiting.length
  | giveUp n pool staged id waiting hfull =>
    exact (Registry.attempt_of_not_reserved hfull waiting.length).symm
  | installPool n pool staged =>
    have hretired : resized pool n = resized r.retired n := by rw [h.2.2.1, resized_resized]
    exact congrArg (fun retired => { r.fitted n with retired }) hretired
  | install n installed id values staged =>
    obtain ⟨-, -, hlists, hstaged⟩ := h
    exact Registry.fitted_put ((hlists id).1 (List.mem_append_right _ List.mem_cons_self))
      (hstaged (id, values) List.mem_cons_self)
  | release n installed => rfl
  | unlock size id held => cases size <;> rfl
  | setSize n => exact (Registry.WellFormed.fitted_size h).symm
  | leave => rfl

/-- `resize` to each of `sizes`, one after the other. -/
def Registry.resizeInTurn (r : Registry) (sizes : List Nat) : Registry :=
  sizes.foldl (fun r n => (r.resize n).state) r

namespace Traffic

/-- The registry once everything that is left has been done: first the additions, then
the resizes. -/
def outlook (t : Traffic) : Registry := (t.phase.finish t.settled).resizeInTurn t.sizes

/-- `outlook` is preserved by every `Step`, if no addition is to a counter that a resize
cuts off. -/
theorem Sound.outlook_step {m : Nat} {t t' : Traffic} (h : t.Sound m)
    (hadds : ∀ a ∈ t.threads.flatten, a.index < m) (hstep : Step t t') :
    t'.outlook = t.outlook := by
  have sound' := h.step hstep
  cases hstep with
  | add hnext hfree =>
    exact congrArg (fun r => (t.phase.finish r).resizeInTurn t.sizes) (settled_set hnext)
  | start hidle hnext horder =>
    rename_i n sizes order
    -- There is an array to allocate for the pool and one for each block of the order.
    have hcount : order.length + 1 = 1 + t.settled.liveCount := by
      have := horder.length_eq
      rw [List.length_map, ← Registry.liveCount] at this
      rw [settled, Registry.liveCount_creditAll, this, Nat.add_comm]
    rw [outlook, outlook, hidle, hnext]
    show (t.settled.attempt n (0 + order.length + 1)).resizeInTurn sizes =
      (t.settled.resize n).state.resizeInTurn sizes
    rw [(t.settled.resize_eq n).1, Nat.zero_add, hcount]
  | resize hnext =>
    rename_i r' p'
    -- The additions to come can wait until the resize is through, before and after this step.
    have hbefore := t.phase.finish_creditAll h.spans hadds
    have hafter := p'.finish_creditAll sound'.spans hadds
    rw [h.fits.finish_eq hnext, ← hbefore] at hafter
    exact congrArg (·.resizeInTurn t.sizes) hafter

theorem Sound.outlook_steps {m : Nat} {t t' : Traffic} (h : t.Sound m)
    (hadds : ∀ a ∈ t.additions, a.index < m) (hsteps : Steps t t') :
    t'.outlook = t.outlook := by
  -- What is left to be added has been there from the beginning.
  refine (h.induction (P := fun u => (∀ a ∈ u.additions, a.index < m) ∧ u.outlook = t.outlook)
    (fun u u' sound hstep hu => ⟨fun a ha => ?_, ?_⟩) ⟨hadds, rfl⟩ hsteps).2
  · exact hu.1 a (hstep.additions_perm.mem_iff.1 ha)
  · refine (sound.outlook_step (fun a ha => ?_) hstep).trans hu.2
    exact hu.1 a (List.mem_append_right _ ha)

/-! ### Every order of steps -/

/-- A traffic that starts on a `WellFormed` registry is `Sound`. -/
theorem Sound.start {r : Registry} (wf : r.WellFormed) {sizes : List Nat} {m : Nat}
    (hbounds : ∀ n ∈ r.size :: sizes, m ≤ n) (threads : List (List Addition)) :
    (start r threads sizes).Sound m where
  fits := wf
  le_size := hbounds r.size List.mem_cons_self
  le_target n hn := by cases hn
  le_sizes n hn := hbounds n (List.mem_cons_of_mem _ hn)

/-- In a `Finished` traffic `settled` is the registry. -/
theorem Finished.settled_eq {t : Traffic} (h : t.Finished) : t.settled = t.registry := by
  rw [settled, h.no_additions]
  rfl

/-- In a `Finished` traffic `outlook` is the registry. -/
theorem Finished.outlook_eq {t : Traffic} (h : t.Finished) : t.outlook = t.registry := by
  rw [outlook, h.settled_eq, h.idle, h.no_sizes]
  rfl

/-- Left alone, resizes made step by step are `resizeInTurn`. -/
theorem registry_eq_of_no_threads {r : Registry} (wf : r.WellFormed) {sizes : List Nat}
    {t : Traffic} (hsteps : Steps (start r [] sizes) t) (hfinished : t.Finished) :
    t.registry = r.resizeInTurn sizes := by
  have sound : (start r [] sizes).Sound 0 := Sound.start wf (fun n _ => Nat.zero_le n) []
  rw [← hfinished.outlook_eq]
  exact sound.outlook_steps (fun a ha => absurd ha List.not_mem_nil) hsteps

/-- Whatever the order of steps, no addition to counter `i` of a block is lost, and all runs of a
traffic end with the same registry. -/
structure NothingLost (r : Registry) (threads : List (List Addition)) (sizes : List Nat)
    (i : Nat) : Prop where
  /-- Every addition to the counter of a live block is answered `true`. -/
  answered : ∀ t, Steps (start r threads sizes) t → ∀ e ∈ t.answers, e.1.index = i →
    r.isLive e.1.id = true → e.2 = true
  /-- No sequence of states is a `Step` forever. -/
  ends : ∀ run : Nat → Traffic, run 0 = start r threads sizes →
    ∃ k, ¬ Step (run k) (run (k + 1))
  /-- A state from which no `Step` leads is `Finished`. -/
  completes : ∀ t, Steps (start r threads sizes) t → (¬ ∃ t', Step t t') → t.Finished
  /-- Each addition was made once. -/
  made : ∀ t, Steps (start r threads sizes) t → t.Finished →
    (t.answers.map (·.1)).Perm threads.flatten
  /-- The counter of a block has all deltas added to what it was, wrapped around. -/
  counter_eq : ∀ t, Steps (start r threads sizes) t → t.Finished → ∀ k,
    t.registry.counter k i =
      (r.counter k i).map fun v =>
        Int64.ofInt (v.toInt + (Registry.deltasAt k i threads.flatten).sum)
  /-- The pool has what it had. -/
  retired_eq : ∀ t, Steps (start r threads sizes) t → t.Finished →
    t.registry.retired[i]? = r.retired[i]?
  /-- The total is the one that `creditAll` would have led to without resizes. -/
  totals_eq : ∀ t, Steps (start r threads sizes) t → t.Finished →
    t.registry.totals[i]? = (r.creditAll threads.flatten).totals[i]?
  /-- If the other additions are to counters that are never cut off either, the whole registry is
  that of `creditAll` followed by `resizeInTurn`. -/
  registry_eq : (∀ a ∈ threads.flatten, ∀ n ∈ r.size :: sizes, a.index < n) →
    ∀ t, Steps (start r threads sizes) t → t.Finished →
      t.registry = (r.creditAll threads.flatten).resizeInTurn sizes

/-- A number that is above all indices of additions and not above any of the bounds. -/
theorem exists_bound {adds : List Addition} {bounds : List Nat}
    (h : ∀ a ∈ adds, ∀ n ∈ bounds, a.index < n) :
    ∃ m, (∀ a ∈ adds, a.index < m) ∧ ∀ n ∈ bounds, m ≤ n := by
  induction adds with
  | nil => exact ⟨0, fun a ha => absurd ha List.not_mem_nil, fun n _ => Nat.zero_le n⟩
  | cons a adds ih =>
    obtain ⟨m, hadds, hbounds⟩ := ih fun c hc => h c (List.mem_cons_of_mem a hc)
    -- The bound is just above the greatest index, so it exceeds no bound that all indices are
    -- below.
    refine ⟨max m (a.index + 1), fun c hc => ?_, fun n hn => ?_⟩
    · rcases List.mem_cons.1 hc with rfl | hc
      · omega
      · have := hadds c hc
        omega
    · have h1 := hbounds n hn
      have h2 := h a List.mem_cons_self n hn
      omega

/-- `NothingLost` holds from every state that a registry can reach, for resizes that leave counter
`i` in place. -/
theorem nothingLost_of_run {size : Nat} {excludeCompiler : Bool} {r : Registry}
    (hr : Registry.create size excludeCompiler = .ok r) (pause : Pause) (ops : List Operation)
    (threads : List (List Addition)) {sizes : List Nat} {i : Nat}
    (hi : i < ((Session.start pause r).run ops).registry.size) (hsizes : ∀ n ∈ sizes, i < n) :
    NothingLost ((Session.start pause r).run ops).registry threads sizes i := by
  have wf := ((Session.Sound.start hr pause).run ops).wf
  generalize ((Session.start pause r).run ops).registry = r at wf hi
  have sound : (start r threads sizes).Sound (i + 1) := by
    refine Sound.start wf (fun n hn => ?_) threads
    rcases List.mem_cons.1 hn with rfl | hn
    · exact hi
    · exact hsizes n hn
  -- At the end counter `i` looks as if the additions had just been made.
  have hview : ∀ t, Steps (start r threads sizes) t → t.Finished →
      t.registry.view i = (r.creditAll threads.flatten).view i := by
    intro t hsteps hfinished
    rw [← hfinished.settled_eq]
    exact sound.view_steps hsteps (Nat.lt_succ_self i)
  exact
    { answered := fun t hsteps e he hindex hlive => by
        -- The invariant `Answered` starts with no entries and is preserved by every step.
        have hanswered : t.Answered (i + 1) :=
          sound.induction (fun _ _ sound hstep hu => hu.step sound hstep)
            (fun e he => absurd he List.not_mem_nil) hsteps
        exact hanswered e he (by omega) ((hsteps.isLive_eq e.1.id).trans hlive)
      ends := fun run _ => exists_not_step run
      completes := fun t _ hstuck => by
        by_contra hnot
        exact hstuck (exists_step hnot)
      made := fun t hsteps hfinished => by
        have hperm := hsteps.additions_perm
        rw [additions, hfinished.no_additions, List.append_nil] at hperm
        exact hperm
      counter_eq := fun t hsteps hfinished k => by
        rw [Registry.counter_eq_of_view (hview t hsteps hfinished), Registry.counter_creditAll]
      retired_eq := fun t hsteps hfinished => by
        have hpool := congrArg Prod.fst (hview t hsteps hfinished)
        exact hpool.trans (by rw [Registry.view, Registry.retired_creditAll])
      totals_eq := fun t hsteps hfinished => by
        refine Registry.totals_eq_of_view (hview t hsteps hfinished) ?_ ?_
        · exact (sound.steps hsteps).le_size
        · rw [Registry.size_creditAll]
          exact hi
      registry_eq := fun hadds t hsteps hfinished => by
        -- One bound serves all counters, so the registries agree and not only their views of
        -- counter `i`.
        obtain ⟨m, hindex, hbounds⟩ := exists_bound hadds
        rw [← hfinished.outlook_eq]
        exact (Sound.start wf hbounds threads).outlook_steps hindex hsteps }

/-- `nothingLost_of_run` applies to three threads that add to two blocks while the counters grow and
shrink again. -/
theorem nothingLost_of_three_threads :
    Registry.create 2 false = .ok (Registry.empty 2 false) ∧
      1 < ((Session.start {} (Registry.empty 2 false)).run
        [.attach false, .attach true, .add 0 1 5]).registry.size ∧
      (∀ n ∈ [4, 2], 1 < n) ∧
      NothingLost ((Session.start {} (Registry.empty 2 false)).run
        [.attach false, .attach true, .add 0 1 5]).registry
        [[⟨0, 1, 7⟩, ⟨1, 0, 1⟩], [⟨0, 1, -3⟩], [⟨1, 1, 2⟩]] [4, 2] 1 :=
  ⟨rfl, by decide, by decide,
    nothingLost_of_run (rfl : Registry.create 2 false = _) _ _ _ (by decide) (by decide)⟩

end Traffic

end CompilerLink.Counter
