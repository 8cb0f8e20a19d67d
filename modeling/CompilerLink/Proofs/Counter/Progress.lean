import CompilerLink.Proofs.Counter.Traffic

/-! # Traffic comes to an end

Every step brings a traffic nearer to its end: additions and sizes are used up, and a resize has no
more than four steps for each live block and four of its own. A state from which no step leads is
finished, so nothing is ever blocked for good. -/

namespace CompilerLink.Counter

/-! ### Live blocks stay the same -/

/-- A step of a resize neither attaches nor frees a block. -/
theorem Advance.liveness_eq {r r' : Registry} {p p' : Phase} (hstep : Advance r p r' p') :
    r'.liveness = r.liveness := by
  cases hstep with
  | install n installed id values staged => exact r.liveness_put id values
  | _ => rfl

/-- A `Step` neither attaches nor frees a block. -/
theorem Step.liveness_eq {t t' : Traffic} (hstep : Step t t') :
    t'.registry.liveness = t.registry.liveness := by
  cases hstep with
  | add hnext hfree => exact t.registry.liveness_credit _
  | start hidle hnext horder => rfl
  | resize hnext => exact hnext.liveness_eq

/-- `Step.liveness_eq` along any number of steps, for one block. -/
theorem Steps.isLive_eq {t t' : Traffic} (hsteps : Steps t t') (k : Nat) :
    t'.registry.isLive k = t.registry.isLive k := by
  induction hsteps with
  | refl => rfl
  | tail _ hstep ih =>
    rw [← ih, Bool.eq_iff_iff, Registry.isLive_eq_true_iff, Registry.isLive_eq_true_iff,
      hstep.liveness_eq]

/-! ### What is left to do -/

/-- A bound on the steps that are left of the resize in progress: a block that waits for its lock
has four steps before it, one that is held three, and so on down to the one step of unlocking. -/
def Phase.cost : Phase → Nat
  | idle => 0
  | locking _ held waiting => waiting.length + 3 * (held.length + waiting.length) + 4
  | copying _ _ staged waiting => waiting.length + 2 * (staged.length + waiting.length) + 3
  | installing _ installed staged => 2 * staged.length + installed.length + 2
  | unlocking _ held => held.length + 1

/-- A bound on the steps that are left: each addition takes one, each resize four for each live
block and five of its own. -/
def Traffic.cost (t : Traffic) : Nat :=
  t.threads.flatten.length + t.sizes.length * (4 * t.registry.liveCount + 5) + t.phase.cost

/-- `Phase.cost` decreases with every step of a resize. -/
theorem Advance.cost_lt {r r' : Registry} {p p' : Phase} (hstep : Advance r p r' p') :
    p'.cost < p.cost := by
  -- Each step takes a block, the pool or the phase off what is still to be done.
  cases hstep with
  | lock n held id waiting =>
    simp only [Phase.cost, List.length_append, List.length_cons, List.length_nil]
    omega
  | copyPool n held hfits =>
    simp only [Phase.cost, List.length_nil]
    omega
  | giveUpPool n held hfull =>
    simp only [Phase.cost, List.length_nil]
    omega
  | copy n pool staged id waiting hfits =>
    simp only [Phase.cost, List.length_append, List.length_cons, List.length_nil]
    omega
  | giveUp n pool staged id waiting hfull =>
    simp only [Phase.cost, List.length_append, List.length_map, List.length_cons]
    omega
  | installPool n pool staged =>
    simp only [Phase.cost, List.length_nil]
    omega
  | install n installed id values staged =>
    simp only [Phase.cost, List.length_append, List.length_cons, List.length_nil]
    omega
  | release n installed =>
    simp only [Phase.cost, List.length_nil]
    omega
  | unlock size id held =>
    simp only [Phase.cost, List.length_cons]
    omega
  | setSize n => exact Nat.zero_lt_one
  | leave => exact Nat.zero_lt_one

/-- A resize in progress can always go on, as it waits for nobody. -/
theorem exists_advance (r : Registry) {p : Phase} (hbusy : p ≠ .idle) :
    ∃ r' p', Advance r p r' p' := by
  cases p with
  | idle => exact absurd rfl hbusy
  | locking n held waiting =>
    cases waiting with
    | nil =>
      -- Whether there is room for the pool decides which of two steps it is.
      rcases hres : reserve r.budget n with ⟨_ | _, left⟩
      · exact ⟨_, _, .giveUpPool n held hres⟩
      · exact ⟨_, _, .copyPool n held hres⟩
    | cons id waiting => exact ⟨_, _, .lock n held id waiting⟩
  | copying n pool staged waiting =>
    cases waiting with
    | nil => exact ⟨_, _, .installPool n pool staged⟩
    | cons id waiting =>
      -- The same for the array of the next block.
      rcases hres : reserve r.budget n with ⟨_ | _, left⟩
      · exact ⟨_, _, .giveUp n pool staged id waiting hres⟩
      · exact ⟨_, _, .copy n pool staged id waiting hres⟩
  | installing n installed staged =>
    cases staged with
    | nil => exact ⟨_, _, .release n installed⟩
    | cons c staged => exact ⟨_, _, .install n installed c.1 c.2 staged⟩
  | unlocking size held =>
    cases held with
    | cons id held => exact ⟨_, _, .unlock size id held⟩
    | nil =>
      cases size with
      | none => exact ⟨_, _, .leave⟩
      | some n => exact ⟨_, _, .setSize n⟩

/-- Taking the first addition of a thread takes one addition from the `flatten` of all threads. -/
theorem flatten_perm_set {threads : List (List Addition)} {k : Nat} {a : Addition}
    {rest : List Addition} (hnext : threads[k]? = some (a :: rest)) :
    threads.flatten.Perm (a :: (threads.set k rest).flatten) := by
  induction threads generalizing k with
  | nil => cases hnext
  | cons thread threads ih =>
    cases k with
    | zero =>
      rw [List.getElem?_cons_zero, Option.some.injEq] at hnext
      rw [hnext]
      exact List.Perm.refl _
    | succ k =>
      rw [List.getElem?_cons_succ] at hnext
      rw [List.set_cons_succ, List.flatten_cons, List.flatten_cons]
      -- What stands before it in other threads is passed over.
      exact ((ih hnext).append_left thread).trans List.perm_middle

/-- `Traffic.cost` decreases with every `Step`. -/
theorem Step.cost_lt {t t' : Traffic} (hstep : Step t t') : t'.cost < t.cost := by
  have hlive : t'.registry.liveCount = t.registry.liveCount := by
    rw [Registry.liveCount_eq_count, Registry.liveCount_eq_count, hstep.liveness_eq]
  -- The live blocks stay the same, so every resize to come costs the same before and after.
  rw [Traffic.cost, Traffic.cost, hlive]
  generalize hsize : 4 * t.registry.liveCount + 5 = each
  cases hstep with
  | add hnext hfree =>
    have hlength := (flatten_perm_set hnext).length_eq
    rw [List.length_cons] at hlength
    dsimp only
    omega
  -- The resize that starts is paid for by the size it takes off the list.
  | start hidle hnext horder =>
    have horder' := horder.length_eq
    rw [List.length_map, ← Registry.liveCount] at horder'
    rw [hidle, hnext, List.length_cons, Nat.succ_mul]
    simp only [Phase.cost, List.length_nil]
    omega
  | resize hnext =>
    have hcost := hnext.cost_lt
    dsimp only
    omega

/-- No sequence of states is a `Step` forever. -/
theorem exists_not_step (run : Nat → Traffic) : ∃ k, ¬ Step (run k) (run (k + 1)) := by
  by_contra hall
  rw [not_exists_not] at hall
  -- After more steps than the first state can pay for, the cost would be negative.
  have hcost : ∀ k, (run k).cost + k ≤ (run 0).cost := by
    intro k
    induction k with
    | zero => exact Nat.le_refl _
    | succ k ih =>
      have := (hall k).cost_lt
      omega
  have := hcost ((run 0).cost + 1)
  omega

/-- From a state that is not `Finished` there is a `Step`. -/
theorem exists_step {t : Traffic} (h : ¬ t.Finished) : ∃ t', Step t t' := by
  by_cases hidle : t.phase = .idle
  · cases hsizes : t.sizes with
    | cons n sizes => exact ⟨_, .start hidle hsizes (List.Perm.refl _)⟩
    | nil =>
      have hadds : t.threads.flatten ≠ [] := fun hnil => h ⟨hidle, hsizes, hnil⟩
      obtain ⟨a, ha⟩ := List.exists_mem_of_ne_nil _ hadds
      obtain ⟨thread, hthread, hmem⟩ := List.mem_flatten.1 ha
      obtain ⟨k, hk⟩ := List.getElem?_of_mem hthread
      cases thread with
      | nil => exact absurd hmem List.not_mem_nil
      | cons first rest =>
        -- Nothing is locked between two resizes.
        exact ⟨_, .add hk (by rw [hidle]; exact List.not_mem_nil)⟩
  · obtain ⟨r', p', hnext⟩ := exists_advance t.registry hidle
    exact ⟨_, .resize hnext⟩

end CompilerLink.Counter
