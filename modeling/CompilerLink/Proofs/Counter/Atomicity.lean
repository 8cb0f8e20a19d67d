import CompilerLink.Link.Threads
import CompilerLink.Proofs.Counter.Representation

/-! # Resizes are all or nothing

A paused resize needs one array for the pool and one for every live block. It succeeds exactly if
all of them can be allocated; then the pool and the live blocks keep what fits of their counters. If
one of them cannot be allocated, nothing but the budget is used up, so later operations cannot tell
that the resize was tried. -/

namespace CompilerLink.Counter

/-- `resized values n` spelled out for an array of length `old`: the counters below both lengths,
then zeros. -/
theorem resized_eq_take_min {values : List Int64} {old : Nat} (h : values.length = old) (n : Nat) :
    resized values n = values.take (min old n) ++ List.replicate (n - min old n) 0 := by
  rw [resized, h]
  -- A shorter array loses its end; a longer one keeps all and gets zeros.
  by_cases hn : n ≤ old
  · rw [Nat.min_eq_right hn, Nat.sub_eq_zero_of_le hn, Nat.sub_self]
  · rw [Nat.min_eq_left (by omega), List.take_of_length_le (by omega),
      List.take_of_length_le (by omega)]

namespace Registry

/-- The registry `r'` is `r` with the pool and all live blocks cut or filled up to `n`, while
`blocks` that have been retired are as they were. -/
structure CutTo (r r' : Registry) (n : Nat) : Prop where
  size_eq : r'.size = n
  retired_eq : r'.retired =
    r.retired.take (min r.size n) ++ List.replicate (n - min r.size n) 0
  length_eq : r'.blocks.length = r.blocks.length
  live_eq : ∀ (k : Nat) (b : Block), r.blocks[k]? = some b → b.live = true →
    r'.blocks[k]? = some
      { b with
        values := b.values.take (min r.size n) ++ List.replicate (n - min r.size n) 0 }
  dead_eq : ∀ (k : Nat) (b : Block), r.blocks[k]? = some b → b.live = false →
    r'.blocks[k]? = some b

/-- `resizedTo n` is what `CutTo` says, as in a `WellFormed` registry the pool and the live blocks
have the old length. -/
theorem WellFormed.cutTo {r : Registry} (wf : r.WellFormed) (n : Nat) :
    r.CutTo (r.resizedTo n) n where
  size_eq := rfl
  retired_eq := resized_eq_take_min wf.retired_length n
  length_eq := List.length_map ..
  live_eq k b hb hlive := by
    rw [Registry.resizedTo, Registry.fitted, List.getElem?_map, hb, Option.map_some,
      Block.resizedTo_of_live hlive, resized_eq_take_min (wf.live_length hb hlive)]
  dead_eq k b hb hlive := by
    rw [Registry.resizedTo, Registry.fitted, List.getElem?_map, hb, Option.map_some,
      Block.resizedTo_of_not_live hlive]

/-- `resize` leaves a retired block as it is, whether it succeeds or not. -/
theorem getElem?_resize_of_not_live {r : Registry} {k : Nat} {b : Block}
    (hb : r.blocks[k]? = some b) (hlive : b.live = false) (n : Nat) :
    (r.resize n).state.blocks[k]? = some b := by
  -- By what each of the two outcomes of `resize` leaves.
  by_cases h : r.HasRoom n
  · rw [(resize_of_hasRoom h).2, resizedTo, fitted, List.getElem?_map, hb, Option.map_some,
      Block.resizedTo_of_not_live hlive]
  · obtain ⟨-, left, hleft⟩ := resize_of_not_hasRoom h
    rw [hleft]
    exact hb

/-- `resize n` succeeds exactly if the registry `HasRoom n`. -/
theorem resize_value_eq_ok_iff (r : Registry) (n : Nat) :
    (r.resize n).value = .ok () ↔ r.HasRoom n := by
  by_cases h : r.HasRoom n
  · exact iff_of_true (resize_of_hasRoom h).1 h
  · rw [(resize_of_not_hasRoom h).1]
    exact iff_of_false (fun hok => nomatch hok) h

end Registry

namespace Session

/-! ### Who pauses -/

theorem coordinator_perform (s : Session) (op : Operation) :
    (s.perform op).pause.coordinator = s.pause.coordinator := by
  cases op with
  | add id index delta => rw [perform]; split <;> rfl
  | free id => rw [perform]; split <;> rfl
  -- Only a resize goes through the pause.
  | resize n => exact s.registry.coordinator_resizeAll s.pause n
  | _ => rfl

theorem coordinator_run (s : Session) (ops : List Operation) :
    (s.run ops).pause.coordinator = s.pause.coordinator :=
  run_induction (P := fun s' => s'.pause.coordinator = s.pause.coordinator)
    (fun s' op h => (coordinator_perform s' op).trans h) ops s rfl

/-! ### The whole resize -/

/-- What `resizeAll` to `n` counters does in the present state: `HasRoom` holds, or nothing but the
`budget` changes. -/
structure AllOrNothing (s : Session) (n : Nat) : Prop where
  /-- `HasRoom` spelled out: the length is below the array limit, and the budget has one array for
  the pool and one for each live block. -/
  ok_iff : (s.registry.resizeAll s.pause n).value = .ok () ↔
    n < 2 ^ 44 ∧ ∀ k, s.registry.budget = some k → 1 + s.registry.liveCount ≤ k
  of_ok : (s.registry.resizeAll s.pause n).value = .ok () →
    s.registry.CutTo (s.registry.resizeAll s.pause n).state.2 n
  /-- A failure names the length that was asked for and uses up nothing but `budget`. -/
  of_not_ok : (s.registry.resizeAll s.pause n).value ≠ .ok () →
    (s.registry.resizeAll s.pause n).value = .error (.noRoom n) ∧
      ∃ left, (s.registry.resizeAll s.pause n).state.2 = { s.registry with budget := left }
  /-- Once `setBudget` is called, `resizeAll` does what it would have done if the failed call had
  not been made. -/
  retry : (s.registry.resizeAll s.pause n).value ≠ .ok () → ∀ allowed pause m,
    ((s.registry.resizeAll s.pause n).state.2.setBudget allowed).resizeAll pause m =
      (s.registry.setBudget allowed).resizeAll pause m
  count_eq : (s.registry.resizeAll s.pause n).state.1.count = s.pause.count + 1
  /-- Retired blocks are kept in either case. -/
  freed_eq : ∀ (k : Nat) (b : Block), s.registry.blocks[k]? = some b → b.live = false →
    (s.registry.resizeAll s.pause n).state.2.blocks[k]? = some b
  /-- `Link.resizeCounters` of a link with these counters tells the same. -/
  link_iff : ∀ {η : Type} (l : Link η), l.counters = s.registry → l.pause = s.pause →
    ((l.resizeCounters n).value = true ↔ (s.registry.resizeAll s.pause n).value = .ok ())

/-- A paused resize is `AllOrNothing` in every state that a registry can reach, if the pause is that
of a safepoint. -/
theorem allOrNothing_of_run {size : Nat} {excludeCompiler : Bool} {r : Registry}
    (hr : Registry.create size excludeCompiler = .ok r) {pause : Pause}
    (hpause : pause.coordinator = .safepoint) (ops : List Operation) (n : Nat) :
    ((Session.start pause r).run ops).AllOrNothing n := by
  have wf := ((Sound.start hr pause).run ops).wf
  have hsafe := (coordinator_run (Session.start pause r) ops).trans hpause
  -- From here on only `WellFormed` and the coordinator are known of the state.
  generalize (Session.start pause r).run ops = s at wf hsafe
  obtain ⟨hvalue, hcount, hstate⟩ := s.registry.resizeAll_safepoint hsafe n
  have hroom : s.registry.HasRoom n ↔
      n < 2 ^ 44 ∧ ∀ k, s.registry.budget = some k → 1 + s.registry.liveCount ≤ k := Iff.rfl
  have hfail : (s.registry.resize n).value ≠ .ok () → ¬ s.registry.HasRoom n :=
    fun hne h => hne (Registry.resize_of_hasRoom h).1
  exact
    { ok_iff := by rw [hvalue, Registry.resize_value_eq_ok_iff, hroom]
      of_ok := fun hok => by
        rw [hvalue, Registry.resize_value_eq_ok_iff] at hok
        rw [hstate, (Registry.resize_of_hasRoom hok).2]
        exact wf.cutTo n
      of_not_ok := fun hne => by
        rw [hvalue] at hne ⊢
        rw [hstate]
        exact Registry.resize_of_not_hasRoom (hfail hne)
      retry := fun hne allowed pause m => by
        rw [hvalue] at hne
        -- All that the failed resize changed is the budget, which is set anew.
        obtain ⟨-, left, hleft⟩ := Registry.resize_of_not_hasRoom (hfail hne)
        rw [hstate, hleft]
        rfl
      count_eq := by rw [hcount]
      freed_eq := fun k b hb hlive => by
        rw [hstate]
        exact Registry.getElem?_resize_of_not_live hb hlive n
      link_iff := fun l hcounters hpause => by
        rw [Link.resizeCounters, hcounters, hpause]
        cases (s.registry.resizeAll s.pause n).value with
        | ok answer => exact iff_of_true rfl rfl
        | error fault => exact iff_of_false Bool.false_ne_true fun h => nomatch h }

/-- With two live blocks a budget of two arrays is one too few: `AllOrNothing` at a failure. -/
theorem allOrNothing_of_short_budget :
    Registry.create 2 false = .ok (Registry.empty 2 false) ∧
      ({} : Pause).coordinator = .safepoint ∧
      ((Session.start {} (Registry.empty 2 false)).run
        [.attach false, .attach true, .attach false, .add 1 1 5, .free 0,
          .limit (some 2)]).AllOrNothing 4 :=
  ⟨rfl, rfl, allOrNothing_of_run (rfl : Registry.create 2 false = _) rfl _ 4⟩

end Session

end CompilerLink.Counter
