import CompilerLink.Counter.Resize
import CompilerLink.Proofs.Counter.Sum

/-! # What a resize does

Staging needs one array for the pool and one for each live block. `Registry.HasRoom` says when all
of them can be allocated, and `Registry.resizedTo` is the registry that a resize then leaves.
Without room nothing is installed, whichever array is the first that cannot be allocated:

* `stage_eq`               staging is allocating the arrays and filling them
* `resize_eq`              the answer and the registry left by a resize, by what was allocated
* `resize_of_hasRoom`      the answer and the registry left by a resize that has room
* `resize_of_not_hasRoom`  the answer and the registry left by a resize that has none -/

namespace CompilerLink.Counter

/-! ### Staging -/

/-- `reserve` for `count` arrays of `n` counters in a row: whether there is room for all, and the
budget left. -/
def reserveAll (n : Nat) : Nat → Option Nat → Bool × Option Nat
  | 0, budget => (true, budget)
  | count + 1, budget =>
    match reserve budget n with
    | (true, left) => reserveAll n count left
    | (false, left) => (false, left)

/-- `reserve` succeeds if the array is short enough and the budget has `count + 1` arrays, and uses
up one of them. -/
theorem reserve_of_room {budget : Option Nat} {n count : Nat} (hn : n < arrayLimit)
    (hbudget : ∀ k ∈ budget, count + 1 ≤ k) :
    reserve budget n = (true, budget.map (· - 1)) := by
  cases budget with
  | none => simp [reserve, hn]
  | some k =>
    have hk : count + 1 ≤ k := hbudget k rfl
    obtain ⟨k, rfl⟩ : ∃ j, k = j + 1 := ⟨k - 1, by omega⟩
    simp [reserve, hn]

/-- `reserve` succeeds only for an array below `arrayLimit` and a budget of one array at least; the
inverse of `reserve_of_room`. -/
theorem reserve_eq_true {budget left : Option Nat} {n : Nat}
    (h : reserve budget n = (true, left)) :
    n < arrayLimit ∧ (∀ k ∈ budget, 1 ≤ k) ∧ left = budget.map (· - 1) := by
  cases budget with
  | none =>
    simp only [reserve, Prod.mk.injEq, decide_eq_true_eq] at h
    obtain ⟨hn, rfl⟩ := h
    exact ⟨hn, by simp, rfl⟩
  | some k =>
    -- An exhausted budget refuses; any other one loses an array.
    cases k with
    | zero => simp [reserve] at h
    | succ k =>
      simp only [reserve, Prod.mk.injEq, decide_eq_true_eq] at h
      obtain ⟨hn, rfl⟩ := h
      exact ⟨hn, by simp, rfl⟩

/-- `reserveAll` succeeds if the length is below `arrayLimit` and the budget has `count` arrays. -/
theorem reserveAll_of_room {n : Nat} (hn : n < arrayLimit) (count : Nat) (budget : Option Nat)
    (hbudget : ∀ k ∈ budget, count ≤ k) :
    reserveAll n count budget = (true, budget.map (· - count)) := by
  induction count generalizing budget with
  | zero => cases budget <;> rfl
  | succ count ih =>
    -- One array less is left to be allocated, and one allocation less is left to do so.
    have hrest : ∀ k ∈ budget.map (· - 1), count ≤ k := by
      intro k hk
      obtain ⟨j, hj, rfl⟩ := Option.map_eq_some_iff.1 hk
      have := hbudget j hj
      omega
    rw [reserveAll, reserve_of_room hn hbudget]
    show reserveAll n count (budget.map (· - 1)) = _
    rw [ih _ hrest, Option.map_map]
    congr 2
    funext k
    show k - 1 - count = k - (count + 1)
    omega

/-- `reserveAll` fails if not, whichever array is the first that cannot be had. Without arrays to
allocate it would succeed, hence `hpos`. -/
theorem reserveAll_of_no_room {n count : Nat} (hpos : count ≠ 0) (budget : Option Nat)
    (h : ¬ (n < arrayLimit ∧ ∀ k ∈ budget, count ≤ k)) :
    (reserveAll n count budget).1 = false := by
  induction count generalizing budget with
  | zero => exact absurd rfl hpos
  | succ count ih =>
    rw [reserveAll]
    -- Either the first array is had and the induction hypothesis is about the rest, or it fails
    -- right away.
    split
    · rename_i left hres
      obtain ⟨hn, hone, rfl⟩ := reserve_eq_true hres
      -- The first array has been allocated, so it is the others that have no room.
      have hrest : ¬ (n < arrayLimit ∧ ∀ k ∈ budget.map (· - 1), count ≤ k) := by
        rintro ⟨-, hroom⟩
        refine h ⟨hn, fun k hk => ?_⟩
        have h1 := hone k hk
        have h2 := hroom (k - 1) (Option.map_eq_some_iff.2 ⟨k, hk, rfl⟩)
        omega
      have hsome : count ≠ 0 := by
        rintro rfl
        exact hrest ⟨hn, fun k _ => Nat.zero_le k⟩
      exact ih hsome _ hrest
    · rfl

/-- `stage` is `reserveAll` for one array for each old one, and `resized` of all of them if that
succeeds. -/
theorem stage_eq (n : Nat) (budget : Option Nat) (olds : List (List Int64)) :
    stage n budget olds =
      (if (reserveAll n olds.length budget).1 then some (olds.map (resized · n)) else none,
        (reserveAll n olds.length budget).2) := by
  -- By induction on the arrays, for every budget, as each array leaves another one.
  induction olds generalizing budget with
  | nil => rfl
  | cons old rest ih =>
    rw [stage, List.length_cons, reserveAll]
    cases reserve budget n with
    | mk fits left =>
      -- A failed allocation stops `stage` as it stops `reserveAll`.
      cases fits with
      | false => rfl
      | true =>
        simp only [ih]
        split
        · rename_i staged left' hstage
          obtain ⟨hsome, rfl⟩ := Prod.mk.inj hstage
          split at hsome
          · rename_i hfits
            rw [if_pos hfits, List.map_cons, Option.some.inj hsome]
          · cases hsome
        · rename_i left' hstage
          obtain ⟨hnone, rfl⟩ := Prod.mk.inj hstage
          split at hnone
          · cases hnone
          · rename_i hfits
            rw [if_neg hfits]

/-! ### Installing -/

/-- A live block with the values `f` gives it; a retired one as it is. -/
def Block.withValues (f : Block → List Int64) (b : Block) : Block :=
  if b.live then { b with values := f b } else b

/-- `install` gives a retired block no array and goes on with the rest. -/
theorem install_cons_of_not_live {b : Block} (hb : ¬ b.live = true) (rest : List Block)
    (staged : List (List Int64)) : install (b :: rest) staged = b :: install rest staged := by
  cases staged with
  | nil => rw [install, if_neg hb]
  | cons values staged => rw [install, if_neg hb]

/-- `install` puts the array that was staged for a live block into that block, as both go through
the live blocks in order. -/
theorem install_map (f : Block → List Int64) (blocks : List Block) :
    install blocks ((blocks.filter (·.live)).map f) = blocks.map (·.withValues f) := by
  induction blocks with
  | nil => rfl
  | cons b rest ih =>
    rw [List.map_cons, Block.withValues]
    by_cases hb : b.live = true
    · rw [List.filter_cons_of_pos hb, List.map_cons, install, if_pos hb, if_pos hb, ih]
    · rw [List.filter_cons_of_neg hb, install_cons_of_not_live hb, if_neg hb, ih]

/-! ### The whole resize -/

/-- `resized` for a live block; a retired one keeps its values. -/
def Block.resizedTo (n : Nat) (b : Block) : Block := b.withValues fun b => resized b.values n

namespace Registry

/-- `resize n` can allocate all its arrays: one for the pool and one for each live block. -/
def HasRoom (r : Registry) (n : Nat) : Prop :=
  n < arrayLimit ∧ ∀ k ∈ r.budget, 1 + r.liveCount ≤ k

/-- The registry with `size`, the pool and every live block at length `n`. -/
def fitted (r : Registry) (n : Nat) : Registry :=
  { r with size := n, retired := resized r.retired n, blocks := r.blocks.map (·.resizedTo n) }

/-- The registry after an attempt to allocate `count` arrays for a resize to `n` counters: `fitted`
if there was room for all of them and as it was otherwise, but for the `budget`. -/
def attempt (r : Registry) (n count : Nat) : Registry :=
  { if (reserveAll n count r.budget).1 then r.fitted n else r with
    budget := (reserveAll n count r.budget).2 }

/-- `resize` attempts to allocate `1 + liveCount` arrays, and answers whether it got them. -/
theorem resize_eq (r : Registry) (n : Nat) :
    (r.resize n).state = r.attempt n (1 + r.liveCount) ∧
      (r.resize n).value =
        if (reserveAll n (1 + r.liveCount) r.budget).1 then .ok () else .error (.noRoom n) := by
  have hlength : (r.retired :: r.liveBlocks.map (·.values)).length = 1 + r.liveCount := by
    rw [List.length_cons, List.length_map, liveCount]
    omega
  have hinstall := install_map (fun b => resized b.values n) r.blocks
  rw [resize, stage_eq, hlength, attempt]
  -- What was allocated decides on the answer and on the state.
  generalize reserveAll n (1 + r.liveCount) r.budget = reserved
  obtain ⟨fits, left⟩ := reserved
  cases fits with
  | false => exact ⟨rfl, rfl⟩
  | true =>
    rw [if_pos rfl, if_pos rfl, if_pos rfl, List.map_cons, List.map_map]
    exact ⟨congrArg (fun blocks => { r.fitted n with blocks, budget := left }) hinstall, rfl⟩

/-- `fitted`, with the arrays paid for from the `budget`: what `resize` leaves if it has room. -/
def resizedTo (r : Registry) (n : Nat) : Registry :=
  { r.fitted n with budget := r.budget.map (· - (1 + r.liveCount)) }

/-- `resize` with room succeeds and leaves `resizedTo`. -/
theorem resize_of_hasRoom {r : Registry} {n : Nat} (h : r.HasRoom n) :
    (r.resize n).value = .ok () ∧ (r.resize n).state = r.resizedTo n := by
  obtain ⟨hstate, hvalue⟩ := r.resize_eq n
  have hroom := reserveAll_of_room h.1 (1 + r.liveCount) r.budget h.2
  rw [hroom] at hvalue
  rw [attempt, hroom] at hstate
  exact ⟨hvalue, hstate⟩

/-- `resize` without room fails, names the length and leaves everything but the `budget`. -/
theorem resize_of_not_hasRoom {r : Registry} {n : Nat} (h : ¬ r.HasRoom n) :
    (r.resize n).value = .error (.noRoom n) ∧
      ∃ left, (r.resize n).state = { r with budget := left } := by
  obtain ⟨hstate, hvalue⟩ := r.resize_eq n
  have hnone : (reserveAll n (1 + r.liveCount) r.budget).1 = false :=
    reserveAll_of_no_room (by omega) r.budget h
  rw [hnone] at hvalue
  rw [attempt, hnone] at hstate
  exact ⟨hvalue, _, hstate⟩

end Registry

end CompilerLink.Counter
