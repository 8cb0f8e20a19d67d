import Mathlib

/-! # Lists with one place changed, and lists that grow at the front -/

namespace CompilerLink

/-- An entry of `l.set i a` is either `a`, at `i` itself, or the entry that `l` has at another
place. -/
theorem getElem?_set_eq_some {α : Type} {l : List α} {i j : Nat} {a b : α}
    (h : (l.set i a)[j]? = some b) : j = i ∧ b = a ∨ j ≠ i ∧ l[j]? = some b := by
  rw [List.getElem?_set] at h
  -- `List.getElem?_set` asks first for the place and then for the length.
  split at h
  · rename_i hij
    split at h
    · exact .inl ⟨hij.symm, (Option.some.inj h).symm⟩
    · exact nomatch h
  · rename_i hij
    exact .inr ⟨Ne.symm hij, h⟩

/-- `List.set` does not show through `f` if `f` maps the new entry to the same value as the
old one. -/
theorem map_set_eq_map {α β : Type} {f : α → β} {l : List α} {i : Nat} {a a' : α}
    (ha : l[i]? = some a) (hf : f a' = f a) : (l.set i a').map f = l.map f := by
  apply List.ext_getElem?
  intro j
  rw [List.getElem?_map, List.getElem?_map]
  -- Only at `i` itself do the two lists have different entries.
  by_cases hij : i = j
  · obtain ⟨hlt, -⟩ := List.getElem?_eq_some_iff.1 ha
    rw [← hij, List.getElem?_set_self hlt, ha, Option.map_some, Option.map_some, hf]
  · rw [List.getElem?_set_ne hij]

/-- `List.set` takes `f a` for the old entry `a` out of a sum and puts `f a'` in; the statement adds
on both sides to stay clear of subtraction in `Nat`. -/
theorem sum_map_set {α : Type} {f : α → Nat} {l : List α} {i : Nat} {a : α} (ha : l[i]? = some a)
    (a' : α) : ((l.set i a').map f).sum + f a = (l.map f).sum + f a' := by
  induction l generalizing i with
  | nil => exact nomatch ha
  | cons b l ih =>
    -- Either the head is replaced or the induction hypothesis is about the tail.
    cases i with
    | zero =>
      obtain rfl : b = a := by simpa using ha
      simp only [List.set_cons_zero, List.map_cons, List.sum_cons]
      omega
    | succ i =>
      have hrest := ih (by simpa using ha)
      simp only [List.set_cons_succ, List.map_cons, List.sum_cons]
      omega

/-! What holds of each member and all behind it is kept if it holds of the one that is added. -/

/-- The invariant `∀ a rest, a :: rest <:+ l → P a rest` holds of `[]`. -/
theorem forall_suffix_nil {α : Type} {P : α → List α → Prop} :
    ∀ a rest, a :: rest <:+ [] → P a rest :=
  fun _ _ h => absurd (List.suffix_nil.1 h) (List.cons_ne_nil _ _)

/-- The invariant `∀ b rest, b :: rest <:+ l → P b rest` is kept by `a :: l` if `P a l`; records
grow in this way. -/
theorem forall_suffix_cons {α : Type} {P : α → List α → Prop} {a : α} {l : List α} (ha : P a l)
    (hl : ∀ b rest, b :: rest <:+ l → P b rest) : ∀ b rest, b :: rest <:+ a :: l → P b rest := by
  intro b rest hsuffix
  -- A suffix of `a :: l` is all of it or a suffix of `l`.
  rcases List.suffix_cons_iff.1 hsuffix with heq | hsuffix
  · obtain ⟨rfl, rfl⟩ := List.cons.inj heq
    exact ha
  · exact hl b rest hsuffix

end CompilerLink
