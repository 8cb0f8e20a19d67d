import CompilerLink.Counter.Registry
import Mathlib

/-! # Sums, counter by counter

Arrays are combined place by place, so each sum is described by what stands at one place `i`: the
pool's counter there and the `column` of the blocks' counters there. As long as the absolute values
leave room in a word, a saturating sum is the exact sum. -/

namespace CompilerLink.Counter

/-! ### One place of an array -/

/-- Entry `i` of `combine f out values`: `f` of both entries, or the entry of `out` where `values`
has none. -/
theorem getElem?_combine (f : Int64 → Int64 → Int64) (out values : List Int64) (i : Nat) :
    (combine f out values)[i]? = out[i]?.map fun a => (values[i]?).elim a (f a) := by
  induction out, values using combine.induct generalizing i with
  | case1 values => simp [combine]
  | case2 out h =>
    cases out with
    | nil => exact absurd rfl h
    | cons a out => simp [combine]
  -- Both lists go on: place `0` is the head, all others are in the tails.
  | case3 a out v values ih =>
    cases i with
    | zero => simp [combine]
    | succ i => simp only [combine, List.getElem?_cons_succ, ih i]

/-- Entry `i` of `addInto out values` is the `saturatingAdd` of both entries. -/
theorem getElem?_addInto (out values : List Int64) (i : Nat) :
    (addInto out values)[i]? = out[i]?.map fun a => (values[i]?).elim a (saturatingAdd a) :=
  getElem?_combine ..

/-- Entry `i` of `copyInto out values` is the entry of `values` where there is one. -/
theorem getElem?_copyInto (out values : List Int64) (i : Nat) :
    (copyInto out values)[i]? = out[i]?.map fun a => (values[i]?).getD a := by
  rw [copyInto, getElem?_combine]
  cases out[i]? with
  | none => rfl
  | some a => cases values[i]? <;> rfl

/-- Entry `i` of `resized values n`, for `i < n`, is that of `values`, or zero where `values` has
none. -/
theorem getElem?_resized (values : List Int64) (n i : Nat) :
    (resized values n)[i]? = if i < n then some ((values[i]?).getD 0) else none := by
  rw [resized, List.getElem?_append]
  -- Either the place is among the old counters that are kept or among the zeros behind them.
  split
  · rename_i h
    rw [List.length_take] at h
    rw [List.getElem?_take_of_lt (by omega), if_pos (by omega),
      List.getElem?_eq_getElem (by omega), Option.getD_some]
  · rename_i h
    rw [List.length_take] at h ⊢
    rw [List.getElem?_replicate]
    by_cases hi : i < n
    · rw [if_pos (by omega), if_pos hi, List.getElem?_eq_none (by omega), Option.getD_none]
    · rw [if_neg (by omega), if_neg hi]

/-- `resized` keeps every entry below both lengths. -/
theorem getElem?_resized_of_lt {values : List Int64} {n i : Nat} (hold : i < values.length)
    (hnew : i < n) : (resized values n)[i]? = values[i]? := by
  rw [getElem?_resized, if_pos hnew, List.getElem?_eq_getElem hold, Option.getD_some]

/-- `resized values n` is `values` if these are `n` already. -/
theorem resized_of_length_eq {values : List Int64} {n : Nat} (h : values.length = n) :
    resized values n = values := by
  rw [resized, ← h, List.take_length, Nat.sub_self, List.replicate_zero, List.append_nil]

/-- `resized` to the same length twice is `resized` once. -/
theorem resized_resized (values : List Int64) (n : Nat) :
    resized (resized values n) n = resized values n :=
  resized_of_length_eq (length_resized values n)

/-- `List.modify` of an entry that `values` has commutes with `resized`. For an entry behind the end
it would not: the resize may create it. -/
theorem resized_modify {values : List Int64} {index : Nat} (hold : index < values.length)
    (n : Nat) (f : Int64 → Int64) :
    resized (values.modify index f) n = (resized values n).modify index f := by
  apply List.ext_getElem?
  intro i
  rw [getElem?_resized, List.getElem?_modify, List.getElem?_modify, getElem?_resized]
  by_cases hi : i < n
  · rw [if_pos hi, if_pos hi]
    -- At a kept place, either the entry that is modified or another one.
    by_cases hindex : index = i
    · subst hindex
      rw [List.getElem?_eq_getElem hold]
      simp
    · simp [hindex]
  · rw [if_neg hi, if_neg hi]
    rfl

/-! ### Saturating sums -/

/-- The largest value of a counter, `2 ^ 63 - 1`. -/
def maxCounter : Nat := 2 ^ 63 - 1

/-- `saturatingAdd a b` is the exact sum if `|a| + |b| ≤ maxCounter`. -/
theorem toInt_saturatingAdd {a b : Int64} (h : a.toInt.natAbs + b.toInt.natAbs ≤ maxCounter) :
    (saturatingAdd a b).toInt = a.toInt + b.toInt := by
  have hmin : Int64.minValue.toInt = -2 ^ 63 := rfl
  have hmax : Int64.maxValue.toInt = 2 ^ 63 - 1 := rfl
  rw [maxCounter] at h
  exact Int64.toInt_ofIntClamp (by omega) (by omega)

/-- The wrapping `a + b` is the exact sum if `|a| + |b| ≤ maxCounter`. -/
theorem toInt_add_of_natAbs_le {a b : Int64}
    (h : a.toInt.natAbs + b.toInt.natAbs ≤ maxCounter) : (a + b).toInt = a.toInt + b.toInt := by
  rw [maxCounter] at h
  rw [Int64.toInt_add]
  exact Int.bmod_eq_of_le (by omega) (by omega)

/-- A fold of `saturatingAdd` over `vs` from `a` is the exact sum if the absolute values of all of
them come to at most `maxCounter` together. -/
theorem toInt_foldl_saturatingAdd (vs : List Int64) (a : Int64)
    (h : a.toInt.natAbs + (vs.map (·.toInt.natAbs)).sum ≤ maxCounter) :
    (vs.foldl saturatingAdd a).toInt = a.toInt + (vs.map (·.toInt)).sum := by
  induction vs generalizing a with
  | nil => simp
  | cons v vs ih =>
    simp only [List.map_cons, List.sum_cons] at h
    -- The bound has room for the first sum and, by what is left of it, for all others.
    have hav : (saturatingAdd a v).toInt = a.toInt + v.toInt := toInt_saturatingAdd (by omega)
    rw [List.foldl_cons, ih (saturatingAdd a v) (by omega), hav]
    simp only [List.map_cons, List.sum_cons]
    omega

/-! ### Counters as integers -/

/-- The value of counter `i` of an array as an integer; zero if the array has no such counter. -/
def counterAt (values : List Int64) (i : Nat) : Int := ((values[i]?).getD 0).toInt

/-- `counterAt` is zero from the length on. -/
theorem counterAt_of_length_le {values : List Int64} {i : Nat} (h : values.length ≤ i) :
    counterAt values i = 0 := by
  rw [counterAt, List.getElem?_eq_none h]
  rfl

/-- `counterAt` is zero everywhere in an array of zeros. -/
theorem counterAt_replicate (n i : Nat) : counterAt (List.replicate n 0) i = 0 := by
  rw [counterAt, List.getElem?_replicate]
  split <;> rfl

/-- `counterAt` of `resized values n` is that of `values` below `n` and zero from there on. -/
theorem counterAt_resized (values : List Int64) (n i : Nat) :
    counterAt (resized values n) i = if i < n then counterAt values i else 0 := by
  rw [counterAt, getElem?_resized]
  split <;> rfl

/-- `addInto` of an array that is not longer is exact at `i` if both absolute values come to at most
`maxCounter`. -/
theorem counterAt_addInto {out values : List Int64} {i : Nat} (hlen : values.length ≤ out.length)
    (h : (counterAt out i).natAbs + (counterAt values i).natAbs ≤ maxCounter) :
    counterAt (addInto out values) i = counterAt out i + counterAt values i := by
  by_cases hi : i < values.length
  · have hout : out[i]? = some out[i] := List.getElem?_eq_getElem (by omega)
    have hvalues : values[i]? = some values[i] := List.getElem?_eq_getElem hi
    rw [counterAt, counterAt, hout, hvalues] at h
    rw [counterAt, counterAt, counterAt, getElem?_addInto, hout, hvalues]
    exact toInt_saturatingAdd h
  · -- Nothing is added where the shorter array has no counter.
    have hvalues : values[i]? = none := List.getElem?_eq_none (by omega)
    have hzero : counterAt values i = 0 := counterAt_of_length_le (by omega)
    rw [hzero, counterAt, counterAt, getElem?_addInto, hvalues, Int.add_zero]
    cases out[i]? <;> rfl

/-! ### Totals -/

/-- The counters at place `i` of `blocks`, in their order; blocks that are too short have none. -/
def column (i : Nat) (blocks : List Block) : List Int64 := blocks.filterMap (·.values[i]?)

/-- Entry `i` of the sum of `blocks` into `out` is the `saturatingAdd` fold of their `column` from
the entry of `out`. -/
theorem getElem?_foldl_addInto (blocks : List Block) (out : List Int64) (i : Nat) :
    (blocks.foldl (fun sum b => addInto sum b.values) out)[i]? =
      out[i]?.map ((column i blocks).foldl saturatingAdd) := by
  induction blocks generalizing out with
  | nil => cases h : out[i]? <;> simp [column, h]
  | cons b blocks ih =>
    rw [List.foldl_cons, ih, getElem?_addInto]
    simp only [column, List.filterMap_cons]
    -- A block that is too short neither adds to `out` nor is in the column.
    cases out[i]? with
    | none => rfl
    | some a => cases b.values[i]? <;> rfl

/-- `column i blocks` has one counter per block if all of them have a counter `i`. -/
theorem column_eq_map {i : Nat} {blocks : List Block}
    (h : ∀ b ∈ blocks, i < b.values.length) :
    column i blocks = blocks.map fun b => (b.values[i]?).getD 0 := by
  rw [column, ← List.filterMap_eq_map]
  apply List.filterMap_congr
  intro b hb
  simp only [Function.comp_apply, List.getElem?_eq_getElem (h b hb), Option.getD_some]

namespace Registry

/-- Entry `i` of `sumInto out` does not depend on the entries of `out`, only on its length. -/
theorem getElem?_sumInto (r : Registry) (out : List Int64) (i : Nat) :
    (r.sumInto out)[i]? = if i < out.length
      then some ((column i r.countedBlocks).foldl saturatingAdd ((r.retired[i]?).getD 0))
      else none := by
  rw [sumInto, getElem?_foldl_addInto, getElem?_copyInto, List.getElem?_map]
  -- The buffer keeps its length, and is overwritten before anything is added.
  by_cases h : i < out.length
  · rw [if_pos h, List.getElem?_eq_getElem h]
    rfl
  · have hout : out[i]? = none := List.getElem?_eq_none (by omega)
    rw [if_neg h, hout]
    rfl

/-- Entry `i` of `totals` for `i < r.size`: the `column` of the counted blocks, summed up from the
pool's counter on. -/
theorem getElem?_totals (r : Registry) (i : Nat) :
    r.totals[i]? = if i < r.size
      then some ((column i r.countedBlocks).foldl saturatingAdd ((r.retired[i]?).getD 0))
      else none := by
  rw [totals, getElem?_sumInto, List.length_replicate]

/-- `collect` into a buffer of length `r.size` answers `totals`, whatever the buffer held. -/
theorem collect_of_length_eq {r : Registry} {buffer : List Int64} (h : buffer.length = r.size) :
    r.collect buffer = .ok r.totals := by
  rw [collect, if_pos h]
  congr 1
  apply List.ext_getElem?
  intro i
  rw [getElem?_sumInto, getElem?_totals, h]

end Registry

end CompilerLink.Counter
