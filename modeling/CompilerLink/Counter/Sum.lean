/-! # Counter arithmetic

Counters are 64-bit signed words. A thread's own counter wraps around; sums over threads stay at the
end of the range that they run into. Counter arrays are lists, and an operation on two of them keeps
the length of the first. -/

namespace CompilerLink.Counter

/-- The sum of two counters, held within the range of a word. -/
def saturatingAdd (a b : Int64) : Int64 := Int64.ofIntClamp (a.toInt + b.toInt)

/-- Combine the counters of `out` with those of `values`, place by place; places of `out` that
`values` does not reach keep their counter. -/
def combine (f : Int64 → Int64 → Int64) : List Int64 → List Int64 → List Int64
  | [], _ => []
  | out, [] => out
  | a :: out, v :: values => f a v :: combine f out values

/-- Add `values` to `out`, place by place. -/
def addInto (out values : List Int64) : List Int64 := combine saturatingAdd out values

/-- Write `values` over `out`, place by place. -/
def copyInto (out values : List Int64) : List Int64 := combine (fun _ v => v) out values

/-- The first `n` counters of `values`, filled up with zeros. -/
def resized (values : List Int64) (n : Nat) : List Int64 :=
  values.take n ++ List.replicate (n - values.length) 0

@[simp] theorem length_combine (f : Int64 → Int64 → Int64) (out values : List Int64) :
    (combine f out values).length = out.length := by
  induction out, values using combine.induct with
  | case1 values => simp [combine]
  | case2 out h => cases out <;> simp_all [combine]
  | case3 a out v values ih => simp [combine, ih]

@[simp] theorem length_addInto (out values : List Int64) :
    (addInto out values).length = out.length := length_combine ..

@[simp] theorem length_copyInto (out values : List Int64) :
    (copyInto out values).length = out.length := length_combine ..

@[simp] theorem length_resized (values : List Int64) (n : Nat) : (resized values n).length = n := by
  simp only [resized, List.length_append, List.length_take, List.length_replicate]
  omega

end CompilerLink.Counter
