import CompilerLink.Endpoint

/-! # One end or two

`Endpoints` are seen through `get`: what an operation does to them is said for the end of each side.
`Endpoints.sides` names every end once, so what is done to all ends is done along this list. Ends
keep their number and their role whatever becomes of them (`Stems`), and by their numbers two sides
that share an end can be told from two that do not. -/

namespace CompilerLink

/-- The number and the role of an end, by which it is known. -/
def Endpoint.identity (e : Endpoint) : Int32 × Role := (e.id, e.role)

namespace Endpoints

variable {α : Type} {ends ends' : Endpoints}

/-- A side for each end, the managed side first. -/
def sides : Endpoints → List Side
  | shared _ => [.managed]
  | separate _ _ => [.managed, .compiler]

/-- `Endpoints` are determined by `areSeparate` and by what `get` has for each side. -/
theorem ext_get (hseparate : ends.areSeparate = ends'.areSeparate)
    (hget : ∀ side, ends.get side = ends'.get side) : ends = ends' := by
  -- With one end, both sides give it; with two, each side gives its own.
  cases ends with
  | shared both =>
    cases ends' with
    | shared both' => exact congrArg shared (hget .managed)
    | separate compiler' managed' => exact nomatch hseparate
  | separate compiler managed =>
    cases ends' with
    | shared both' => exact nomatch hseparate
    | separate compiler' managed' =>
      have hcompiler : compiler = compiler' := hget .compiler
      have hmanaged : managed = managed' := hget .managed
      rw [hcompiler, hmanaged]

/-- `get` has the same end for both sides, if one end serves both. -/
theorem get_eq_get (hshared : ends.areSeparate = false) (side side' : Side) :
    ends.get side = ends.get side' := by
  cases ends with
  | shared both => rfl
  | separate compiler managed => exact nomatch hshared

/-! ### Work on ends -/

/-- `set` does not change whether there is one end or two. -/
@[simp] theorem areSeparate_set (ends : Endpoints) (side : Side) (e : Endpoint) :
    (ends.set side e).areSeparate = ends.areSeparate := by
  cases ends <;> cases side <;> rfl

/-- `set` on one side changes what `get` has for that side, and for the other one if they share the
end. -/
theorem get_set (ends : Endpoints) (side side' : Side) (e : Endpoint) :
    (ends.set side e).get side' =
      if side = side' ∨ ends.areSeparate = false then e else ends.get side' := by
  cases ends <;> cases side <;> cases side' <;> rfl

/-- `onSide` works on what `get` has for that side, as in `get_set`. -/
theorem get_onSide (ends : Endpoints) (side side' : Side) (work : Endpoint → Outcome Endpoint α) :
    (ends.onSide side work).state.get side' =
      if side = side' ∨ ends.areSeparate = false then (work (ends.get side)).state
      else ends.get side' :=
  ends.get_set side side' _

variable (work : Endpoint → Outcome Endpoint Unit)

/-- `onAll` does not change whether there is one end or two. -/
@[simp] theorem areSeparate_onAll (ends : Endpoints) :
    (ends.onAll work).state.areSeparate = ends.areSeparate := by
  cases ends <;> rfl

/-- `onAll` reaches what `get` has for every side. -/
theorem get_onAll (ends : Endpoints) (side : Side) :
    (ends.onAll work).state.get side = (work (ends.get side)).state := by
  cases ends <;> cases side <;> rfl

/-- `onAll` emits once for each end, in the order of `sides`. -/
theorem emitted_onAll (ends : Endpoints) :
    (ends.onAll work).emitted = ends.sides.flatMap fun side => (work (ends.get side)).emitted := by
  cases ends <;> simp [onAll, sides, get, Outcome.within]

/-- `live` is the live handles of each end, in the order of `sides`. -/
theorem live_eq_flatMap (ends : Endpoints) :
    ends.live = ends.sides.flatMap fun side => (ends.get side).handles.live := by
  cases ends <;> simp [live, sides, get]

/-! ### Which end is which -/

/-- Ends that were created with a library of the compiler's, or without. -/
structure Stems (native : Bool) (ends : Endpoints) : Prop where
  /-- There are two ends iff there is such a library. -/
  separate_eq : ends.areSeparate = native
  /-- The end of each side is still known as it was when it was created. -/
  identity_eq : ∀ side, (ends.get side).identity = ((create native).get side).identity

namespace Stems

variable {native : Bool}

/-- `Stems` holds of ends that have just been created. -/
theorem created (native : Bool) : Stems native (create native) where
  separate_eq := by cases native <;> rfl
  identity_eq _ := rfl

/-- `Stems` is preserved by `onSide`, if the work keeps the `identity`. -/
theorem onSide (stems : Stems native ends) (side : Side) (work : Endpoint → Outcome Endpoint α)
    (hwork : ∀ e, (work e).state.identity = e.identity) :
    Stems native (ends.onSide side work).state where
  separate_eq := (areSeparate_set ..).trans stems.separate_eq
  identity_eq side' := by
    rw [get_onSide]
    split
    · rename_i hsame
      -- The end that changed is the end of `side'`, whether that is the same side or shares it.
      have hget : ends.get side = ends.get side' := by
        rcases hsame with rfl | hshared
        · rfl
        · exact get_eq_get hshared side side'
      rw [hwork, hget, stems.identity_eq]
    · exact stems.identity_eq side'

/-- `Stems` is preserved by `onAll`, if the work keeps the `identity`. -/
theorem onAll (stems : Stems native ends) {work : Endpoint → Outcome Endpoint Unit}
    (hwork : ∀ e, (work e).state.identity = e.identity) :
    Stems native (ends.onAll work).state where
  separate_eq := (areSeparate_onAll work ends).trans stems.separate_eq
  identity_eq side := by rw [get_onAll, hwork, stems.identity_eq]

/-- Two families of ends with `Stems` have the same number for the end of a side. -/
theorem id_eq (stems : Stems native ends) (stems' : Stems native ends') (side : Side) :
    (ends.get side).id = (ends'.get side).id :=
  congrArg Prod.fst ((stems.identity_eq side).trans (stems'.identity_eq side).symm)

/-- Two sides have ends of one number iff they are served by one end. -/
theorem id_eq_iff (stems : Stems native ends) (side side' : Side) :
    (ends.get side).id = (ends.get side').id ↔ side = side' ∨ ends.areSeparate = false := by
  rw [stems.id_eq (created native), stems.id_eq (created native), stems.separate_eq]
  cases native <;> cases side <;> cases side' <;> decide

end Stems

end Endpoints

end CompilerLink
