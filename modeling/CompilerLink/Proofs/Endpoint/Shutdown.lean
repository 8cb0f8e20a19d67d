import CompilerLink.Proofs.Emission
import CompilerLink.Proofs.Endpoint.Ends

/-! # Ends that are shut down

An end remarks on its shutdown when it does it, and never again. The remark tells which end it was,
so by counting remarks one counts the shutdowns that each end has done: one for an end that was up
and none for one that was down, also where one end serves both sides, by
`Endpoints.Stems.count_shutdown`. -/

namespace CompilerLink

namespace Endpoint

/-- The remark by which an end tells that it has shut down. -/
def downRemark (e : Endpoint) : Diagnostic where
  severity := .info
  component := .endpoint
  message := "Runtime instance shut down"
  fields := [("id", .number e.id.toInt), ("role", .shown e.role.name)]

/-- `downRemark` depends on the `identity` of an end only. -/
theorem downRemark_eq_of_identity_eq {e e' : Endpoint} (h : e.identity = e'.identity) :
    e.downRemark = e'.downRemark := by
  obtain ⟨hid, hrole⟩ := Prod.mk.inj h
  rw [downRemark, downRemark, hid, hrole]

/-- `downRemark` tells ends of different numbers apart. -/
theorem id_eq_of_downRemark_eq {e e' : Endpoint} (h : e.downRemark = e'.downRemark) :
    e.id = e'.id := by
  have hfields := congrArg Diagnostic.fields h
  simp only [downRemark, List.cons.injEq, Prod.mk.injEq, FieldValue.number.injEq] at hfields
  exact Int32.toInt_inj.1 hfields.1.2

/-- `shutdown` leaves an end down, and answers and remarks iff it was up before. -/
theorem shutdown_eq (e : Endpoint) :
    e.shutdown = ⟨!e.isShutDown, { e with isShutDown := true },
      if e.isShutDown then [] else [.remark e.downRemark]⟩ := by
  obtain ⟨id, role, handles, isShutDown⟩ := e
  cases isShutDown <;> rfl

/-- `shutdown` makes the `downRemark` iff the end was up. -/
theorem remarks_shutdown (e : Endpoint) :
    Emission.remarks e.shutdown.emitted = if e.isShutDown then [] else [e.downRemark] := by
  rw [shutdown_eq]
  cases e.isShutDown <;> rfl

/-- `shutdown` keeps the `identity`. -/
theorem identity_shutdown (e : Endpoint) : e.shutdown.state.identity = e.identity := by
  rw [shutdown_eq]
  rfl

end Endpoint

namespace Endpoints

variable {ends ends' : Endpoints} {native : Bool}

/-- Ends with `Stems` have the same `downRemark` for a side, whatever becomes of them. -/
theorem Stems.downRemark_eq (stems : Stems native ends) (stems' : Stems native ends')
    (side : Side) : (ends.get side).downRemark = (ends'.get side).downRemark :=
  Endpoint.downRemark_eq_of_identity_eq
    ((stems.identity_eq side).trans (stems'.identity_eq side).symm)

/-- Two sides have the same `downRemark` iff they are served by one end. -/
theorem Stems.downRemark_eq_iff (stems : Stems native ends) (side side' : Side) :
    (ends.get side).downRemark = (ends.get side').downRemark ↔
      side = side' ∨ ends.areSeparate = false := by
  constructor
  · intro h
    exact (stems.id_eq_iff side side').1 (Endpoint.id_eq_of_downRemark_eq h)
  · rintro (rfl | hshared)
    · rfl
    · rw [get_eq_get hshared side side']

/-- After `Endpoints.shutdown` the end of every side is down. -/
theorem isShutDown_shutdown (ends : Endpoints) (side : Side) :
    (ends.shutdown.state.get side).isShutDown = true := by
  rw [shutdown, get_onAll, Outcome.map, Endpoint.shutdown_eq]

/-- Shutting down the end of one side leaves the end of the other side, unless they share it. -/
theorem isShutDown_onSide (ends : Endpoints) (side side' : Side) :
    ((ends.onSide side Endpoint.shutdown).state.get side').isShutDown =
      if side = side' ∨ ends.areSeparate = false then true
      else (ends.get side').isShutDown := by
  rw [get_onSide, Endpoint.shutdown_eq]
  split <;> rfl

/-- An end that shuts down makes its own `downRemark` once if it was up, and no other. -/
theorem Stems.count_shutdown_end (stems : Stems native ends) (side side' : Side) :
    (Emission.remarks (ends.get side).shutdown.emitted).count (ends.get side').downRemark =
      if side = side' ∨ ends.areSeparate = false then
        if (ends.get side').isShutDown then 0 else 1
      else 0 := by
  rw [Endpoint.remarks_shutdown]
  by_cases hsame : side = side' ∨ ends.areSeparate = false
  · -- Where the sides are the same or have one end, it is this end that is shut down.
    have hget : ends.get side = ends.get side' := by
      rcases hsame with rfl | hshared
      · rfl
      · exact get_eq_get hshared side side'
    rw [hget, if_pos hsame]
    split
    · rfl
    · exact List.count_singleton_self
  · -- Two ends make different remarks, so the other one's does not count.
    have hremark := mt (stems.downRemark_eq_iff side side').1 hsame
    rw [if_neg hsame]
    split
    · rfl
    · rw [List.count_singleton, if_neg (by simpa using hremark)]

/-- `Endpoints.shutdown` makes the `downRemark` of an end once if it was up, and not at all if it
was down. -/
theorem Stems.count_shutdown (stems : Stems native ends) (side : Side) :
    (Emission.remarks ends.shutdown.emitted).count (ends.get side).downRemark =
      if (ends.get side).isShutDown then 0 else 1 := by
  have hall : Emission.remarks ends.shutdown.emitted =
      ends.sides.flatMap fun side => Emission.remarks (ends.get side).shutdown.emitted := by
    rw [shutdown, emitted_onAll, Emission.remarks, List.filterMap_flatMap]
    rfl
  have hends := List.map_congr_left fun side' (_ : side' ∈ ends.sides) =>
    stems.count_shutdown_end side' side
  rw [hall, List.count_flatMap, Function.comp_def, hends]
  -- With one end there is one summand; with two the other one is zero by `downRemark_eq_iff`.
  cases ends with
  | shared both => exact (Nat.add_zero _).trans (if_pos (.inr rfl))
  | separate compiler managed =>
    cases side <;> simp [sides, areSeparate]

end Endpoints

end CompilerLink
