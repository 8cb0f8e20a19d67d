import CompilerLink.Proofs.Counter.Representation

/-! # Several registries

Every registry numbers its blocks by itself, from zero on, and finds the block to retire by number
alone. So a registry that is handed a block of another one takes it for its own block of the same
number: it retires that one, if it is live, and folds the values of the block it was handed. A block
whose number is not that of a live block changes nothing, whosever it is, and no registry changes
but the one that frees.

A fleet is a family of registries in use. `carryOut` lets one of them work by itself or retire a
block that any of them has attached. -/

namespace CompilerLink.Counter

/-! ### Retiring a block of whatever registry -/

/-- `Registry.free` of the block `donor`, of whatever registry it is, with the entry in `record`. -/
def Session.retire (s : Session) (donor : Block) : Session :=
  { s with
    registry := s.registry.free donor
    record := if donor.id < s.registry.blocks.length then .freed donor.id :: s.record
      else s.record }

theorem Session.Sound.retire {s : Session} (h : s.Sound) (donor : Block) :
    (s.retire donor).Sound := by
  obtain ⟨wf, roll⟩ := h
  refine ⟨wf.free donor, ?_⟩
  show Roll (s.registry.free donor).liveness
    (if donor.id < s.registry.blocks.length then .freed donor.id :: s.record else s.record)
  -- `free` clears the liveness of the number alone, which is what an entry `.freed` accounts for.
  rw [Registry.liveness_free, ← Registry.length_liveness]
  split
  · rename_i hid
    exact roll.freed hid
  · -- The registry has not given that number to anyone.
    rename_i hid
    rw [List.set_eq_of_length_le (Nat.not_lt.1 hid)]
    exact roll

/-- `retire` drops no entry from the `record`. -/
theorem Session.mem_record_retire {s : Session} {e : Entry} (donor : Block) (he : e ∈ s.record) :
    e ∈ (s.retire donor).record := by
  rw [retire]
  dsimp only
  split
  · exact List.mem_cons_of_mem _ he
  · exact he

/-! ### The whole fleet -/

/-- What can happen in a fleet. -/
inductive Order (ι : Type) where
  /-- Registry `i` performs an operation by itself. -/
  | own (i : ι) (op : Operation)
  /-- Registry `i` frees block `id` of registry `j`. -/
  | hand (i j : ι) (id : Nat)

section Fleet

variable {ι : Type} {w : ι → Session}

/-- The registry that an order changes. -/
def Order.actor : Order ι → ι
  | .own i _ => i
  | .hand i _ _ => i

/-- The session of `Order.actor` afterwards. A block that registry `j` has not attached cannot be
handed over, so such an order changes nothing. -/
def Order.outcome (w : ι → Session) : Order ι → Session
  | .own i op => (w i).perform op
  | .hand i j id => ((w j).registry.blocks[id]?).elim (w i) (w i).retire

variable [DecidableEq ι]

/-- `Function.update` of the fleet at `Order.actor` with `Order.outcome`. -/
def carryOut (w : ι → Session) (o : Order ι) : ι → Session :=
  Function.update w o.actor (o.outcome w)

/-- Carry out orders one after the other. -/
def carryOutAll (w : ι → Session) (orders : List (Order ι)) : ι → Session := orders.foldl carryOut w

/-- `carryOut` changes no registry but `Order.actor`. -/
theorem carryOut_of_ne {o : Order ι} {k : ι} (h : k ≠ o.actor) : carryOut w o k = w k :=
  Function.update_of_ne h _ w

/-- What `carryOut` of an order `hand` does to the registry that frees. -/
theorem carryOut_hand (w : ι → Session) (i j : ι) (id : Nat) :
    carryOut w (.hand i j id) i =
      ((w j).registry.blocks[id]?).elim (w i) (w i).retire := Function.update_self ..

/-- A property of sessions that `perform` and `retire` preserve is preserved by `carryOut`, registry
by registry. -/
theorem carryOut_induction {P : Session → Prop} (hperform : ∀ s op, P s → P (s.perform op))
    (hretire : ∀ s donor, P s → P (s.retire donor)) {i : ι} (h : P (w i)) (o : Order ι) :
    P (carryOut w o i) := by
  by_cases hi : i = o.actor
  · subst hi
    rw [carryOut, Function.update_self]
    cases o with
    | own i op => exact hperform (w i) op h
    | hand i j id =>
      rw [Order.outcome]
      -- Handing over a block that does not exist does nothing.
      cases (w j).registry.blocks[id]? with
      | none => exact h
      | some donor => exact hretire (w i) donor h
  · rw [carryOut_of_ne hi]
    exact h

/-- `carryOut_induction` along a list of orders. -/
theorem carryOutAll_induction {P : Session → Prop} (hperform : ∀ s op, P s → P (s.perform op))
    (hretire : ∀ s donor, P s → P (s.retire donor)) {i : ι} (h : P (w i))
    (orders : List (Order ι)) : P (carryOutAll w orders i) := by
  induction orders generalizing w with
  | nil => exact h
  | cons o orders ih => exact ih (carryOut_induction hperform hretire h o)

theorem sound_carryOutAll {i : ι} (h : (w i).Sound) (orders : List (Order ι)) :
    (carryOutAll w orders i).Sound :=
  carryOutAll_induction (fun _ op h => h.perform op) (fun _ donor h => h.retire donor) h orders

/-- Every registry of a fleet of new registries is `Sound` after any orders. -/
theorem sound_of_orders {size : ι → Nat} {excludeCompiler : ι → Bool} {r : ι → Registry}
    (hr : ∀ i, Registry.create (size i) (excludeCompiler i) = .ok (r i)) (pause : ι → Pause)
    (orders : List (Order ι)) (i : ι) :
    (carryOutAll (fun i => Session.start (pause i) (r i)) orders i).Sound := by
  apply sound_carryOutAll
  exact Session.Sound.start (hr i) (pause i)

/-- `carryOutAll` drops no entry from any `record`. -/
theorem mem_record_carryOutAll {i : ι} {e : Entry} (he : e ∈ (w i).record)
    (orders : List (Order ι)) : e ∈ (carryOutAll w orders i).record :=
  carryOutAll_induction (P := fun s => e ∈ s.record) (fun _ op => Session.mem_record_perform op)
    (fun _ donor => Session.mem_record_retire donor) he orders

/-! ### What a retirement changes -/

/-- Registry `i` has attached block `id` of registry `j` and not freed it yet. -/
def Holds (w : ι → Session) (i j : ι) (id : Nat) : Prop :=
  j = i ∧ (w i).registry.isLive id = true

/-- An order `hand` may change a registry that does not hold the block: of two registries with one
live block each, the first is handed the block of the second and gives up its own. -/
theorem not_unchanged :
    let w := carryOutAll (fun _ : Bool => Session.start {} (Registry.empty 1 false))
      [.own false (.attach false), .own true (.attach false), .own false (.add 0 0 3),
        .own true (.add 0 0 5)]
    let w' := carryOut w (.hand false true 0)
    Registry.create 1 false = .ok (Registry.empty 1 false) ∧ ¬ Holds w false true 0 ∧
      (w false).registry.liveCount = 1 ∧ (w' false).registry.liveCount = 0 ∧
      (w false).registry.totals = [3] ∧ (w' false).registry.totals = [5] :=
  ⟨rfl, fun h => Bool.noConfusion h.1, by decide, by decide, by decide, by decide⟩

/-- A block whose number is not that of a live block of registry `i` changes nothing there. -/
theorem registry_hand_of_not_live {i j : ι} {id : Nat} (sound : (w j).Sound)
    (h : (w i).registry.isLive id = false) :
    (carryOut w (.hand i j id) i).registry = (w i).registry := by
  rw [carryOut_hand]
  cases hdonor : (w j).registry.blocks[id]? with
  | none => rfl
  | some donor =>
    obtain rfl : donor.id = id := sound.wf.id_eq hdonor
    exact Registry.free_of_not_isLive h

/-- What becomes of a fleet when registry `i` frees block `id` of registry `j`. -/
structure FreesByNumber (w : ι → Session) (i j : ι) (id : Nat) : Prop where
  /-- No other registry changes, that of the block included. -/
  others : ∀ k, k ≠ i → carryOut w (.hand i j id) k = w k
  /-- Nothing changes unless registry `i` has a live block of that number. -/
  unchanged : (w i).registry.isLive id = false →
    (carryOut w (.hand i j id) i).registry = (w i).registry
  /-- A number with an entry `.freed` is never live again, and freeing it again changes nothing. -/
  freed : .freed id ∈ (w i).record → ∀ orders,
    (carryOutAll w orders i).registry.isLive id = false ∧
      (carryOut (carryOutAll w orders) (.hand i j id) i).registry =
        (carryOutAll w orders i).registry
  /-- Nothing changes if registry `i` has not got to that number yet. -/
  unknown : (w i).registry.blocks.length ≤ id →
    (carryOut w (.hand i j id) i).registry = (w i).registry
  /-- Otherwise the block of registry `i` goes, and the values of the other one are folded. -/
  live : ∀ b donor, (w i).registry.blocks[id]? = some b → b.live = true →
    (w j).registry.blocks[id]? = some donor →
    (carryOut w (.hand i j id) i).registry =
      { (w i).registry with
        blocks := (w i).registry.blocks.set id { b with live := false }
        retired := if donor.included then addInto (w i).registry.retired donor.values
          else (w i).registry.retired }

/-- `FreesByNumber` holds in every state that a fleet of new registries can reach. -/
theorem freesByNumber_of_run {size : ι → Nat} {excludeCompiler : ι → Bool} {r : ι → Registry}
    (hr : ∀ i, Registry.create (size i) (excludeCompiler i) = .ok (r i)) (pause : ι → Pause)
    (orders : List (Order ι)) (i j : ι) (id : Nat) :
    FreesByNumber (carryOutAll (fun i => Session.start (pause i) (r i)) orders) i j id := by
  have sound : ∀ k, (carryOutAll (fun i => Session.start (pause i) (r i)) orders k).Sound :=
    fun k => sound_of_orders hr pause orders k
  generalize carryOutAll (fun i => Session.start (pause i) (r i)) orders = w at sound
  exact
    { others := fun k hk => carryOut_of_ne hk
      unchanged := registry_hand_of_not_live (sound j)
      freed := fun hid later => by
        -- A block that was freed stays so in every later world, and a block that is not live cannot
        -- be freed.
        have sound' := fun k => sound_carryOutAll (sound k) later
        have hlive := (sound' i).isLive_eq_false (mem_record_carryOutAll hid later)
        exact ⟨hlive, registry_hand_of_not_live (sound' j) hlive⟩
      unknown := fun hid => by
        refine registry_hand_of_not_live (sound j) ?_
        rw [Registry.isLive, List.getElem?_eq_none hid]
        rfl
      live := fun b donor hb hlive hdonor => by
        obtain rfl : donor.id = id := (sound j).wf.id_eq hdonor
        rw [carryOut_hand, hdonor]
        exact (sound i).wf.free_eq hb hlive }

/-- `freesByNumber_of_run` applies to a registry that frees its own block twice and then another
one's, whose number it has not got to yet. -/
theorem freesByNumber_of_two :
    (∀ b : Bool, Registry.create 1 b = .ok (Registry.empty 1 b)) ∧
      FreesByNumber (carryOutAll (fun b => Session.start {} (Registry.empty 1 b))
        [.own false (.attach false), .hand false false 0, .hand false false 0,
          .own true (.attach false), .own true (.attach false), .own true (.add 1 0 5)])
        false true 1 :=
  ⟨fun _ => rfl,
    @freesByNumber_of_run Bool _ (fun _ => 1) id _ (fun _ => rfl) (fun _ => {}) _ false true 1⟩

end Fleet

end CompilerLink.Counter
