import CompilerLink.Host.Demo
import CompilerLink.Link.Lifecycle
import CompilerLink.Proofs.Endpoint.Ends
import CompilerLink.Proofs.Handle.InUse
import CompilerLink.Proofs.Link.Creation

/-! # The walk over all ends

A `Link.Handles.Session` is a link whose handles are in use on both sides, with the host's metadata.
`Endpoints.visits` lists the handles in use on all ends. Whatever was done with the handles,
`Session.walkedOnce_of_run` says that a walk goes along this list, that each handle in use stands in
it once, and that unloading takes out of the walk what is unloaded and nothing else. -/

namespace CompilerLink

/-- Work on the `handles` of an end. -/
def Endpoint.onHandles (work : HandleTable → HandleTable) (e : Endpoint) : Outcome Endpoint Unit :=
  ⟨(), { e with handles := work e.handles }, []⟩

/-! ### Visits -/

namespace Endpoints

variable {ends : Endpoints} {native : Bool}

/-- The handles in use on all ends, in slot order, the managed side's first. -/
def visits (ends : Endpoints) : List (Side × Handle) :=
  ends.sides.flatMap fun side => (ends.get side).handles.inUse.map fun h => (side, h)

/-- What a handle of a side leads to. -/
def lookUp (ends : Endpoints) (v : Side × Handle) : Option MetadataId :=
  (ends.get v.1).handles.get? v.2

/-- `lookUp` along the `visits` is the walk `live`. -/
theorem map_lookUp_visits (ends : Endpoints) :
    ends.visits.map ends.lookUp = ends.live.map some := by
  rw [visits, live_eq_flatMap, List.map_flatMap, List.map_flatMap]
  congr 1
  funext side
  rw [List.map_map, ← HandleTable.map_get?_inUse]
  rfl

/-- Each handle in use stands in `visits` once, also where one end serves both sides. -/
theorem countP_visits (stems : Stems native ends) (side : Side) (h : Handle) :
    (ends.visits.countP fun v => (ends.get v.1).id = (ends.get side).id ∧ v.2 = h) =
      if (ends.lookUp (side, h)).isSome then 1 else 0 := by
  -- An end has the visits of its own number only.
  have hside : ∀ side', (((ends.get side').handles.inUse.map fun h => (side', h)).countP fun v =>
      (ends.get v.1).id = (ends.get side).id ∧ v.2 = h) =
        if side' = side ∨ ends.areSeparate = false then (ends.get side').handles.inUse.count h
        else 0 := by
    intro side'
    rw [List.countP_map]
    split
    · rename_i hsame
      have hid := (stems.id_eq_iff side' side).2 hsame
      simp [List.count, Function.comp_def, hid, beq_eq_decide]
    · rename_i hother
      have hid := mt (stems.id_eq_iff side' side).1 hother
      simp [Function.comp_def, hid]
  rw [visits, List.countP_flatMap, lookUp, ← HandleTable.count_inUse]
  simp only [Function.comp_def, hside]
  cases ends <;> cases side <;> simp [sides, areSeparate, get]

/-- The walk `live` is as long as the tables of all sides have a `liveCount`. -/
theorem length_live (ends : Endpoints) :
    ends.live.length = (ends.sides.map fun side => (ends.get side).handles.liveCount).sum := by
  rw [live_eq_flatMap, List.length_flatMap]
  simp only [HandleTable.length_live]

/-! ### Sweeps of all ends -/

/-- `sweep` of the ends is `sweep` of each end. -/
theorem get_sweep (ends : Endpoints) (catalog : Catalog) (side : Side) :
    (ends.sweep catalog).state.get side = ((ends.get side).sweep catalog).state :=
  get_onAll _ ends side

/-- `sweep` takes what is unloaded out of `lookUp`. -/
theorem lookUp_sweep (ends : Endpoints) (catalog : Catalog) (v : Side × Handle) :
    (ends.sweep catalog).state.lookUp v =
      (ends.lookUp v).filter fun m => !catalog.isUnloaded m := by
  rw [lookUp, get_sweep]
  exact HandleTable.get?_sweep ..

/-- `sweep` takes what is unloaded out of `live`, and keeps the order. -/
theorem live_sweep (ends : Endpoints) (catalog : Catalog) :
    (ends.sweep catalog).state.live = ends.live.filter fun m => !catalog.isUnloaded m := by
  cases ends with
  | shared both => exact both.handles.live_sweep catalog
  | separate compiler managed =>
    rw [live, List.filter_append, ← HandleTable.live_sweep, ← HandleTable.live_sweep]
    rfl

/-- `sweep` leaves the ends as they are if all metadata in `live` is loaded. -/
theorem sweep_of_loaded {catalog : Catalog}
    (hloaded : ∀ m ∈ ends.live, catalog.isUnloaded m = false) :
    (ends.sweep catalog).state = ends := by
  apply ext_get (areSeparate_onAll _ _)
  intro side
  have hside : ((ends.get side).handles.sweep catalog).state = (ends.get side).handles := by
    apply HandleTable.sweep_of_loaded
    intro m hm
    apply hloaded
    -- What an end has live is live, with one end or two.
    cases ends with
    | shared both => exact hm
    | separate compiler managed =>
      cases side with
      | compiler => exact List.mem_append_right _ hm
      | managed => exact List.mem_append_left _ hm
  refine (get_sweep ends catalog side).trans ?_
  rw [Endpoint.sweep, Outcome.within, hside]

end Endpoints

namespace Link.Handles

/-! ### Runs -/

/-- What can be done with the handles of a link. Looking a handle up and walking change nothing. -/
inductive Operation where
  /-- The host makes metadata. -/
  | make (name : String)
  /-- The class loader of some metadata dies. -/
  | unload (m : MetadataId)
  | allocate (side : Side) (m : MetadataId)
  | release (side : Side) (h : Handle)
  /-- The table of one side is swept. -/
  | sweep (side : Side)
  /-- The link is told that classes may have been unloaded. -/
  | doUnloading (occurred : Bool)

/-- A link whose handles are in use, with the host's metadata. -/
structure Session (η : Type) where
  link : Link η
  catalog : Catalog := {}

namespace Session

variable {η : Type} {s : Session η} {native : Bool}

/-- Work on the handle table of a side. -/
def onTable (s : Session η) (side : Side) (work : HandleTable → HandleTable) : Session η :=
  { s with link.endpoints := (s.link.endpoints.onSide side (Endpoint.onHandles work)).state }

/-- Carry out an operation. Metadata that has not been made cannot be named. -/
def perform (s : Session η) : Operation → Session η
  | .make name => { s with catalog := (s.catalog.add name).2 }
  | .unload m => { s with catalog := s.catalog.markUnloaded m }
  | .allocate side m =>
    if m < s.catalog.entries.length then s.onTable side fun t => (t.allocate m).2 else s
  | .release side h => s.onTable side (·.release h)
  | .sweep side => s.onTable side fun t => (t.sweep s.catalog).state
  | .doUnloading occurred => { s with link := (s.link.doUnloading s.catalog occurred).state }

def run (s : Session η) (ops : List Operation) : Session η := ops.foldl perform s

/-- The ends are those of the beginning, and their handles lead to metadata that was made. -/
structure Sound (native : Bool) (s : Session η) : Prop where
  /-- There are as many ends as at the beginning. -/
  stems : s.link.endpoints.Stems native
  /-- What a table has live, the catalog has an entry for. -/
  known : ∀ side, ∀ m ∈ (s.link.endpoints.get side).handles.live, m < s.catalog.entries.length

/-- `Sound` is preserved by work on one table that puts no unknown metadata there. -/
theorem Sound.onTable (h : s.Sound native) (side : Side) (work : HandleTable → HandleTable)
    (hwork : ∀ t m, m ∈ (work t).live → m ∈ t.live ∨ m < s.catalog.entries.length) :
    (s.onTable side work).Sound native where
  stems := h.stems.onSide side (Endpoint.onHandles work) fun _ => rfl
  known side' m hm := by
    simp only [Session.onTable, Endpoints.get_onSide] at hm
    split at hm
    · -- The table that was worked on has what it had, or what is known.
      rcases hwork _ m hm with hold | hnew
      · exact h.known side m hold
      · exact hnew
    · exact h.known side' m hm

/-- `Sound` is preserved by every operation. -/
theorem Sound.perform (h : s.Sound native) (op : Operation) : (s.perform op).Sound native := by
  -- What the catalog has only grows, and `allocate` alone adds to what a table leads to.
  cases op with
  | make name =>
    refine ⟨h.stems, fun side m hm => Nat.lt_of_lt_of_le (h.known side m hm) ?_⟩
    simp [Session.perform, Catalog.add]
  | unload n =>
    refine ⟨h.stems, fun side m hm => Nat.lt_of_lt_of_eq (h.known side m hm) ?_⟩
    simp [Session.perform, Catalog.markUnloaded]
  | allocate side n =>
    rw [Session.perform]
    split
    · rename_i hn
      refine h.onTable side (fun t => (t.allocate n).2) fun t m hm => ?_
      obtain ⟨h', hget⟩ := HandleTable.mem_live.1 hm
      rw [HandleTable.get?_allocate] at hget
      split at hget
      · exact .inr (Option.some.inj hget ▸ hn)
      · exact .inl (HandleTable.mem_live.2 ⟨h', hget⟩)
    · exact h
  | release side h' =>
    refine h.onTable side (·.release h') fun t m hm => .inl ?_
    obtain ⟨h'', hget⟩ := HandleTable.mem_live.1 hm
    rw [HandleTable.get?_release] at hget
    split at hget
    · cases hget
    · exact HandleTable.mem_live.2 ⟨h'', hget⟩
  | sweep side =>
    refine h.onTable side (fun t => (t.sweep s.catalog).state) fun t m hm => .inl ?_
    rw [HandleTable.live_sweep] at hm
    exact List.mem_of_mem_filter hm
  | doUnloading occurred =>
    cases occurred with
    | false => exact h
    | true =>
      refine ⟨h.stems.onAll fun _ => rfl, fun side m hm => ?_⟩
      have hget := Endpoints.get_sweep s.link.endpoints s.catalog side
      have hswept : m ∈ ((s.link.endpoints.get side).sweep s.catalog).state.handles.live :=
        hget ▸ hm
      rw [Endpoint.sweep, Outcome.within, HandleTable.live_sweep] at hswept
      exact h.known side m (List.mem_of_mem_filter hswept)

theorem Sound.run (h : s.Sound native) (ops : List Operation) : (s.run ops).Sound native := by
  induction ops generalizing s with
  | nil => exact h
  | cons op ops ih => exact ih (h.perform op)

/-- `Sound` holds of a link that is `fresh`, whose tables are empty. -/
theorem sound_fresh (settings : Settings) (parts : Parts η) :
    ({ link := fresh settings parts } : Session η).Sound settings.nativeLibrary where
  stems := .created _
  known side m hm := by
    have hempty : ((Endpoints.create settings.nativeLibrary).get side).handles = {} := by
      rw [Endpoints.create]
      split <;> cases side <;> rfl
    rw [show ({ link := fresh settings parts } : Session η).link.endpoints =
      Endpoints.create settings.nativeLibrary from rfl, hempty] at hm
    exact nomatch hm

/-! ### Every run -/

/-- The walk over the ends of a link, and what `doUnloading` does to it. -/
structure WalkedOnce (native : Bool) (s : Session η) : Prop where
  /-- There is an end for each side exactly if the compiler has a library of its own. -/
  separate_eq : s.link.endpoints.areSeparate = native
  /-- The walk goes along the `visits`, and has what each of them leads to. -/
  walk_eq : s.link.metadataWalk.map some = s.link.endpoints.visits.map s.link.endpoints.lookUp
  /-- On each end the `visits` go in slot order. -/
  sorted : ∀ side,
    (s.link.endpoints.get side).handles.inUse.Pairwise fun h h' => h.slot < h'.slot
  /-- A handle that leads somewhere is visited once on the end that it belongs to, and no other
  handle is. -/
  once : ∀ side h, (s.link.endpoints.visits.countP fun v =>
      (s.link.endpoints.get v.1).id = (s.link.endpoints.get side).id ∧ v.2 = h) =
    if ((s.link.endpoints.get side).handles.get? h).isSome then 1 else 0
  /-- The walk is as long as the tables of all sides have a `liveCount`. -/
  length_eq : s.link.metadataWalk.length =
    (s.link.endpoints.sides.map fun side => (s.link.endpoints.get side).handles.liveCount).sum
  /-- Whatever is visited was made by the host. -/
  known : ∀ m ∈ s.link.metadataWalk, m < s.catalog.entries.length
  /-- `doUnloading` takes out of the walk what is unloaded, and keeps the order. -/
  unloading_walk : (s.link.doUnloading s.catalog true).state.metadataWalk =
    s.link.metadataWalk.filter fun m => !s.catalog.isUnloaded m
  /-- Every handle of metadata that is loaded leads to it as before. -/
  unloading_lookUp : ∀ v, (s.link.doUnloading s.catalog true).state.endpoints.lookUp v =
    (s.link.endpoints.lookUp v).filter fun m => !s.catalog.isUnloaded m
  /-- `doUnloading` touches nothing but the handles. -/
  unloading_frame :
    (s.link.doUnloading s.catalog true).state =
        { s.link with endpoints := (s.link.doUnloading s.catalog true).state.endpoints } ∧
      ∀ side, (s.link.doUnloading s.catalog true).state.endpoints.get side =
        { s.link.endpoints.get side with
          handles := ((s.link.doUnloading s.catalog true).state.endpoints.get side).handles }
  /-- Unless something has been marked since, unloading again changes nothing. -/
  unloading_again : ∀ catalog : Catalog,
    (∀ m, catalog.isUnloaded m = true → s.catalog.isUnloaded m = true) →
      ((s.link.doUnloading s.catalog true).state.doUnloading catalog true).state =
        (s.link.doUnloading s.catalog true).state
  /-- Without unloading nothing happens. -/
  no_unloading : ∀ catalog, s.link.doUnloading catalog false = ⟨(), s.link, []⟩

/-- `WalkedOnce` holds after whatever has been done with the handles of a link, with one end
or two. -/
theorem walkedOnce_of_run {settings : Settings} {parts : Parts η} {link : Link η}
    (hlink : (create settings parts).value = .ok link) (ops : List Operation) :
    (run { link } ops).WalkedOnce settings.nativeLibrary := by
  obtain rfl := eq_fresh hlink
  have hs := (sound_fresh settings parts).run ops
  generalize run { link := fresh settings parts } ops = s at hs
  have hwalk : (s.link.doUnloading s.catalog true).state.metadataWalk =
      s.link.metadataWalk.filter fun m => !s.catalog.isUnloaded m :=
    s.link.endpoints.live_sweep s.catalog
  exact {
    separate_eq := hs.stems.separate_eq
    walk_eq := s.link.endpoints.map_lookUp_visits.symm
    sorted := fun side => HandleTable.pairwise_inUse _
    once := fun side h => Endpoints.countP_visits hs.stems side h
    length_eq := s.link.endpoints.length_live
    known := fun m hm => by
      rw [metadataWalk, Endpoints.live_eq_flatMap] at hm
      obtain ⟨side, -, hm⟩ := List.mem_flatMap.1 hm
      exact hs.known side m hm
    unloading_walk := hwalk
    unloading_lookUp := fun v => s.link.endpoints.lookUp_sweep s.catalog v
    unloading_frame := ⟨rfl, fun side => by
      have hget := s.link.endpoints.get_sweep s.catalog side
      show (s.link.endpoints.sweep s.catalog).state.get side =
        { s.link.endpoints.get side with
          handles := ((s.link.endpoints.sweep s.catalog).state.get side).handles }
      rw [hget, Endpoint.sweep, Outcome.within]⟩
    unloading_again := fun catalog hmarks => by
      have hloaded : ∀ m ∈ (s.link.doUnloading s.catalog true).state.metadataWalk,
          catalog.isUnloaded m = false := by
        intro m hm
        rw [hwalk, List.mem_filter, Bool.not_eq_true'] at hm
        -- What is in the walk was not unloaded before, and nothing was marked since.
        by_contra hunloaded
        rw [hmarks m (by simpa using hunloaded)] at hm
        exact Bool.noConfusion hm.2
      generalize (s.link.doUnloading s.catalog true).state = swept at hloaded
      rw [doUnloading, if_pos rfl, Outcome.within, Endpoints.sweep_of_loaded hloaded]
    no_unloading := fun catalog => rfl }

/-- One class in two slots with a hole between them, another one on the compiler's
side, unloaded. -/
def holes : List Operation :=
  [.make "A", .make "B", .allocate .managed 0, .allocate .managed 1, .allocate .managed 0,
    .allocate .compiler 1, .release .managed ⟨1⟩, .unload 1]

/-- `walkedOnce_of_run` applies to `holes`, where the class with two slots is visited twice. -/
theorem walkedOnce_of_holes :
    ∃ link, (create { nativeLibrary := true, libraryDir := "/" }
        (⟨{}, .scripted [], .stdout, "1"⟩ : Parts DemoHost)).value = .ok link ∧
      (run { link } holes).WalkedOnce true ∧
      (run { link } holes).link.metadataWalk = [0, 0, 1] ∧
      (run { link } (holes ++ [.doUnloading true])).link.metadataWalk = [0, 0] := by
  have hlink : (create { nativeLibrary := true, libraryDir := "/" }
      (⟨{}, .scripted [], .stdout, "1"⟩ : Parts DemoHost)).value = .ok (fresh _ _) := rfl
  exact ⟨_, hlink, walkedOnce_of_run hlink holes, by decide, by decide⟩

end Session

end Link.Handles

end CompilerLink
