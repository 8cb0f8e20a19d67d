import Mathlib.Data.List.Chain
import CompilerLink.Proofs.Host.Observed

/-! # Classes in turn

`Host.loadMissing` gives each class a turn, in order, until one cannot be initialized. `Host.turns`
lists the turns that are taken, each with the host as it is then, so that it can be read off the
list what the host was asked for and where it stopped (`loadMissing_ends`, `loadMissing_observed`).
If in none of its turns a host loses a class that is initialized, it is never asked to initialize
one that it has initialized before (`Observed.LoadsOnce.loadMissing`). -/

namespace CompilerLink

namespace Host

variable {η : Type}

/-! ### Turns -/

/-- The turn of a class, with the host as it is then. -/
structure Turn (η : Type) where
  host : η
  name : String

/-- A class is initialized in its turn by `loadClass`, unless the host says that it is already. -/
def Turn.outcome [Host η] (t : Turn η) : Outcome η (Except String Unit) :=
  if hasClass t.host t.name then ⟨.ok (), t.host, []⟩ else loadClass t.host t.name

/-- What the host is asked for in the turn. -/
def Turn.request? [Host η] (t : Turn η) : Option Request :=
  if hasClass t.host t.name then none
  else some (.loadClass t.name (loadClass t.host t.name).value)

/-- The turns that `loadMissing` takes, up to the first that fails. -/
def turns [Host η] : η → List String → List (Turn η)
  | _, [] => []
  | host, c :: rest =>
    let t : Turn η := ⟨host, c⟩
    match t.outcome.value with
    | .ok () => t :: turns t.outcome.state rest
    | .error _ => [t]

variable [Host η] {host : η} {c : String} {rest classes : List String}

/-- After a turn that succeeds, `turns` go on with the host that it has left. -/
theorem turns_cons_of_ok (hok : (⟨host, c⟩ : Turn η).outcome.value = .ok ()) :
    turns host (c :: rest) =
      ⟨host, c⟩ :: turns (⟨host, c⟩ : Turn η).outcome.state rest := by
  simp only [turns, hok]

/-- A turn that fails is the last of `turns`. -/
theorem turns_cons_of_error {text : String}
    (herror : (⟨host, c⟩ : Turn η).outcome.value = .error text) :
    turns host (c :: rest) = [⟨host, c⟩] := by
  simp only [turns, herror]

/-- After a turn that succeeds, `loadMissing` goes on with the host that it has left. -/
theorem loadMissing_cons_of_ok (hok : (⟨host, c⟩ : Turn η).outcome.value = .ok ()) :
    loadMissing host (c :: rest) =
      (loadMissing (⟨host, c⟩ : Turn η).outcome.state rest).after
        (⟨host, c⟩ : Turn η).outcome.emitted := by
  unfold Turn.outcome at hok ⊢
  rw [loadMissing]
  by_cases hhas : hasClass host c = true
  · rw [if_pos hhas, if_pos hhas]
    rfl
  · rw [if_neg hhas] at hok ⊢
    rw [if_neg hhas]
    simp only [hok]

/-- A turn that fails is the outcome of `loadMissing`. -/
theorem loadMissing_cons_of_error {text : String}
    (herror : (⟨host, c⟩ : Turn η).outcome.value = .error text) :
    loadMissing host (c :: rest) = (⟨host, c⟩ : Turn η).outcome := by
  unfold Turn.outcome at herror ⊢
  rw [loadMissing]
  by_cases hhas : hasClass host c = true
  · rw [if_pos hhas] at herror
    exact nomatch herror
  · rw [if_neg hhas] at herror ⊢
    rw [if_neg hhas]
    dsimp only at herror ⊢
    generalize loadClass host c = done at herror ⊢
    obtain ⟨value, state, emitted⟩ := done
    cases herror
    rfl

/-! ### From turn to turn -/

/-- The first of `turns` begins with the given host. -/
theorem host_head_turns (host : η) (classes : List String) :
    ∀ t ∈ (turns host classes).head?, t.host = host := by
  intro t ht
  -- The first turn is that of the first class, however it ends.
  cases classes with
  | nil => exact nomatch ht
  | cons c rest =>
    cases hvalue : (⟨host, c⟩ : Turn η).outcome.value with
    | ok =>
      rw [turns_cons_of_ok hvalue] at ht
      obtain rfl := Option.some.inj ht
      rfl
    | error text =>
      rw [turns_cons_of_error hvalue] at ht
      obtain rfl := Option.some.inj ht
      rfl

/-- Each of `turns` begins with the host that the one before it has left, and only if that has
succeeded. -/
theorem isChain_turns (host : η) (classes : List String) :
    (turns host classes).IsChain fun t next =>
      t.outcome.value = .ok () ∧ next.host = t.outcome.state := by
  induction classes generalizing host with
  | nil => exact .nil
  | cons c rest ih =>
    cases hvalue : (⟨host, c⟩ : Turn η).outcome.value with
    | ok =>
      rw [turns_cons_of_ok hvalue, List.isChain_cons]
      exact ⟨fun next hnext => ⟨hvalue, host_head_turns _ _ next hnext⟩, ih _⟩
    | error text =>
      rw [turns_cons_of_error hvalue]
      exact .singleton _

/-- `loadMissing` leaves what the last of `turns` leaves. -/
theorem state_loadMissing (host : η) (classes : List String) :
    (loadMissing host classes).state =
      (turns host classes).getLast?.elim host fun t => t.outcome.state := by
  induction classes generalizing host with
  | nil => rfl
  | cons c rest ih =>
    -- A turn that fails is the last; after any other one the rest begins with its host.
    cases hvalue : (⟨host, c⟩ : Turn η).outcome.value with
    | ok =>
      rw [loadMissing_cons_of_ok hvalue, turns_cons_of_ok hvalue, Outcome.state_after, ih,
        List.getLast?_cons]
      cases (turns (⟨host, c⟩ : Turn η).outcome.state rest).getLast? <;> rfl
    | error text =>
      rw [loadMissing_cons_of_error hvalue, turns_cons_of_error hvalue]
      rfl

/-! ### Where they end -/

/-- The names of `turns` are a prefix of the classes, so none has its turn out of order. -/
theorem names_turns_prefix (host : η) (classes : List String) :
    (turns host classes).map (·.name) <+: classes := by
  induction classes generalizing host with
  | nil => exact List.prefix_rfl
  | cons c rest ih =>
    cases hvalue : (⟨host, c⟩ : Turn η).outcome.value with
    | ok =>
      rw [turns_cons_of_ok hvalue]
      exact List.cons_prefix_cons.2 ⟨rfl, ih _⟩
    | error text =>
      rw [turns_cons_of_error hvalue]
      exact List.cons_prefix_cons.2 ⟨rfl, List.nil_prefix⟩

/-- How turns can end: all classes have theirs and succeed, or one of them fails and is the last. -/
inductive Ends (host : η) (classes : List String) : Except String Unit → Prop where
  | all (hnames : (turns host classes).map (·.name) = classes)
      (hok : ∀ t ∈ turns host classes, t.outcome.value = .ok ()) : Ends host classes (.ok ())
  | failed {earlier : List (Turn η)} {last : Turn η} {text : String}
      (hturns : turns host classes = earlier ++ [last])
      (hok : ∀ t ∈ earlier, t.outcome.value = .ok ())
      (herror : last.outcome.value = .error text) : Ends host classes (.error text)

/-- `loadMissing` answers as its turns end in the sense of `Ends`. -/
theorem loadMissing_ends (host : η) (classes : List String) :
    Ends host classes (loadMissing host classes).value := by
  -- By induction on the classes, for every host, as each turn leaves another one.
  induction classes generalizing host with
  | nil => exact .all rfl (by simp [turns])
  | cons c rest ih =>
    cases hvalue : (⟨host, c⟩ : Turn η).outcome.value with
    | ok =>
      have hrest := ih (⟨host, c⟩ : Turn η).outcome.state
      rw [loadMissing_cons_of_ok hvalue, Outcome.value_after]
      generalize (loadMissing (⟨host, c⟩ : Turn η).outcome.state rest).value = answer at hrest
      -- The other classes end as they do without the first, which is put in front of them.
      cases hrest with
      | all hnames hok =>
        apply Ends.all
        · rw [turns_cons_of_ok hvalue, List.map_cons, hnames]
        · rw [turns_cons_of_ok hvalue]
          exact List.forall_mem_cons.2 ⟨hvalue, hok⟩
      | @failed earlier last text hturns hok herror =>
        have hcons : turns host (c :: rest) = (⟨host, c⟩ :: earlier) ++ [last] := by
          rw [turns_cons_of_ok hvalue, hturns, List.cons_append]
        exact .failed hcons (List.forall_mem_cons.2 ⟨hvalue, hok⟩) herror
    | error text =>
      rw [loadMissing_cons_of_error hvalue, hvalue]
      have hone : turns host (c :: rest) = [] ++ [⟨host, c⟩] := turns_cons_of_error hvalue
      exact .failed hone (by simp) hvalue

/-- `loadMissing` emits what its `turns` emit, one after the other. -/
theorem emitted_loadMissing (host : η) (classes : List String) :
    (loadMissing host classes).emitted =
      (turns host classes).flatMap fun t => t.outcome.emitted := by
  induction classes generalizing host with
  | nil => rfl
  | cons c rest ih =>
    cases hvalue : (⟨host, c⟩ : Turn η).outcome.value with
    | ok =>
      rw [loadMissing_cons_of_ok hvalue, turns_cons_of_ok hvalue, Outcome.emitted_after, ih,
        List.flatMap_cons]
    | error text =>
      rw [loadMissing_cons_of_error hvalue, turns_cons_of_error hvalue, List.flatMap_singleton]

/-! ### Hosts that are watched -/

/-- A turn of an `Observed` host is that of the host inside, with the request noted if there
is one. -/
theorem outcome_observed (o : Observed η) (c : String) :
    (⟨o, c⟩ : Turn (Observed η)).outcome = (⟨o.host, c⟩ : Turn η).outcome.within fun host =>
      ⟨host, (⟨o.host, c⟩ : Turn η).request?.toList ++ o.requests⟩ := by
  unfold Turn.outcome Turn.request?
  by_cases hhas : hasClass o.host c = true
  · rw [if_pos hhas, if_pos hhas]
    exact if_pos hhas
  · rw [if_neg hhas, if_neg hhas]
    exact if_neg hhas

/-- A turn of an `Observed` host answers as that of the host inside. -/
theorem value_outcome_observed (o : Observed η) (c : String) :
    (⟨o, c⟩ : Turn (Observed η)).outcome.value = (⟨o.host, c⟩ : Turn η).outcome.value := by
  rw [outcome_observed]
  rfl

/-- `loadMissing` with an `Observed` host is that with the host inside, and notes the requests made
in `turns`. -/
theorem loadMissing_observed (o : Observed η) (classes : List String) :
    loadMissing o classes = (loadMissing o.host classes).within fun host =>
      ⟨host, ((turns o.host classes).filterMap Turn.request?).reverse ++ o.requests⟩ := by
  induction classes generalizing o with
  | nil => rfl
  | cons c rest ih =>
    have hvalue' := value_outcome_observed o c
    have hturn := outcome_observed o c
    cases hvalue : (⟨o.host, c⟩ : Turn η).outcome.value with
    | ok =>
      rw [hvalue] at hvalue'
      rw [loadMissing_cons_of_ok hvalue', ih, hturn, loadMissing_cons_of_ok hvalue,
        turns_cons_of_ok hvalue, List.filterMap_cons]
      -- The request of the first turn is the oldest of the new ones.
      cases (⟨o.host, c⟩ : Turn η).request? with
      | none => rfl
      | some request => simp [Outcome.within, Outcome.after]
    | error text =>
      rw [hvalue] at hvalue'
      rw [loadMissing_cons_of_error hvalue', hturn, loadMissing_cons_of_error hvalue,
        turns_cons_of_error hvalue, List.filterMap_cons]
      cases (⟨o.host, c⟩ : Turn η).request? with
      | none => rfl
      | some request => rfl

/-! ### Hosts that lose no class -/

/-- Every class that is initialized in `host` is so in `later`. -/
def Keeps (host later : η) : Prop := ∀ c, hasClass host c = true → hasClass later c = true

/-- No class is lost in the turn, and one whose turn succeeds is initialized then. -/
structure Turn.Steady (t : Turn η) : Prop where
  /-- The host after the turn `Keeps` the classes of the host before it. -/
  keeps : Keeps t.host t.outcome.state
  loads : t.outcome.value = .ok () → hasClass t.outcome.state t.name = true

/-- If every turn is `Steady`, `loadMissing` loses no class, and has initialized all of them if it
succeeds. -/
theorem loadMissing_steady (hsteady : ∀ t ∈ turns host classes, t.Steady) :
    Keeps host (loadMissing host classes).state ∧
      ((loadMissing host classes).value = .ok () →
        ∀ c ∈ classes, hasClass (loadMissing host classes).state c = true) := by
  induction classes generalizing host with
  | nil => exact ⟨fun _ h => h, fun _ => by simp⟩
  | cons c rest ih =>
    cases hvalue : (⟨host, c⟩ : Turn η).outcome.value with
    | ok =>
      rw [turns_cons_of_ok hvalue] at hsteady
      obtain ⟨hturn, hlater⟩ := List.forall_mem_cons.1 hsteady
      obtain ⟨hkeeps, hall⟩ := ih hlater
      rw [loadMissing_cons_of_ok hvalue, Outcome.state_after, Outcome.value_after]
      -- What the first turn has initialized, the others keep.
      refine ⟨fun c' h => hkeeps c' (hturn.keeps c' h), fun hok => ?_⟩
      exact List.forall_mem_cons.2 ⟨hkeeps c (hturn.loads hvalue), hall hok⟩
    | error text =>
      rw [turns_cons_of_error hvalue] at hsteady
      rw [loadMissing_cons_of_error hvalue]
      refine ⟨(hsteady _ (List.mem_singleton_self _)).keeps, fun hok => ?_⟩
      rw [hvalue] at hok
      exact nomatch hok

/-- The class that was initialized, if the request was for that and was granted. -/
def Request.loaded? : Request → Option String
  | .loadClass c (.ok ()) => some c
  | _ => none

end Host

namespace Observed

open Host (Turn turns loadMissing hasClass)

variable {η : Type} [Host η] {o : Observed η}

/-- The host was granted each class at most once, and has them all. -/
structure LoadsOnce (o : Observed η) : Prop where
  once : (o.requests.filterMap Host.Request.loaded?).Nodup
  has : ∀ c ∈ o.requests.filterMap Host.Request.loaded?, hasClass o.host c = true

/-- `LoadsOnce` is preserved by a `Steady` turn. -/
theorem LoadsOnce.turn (h : o.LoadsOnce) {c : String} (hsteady : (⟨o.host, c⟩ : Turn η).Steady) :
    (⟨o, c⟩ : Turn (Observed η)).outcome.state.LoadsOnce := by
  have hkept : ∀ c' ∈ o.requests.filterMap Host.Request.loaded?,
      hasClass (⟨o.host, c⟩ : Turn η).outcome.state c' = true :=
    fun c' hc' => hsteady.keeps c' (h.has c' hc')
  have hloads := hsteady.loads
  rw [Host.outcome_observed]
  unfold Turn.request?
  by_cases hhas : hasClass o.host c = true
  · rw [if_pos hhas]
    exact ⟨h.once, hkept⟩
  · rw [if_neg hhas]
    unfold Turn.outcome at hkept hloads ⊢
    rw [if_neg hhas] at hkept hloads ⊢
    dsimp only at hkept hloads ⊢
    cases hvalue : (Host.loadClass o.host c).value with
    | error text => exact ⟨h.once, hkept⟩
    | ok =>
      -- A class that was granted before would be there, and would not be asked for.
      have hnew : c ∉ o.requests.filterMap Host.Request.loaded? := fun hc => hhas (h.has c hc)
      exact ⟨List.nodup_cons.2 ⟨hnew, h.once⟩,
        List.forall_mem_cons.2 ⟨hloads hvalue, hkept⟩⟩

/-- `LoadsOnce` is preserved by `loadMissing`, if every turn is `Steady`. -/
theorem LoadsOnce.loadMissing {classes : List String} (h : o.LoadsOnce)
    (hsteady : ∀ t ∈ turns o.host classes, t.Steady) :
    (Host.loadMissing o classes).state.LoadsOnce := by
  induction classes generalizing o with
  | nil => exact h
  | cons c rest ih =>
    -- The observed host answers as the host inside does, so the turns are the same.
    have hvalue' := Host.value_outcome_observed o c
    have hturn := Host.outcome_observed o c
    cases hvalue : (⟨o.host, c⟩ : Turn η).outcome.value with
    | ok =>
      rw [Host.turns_cons_of_ok hvalue] at hsteady
      obtain ⟨hfirst, hlater⟩ := List.forall_mem_cons.1 hsteady
      rw [hvalue] at hvalue'
      rw [Host.loadMissing_cons_of_ok hvalue', Outcome.state_after]
      apply ih (h.turn hfirst)
      rw [hturn]
      exact hlater
    | error text =>
      rw [Host.turns_cons_of_error hvalue] at hsteady
      rw [hvalue] at hvalue'
      rw [Host.loadMissing_cons_of_error hvalue']
      exact h.turn (hsteady _ (List.mem_singleton_self _))

end Observed

end CompilerLink
