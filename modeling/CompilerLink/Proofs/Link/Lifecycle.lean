import CompilerLink.Host.Scripted
import CompilerLink.Link.Lifecycle
import CompilerLink.Proofs.Endpoint.Shutdown
import CompilerLink.Proofs.Event.Run
import CompilerLink.Proofs.Host.Observed
import CompilerLink.Proofs.Link.Creation

/-! # The life of a link

A `Link.Life.Session` is a link whose compiler is brought up and that is shut down, as a whole or
end by end, in any order, while its host changes its mind in between. It keeps a record of what was
asked of it, with the answers. The link, its compiler and its ends have marks that tell how far they
have come. `Session.lived_of_run` says that none of them is ever taken back, that they stand for
what is in the record, and what the host, the ends and the event log have noticed of it. -/

namespace CompilerLink.Link

variable {η : Type}

/-! ### Observation -/

/-- A link whose host is `Observed` from now on. -/
def observed (l : Link η) : Link (Observed η) := { l with host := ⟨l.host, []⟩ }

/-- A link whose host is no longer `Observed`. -/
def unobserved (l : Link (Observed η)) : Link η := { l with host := l.host.host }

/-! ### Bringing the compiler up -/

/-- The three ways in which `initCompiler` can end. -/
inductive Inits [Host η] (l : Link η) (caller : Caller) :
    Outcome (Link η) (Except LinkFault Unit) → Prop where
  | closed (hdown : l.inShutdown = true) : l.Inits caller ⟨.error .shutDown, l, []⟩
  | refused {done : Outcome η (Except String Unit)} {text : String} (hup : l.inShutdown = false)
      (hdone : Host.createCompiler l.host (l.endpoints.get .compiler) = done)
      (hanswer : done.value = .error text) :
      l.Inits caller ⟨.error (.host text), { l with host := done.state }, done.emitted⟩
  | created {done : Outcome η (Except String Unit)} (hup : l.inShutdown = false)
      (hdone : Host.createCompiler l.host (l.endpoints.get .compiler) = done)
      (hanswer : done.value = .ok ()) :
      l.Inits caller
        ⟨.ok (),
          { l with
            host := done.state
            isInitialized := true
            events := (l.events.event caller 1 "initialized compiler").state },
          done.emitted ++ (l.events.event caller 1 "initialized compiler").emitted⟩

/-- `Inits` has every way in which `initCompiler` ends. -/
theorem initCompiler_inits [Host η] (l : Link η) (caller : Caller) :
    l.Inits caller (l.initCompiler caller) := by
  cases hdown : l.inShutdown with
  | true =>
    rw [initCompiler, if_pos hdown]
    exact .closed hdown
  | false =>
    rw [initCompiler, if_neg (by simp [hdown])]
    -- The link is up, so the host decides.
    cases hanswer : (Host.createCompiler l.host (l.endpoints.get .compiler)).value with
    | error text =>
      simp only [hanswer]
      exact .refused hdown rfl hanswer
    | ok =>
      simp only [hanswer]
      exact .created hdown rfl hanswer

/-- `initCompiler` does nothing but fail if `inShutdown` is set. -/
theorem initCompiler_of_inShutdown [Host η] {l : Link η} (hdown : l.inShutdown = true)
    (caller : Caller) : l.initCompiler caller = ⟨.error .shutDown, l, []⟩ := by
  rw [initCompiler, if_pos hdown]

/-- `initCompiler` fails with `LinkFault.shutDown` iff `inShutdown` is set: a host cannot make it
look so, as its failures come as `LinkFault.host`. -/
theorem initCompiler_eq_shutDown_iff [Host η] {l : Link η} {caller : Caller} :
    (l.initCompiler caller).value = .error .shutDown ↔ l.inShutdown = true := by
  have hinits := l.initCompiler_inits caller
  generalize l.initCompiler caller = o at hinits
  cases hinits with
  | closed hdown => exact iff_of_true rfl hdown
  | refused hup hdone hanswer => exact iff_of_false nofun (by simp [hup])
  | created hup hdone hanswer => exact iff_of_false nofun (by simp [hup])

/-- `initCompiler` asks the host once, for a compiler on the compiler's end, and passes its answer
on. -/
theorem initCompiler_asks [Host η] {l : Link (Observed η)} (hup : l.inShutdown = false)
    (caller : Caller) :
    (l.initCompiler caller).value =
        (Host.createCompiler l.host.host (l.endpoints.get .compiler)).value.mapError .host ∧
      (l.initCompiler caller).state.host.requests =
        .createCompiler (l.endpoints.get .compiler).id
          (Host.createCompiler l.host.host (l.endpoints.get .compiler)).value ::
            l.host.requests := by
  have hinits := l.initCompiler_inits caller
  generalize l.initCompiler caller = o at hinits
  -- What the host is asked for does not depend on how it answers.
  cases hinits with
  | closed hdown =>
    rw [hup] at hdown
    cases hdown
  | refused _ hdone hanswer =>
    rw [Observed.value_of_createCompiler hdone hanswer]
    exact ⟨rfl, Observed.requests_of_createCompiler hdone hanswer⟩
  | created _ hdone hanswer =>
    rw [Observed.value_of_createCompiler hdone hanswer]
    exact ⟨rfl, Observed.requests_of_createCompiler hdone hanswer⟩

/-- `initCompiler` does not notice that the host is `Observed`. -/
theorem initCompiler_unobserved [Host η] (l : Link (Observed η)) (caller : Caller) :
    l.unobserved.initCompiler caller = (l.initCompiler caller).within unobserved := by
  have hasked : Host.createCompiler l.host (l.endpoints.get .compiler) =
      l.host.after (.createCompiler (l.endpoints.get .compiler).id)
        (Host.createCompiler l.unobserved.host (l.unobserved.endpoints.get .compiler)) := rfl
  have hdown : l.unobserved.inShutdown = l.inShutdown := rfl
  rw [initCompiler, initCompiler, hasked, hdown]
  generalize Host.createCompiler l.unobserved.host (l.unobserved.endpoints.get .compiler) = done
  obtain ⟨value, state, emitted⟩ := done
  -- What `Observed.after` adds is a request on record, in every case.
  cases l.inShutdown with
  | true => rfl
  | false => cases value <;> rfl

/-! ### Shutting down -/

/-- `shutdown` of a link makes the remarks of its `Endpoints.shutdown` behind one of its own, which
is no `downRemark`. -/
theorem remarks_shutdown (l : Link η) (caller : Caller) :
    ∃ d : Diagnostic, (∀ e : Endpoint, d ≠ e.downRemark) ∧
      Emission.remarks (l.shutdown caller).emitted =
        d :: Emission.remarks l.endpoints.shutdown.emitted := by
  refine ⟨⟨.info, .link, "Compiler bridge shutting down", []⟩, fun e h => ?_, ?_⟩
  · have hcomponent : Component.link = Component.endpoint := congrArg Diagnostic.component h
    exact nomatch hcomponent
  · rw [shutdown, Emission.remarks_append]
    exact congrArg (· ++ _) (EventLog.remarks_event ..)

namespace Life

/-! ### Runs -/

/-- What happens to a link in the course of its life. -/
inductive Operation (η : Type) where
  /-- The host becomes another one. -/
  | change (host : η)
  | initCompiler (caller : Caller)
  | markInitialized
  | shutdown (caller : Caller)
  /-- The end of one side is shut down by itself. -/
  | shutdownEnd (side : Side)

/-- Something that was asked of a link, with what came of it. -/
inductive Entry where
  | initCompiler (caller : Caller) (answer : Except LinkFault Unit)
  | markInitialized
  | shutdown (caller : Caller) (emitted : List Emission)
  | shutdownEnd (answer : Bool) (emitted : List Emission)

namespace Entry

/-- Whether the entry has the link shut down. -/
def isShutdown : Entry → Bool
  | shutdown _ _ => true
  | _ => false

/-- Whether the entry has the compiler up, or declared up. -/
def bringsUp : Entry → Bool
  | initCompiler _ (.ok ()) => true
  | markInitialized => true
  | _ => false

/-- The remarks that were made when something was shut down. -/
def remarks : Entry → List Diagnostic
  | shutdown _ emitted => Emission.remarks emitted
  | shutdownEnd _ emitted => Emission.remarks emitted
  | _ => []

/-- The `Host.Request` that was made, if the compiler's end has the given number. -/
def request? (endpoint : Int32) : Entry → Option Host.Request
  | initCompiler _ (.ok ()) => some (.createCompiler endpoint (.ok ()))
  | initCompiler _ (.error (.host text)) => some (.createCompiler endpoint (.error text))
  | _ => none

/-- The call of `EventLog.event` by which the entry was reported. -/
def call? : Entry → Option Call
  | initCompiler caller (.ok ()) => some ⟨.event, caller, 1, "initialized compiler"⟩
  | shutdown caller _ => some ⟨.event, caller, 1, "shutting down compiler bridge"⟩
  | _ => none

/-- `isShutdown` holds of some entry iff a shutdown is in the record. -/
theorem any_isShutdown_iff {record : List Entry} :
    record.any isShutdown = true ↔ ∃ caller emitted, .shutdown caller emitted ∈ record := by
  rw [List.any_eq_true]
  constructor
  · rintro ⟨entry, hentry, his⟩
    cases entry with
    | shutdown caller emitted => exact ⟨caller, emitted, hentry⟩
    | initCompiler | markInitialized | shutdownEnd => cases his
  · rintro ⟨caller, emitted, hentry⟩
    exact ⟨_, hentry, rfl⟩

/-- `bringsUp` holds of some entry iff a success of `initCompiler` or a `markInitialized` is in the
record. -/
theorem any_bringsUp_iff {record : List Entry} :
    record.any bringsUp = true ↔
      (∃ caller, .initCompiler caller (.ok ()) ∈ record) ∨ .markInitialized ∈ record := by
  rw [List.any_eq_true]
  constructor
  · rintro ⟨entry, hentry, hbrings⟩
    -- A failed attempt, like a shutdown, brings nothing up.
    cases entry with
    | initCompiler caller answer =>
      cases answer with
      | ok => exact .inl ⟨caller, hentry⟩
      | error fault => cases hbrings
    | markInitialized => exact .inr hentry
    | shutdown | shutdownEnd => cases hbrings
  · rintro (⟨caller, hentry⟩ | hentry)
    · exact ⟨_, hentry, rfl⟩
    · exact ⟨_, hentry, rfl⟩

/-- The calls of a record, oldest first. -/
def callsOf (record : List Entry) : List Call := (record.filterMap call?).reverse

/-- A newer entry with a `call?` adds that call at the end of `callsOf`. -/
theorem callsOf_cons {entry : Entry} {c : Call} (h : entry.call? = some c) (record : List Entry) :
    callsOf (entry :: record) = callsOf record ++ [c] := by
  rw [callsOf, List.filterMap_cons_some h, List.reverse_cons]
  rfl

end Entry

/-- A link with an `Observed` host, and the record of its life. -/
structure Session (η : Type) where
  link : Link (Observed η)
  /-- What was asked of the link, newest first. -/
  record : List Entry := []

namespace Session

/-- Carry out an operation, and note in the record what came of it. -/
def perform [Host η] (s : Session η) : Operation η → Session η
  | .change host => { s with link.host.host := host }
  | .initCompiler caller =>
    let done := s.link.initCompiler caller
    ⟨done.state, .initCompiler caller done.value :: s.record⟩
  | .markInitialized => ⟨s.link.markInitialized, .markInitialized :: s.record⟩
  | .shutdown caller =>
    let done := s.link.shutdown caller
    ⟨done.state, .shutdown caller done.emitted :: s.record⟩
  | .shutdownEnd side =>
    let done := s.link.endpoints.onSide side Endpoint.shutdown
    ⟨{ s.link with endpoints := done.state }, .shutdownEnd done.value done.emitted :: s.record⟩

def run [Host η] (s : Session η) (ops : List (Operation η)) : Session η := ops.foldl perform s

variable {s : Session η} {native : Bool} {log : EventLog}

/-- What is in the record shows in the link, which began with the event log `log`. -/
structure Sound (native : Bool) (log : EventLog) (s : Session η) : Prop where
  /-- The ends are those of the beginning. -/
  stems : s.link.endpoints.Stems native
  /-- `inShutdown` is set iff some entry has `isShutdown`. -/
  inShutdown_eq : s.link.inShutdown = s.record.any Entry.isShutdown
  /-- `isInitialized` is set iff some entry has `bringsUp`. -/
  isInitialized_eq : s.link.isInitialized = s.record.any Entry.bringsUp
  /-- When the link is down, so are its ends. -/
  all_down : s.link.inShutdown = true → ∀ side, (s.link.endpoints.get side).isShutDown = true
  /-- An end that is down has made its `downRemark` once, and one that is up has not. -/
  once : ∀ side, (s.record.flatMap Entry.remarks).count (s.link.endpoints.get side).downRemark =
    if (s.link.endpoints.get side).isShutDown then 1 else 0
  /-- The host was asked for what is in the record. -/
  requests_eq : s.link.host.requests =
    s.record.filterMap (Entry.request? (s.link.endpoints.get .compiler).id)
  /-- The event log has had the calls of the record. -/
  events_eq : s.link.events = (log.performAll (Entry.callsOf s.record)).state

/-- By `Sound`, an entry with a `call?` stands for one event more. -/
theorem Sound.report (h : s.Sound native log) {entry : Entry} (c : Call)
    (hentry : entry.call? = some c) :
    (s.link.events.perform c).state =
      (log.performAll (Entry.callsOf (entry :: s.record))).state := by
  rw [Entry.callsOf_cons hentry, (EventLog.performAll_append log _ [c]).1, ← h.events_eq]
  rfl

/-- `Sound` holds of a link that is `fresh`. -/
theorem sound_fresh (settings : Settings) (parts : Parts η) :
    ({ link := (fresh settings parts).observed } : Session η).Sound settings.nativeLibrary
      (EventLog.ofSettings settings parts.console) := by
  -- New ends are up, so nothing has gone down and nothing is on record.
  have hup : ∀ side, ((Endpoints.create settings.nativeLibrary).get side).isShutDown = false := by
    intro side
    rw [Endpoints.create]
    split <;> cases side <;> rfl
  exact {
    stems := .created _
    inShutdown_eq := rfl
    isInitialized_eq := rfl
    all_down := fun hdown => nomatch hdown
    once := fun side => (if_neg (by simp [hup side, observed, fresh])).symm
    requests_eq := rfl
    events_eq := rfl }

variable [Host η]

/-- `Sound` is preserved by `initCompiler`, in each of the ways of `Inits`. -/
theorem Sound.initCompiler (h : s.Sound native log) (caller : Caller) :
    (s.perform (.initCompiler caller)).Sound native log := by
  have hinits := s.link.initCompiler_inits caller
  rw [Session.perform]
  generalize s.link.initCompiler caller = o at hinits
  -- Only a success is reported, and only an attempt that gets as far asks the host.
  cases hinits with
  | closed hdown =>
    exact ⟨h.stems, h.inShutdown_eq, h.isInitialized_eq, h.all_down, h.once, h.requests_eq,
      h.events_eq⟩
  | @refused done text hup hdone hanswer =>
    refine ⟨h.stems, h.inShutdown_eq, h.isInitialized_eq, h.all_down, h.once, ?_, h.events_eq⟩
    rw [Observed.requests_of_createCompiler hdone hanswer, h.requests_eq]
    rfl
  | @created done hup hdone hanswer =>
    refine ⟨h.stems, h.inShutdown_eq, rfl, h.all_down, h.once, ?_,
      h.report ⟨.event, caller, 1, "initialized compiler"⟩ rfl⟩
    rw [Observed.requests_of_createCompiler hdone hanswer, h.requests_eq]
    rfl

theorem Sound.shutdown (h : s.Sound native log) (caller : Caller) :
    (s.perform (.shutdown caller)).Sound native log := by
  have hstems : s.link.endpoints.shutdown.state.Stems native :=
    h.stems.onAll Endpoint.identity_shutdown
  exact {
    stems := hstems
    inShutdown_eq := rfl
    isInitialized_eq := h.isInitialized_eq
    all_down := fun _ side => s.link.endpoints.isShutDown_shutdown side
    once := fun side => by
      -- Besides the ends, the link makes a remark of its own.
      obtain ⟨d, hother, hremarks⟩ := s.link.remarks_shutdown caller
      have hdown := s.link.endpoints.isShutDown_shutdown side
      show (Emission.remarks (s.link.shutdown caller).emitted ++
        s.record.flatMap Entry.remarks).count
          (s.link.endpoints.shutdown.state.get side).downRemark =
            if (s.link.endpoints.shutdown.state.get side).isShutDown then 1 else 0
      rw [hstems.downRemark_eq h.stems side, hremarks, List.cons_append,
        List.count_cons_of_ne (hother _), List.count_append, h.stems.count_shutdown, h.once, hdown]
      split <;> rfl
    requests_eq := by
      show s.link.host.requests = s.record.filterMap
        (Entry.request? (s.link.endpoints.shutdown.state.get .compiler).id)
      rw [hstems.id_eq h.stems, h.requests_eq]
    events_eq := h.report ⟨.event, caller, 1, "shutting down compiler bridge"⟩ rfl }

/-- `Sound` is preserved by `Endpoint.shutdown` of one end. -/
theorem Sound.shutdownEnd (h : s.Sound native log) (side : Side) :
    (s.perform (.shutdownEnd side)).Sound native log := by
  have hstems : (s.link.endpoints.onSide side Endpoint.shutdown).state.Stems native :=
    h.stems.onSide side Endpoint.shutdown Endpoint.identity_shutdown
  exact {
    stems := hstems
    inShutdown_eq := h.inShutdown_eq
    isInitialized_eq := h.isInitialized_eq
    all_down := fun hdown side' => by
      show ((s.link.endpoints.onSide side Endpoint.shutdown).state.get side').isShutDown = true
      rw [Endpoints.isShutDown_onSide, h.all_down hdown side', ite_self]
    once := fun side' => by
      show ((Emission.remarks (s.link.endpoints.get side).shutdown.emitted ++
        s.record.flatMap Entry.remarks).count
          ((s.link.endpoints.onSide side Endpoint.shutdown).state.get side').downRemark) =
            if ((s.link.endpoints.onSide side Endpoint.shutdown).state.get side').isShutDown then 1
            else 0
      -- The end adds to the count of its own remark, and of the other end's only if they are one
      -- end.
      rw [hstems.downRemark_eq h.stems side', List.count_append, h.stems.count_shutdown_end,
        h.once, Endpoints.isShutDown_onSide]
      split
      · split <;> rfl
      · exact Nat.zero_add _
    requests_eq := by
      show s.link.host.requests = s.record.filterMap (Entry.request?
        ((s.link.endpoints.onSide side Endpoint.shutdown).state.get .compiler).id)
      rw [hstems.id_eq h.stems, h.requests_eq]
    events_eq := h.events_eq }

/-- `Sound` is preserved by every operation. -/
theorem Sound.perform (h : s.Sound native log) (op : Operation η) :
    (s.perform op).Sound native log := by
  cases op with
  | change host =>
    exact ⟨h.stems, h.inShutdown_eq, h.isInitialized_eq, h.all_down, h.once, h.requests_eq,
      h.events_eq⟩
  | initCompiler caller => exact h.initCompiler caller
  | markInitialized =>
    exact ⟨h.stems, h.inShutdown_eq, rfl, h.all_down, h.once, h.requests_eq, h.events_eq⟩
  | shutdown caller => exact h.shutdown caller
  | shutdownEnd side => exact h.shutdownEnd side

theorem Sound.run (h : s.Sound native log) (ops : List (Operation η)) :
    (s.run ops).Sound native log := by
  induction ops generalizing s with
  | nil => exact h
  | cons op ops ih => exact ih (h.perform op)

/-! ### Every life -/

/-- `run` only adds to the record. -/
theorem record_run (s : Session η) (ops : List (Operation η)) :
    s.record <:+ (s.run ops).record := by
  have hperform : ∀ (s : Session η) (op : Operation η), s.record <:+ (s.perform op).record := by
    intro s op
    -- A new host is not put on record; everything else is one entry more.
    cases op with
    | change host => exact List.suffix_rfl
    | initCompiler caller => exact List.suffix_cons ..
    | markInitialized => exact List.suffix_cons ..
    | shutdown caller => exact List.suffix_cons ..
    | shutdownEnd side => exact List.suffix_cons ..
  induction ops generalizing s with
  | nil => exact List.suffix_rfl
  | cons op ops ih => exact (hperform s op).trans (ih _)

/-- The marks that are set in `l` are set in `l'` too. -/
structure Keeps (l l' : Link (Observed η)) : Prop where
  inShutdown : l.inShutdown = true → l'.inShutdown = true
  isInitialized : l.isInitialized = true → l'.isInitialized = true
  isShutDown : ∀ side, (l.endpoints.get side).isShutDown = true →
    (l'.endpoints.get side).isShutDown = true

/-- By `Sound` the marks stand for the record, which only grows, so the link after a `run` `Keeps`
those before it. -/
theorem Sound.keeps (h : s.Sound native log) (ops : List (Operation η)) :
    Keeps s.link (s.run ops).link := by
  have h' := h.run ops
  obtain ⟨later, hlater⟩ := s.record_run ops
  constructor
  · rw [h.inShutdown_eq, h'.inShutdown_eq, ← hlater, List.any_append]
    exact fun hany => by rw [hany, Bool.or_true]
  · rw [h.isInitialized_eq, h'.isInitialized_eq, ← hlater, List.any_append]
    exact fun hany => by rw [hany, Bool.or_true]
  · -- The remark that the end has made by now is among those it has made later.
    intro side hdown
    have honce := h.once side
    have honce' := h'.once side
    rw [if_pos hdown] at honce
    rw [h'.stems.downRemark_eq h.stems side, ← hlater, List.flatMap_append, List.count_append,
      honce] at honce'
    split at honce'
    · assumption
    · omega

/-- What can be said of a link that began with the event log `log`, at any time of its life. -/
structure Lived (native : Bool) (log : EventLog) (s : Session η) : Prop where
  /-- There is an end for each side exactly if the compiler has a library of its own. -/
  separate_eq : s.link.endpoints.areSeparate = native
  /-- No mark is ever taken back: every state `Keeps` the marks of those before it. -/
  kept : ∀ ops, Keeps s.link (s.run ops).link
  /-- `inShutdown` is set iff the link was shut down. -/
  inShutdown_iff : s.link.inShutdown = true ↔ ∃ caller emitted, .shutdown caller emitted ∈ s.record
  /-- `isInitialized` is set iff the compiler came up, or was declared up. -/
  isInitialized_iff : s.link.isInitialized = true ↔
    (∃ caller, .initCompiler caller (.ok ()) ∈ s.record) ∨ .markInitialized ∈ s.record
  /-- When the link is down, so are its ends. -/
  all_down : s.link.inShutdown = true → ∀ side, (s.link.endpoints.get side).isShutDown = true
  /-- Each end has made its `downRemark` once if it is down, and never if it is up. -/
  once : ∀ side, (s.record.flatMap Entry.remarks).count (s.link.endpoints.get side).downRemark =
    if (s.link.endpoints.get side).isShutDown then 1 else 0
  /-- The `downRemark` by which this is counted tells which end it was. -/
  downRemark_eq_iff : ∀ side side',
    (s.link.endpoints.get side).downRemark = (s.link.endpoints.get side').downRemark ↔
      side = side' ∨ s.link.endpoints.areSeparate = false
  /-- It is made by the `Endpoint.shutdown` that did the work, which answers so. -/
  downRemark_iff : ∀ side,
    (s.link.endpoints.get side).shutdown.value = !(s.link.endpoints.get side).isShutDown ∧
      Emission.remarks (s.link.endpoints.get side).shutdown.emitted =
        if (s.link.endpoints.get side).shutdown.value then [(s.link.endpoints.get side).downRemark]
        else []
  /-- `initCompiler` fails with `LinkFault.shutDown` iff the link has been shut down. -/
  closed_iff : ∀ caller, (s.link.initCompiler caller).value = .error .shutDown ↔
    ∃ caller emitted, .shutdown caller emitted ∈ s.record
  /-- Then nothing at all happens. -/
  closed : s.link.inShutdown = true → ∀ caller,
    s.link.initCompiler caller = ⟨.error .shutDown, s.link, []⟩
  /-- Until then the host is asked once, for a compiler on the compiler's end, and its answer is
  passed on. -/
  asked : s.link.inShutdown = false → ∀ caller,
    (s.link.initCompiler caller).value =
        (Host.createCompiler s.link.host.host (s.link.endpoints.get .compiler)).value.mapError
          .host ∧
      (s.link.initCompiler caller).state.host.requests =
        .createCompiler (s.link.endpoints.get .compiler).id
          (Host.createCompiler s.link.host.host (s.link.endpoints.get .compiler)).value ::
            s.link.host.requests
  /-- All in all, the host was asked for what is in the record and for nothing else. -/
  requests_eq : s.link.host.requests =
    s.record.filterMap (Entry.request? (s.link.endpoints.get .compiler).id)
  /-- Each success and each shutdown of the link was reported once, and nothing else was. -/
  events_eq : s.link.events = (log.performAll (Entry.callsOf s.record)).state
  /-- `initCompiler` does not notice that the host is `Observed`. -/
  unobserved : ∀ caller, s.link.unobserved.initCompiler caller =
    (s.link.initCompiler caller).within unobserved

/-- `Lived` holds after any operations, with one end or two and whatever the host is like. -/
theorem lived_of_run {settings : Settings} {parts : Parts η} {link : Link η}
    (hlink : (create settings parts).value = .ok link) (ops : List (Operation η)) :
    (run { link := link.observed } ops).Lived settings.nativeLibrary
      (EventLog.ofSettings settings parts.console) := by
  obtain rfl := eq_fresh hlink
  have h := (sound_fresh settings parts).run ops
  generalize run { link := (fresh settings parts).observed } ops = s at h
  -- `inShutdown_iff` and `closed_iff` both rest on this.
  have hshutdown : s.link.inShutdown = true ↔
      ∃ caller emitted, .shutdown caller emitted ∈ s.record := by
    rw [h.inShutdown_eq, Entry.any_isShutdown_iff]
  exact {
    separate_eq := h.stems.separate_eq
    kept := h.keeps
    inShutdown_iff := hshutdown
    isInitialized_iff := by rw [h.isInitialized_eq, Entry.any_bringsUp_iff]
    all_down := h.all_down
    once := h.once
    downRemark_eq_iff := h.stems.downRemark_eq_iff
    downRemark_iff := fun side => by
      rw [Endpoint.remarks_shutdown, Endpoint.shutdown_eq]
      cases (s.link.endpoints.get side).isShutDown <;> exact ⟨rfl, rfl⟩
    closed_iff := fun caller => initCompiler_eq_shutDown_iff.trans hshutdown
    closed := initCompiler_of_inShutdown
    asked := initCompiler_asks
    requests_eq := h.requests_eq
    events_eq := h.events_eq
    unobserved := s.link.initCompiler_unobserved }

/-- The compiler comes up, the host changes its mind, and the ends go down one after the other. -/
def decline : List (Operation ScriptedHost) :=
  [.initCompiler (.main "0"), .change { refusedCompiler := some "busy" },
    .initCompiler (.main "1"), .shutdownEnd .compiler, .shutdown (.main "2"), .shutdown (.main "3"),
    .initCompiler (.main "4")]

/-- `lived_of_run` applies to `decline`, in which the host is asked twice and each end goes down
once. -/
theorem lived_of_decline :
    ∃ link, (create { nativeLibrary := true, libraryDir := "/" }
        (⟨{}, .scripted [], .stdout, "1"⟩ : Parts ScriptedHost)).value = .ok link ∧
      (run { link := link.observed } decline).Lived true
        (EventLog.ofSettings { nativeLibrary := true, libraryDir := "/" } .stdout) ∧
      (run { link := link.observed } decline).link.host.requests =
        [.createCompiler 0 (.error "busy"), .createCompiler 0 (.ok ())] ∧
      ((run { link := link.observed } decline).record.flatMap Entry.remarks).map
          Diagnostic.message =
        ["Compiler bridge shutting down", "Compiler bridge shutting down",
          "Runtime instance shut down", "Runtime instance shut down"] := by
  have hlink : (create { nativeLibrary := true, libraryDir := "/" }
      (⟨{}, .scripted [], .stdout, "1"⟩ : Parts ScriptedHost)).value = .ok (fresh _ _) := rfl
  exact ⟨_, hlink, lived_of_run hlink decline, rfl, rfl⟩

end Session

end Life

end CompilerLink.Link
