import CompilerLink.Proofs.Host.Turns
import CompilerLink.Proofs.Link.Lifecycle

/-! # Priming the box caches

A `Link.Priming.Session` is a link that is asked to prime the box caches, by any callers and as
often as they like, while its host becomes a different one in between. It keeps a record of the
calls with their answers. As long as no call has succeeded, a call gives the classes their turns
until one fails (`Primes`), and the next call begins again. `Session.primedOnce_of_run` says that
the first success is reported and is the last call that does anything; and that no class is
initialized twice on the way there, however many calls fail, if the host loses none. -/

namespace CompilerLink.Link

open Host (Turn turns loadMissing)

variable {η : Type}

/-! ### One call -/

/-- The `EventLog.event` that tells that the box caches are primed. -/
def primedEvent (log : EventLog) (caller : Caller) : Outcome EventLog Nat :=
  log.event caller 2 "box caches initialized"

/-- The three ways in which `ensureBoxCaches` can end. -/
inductive Ensures [Host η] (l : Link η) (caller : Caller) :
    Outcome (Link η) (Except LinkFault Unit) → Prop where
  | ready (hready : l.boxCachesReady = true) : l.Ensures caller ⟨.ok (), l, []⟩
  | failed {done : Outcome η (Except String Unit)} {text : String}
      (hready : l.boxCachesReady = false) (hdone : loadMissing l.host boxCacheClasses = done)
      (hanswer : done.value = .error text) :
      l.Ensures caller ⟨.error (.host text), { l with host := done.state }, done.emitted⟩
  | primed {done : Outcome η (Except String Unit)}
      (hready : l.boxCachesReady = false) (hdone : loadMissing l.host boxCacheClasses = done)
      (hanswer : done.value = .ok ()) :
      l.Ensures caller
        ⟨.ok (),
          { l with
            host := done.state
            boxCachesReady := true
            events := (primedEvent l.events caller).state },
          done.emitted ++ (primedEvent l.events caller).emitted⟩

/-- `Ensures` has every way in which `ensureBoxCaches` ends. -/
theorem ensureBoxCaches_ensures [Host η] (l : Link η) (caller : Caller) :
    l.Ensures caller (l.ensureBoxCaches caller) := by
  unfold ensureBoxCaches
  by_cases hready : l.boxCachesReady = true
  · rw [if_pos hready]
    exact .ready hready
  · rw [if_neg hready]
    rw [Bool.not_eq_true] at hready
    -- The flag is not set, so the host decides.
    cases hanswer : (loadMissing l.host boxCacheClasses).value with
    | error text =>
      simp only [hanswer]
      exact .failed hready rfl hanswer
    | ok =>
      simp only [hanswer]
      exact .primed hready rfl hanswer

/-- `ensureBoxCaches` does nothing if `boxCachesReady` is set. -/
theorem ensureBoxCaches_of_ready [Host η] {l : Link η} (hready : l.boxCachesReady = true)
    (caller : Caller) : l.ensureBoxCaches caller = ⟨.ok (), l, []⟩ := by
  rw [ensureBoxCaches, if_pos hready]

/-- What `ensureBoxCaches` does if `boxCachesReady` is not set, in terms of the `turns` of the
classes. -/
structure Primes [Host η] (l : Link (Observed η)) (caller : Caller)
    (done : Outcome (Link (Observed η)) (Except LinkFault Unit)) : Prop where
  /-- The classes have their `turns` in the order of `boxCacheClasses`. -/
  in_order : (turns l.host.host boxCacheClasses).map (·.name) <+: boxCacheClasses
  /-- Each finds the host as the one before it has left it, the first as the link has it. -/
  first : ∀ t ∈ (turns l.host.host boxCacheClasses).head?, t.host = l.host.host
  /-- A turn is followed by another one only if it was a success. -/
  handed_on : (turns l.host.host boxCacheClasses).IsChain fun t next =>
    t.outcome.value = .ok () ∧ next.host = t.outcome.state
  /-- The host is left as the last turn has left it. -/
  host_eq : done.state.host.host =
    (turns l.host.host boxCacheClasses).getLast?.elim l.host.host fun t => t.outcome.state
  /-- The call succeeds iff each class has its turn and no turn fails. -/
  ok_iff : done.value = .ok () ↔
    (turns l.host.host boxCacheClasses).map (·.name) = boxCacheClasses ∧
      ∀ t ∈ turns l.host.host boxCacheClasses, t.outcome.value = .ok ()
  /-- A turn that fails is the last, and its failure is passed on. -/
  error_iff : ∀ fault, done.value = .error fault ↔
    ∃ earlier last text, turns l.host.host boxCacheClasses = earlier ++ [last] ∧
      (∀ t ∈ earlier, t.outcome.value = .ok ()) ∧ last.outcome.value = .error text ∧
        fault = .host text
  /-- The host is asked for those classes that it says are not initialized, and for nothing else. -/
  requests_eq : done.state.host.requests =
    ((turns l.host.host boxCacheClasses).filterMap Turn.request?).reverse ++ l.host.requests
  /-- `boxCachesReady` is set by a success and by nothing else. -/
  ready_iff : done.state.boxCachesReady = true ↔ done.value = .ok ()
  /-- A success is reported by `primedEvent`. -/
  of_ok : done.value = .ok () → done.state.events = (primedEvent l.events caller).state ∧
    done.emitted = ((turns l.host.host boxCacheClasses).flatMap fun t => t.outcome.emitted) ++
      (primedEvent l.events caller).emitted
  /-- A failure is not. -/
  of_error : ∀ fault, done.value = .error fault → done.state.events = l.events ∧
    done.emitted = (turns l.host.host boxCacheClasses).flatMap fun t => t.outcome.emitted
  /-- Nothing else of the link changes. -/
  frame : done.state =
    { l with
      host := done.state.host
      boxCachesReady := done.state.boxCachesReady
      events := done.state.events }

/-- `Primes` holds of every call of `ensureBoxCaches` that finds `boxCachesReady` not set. -/
theorem ensureBoxCaches_primes [Host η] {l : Link (Observed η)} (hready : l.boxCachesReady = false)
    (caller : Caller) : l.Primes caller (l.ensureBoxCaches caller) := by
  have hobserved := Host.loadMissing_observed l.host boxCacheClasses
  have hends := Host.loadMissing_ends l.host.host boxCacheClasses
  have hstate := Host.state_loadMissing l.host.host boxCacheClasses
  have hemitted := Host.emitted_loadMissing l.host.host boxCacheClasses
  have hensures := l.ensureBoxCaches_ensures caller
  generalize l.ensureBoxCaches caller = o at hensures
  -- How `loadMissing` ended decides what there is to say of the turns, in `Host.loadMissing_ends`.
  cases hensures with
  | ready h =>
    rw [hready] at h
    cases h
  | @failed done text _ hdone hanswer =>
    rw [hobserved] at hdone
    obtain rfl := hdone
    rw [show (loadMissing l.host.host boxCacheClasses).value = .error text from hanswer] at hends
    cases hends with
    | @failed earlier last _ hturns hok herror =>
      exact
        { in_order := Host.names_turns_prefix _ _
          first := Host.host_head_turns _ _
          handed_on := Host.isChain_turns _ _
          host_eq := hstate
          ok_iff := by
            refine iff_of_false nofun fun ⟨_, hall⟩ => ?_
            have hlast := hall last (by simp [hturns])
            rw [herror] at hlast
            exact nomatch hlast
          error_iff := fun fault => by
            constructor
            · rintro ⟨⟩
              exact ⟨earlier, last, text, hturns, hok, herror, rfl⟩
            · rintro ⟨earlier', last', text', hturns', -, herror', rfl⟩
              -- The turns have but one end.
              obtain ⟨-, hlast⟩ := List.append_inj' (hturns.symm.trans hturns') rfl
              rw [← List.singleton_inj.1 hlast, herror] at herror'
              cases herror'
              rfl
          requests_eq := rfl
          ready_iff := iff_of_false (by simp [hready]) nofun
          of_ok := nofun
          of_error := fun _ _ => ⟨rfl, hemitted⟩
          frame := rfl }
  | @primed done _ hdone hanswer =>
    rw [hobserved] at hdone
    obtain rfl := hdone
    rw [show (loadMissing l.host.host boxCacheClasses).value = .ok () from hanswer] at hends
    cases hends with
    | all hnames hok =>
      exact
        { in_order := Host.names_turns_prefix _ _
          first := Host.host_head_turns _ _
          handed_on := Host.isChain_turns _ _
          host_eq := hstate
          ok_iff := iff_of_true rfl ⟨hnames, hok⟩
          error_iff := fun fault => by
            refine iff_of_false nofun fun ⟨earlier, last, text, hturns, _, herror, _⟩ => ?_
            have hlast := hok last (by simp [hturns])
            rw [herror] at hlast
            exact nomatch hlast
          requests_eq := rfl
          ready_iff := iff_of_true rfl rfl
          of_ok := fun _ => ⟨rfl, congrArg (· ++ _) hemitted⟩
          of_error := nofun
          frame := rfl }

/-- `ensureBoxCaches` does not notice that the host is `Observed`. -/
theorem ensureBoxCaches_unobserved [Host η] (l : Link (Observed η)) (caller : Caller) :
    l.unobserved.ensureBoxCaches caller = (l.ensureBoxCaches caller).within unobserved := by
  have hobserved := Host.loadMissing_observed l.host boxCacheClasses
  have hhost : l.unobserved.host = l.host.host := rfl
  have hready : l.unobserved.boxCachesReady = l.boxCachesReady := rfl
  rw [ensureBoxCaches, ensureBoxCaches, hobserved, hhost, hready]
  generalize loadMissing l.host.host boxCacheClasses = done
  obtain ⟨value, state, emitted⟩ := done
  cases l.boxCachesReady with
  | true => rfl
  | false => cases value <;> rfl

namespace Priming

/-! ### Runs -/

/-- What happens to a link whose box caches are to be primed. -/
inductive Operation (η : Type) where
  /-- The host becomes another one. -/
  | change (host : η)
  | ensure (caller : Caller)

/-- An operation loses no class: the host before it `Keeps` its classes, and so does each turn that
it takes. -/
def Operation.Steady [Host η] (l : Link (Observed η)) : Operation η → Prop
  | .change host => Host.Keeps l.host.host host
  | .ensure _ => l.boxCachesReady = false → ∀ t ∈ turns l.host.host boxCacheClasses, t.Steady

/-- A call of `ensureBoxCaches`, with its answer. -/
structure Entry where
  caller : Caller
  answer : Except LinkFault Unit

/-- A link with an `Observed` host, and the record of the calls. -/
structure Session (η : Type) where
  link : Link (Observed η)
  /-- The calls so far, newest first. -/
  record : List Entry := []

namespace Session

variable {s : Session η} {log : EventLog}

/-- What is on record shows in the link, which began with the event log `log`: the first success was
reported by `primedEvent`, and nothing else was. -/
structure Sound (log : EventLog) (s : Session η) : Prop where
  /-- Without a success in the record, the event log is `log` still. -/
  unprimed : s.link.boxCachesReady = false →
    s.link.events = log ∧ ∀ e ∈ s.record, e.answer ≠ .ok ()
  /-- The first success in the record divides it into successes and failures. -/
  primed : s.link.boxCachesReady = true → ∃ later first earlier,
    s.record = later ++ first :: earlier ∧ (∀ e ∈ later, e.answer = .ok ()) ∧
      first.answer = .ok () ∧ (∀ e ∈ earlier, e.answer ≠ .ok ()) ∧
        s.link.events = (primedEvent log first.caller).state

/-- By `Sound`, `boxCachesReady` tells whether a success is on record. -/
theorem Sound.ready_iff (h : s.Sound log) :
    s.link.boxCachesReady = true ↔ ∃ e ∈ s.record, e.answer = .ok () := by
  constructor
  · intro hready
    obtain ⟨later, first, earlier, hrecord, -, hfirst, -⟩ := h.primed hready
    exact ⟨first, by simp [hrecord], hfirst⟩
  · rintro ⟨e, he, hok⟩
    cases hready : s.link.boxCachesReady with
    | true => rfl
    | false => exact absurd hok ((h.unprimed hready).2 e he)

variable [Host η]

/-- Carry out an operation, and note the answer of `ensureBoxCaches` in the record. -/
def perform (s : Session η) : Operation η → Session η
  | .change host => { s with link.host.host := host }
  | .ensure caller =>
    let done := s.link.ensureBoxCaches caller
    ⟨done.state, ⟨caller, done.value⟩ :: s.record⟩

def run (s : Session η) (ops : List (Operation η)) : Session η := ops.foldl perform s

/-- `Sound` is preserved by every operation. -/
theorem Sound.perform (h : s.Sound log) (op : Operation η) : (s.perform op).Sound log := by
  cases op with
  | change host => exact ⟨h.unprimed, h.primed⟩
  | ensure caller =>
    have hensures := s.link.ensureBoxCaches_ensures caller
    rw [Session.perform]
    generalize s.link.ensureBoxCaches caller = o at hensures
    cases hensures with
    | ready hready =>
      refine ⟨fun hnot => ?_, fun _ => ?_⟩
      · exact absurd (hready.symm.trans hnot) Bool.false_ne_true.symm
      · -- One success more, but the first one stays the first.
        obtain ⟨later, first, earlier, hrecord, hlater, hfirst, hearlier, hevents⟩ :=
          h.primed hready
        refine ⟨⟨caller, .ok ()⟩ :: later, first, earlier, ?_, ?_, hfirst, hearlier, hevents⟩
        · exact congrArg (_ :: ·) hrecord
        · exact List.forall_mem_cons.2 ⟨rfl, hlater⟩
    | failed hready hdone hanswer =>
      obtain ⟨hevents, hrecord⟩ := h.unprimed hready
      refine ⟨fun _ => ⟨hevents, List.forall_mem_cons.2 ⟨nofun, hrecord⟩⟩, fun hnow => ?_⟩
      exact absurd (hready.symm.trans hnow) Bool.false_ne_true
    | primed hready hdone hanswer =>
      -- This is the first success, as none can be on record yet.
      obtain ⟨hevents, hrecord⟩ := h.unprimed hready
      refine ⟨nofun, fun _ => ⟨[], ⟨caller, .ok ()⟩, s.record, rfl, by simp, rfl, hrecord, ?_⟩⟩
      rw [← hevents]

theorem Sound.run (h : s.Sound log) (ops : List (Operation η)) : (s.run ops).Sound log := by
  induction ops generalizing s with
  | nil => exact h
  | cons op ops ih => exact ih (h.perform op)

/-- Once `boxCachesReady` is set, `run` may still change the host, but the host is asked for nothing
more, and every call succeeds. -/
theorem run_of_ready (hready : s.link.boxCachesReady = true) (ops : List (Operation η)) :
    ∃ host later,
      s.run ops = ⟨{ s.link with host := ⟨host, s.link.host.requests⟩ }, later ++ s.record⟩ ∧
        ∀ e ∈ later, e.answer = .ok () := by
  induction ops generalizing s with
  | nil => exact ⟨s.link.host.host, [], rfl, by simp⟩
  | cons op ops ih =>
    cases op with
    | change host =>
      -- The flag is not the host's, so a new host leaves it.
      have hready' : (s.perform (.change host)).link.boxCachesReady = true := hready
      exact ih hready'
    | ensure caller =>
      -- Nothing is left of the call but its entry.
      have hperform : s.perform (.ensure caller) = ⟨s.link, ⟨caller, .ok ()⟩ :: s.record⟩ := by
        unfold perform
        dsimp only
        rw [ensureBoxCaches_of_ready hready]
      have hready' : (s.perform (.ensure caller)).link.boxCachesReady = true := by
        rw [hperform]
        exact hready
      obtain ⟨host, later, hrun, hlater⟩ := ih hready'
      rw [hperform] at hrun
      refine ⟨host, later ++ [⟨caller, .ok ()⟩], ?_, ?_⟩
      · rw [List.append_assoc, List.singleton_append, ← hrun, ← hperform]
        rfl
      · intro e he
        rcases List.mem_append.1 he with he | he
        · exact hlater e he
        · rw [List.mem_singleton.1 he]

/-! ### Hosts that lose no class -/

/-- Every operation of a run is `Operation.Steady`. -/
def Steady (s : Session η) : List (Operation η) → Prop
  | [] => True
  | op :: ops => op.Steady s.link ∧ (s.perform op).Steady ops

/-- The host was granted each class at most once and has all of them, with all `boxCacheClasses`
once `boxCachesReady` is set. -/
structure Stocked (s : Session η) : Prop where
  /-- What the host was granted, it was granted once, and still has. -/
  loadsOnce : s.link.host.LoadsOnce
  /-- Then it has all classes, whether it was asked for them or not. -/
  all : s.link.boxCachesReady = true → ∀ c ∈ boxCacheClasses,
    Host.hasClass s.link.host.host c = true

/-- `Stocked` is preserved by every operation that is `Operation.Steady`. -/
theorem Stocked.perform (h : s.Stocked) {op : Operation η} (hsteady : op.Steady s.link) :
    (s.perform op).Stocked := by
  cases op with
  | change host =>
    exact ⟨⟨h.loadsOnce.once, fun c hc => hsteady c (h.loadsOnce.has c hc)⟩,
      fun hready c hc => hsteady c (h.all hready c hc)⟩
  | ensure caller =>
    have hensures := s.link.ensureBoxCaches_ensures caller
    rw [Session.perform]
    generalize s.link.ensureBoxCaches caller = o at hensures
    cases hensures with
    | ready hready => exact ⟨h.loadsOnce, h.all⟩
    | @failed done text hready hdone hanswer =>
      refine ⟨hdone ▸ h.loadsOnce.loadMissing (hsteady hready), fun hnow => ?_⟩
      exact absurd (hready.symm.trans hnow) Bool.false_ne_true
    | @primed done hready hdone hanswer =>
      refine ⟨hdone ▸ h.loadsOnce.loadMissing (hsteady hready), fun _ => ?_⟩
      obtain ⟨-, hall⟩ := Host.loadMissing_steady (hsteady hready)
      -- The host inside is left as it would be if nobody watched it.
      rw [Host.loadMissing_observed] at hdone
      obtain rfl := hdone
      exact hall hanswer

/-- `Stocked` is preserved by a run that is `Steady`. -/
theorem Stocked.run (h : s.Stocked) {ops : List (Operation η)} (hsteady : s.Steady ops) :
    (s.run ops).Stocked := by
  induction ops generalizing s with
  | nil => exact h
  | cons op ops ih => exact ih (h.perform hsteady.1) hsteady.2

/-! ### Every run -/

/-- What can be said at any time of the box caches of a link that began with the event log `log`. -/
structure PrimedOnce (log : EventLog) (s : Session η) : Prop where
  /-- A call `Primes` the box caches unless `boxCachesReady` is set. -/
  primes : s.link.boxCachesReady = false → ∀ caller,
    s.link.Primes caller (s.link.ensureBoxCaches caller)
  /-- `boxCachesReady` is set iff some call has succeeded. -/
  ready_iff : s.link.boxCachesReady = true ↔ ∃ e ∈ s.record, e.answer = .ok ()
  /-- After a success a call does nothing at all. -/
  done : (∃ e ∈ s.record, e.answer = .ok ()) → ∀ caller,
    s.link.ensureBoxCaches caller = ⟨.ok (), s.link, []⟩
  /-- So it stays, whatever becomes of the host. -/
  for_good : (∃ e ∈ s.record, e.answer = .ok ()) → ∀ ops, ∃ host later,
    s.run ops = ⟨{ s.link with host := ⟨host, s.link.host.requests⟩ }, later ++ s.record⟩ ∧
      ∀ e ∈ later, e.answer = .ok ()
  /-- Failures are not reported. -/
  untold : (∀ e ∈ s.record, e.answer ≠ .ok ()) → s.link.events = log
  /-- Of the successes, which begin with the first, that one was reported and no other. -/
  told_once : (∃ e ∈ s.record, e.answer = .ok ()) → ∃ later first earlier,
    s.record = later ++ first :: earlier ∧ (∀ e ∈ later, e.answer = .ok ()) ∧
      first.answer = .ok () ∧ (∀ e ∈ earlier, e.answer ≠ .ok ()) ∧
        s.link.events = (primedEvent log first.caller).state
  /-- `ensureBoxCaches` does not notice that the host is `Observed`. -/
  unobserved : ∀ caller, s.link.unobserved.ensureBoxCaches caller =
    (s.link.ensureBoxCaches caller).within unobserved

/-- `PrimedOnce` holds after any operations, whatever the host is like; and if they are `Steady`, no
class is initialized twice, and in the end the host has all of `boxCacheClasses`. -/
theorem primedOnce_of_run {settings : Settings} {parts : Parts η} {link : Link η}
    (hlink : (create settings parts).value = .ok link) (ops : List (Operation η)) :
    (run { link := link.observed } ops).PrimedOnce (EventLog.ofSettings settings parts.console) ∧
      (Steady { link := link.observed } ops →
        ((run { link := link.observed } ops).link.host.requests.filterMap
          Host.Request.loaded?).Nodup ∧
        ((∃ e ∈ (run { link := link.observed } ops).record, e.answer = .ok ()) →
          ∀ c ∈ boxCacheClasses,
            Host.hasClass (run { link := link.observed } ops).link.host.host c = true)) := by
  obtain rfl := eq_fresh hlink
  have hstart : ({ link := (fresh settings parts).observed } : Session η).Sound
      (EventLog.ofSettings settings parts.console) := ⟨fun _ => ⟨rfl, by simp⟩, nofun⟩
  have hnone : ({ link := (fresh settings parts).observed } : Session η).Stocked :=
    ⟨⟨List.nodup_nil, nofun⟩, nofun⟩
  have h := hstart.run ops
  refine ⟨?_, fun hsteady => ?_⟩
  · -- `PrimedOnce` speaks of the state that is reached, and `Sound` has all that it says.
    generalize run { link := (fresh settings parts).observed } ops = s at h
    exact
      { primes := fun hready => ensureBoxCaches_primes hready
        ready_iff := h.ready_iff
        done := fun hsome => ensureBoxCaches_of_ready (h.ready_iff.2 hsome)
        for_good := fun hsome => run_of_ready (h.ready_iff.2 hsome)
        untold := fun hnever => by
          have hready : ¬ s.link.boxCachesReady = true := by
            rw [h.ready_iff]
            exact fun ⟨e, he, hok⟩ => hnever e he hok
          exact (h.unprimed (Bool.eq_false_iff.2 hready)).1
        told_once := fun hsome => h.primed (h.ready_iff.2 hsome)
        unobserved := s.link.ensureBoxCaches_unobserved }
  · have hstocked := hnone.run hsteady
    exact ⟨hstocked.loadsOnce.once, fun hsome => hstocked.all (h.ready_iff.2 hsome)⟩

/-! ### A host that fails twice -/

/-- Every turn of a `ScriptedHost` is `Steady`, as no class is ever taken from its list. -/
theorem steady_scripted (t : Turn ScriptedHost) : t.Steady := by
  obtain ⟨host, c⟩ := t
  constructor
  · intro c' hc'
    unfold Turn.outcome
    split
    · exact hc'
    · show (Host.loadClass host c).state.classes.contains c' = true
      have hc' : host.classes.contains c' = true := hc'
      dsimp only [Host.loadClass]
      split
      · exact hc'
      · -- A class that was granted goes to the end of the list.
        simpa using .inl (by simpa using hc')
  · intro hok
    unfold Turn.outcome at hok ⊢
    split
    · assumption
    · rename_i hhas
      rw [if_neg hhas] at hok
      show (Host.loadClass host c).state.classes.contains c = true
      dsimp only [Host.loadClass] at hok ⊢
      split
      · rename_i text hrefused
        rw [hrefused] at hok
        cases hok
      · -- It is the class that was granted.
        simp

/-- A `ScriptedHost` with a longer list of classes `Keeps` those of the shorter one. -/
theorem keeps_scripted {host later : ScriptedHost} (h : host.classes ⊆ later.classes) :
    Host.Keeps host later := by
  intro c hc
  have hc : c ∈ host.classes := by simpa using (show host.classes.contains c = true from hc)
  show later.classes.contains c = true
  simpa using h hc

/-- Parts with a `ScriptedHost` that has one class from the start and refuses another. -/
def reluctant : Parts ScriptedHost where
  host := {
    classes := ["Byte$ByteCache"]
    refusedClasses := [("Short$ShortCache", "no memory")] }
  opener := .scripted []
  console := .stdout
  processId := "1"

/-- The host gives in, but refuses the last class, and then gives in to that as well. -/
def retries : List (Operation ScriptedHost) :=
  [.ensure (.main "0"),
    .change {
      classes := ["Byte$ByteCache", "Boolean"]
      refusedClasses := [("Long$LongCache", "busy")] },
    .ensure (.main "1"),
    .change {
      classes := ["Byte$ByteCache", "Boolean", "Short$ShortCache", "Character$CharacterCache",
        "Integer$IntegerCache"] },
    .ensure (.main "2"), .ensure (.main "3")]

/-- `primedOnce_of_run` applies to `retries` on a link with `reluctant` parts, where the third call
is the first to succeed. -/
theorem primedOnce_of_retries :
    ∃ link, (create { libraryDir := "/" } reluctant).value = .ok link ∧
      Steady { link := link.observed } retries ∧
      (run { link := link.observed } retries).record.map Entry.answer =
        [.ok (), .ok (), .error (.host "busy"), .error (.host "no memory")] ∧
      (run { link := link.observed } retries).link.host.requests =
        [.loadClass "Long$LongCache" (.ok ()), .loadClass "Long$LongCache" (.error "busy"),
          .loadClass "Integer$IntegerCache" (.ok ()),
          .loadClass "Character$CharacterCache" (.ok ()),
          .loadClass "Short$ShortCache" (.ok ()),
          .loadClass "Short$ShortCache" (.error "no memory"), .loadClass "Boolean" (.ok ())] ∧
      (run { link := link.observed } retries).PrimedOnce
        (EventLog.ofSettings { libraryDir := "/" } .stdout) ∧
      ∀ c ∈ boxCacheClasses,
        Host.hasClass (run { link := link.observed } retries).link.host.host c = true := by
  have hlink : (create { libraryDir := "/" } reluctant).value = .ok (fresh _ reluctant) := rfl
  -- Every change of the host keeps its classes, and the turns are steady by themselves.
  have hsteady : Steady { link := (fresh { libraryDir := "/" } reluctant).observed } retries :=
    ⟨fun _ t _ => steady_scripted t, keeps_scripted (by decide), fun _ t _ => steady_scripted t,
      keeps_scripted (by decide), fun _ t _ => steady_scripted t, fun _ t _ => steady_scripted t,
      trivial⟩
  obtain ⟨honce, hkept⟩ := primedOnce_of_run hlink retries
  exact ⟨_, hlink, hsteady, by rfl, by rfl, honce,
    (hkept hsteady).2 ⟨_, List.mem_cons_self, rfl⟩⟩

end Session

end Priming

end CompilerLink.Link
