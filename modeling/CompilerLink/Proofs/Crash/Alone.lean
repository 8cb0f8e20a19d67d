import CompilerLink.Proofs.Crash.Election

/-! # Calls that nobody interrupts

The steps of a call are those of the log itself: if a thread makes all of them while the others make
none, they come to what the log does at a request (`Shared.Matches.perform`). So what is shared
stands as it does for a log in use between any two such calls, from the beginning on. -/

namespace CompilerLink.Crash

/-- The `Request` that a call is to a log in use. -/
def Call.request (call : Call) (caller : Caller) : Request :=
  call.buffer?.elim (.target caller) (.write caller)

/-- What threads share stands as it does for the log in use `session`, between any two calls. -/
structure Shared.Matches (log : Log) (s : Shared) (session : Session) : Prop where
  /-- Both resolve to the same target, whatever the files. -/
  resolve_eq : ∀ fs, session.log.resolve fs = log.resolve fs
  numbers_eq : s.numbers = session.log.numbers
  sheet_eq : s.sheet = session.sheet
  /-- The field is `unset` as long as the session has not settled. -/
  vacant : session.log.settled = none → s.field = unset ∧ s.published = none
  /-- Once it has, the field has the number of its winner and the target is published. -/
  settled : ∀ me target, session.log.settled = some (me, target) →
    s.field ≠ unset ∧ s.field = .ofNat me ∧ s.published = some target

/-- Steps of thread `k` and of no other. -/
abbrev Alone (log : Log) (k : Nat) : Shared × Thread → Shared × Thread → Prop :=
  Relation.ReflTransGen fun a b => ∃ entries, Move log k a.1 a.2 b.1 b.2 entries

variable {log : Log} {k : Nat} {s : Shared} {session : Session} {calls : List Call}

theorem Alone.refl {a : Shared × Thread} : Alone log k a a := Relation.ReflTransGen.refl

/-- One more `Move` of the same thread. -/
theorem Alone.move {a : Shared × Thread} {s : Shared} {t : Thread} (h : Alone log k a (s, t))
    {s' : Shared} {t' : Thread} {entries : List Entry} (hmove : Move log k s t s' t' entries) :
    Alone log k a (s', t') :=
  Relation.ReflTransGen.tail h ⟨entries, hmove⟩

/-- A thread that is `reading` an `unset` field elects itself, resolves and publishes, all of it
`Alone`. -/
theorem alone_of_unset (hfield : s.field = unset) (hpublished : s.published = none) (me : Nat)
    (buffer? : Option ByteArray) :
    Alone log k (s, ⟨.reading me buffer?, calls⟩)
      ({ s with
          sheet :=
            ⟨(log.resolve s.sheet.files).state,
              s.sheet.emitted ++ (log.resolve s.sheet.files).emitted, s.sheet.offset⟩
          field := .ofNat me
          published := some (log.resolve s.sheet.files).value },
        ⟨.waiting buffer?, calls⟩) := by
  -- The thread finds the field unset, so it wins, resolves and publishes without a rest.
  have hread : Move log k s ⟨.reading me buffer?, calls⟩ s ⟨.standing me buffer?, calls⟩ [] := by
    have hmove : Move log k s _ s _ _ := .read s me buffer? calls
    rw [if_pos hfield] at hmove
    exact hmove
  have hdone := (((Alone.refl.move hread).move (.win _ _ _ _ hfield)).move (.resolve ..)).move
    (.publish ..)
  rw [hpublished] at hdone
  exact hdone

/-- A thread that is `reading` a field that is set goes on to wait. -/
theorem alone_of_set (hfield : s.field ≠ unset) (me : Nat) (buffer? : Option ByteArray) :
    Alone log k (s, ⟨.reading me buffer?, calls⟩) (s, ⟨.waiting buffer?, calls⟩) := by
  have hmove : Move log k s _ s _ _ := .read s me buffer? calls
  rw [if_neg hfield] at hmove
  exact Alone.refl.move hmove

/-- A call that is not interrupted gets as far as `waiting` with what `Log.target` leaves. -/
theorem Shared.Matches.target (h : s.Matches log session) {call : Call} {caller : Caller}
    (hserial : caller.serial = k) (hending : call.ending = false)
    (hnumber : (session.log.numbers.numberOf k).1 < 2 ^ 63) (calls : List Call) :
    ∃ s', Alone log k (s, ⟨.idle, call :: calls⟩) (s', ⟨.waiting call.buffer?, calls⟩) ∧
      s'.Matches log (session.perform (.target caller)) ∧
      s'.published = some (session.log.target session.files caller).value := by
  subst hserial
  obtain ⟨hnumbers, hresolve⟩ := session.perform_frame (.target caller)
  have henter : Move log caller.serial s ⟨.idle, call :: calls⟩
      { s with numbers := (session.log.numbers.numberOf caller.serial).2 }
      ⟨.reading (session.log.numbers.numberOf caller.serial).1 call.buffer?, calls⟩
      [.numbered caller.serial (session.log.numbers.numberOf caller.serial).1] := by
    have hmove : Move log caller.serial s _ _ _ _ := .enter s call calls
    simp only [hending, ThreadNumbers.take, h.numbers_eq, Bool.false_eq_true, if_false] at hmove
    exact hmove
  have hresolve' : ∀ fs, (session.perform (.target caller)).log.resolve fs = log.resolve fs :=
    fun fs => (hresolve fs).trans (h.resolve_eq fs)
  have hfiles : s.sheet.files = session.files := by rw [h.sheet_eq, Session.sheet]
  -- The two cases are those of `Log.target`: whether the session has settled.
  cases hsettled : session.log.settled with
  | none =>
    -- Nobody has been elected, so the thread elects itself.
    obtain ⟨hfield, hpublished⟩ := h.vacant hsettled
    obtain ⟨hvalue, hsheet, hwinner⟩ := Session.perform_target_of_not_settled hsettled caller
    have hdone := (Alone.refl.move henter).trans
      (alone_of_unset (s := { s with numbers := (session.log.numbers.numberOf caller.serial).2 })
        hfield hpublished _ _)
    refine ⟨_, hdone, ⟨hresolve', hnumbers.symm, ?_, ?_, ?_⟩, ?_⟩
    · rw [hsheet, h.resolve_eq, ← hfiles, h.sheet_eq]; rfl
    · intro hnone
      simp [hwinner] at hnone
    · intro me target hsome
      rw [hwinner] at hsome
      obtain ⟨rfl, rfl⟩ := Prod.mk.inj (Option.some.inj hsome)
      exact ⟨ofNat_ne_unset hnumber, rfl, by rw [h.resolve_eq, ← hfiles]⟩
    · rw [hvalue, h.resolve_eq, ← hfiles]
  | some winner =>
    -- The target is published, so the thread does not wait for long.
    obtain ⟨hfield, hwinner, hpublished⟩ := h.settled winner.1 winner.2 hsettled
    obtain ⟨hvalue, hsheet, hsame⟩ := Session.perform_target_of_settled hsettled caller
    have hdone := (Alone.refl.move henter).trans
      (alone_of_set (s := { s with numbers := (session.log.numbers.numberOf caller.serial).2 })
        hfield _ _)
    refine ⟨_, hdone, ⟨hresolve', hnumbers.symm, hsheet ▸ h.sheet_eq, ?_, ?_⟩, ?_⟩
    · intro hnone
      simp [hsame] at hnone
    · intro me target hsome
      rw [hsame] at hsome
      obtain ⟨rfl, rfl⟩ := Prod.mk.inj (Option.some.inj hsome)
      exact ⟨hfield, hwinner, hpublished⟩
    · rw [hvalue]
      exact hpublished

/-- `Matches` is preserved by a call that is not interrupted, if the session performs the same
request. -/
theorem Shared.Matches.perform (h : s.Matches log session) {call : Call} {caller : Caller}
    (hserial : caller.serial = k) (hending : call.ending = false)
    (hnumber : (session.log.numbers.numberOf k).1 < 2 ^ 63) :
    ∃ s', Alone log k (s, ⟨.idle, call :: calls⟩) (s', ⟨.idle, calls⟩) ∧
      s'.Matches log (session.perform (call.request caller)) := by
  obtain ⟨s', halone, hmatches, hpublished⟩ := h.target hserial hending hnumber calls
  have hreturn := halone.move (.return _ _ _ _ hpublished)
  -- Without a buffer the call ends when the target is returned; otherwise a write follows.
  cases hbuffer : call.buffer? with
  | none =>
    rw [Call.request, hbuffer]
    rw [hbuffer] at hreturn
    exact ⟨s', hreturn, hmatches⟩
  | some buffer =>
    rw [Call.request, hbuffer]
    rw [hbuffer] at hreturn
    obtain ⟨hsheet, hsettled, -⟩ := session.perform_write caller buffer
    obtain ⟨hnumbers, hresolve⟩ := session.perform_frame (.write caller buffer)
    obtain ⟨hnumbers', hresolve'⟩ := session.perform_frame (.target caller)
    refine ⟨_, hreturn.move (.write ..), ?_, ?_, ?_, ?_, ?_⟩
    · exact fun fs => (hresolve fs).trans ((hresolve' fs).symm.trans (hmatches.resolve_eq fs))
    · exact hmatches.numbers_eq.trans (hnumbers'.trans hnumbers.symm)
    · show s'.sheet.put buffer _ = _
      rw [hmatches.sheet_eq]
      exact hsheet.symm
    · intro hnone
      exact hmatches.vacant (hsettled.symm.trans hnone)
    · intro me target hsome
      exact hmatches.settled me target (hsettled.symm.trans hsome)

namespace Election

/-- `Matches` holds at the `start`, with a session whose log nobody has called. -/
theorem matches_start (hsettled : log.settled = none) (hoffset : log.offset = 0) (fs : FileSystem)
    (numbers : ThreadNumbers) (calls : List (List Call)) :
    (start log fs numbers calls).shared.Matches log (.start { log with numbers } fs) where
  resolve_eq := log.resolve_with numbers log.settled log.offset
  numbers_eq := rfl
  sheet_eq := by rw [start, Session.start, Session.sheet, hoffset]
  vacant _ := ⟨rfl, rfl⟩
  settled me target hsome := by
    simp [Session.start, hsettled] at hsome

/-- Steps of one thread `Alone` are `Steps` of the election. -/
theorem steps_of_alone {e : Election} {t : Thread} {b : Shared × Thread}
    (hthread : e.threads[k]? = some t) (halone : Alone e.log k (e.shared, t) b) :
    ∃ later, Steps e later ∧ later.shared = b.1 ∧ later.threads = e.threads.set k b.2 ∧
      later.log = e.log := by
  obtain ⟨hlt, ht⟩ := List.getElem?_eq_some_iff.1 hthread
  induction halone with
  | refl =>
    have hsame : e.threads.set k t = e.threads := by rw [← ht, List.set_getElem_self]
    exact ⟨e, .refl, rfl, hsame.symm, rfl⟩
  -- The last move is one of the thread where the moves before have left it.
  | @tail b c _ hlast ih =>
    obtain ⟨later, hsteps, hshared, hthreads, hlog⟩ := ih
    obtain ⟨entries, hmove⟩ := hlast
    rw [← hshared, ← hlog] at hmove
    have hk : later.threads[k]? = some b.2 := by rw [hthreads, List.getElem?_set_self hlt]
    refine ⟨_, hsteps.tail (.move hk hmove), rfl, ?_, hlog⟩
    show later.threads.set k c.2 = e.threads.set k c.2
    rw [hthreads, List.set_set]

end Election

end CompilerLink.Crash
