import CompilerLink.Proofs.Crash.Alone
import CompilerLink.Proofs.Crash.Stage

/-! # Threads agree on a target

Whatever steps are made, there is a stage that fits (`Sound.steps`), every buffer is either written
or still pending, and some thread can go on until all calls are made (`Sound.exists_step`).

`Election.agreement_of_steps` says what that means for those who call: there is one winner, who
alone looks for a target, and all that is written goes to that one. -/

namespace CompilerLink.Crash

variable {log : Log} {fs : FileSystem} {stage : Stage} {s s' : Shared}
variable {entries : List Entry} {k : Nat} {t t' : Thread}

/-! ### What is still to be written -/

/-- The buffer of the call that a thread is in, if it has one. -/
def Place.buffer? : Place → Option ByteArray
  | idle => none
  | reading _ buffer? | standing _ buffer? | resolving buffer? | publishing _ buffer?
  | waiting buffer? => buffer?
  | writing _ buffer => some buffer

/-- The buffers that a thread is still to write: that of its `place` first, then those of its
`calls`. -/
def Thread.pending (t : Thread) : List ByteArray :=
  t.place.buffer?.toList ++ t.calls.filterMap Call.buffer?

/-- `writesOf k` followed by `pending` is preserved by a `Move` of thread `k`: a buffer is pending
until it is written, and it is written once. -/
theorem Move.account_eq (hmove : Move log k s t s' t' entries) (record : List Entry) :
    writesOf k (entries ++ record) ++ t'.pending = writesOf k record ++ t.pending := by
  -- Only `enter`, `read` and `return` look at the optional buffer; the others carry it along.
  cases hmove with
  | enter call calls =>
    cases h : call.buffer? <;> simp [Thread.pending, Place.buffer?, Entry.write?, h]
  | read me buffer? calls =>
    by_cases hfield : s.field = unset <;> simp [Thread.pending, Place.buffer?, hfield]
  | «return» target buffer? calls hsome =>
    cases buffer? <;> simp [Thread.pending, Place.buffer?, Entry.write?]
  | _ => simp [Thread.pending, Place.buffer?, Entry.write?]

/-- `writesOf j` is preserved by a `Move` of another thread. -/
theorem Move.writesOf_eq (hmove : Move log k s t s' t' entries) {j : Nat} (hj : j ≠ k)
    (record : List Entry) : writesOf j (entries ++ record) = writesOf j record := by
  have hkj : k ≠ j := Ne.symm hj
  cases hmove <;> simp [Entry.write?, hkj]

/-! ### Every step -/

variable {calls : List (List Call)} {e e' : Election}

namespace Election

/-- The invariant of an election in which the threads were to make `calls` at the beginning. -/
structure Sound (log : Log) (fs : FileSystem) (calls : List (List Call)) (stage : Stage)
    (e : Election) : Prop where
  /-- No step changes the log. -/
  log_eq : e.log = log
  /-- What is shared and the record are those of the `stage`. -/
  fits : Fits log fs stage e.shared e.record
  /-- Every thread is at a place that the `stage` allows. -/
  allows : ∀ k t, e.threads[k]? = some t → Allows log fs stage e.record k t.place
  /-- The winner is one of the threads. -/
  winner_lt : ∀ winner ∈ stage.winner?, winner.1 < e.threads.length
  /-- No thread comes or goes. -/
  length_eq : e.threads.length = calls.length
  /-- What a thread has written and what is pending are the buffers of its calls. -/
  account : ∀ k t made, e.threads[k]? = some t → calls[k]? = some made →
    writesOf k e.record ++ t.pending = made.filterMap Call.buffer?

/-- `Sound` is preserved by every `Step`, at the same `Stage` or at the next one. -/
theorem Sound.step (h : e.Sound log fs calls stage) (hids : e.shared.numbers.next ≤ 2 ^ 63)
    (hstep : Step e e') : ∃ stage', e'.Sound log fs calls stage' := by
  obtain ⟨rfl, hfits, hallows, hwinner, hlength, haccount⟩ := h
  cases hstep with
  | move hthread hmove =>
    rename_i k t t' shared entries
    -- What the moving thread does to the shared state is in `Move.sound`; the rest is about the
    -- threads.
    obtain ⟨stage', hnext, hfits', hplace⟩ := hmove.sound hids hfits (hallows k t hthread)
    have hk : k < e.threads.length := (List.getElem?_eq_some_iff.1 hthread).1
    refine ⟨stage', {
      log_eq := rfl
      fits := hfits'
      allows := fun j u hu => ?_
      winner_lt := fun winner hw => ?_
      length_eq := List.length_set.trans hlength
      account := fun j u made hu hmade => ?_ }⟩
    · -- The thread that moved has its place, and the others are not driven from theirs.
      rcases getElem?_set_eq_some hu with ⟨rfl, rfl⟩ | ⟨hj, hu⟩
      · exact hplace
      · exact (hallows j u hu).next hnext hj
    · rw [List.length_set]
      rcases hnext.winner_eq hw with hold | rfl
      · exact hwinner winner hold
      · exact hk
    · rcases getElem?_set_eq_some hu with ⟨rfl, rfl⟩ | ⟨hj, hu⟩
      · rw [hmove.account_eq]
        exact haccount j t made hthread hmade
      · rw [hmove.writesOf_eq hj]
        exact haccount j u made hu hmade

/-- `ThreadNumbers.next` does not decrease along a `Step`. -/
theorem next_le_of_step (hstep : Step e e') :
    e.shared.numbers.next ≤ e'.shared.numbers.next := by
  cases hstep with
  | move hthread hmove => exact hmove.next_le

/-- `Sound` is preserved by any number of steps, as long as the thread numbers last. -/
theorem Sound.steps (h : e.Sound log fs calls stage) (hsteps : Steps e e')
    (hids : e'.shared.numbers.next ≤ 2 ^ 63) : ∃ stage', e'.Sound log fs calls stage' := by
  induction hsteps with
  | refl => exact ⟨stage, h⟩
  | tail hbefore hlast ih =>
    -- Numbers are handed out in ascending order, so the bound at the end holds before as well.
    have hids' := Nat.le_trans (next_le_of_step hlast) hids
    obtain ⟨stage', hsound⟩ := ih hids'
    exact hsound.step hids' hlast

/-- A `field` that is set and a target that is `published` are never replaced. -/
theorem kept_of_steps (hsteps : Steps e e') :
    (e.shared.field ≠ unset → e'.shared.field = e.shared.field) ∧
      ∀ target, e.shared.published = some target → e'.shared.published = some target := by
  induction hsteps with
  | refl => exact ⟨fun _ => rfl, fun _ h => h⟩
  | tail _ hlast ih =>
    obtain ⟨hfield, hpublished⟩ := ih
    cases hlast with
    | move hthread hmove =>
      -- The field was set before the last move, by the induction hypothesis, so that move keeps it.
      obtain ⟨hfield', hpublished'⟩ := hmove.kept
      refine ⟨fun hset => ?_, fun target h => hpublished' target (hpublished target h)⟩
      have hsame := hfield hset
      exact (hfield' (hsame ▸ hset)).trans hsame

/-- `Sound` holds at the `start`, where the stage is `vacant`. -/
theorem sound_start {numbers : ThreadNumbers} (hnumbers : numbers.WellFormed) :
    (start log fs numbers calls).Sound log fs calls .vacant where
  log_eq := rfl
  fits := {
    field_eq := rfl
    published_eq := rfl
    milestones_eq := rfl
    sheet_eq := rfl
    unwritten := fun _ => rfl
    numbered := ⟨hnumbers, nofun, nofun, fun _ _ _ h => nomatch h⟩
    winner_numbered := nofun
    causal := forall_suffix_nil }
  allows k t ht := by
    -- Every thread starts idle, with all its calls before it.
    obtain ⟨made, -, rfl⟩ : ∃ made, calls[k]? = some made ∧ { calls := made } = t := by
      simpa [start] using ht
    exact ⟨rfl, trivial⟩
  winner_lt := nofun
  length_eq := List.length_map _
  account k t made ht hmade := by
    obtain rfl : { calls := made } = t := by simpa [start, hmade] using ht
    simp [start, Thread.pending, Place.buffer?]

/-! ### Nobody is kept waiting -/

end Election

/-- A bound on the steps that a thread is from the end of its call. -/
def Place.work : Place → Nat
  | idle => 0
  | writing .. => 1
  | waiting _ => 2
  | publishing .. => 3
  | resolving _ => 4
  | standing .. => 5
  | reading .. => 6

/-- A bound on the steps that a thread is from the end of all its calls, each of which takes at most
seven. -/
def Thread.work (t : Thread) : Nat := t.place.work + 7 * t.calls.length

/-- A thread with anything left to do has a `Move` that lowers its `work`, unless it waits for a
target that is not published. -/
theorem Thread.exists_move (log : Log) (k : Nat) (s : Shared) (t : Thread)
    (hleft : t ≠ ⟨.idle, []⟩) (hwait : ∀ buffer?, t.place = .waiting buffer? → s.published ≠ none) :
    ∃ s' t' entries, Move log k s t s' t' entries ∧ t'.work < t.work := by
  obtain ⟨place, calls⟩ := t
  -- At every place there is one move, but for `standing`, where the field decides between two.
  cases place with
  | idle =>
    cases calls with
    | nil => exact absurd rfl hleft
    | cons call calls =>
      exact ⟨_, _, _, .enter s call calls, by simp [work, Place.work]; omega⟩
  | reading me buffer? =>
    refine ⟨_, _, _, .read s me buffer? calls, ?_⟩
    by_cases hfield : s.field = unset <;> simp [work, Place.work, hfield]
  | standing me buffer? =>
    by_cases hfield : s.field = unset
    · exact ⟨_, _, _, .win s me buffer? calls hfield, by simp [work, Place.work]⟩
    · exact ⟨_, _, _, .lose s me buffer? calls hfield, by simp [work, Place.work]⟩
  | resolving buffer? => exact ⟨_, _, _, .resolve s buffer? calls, by simp [work, Place.work]⟩
  | publishing found buffer? =>
    exact ⟨_, _, _, .publish s found buffer? calls, by simp [work, Place.work]⟩
  | waiting buffer? =>
    -- A waiting thread can go on because the target has been published.
    obtain ⟨target, hsome⟩ := Option.ne_none_iff_exists'.1 (hwait buffer? rfl)
    refine ⟨_, _, _, .return s target buffer? calls hsome, ?_⟩
    cases buffer? <;> simp [work, Place.work]
  | writing target buffer =>
    exact ⟨_, _, _, .write s target buffer calls, by simp [work, Place.work]⟩

namespace Election

/-- The `Thread.work` of all threads together. -/
def work (e : Election) : Nat := (e.threads.map Thread.work).sum

/-- A `Move` of one thread that lowers its `work` is a `Step` that lowers the `work` of all. -/
theorem exists_step_of_move {shared : Shared} (hthread : e.threads[k]? = some t)
    (hmove : Move e.log k e.shared t shared t' entries) (hwork : t'.work < t.work) :
    ∃ e', Step e e' ∧ e'.work < e.work := by
  refine ⟨_, .move hthread hmove, ?_⟩
  have hsum := sum_map_set (f := Thread.work) hthread t'
  simp only [work]
  omega

/-- From a `Sound` state that is not `Finished` there is a `Step` that lowers the `work`. -/
theorem Sound.exists_step (h : e.Sound log fs calls stage) (hleft : ¬ e.Finished) :
    ∃ e', Step e e' ∧ e'.work < e.work := by
  -- Everything comes down to finding a thread that is not stuck waiting.
  have hgo : ∀ (k : Nat) (t : Thread), e.threads[k]? = some t → t ≠ ⟨.idle, []⟩ →
      (∀ buffer?, t.place = .waiting buffer? → e.shared.published ≠ none) →
      ∃ e', Step e e' ∧ e'.work < e.work := by
    intro k t ht hidle hwait
    obtain ⟨s', t', entries, hmove, hwork⟩ := t.exists_move e.log k e.shared hidle hwait
    exact exists_step_of_move ht hmove hwork
  -- A thread that is at its duty does not wait.
  have hduty : ∀ k, stage.duty k ≠ .none → k < e.threads.length →
      ∃ e', Step e e' ∧ e'.work < e.work := by
    intro k hk hlt
    have hplace := (h.allows k _ (List.getElem?_eq_getElem hlt)).duty_eq
    rw [← hplace] at hk
    refine hgo k _ (List.getElem?_eq_getElem hlt) (fun hidle => ?_) fun buffer? hwait => ?_
    · rw [hidle] at hk
      exact absurd rfl hk
    · rw [hwait] at hk
      exact absurd rfl hk
  simp only [Finished, not_forall] at hleft
  obtain ⟨t, hmem, hidle⟩ := hleft
  obtain ⟨k, hk⟩ := List.mem_iff_getElem?.1 hmem
  by_cases hwait : ∃ buffer?, t.place = .waiting buffer?
  · obtain ⟨buffer?, hplace⟩ := hwait
    have hvacant : stage ≠ .vacant := by
      have hholds := (h.allows k t hk).holds
      rw [hplace] at hholds
      exact hholds
    -- Either the one elected has yet to publish, or this thread gets its target.
    cases stage with
    | vacant => exact absurd rfl hvacant
    | elected w me => exact hduty w (by simp [Stage.duty]) (h.winner_lt (w, me) rfl)
    | resolved w me => exact hduty w (by simp [Stage.duty]) (h.winner_lt (w, me) rfl)
    | published w me =>
      refine hgo k t hk hidle fun _ _ => ?_
      rw [h.fits.published_eq]
      exact Option.some_ne_none _
  · exact hgo k t hk hidle fun buffer? hplace => absurd ⟨buffer?, hplace⟩ hwait

/-! ### Agreement -/

/-- What has come of the calls that threads made at once of a log, if `log` goes by the settings,
the threads had `numbers` before and the files `fs` were at hand. -/
structure Agreement (settings : Settings) (processId : String) (log : Log)
    (numbers : ThreadNumbers) (fs : FileSystem) (calls : List (List Call)) (stage : Stage)
    (e : Election) : Prop where
  /-- The election field is `unset` or has the number of the winner. -/
  field_eq : e.shared.field = stage.field
  /-- The winner called the log, and was given its number for that. -/
  winner_numbered : ∀ k me, stage.winner? = some (k, me) →
    k < calls.length ∧ .numbered k me ∈ e.record
  /-- The field is not `unset` for any number, and tells threads apart. -/
  distinct : ∀ j k me other, .numbered j me ∈ e.record → .numbered k other ∈ e.record →
    Int64.ofNat me ≠ unset ∧ (Int64.ofNat me = Int64.ofNat other → j = k)
  /-- Winning, resolving and publishing happen at most once, in this order and in the
  same thread. -/
  milestones_eq : e.record.filter Entry.isMilestone = stage.milestones (log.resolve fs).value
  /-- What is published is what the log resolves to on the files `fs`. -/
  published_eq : e.shared.published = stage.published? (log.resolve fs).value
  /-- Buffers are written to what their threads were told, which had been published before. -/
  causal : Causal e.record
  /-- Nothing is written before a target is published. -/
  unwritten : e.shared.published = none → writes e.record = []
  /-- Every thread is told the target that is published. -/
  returned : ∀ k target, .returned k target ∈ e.record → e.shared.published = some target
  /-- Once set, the field stays, and so does the published target. -/
  fixed : ∀ later, Steps e later →
    (e.shared.field ≠ unset → later.shared.field = e.shared.field) ∧
      ∀ target, e.shared.published = some target → later.shared.published = some target
  /-- Nothing is touched before the target is resolved. -/
  untouched : (∀ k target, .resolved k target ∉ e.record) → e.shared.sheet = ⟨fs, [], 0⟩
  /-- After that the target gets its head, each buffer that is written, and nothing else. -/
  received : ∀ k target, .resolved k target ∈ e.record → ∃ heading,
    Settles settings processId fs target heading ∧
      e.shared.sheet.Received fs (heading ++ joined ((writes e.record).map (·.2))) target
  /-- What has been written to is what a `Session.run` of the same writes one after the other
  leaves. -/
  sequential : ∀ k target, .resolved k target ∈ e.record →
    ∀ (first : Caller) (caller : Nat → Caller), e.shared.sheet = ((Session.start log fs).run
      (.target first :: (writes e.record).map fun w => .write (caller w.1) w.2)).sheet
  /-- Before any step, what is shared `Matches` a log in use that nobody has called. -/
  idle : (start log fs numbers calls).shared.Matches log (.start { log with numbers } fs)
  /-- From there on, a call whose steps are not interrupted is a `Session.perform`. -/
  alone : ∀ session, e.shared.Matches log session →
    ∀ (k : Nat) (call : Call) (rest : List Call) (caller : Caller),
      e.threads[k]? = some ⟨.idle, call :: rest⟩ → caller.serial = k → call.ending = false →
      (session.log.numbers.numberOf k).1 < 2 ^ 63 →
      ∃ later, Steps e later ∧ later.threads = e.threads.set k ⟨.idle, rest⟩ ∧
        later.shared.Matches log (session.perform (call.request caller))
  /-- Each thread has written the buffers of its calls, once and in order, but for those still
  `pending`. -/
  account : ∀ k t made, e.threads[k]? = some t → calls[k]? = some made →
    writesOf k e.record ++ t.pending = made.filterMap Call.buffer?
  /-- Until all calls are made some thread can go on, and not forever. -/
  goes_on : ¬ e.Finished → ∃ later, Step e later ∧ later.work < e.work

/-- `Agreement` can be read off every `Sound` state of a log that `Follows` its settings. -/
theorem Sound.agreement {settings : Settings} {processId : String}
    (h : e.Sound log fs calls stage) (hids : e.shared.numbers.next ≤ 2 ^ 63)
    (hfollows : log.Follows settings processId) (hsettled : log.settled = none)
    (hoffset : log.offset = 0) (numbers : ThreadNumbers) :
    e.Agreement settings processId log numbers fs calls stage := by
  -- Once the target is resolved it is what the log resolves to.
  have hresolved : ∀ k target, .resolved k target ∈ e.record →
      target = (log.resolve fs).value ∧ e.shared.sheet =
        (log.firstSheet fs).putAll ((writes e.record).map (·.2)) (log.resolve fs).value := by
    intro k target hmem
    have hmilestone := h.fits.milestone_mem hmem rfl
    rw [h.fits.sheet_eq]
    -- Before the stage `resolved` there is no such milestone, so the record cannot have it.
    cases stage with
    | vacant => simp [Stage.milestones] at hmilestone
    | elected w me => simp [Stage.milestones] at hmilestone
    | resolved w me =>
      have hboth : k = w ∧ target = (log.resolve fs).value := by
        simpa [Stage.milestones] using hmilestone
      exact ⟨hboth.2, rfl⟩
    | published w me =>
      have hboth : k = w ∧ target = (log.resolve fs).value := by
        simpa [Stage.milestones] using hmilestone
      exact ⟨hboth.2, rfl⟩
  exact {
    field_eq := h.fits.field_eq
    winner_numbered := fun k me hwinner =>
      ⟨h.length_eq ▸ h.winner_lt (k, me) hwinner, h.fits.winner_numbered (k, me) hwinner⟩
    distinct := fun j k me other hme hother => by
      have hlt := h.fits.lt_of_numbered hids hme
      refine ⟨ofNat_ne_unset hlt, fun heq => ?_⟩
      obtain rfl := ofNat_inj hlt (h.fits.lt_of_numbered hids hother) heq
      exact h.fits.numbered.unique j k me hme hother
    milestones_eq := h.fits.milestones_eq
    published_eq := h.fits.published_eq
    causal := h.fits.causal
    unwritten := h.fits.unwritten
    returned := fun k target hmem => (h.fits.published_of_returned hmem).1
    fixed := fun later hsteps => kept_of_steps hsteps
    untouched := fun hnone => by
      -- Only two stages have resolved, and both have the milestone that is excluded here.
      have hmem : ∀ k, .resolved k (log.resolve fs).value ∉
          stage.milestones (log.resolve fs).value := fun k hk =>
        hnone k _ (h.fits.mem_of_milestone hk)
      rw [h.fits.sheet_eq]
      cases stage with
      | vacant => rfl
      | elected w me => rfl
      | resolved w me => simp [Stage.milestones] at hmem
      | published w me => simp [Stage.milestones] at hmem
    received := fun k target hmem => by
      obtain ⟨rfl, hsheet⟩ := hresolved k target hmem
      obtain ⟨heading, hsettles, hreceived⟩ := hfollows.settles_resolve fs
      rw [hsheet]
      exact ⟨heading, hsettles, hreceived.putAll _⟩
    sequential := fun k target hmem first caller => by
      obtain ⟨rfl, hsheet⟩ := hresolved k target hmem
      rw [hsheet, Session.sheet_run_writes hsettled hoffset]
    idle := matches_start hsettled hoffset fs numbers calls
    alone := fun session hmatches k call rest caller hthread hserial hending hnumber => by
      obtain ⟨s', halone, hmatches'⟩ := hmatches.perform hserial hending hnumber
      rw [← h.log_eq] at halone
      obtain ⟨later, hsteps, hshared, hthreads, -⟩ := steps_of_alone hthread halone
      exact ⟨later, hsteps, hthreads, hshared ▸ hmatches'⟩
    account := h.account
    goes_on := h.exists_step }

/-- `Agreement` holds after any steps of any threads that call a log at once. -/
theorem agreement_of_steps (settings : Settings) (processId : String) (numbers : ThreadNumbers)
    (fs : FileSystem) (calls : List (List Call)) (e : Election) (hnumbers : numbers.WellFormed)
    (hsteps : Steps (start (Log.ofSettings settings processId) fs numbers calls) e)
    (hids : e.shared.numbers.next ≤ 2 ^ 63) :
    ∃ stage, e.Agreement settings processId (Log.ofSettings settings processId) numbers fs calls
      stage := by
  obtain ⟨stage, hsound⟩ := (sound_start hnumbers).steps hsteps hids
  exact ⟨stage, hsound.agreement hids (Log.follows_ofSettings settings processId {}) rfl rfl
    numbers⟩

/-- `agreement_of_steps` applies to two threads that both find the field unset: the second one is
faster, but the first one is the first to write. -/
theorem agreement_of_race :
    ∃ e, ({} : ThreadNumbers).WellFormed ∧
      Steps
        (start (Log.ofSettings { libraryDir := "/", crashToStdout := true } "42") {} {}
          [[{ buffer? := some "a".toUTF8 }], [{ buffer? := some "b".toUTF8 }]]) e ∧
      e.shared.numbers.next ≤ 2 ^ 63 ∧ e.shared.field = 2 ∧
      e.shared.sheet.emitted = [.bytes .stdout "a".toUTF8, .bytes .stdout "b".toUTF8] ∧
      ∃ stage,
        e.Agreement { libraryDir := "/", crashToStdout := true } "42"
          (Log.ofSettings { libraryDir := "/", crashToStdout := true } "42") {} {}
          [[{ buffer? := some "a".toUTF8 }], [{ buffer? := some "b".toUTF8 }]] stage := by
  have hnumbers : ({} : ThreadNumbers).WellFormed := ⟨nofun, nofun⟩
  -- Both threads read the field before either sets it.
  have hboth := Relation.ReflTransGen.refl (r := Step)
    (a := start (Log.ofSettings { libraryDir := "/", crashToStdout := true } "42") {} {}
      [[{ buffer? := some "a".toUTF8 }], [{ buffer? := some "b".toUTF8 }]])
    |>.tail (.move (k := 0) rfl (.enter ..))
    |>.tail (.move (k := 1) rfl (.enter ..))
    |>.tail (.move (k := 0) rfl (.read ..))
    |>.tail (.move (k := 1) rfl (.read ..))
  -- The second thread wins, so the first goes round its wait once before anything is published.
  have hfound := hboth
    |>.tail (.move (k := 1) rfl (.win _ _ _ _ rfl))
    |>.tail (.move (k := 0) rfl (.lose _ _ _ _ (by decide)))
    |>.tail (.move (k := 0) rfl (.sleep _ _ _ rfl))
    |>.tail (.move (k := 1) rfl (.resolve ..))
    |>.tail (.move (k := 1) rfl (.publish ..))
  have hsteps := hfound
    |>.tail (.move (k := 0) rfl (.return _ _ _ _ rfl))
    |>.tail (.move (k := 1) rfl (.return _ _ _ _ rfl))
    |>.tail (.move (k := 0) rfl (.write ..))
    |>.tail (.move (k := 1) rfl (.write ..))
  exact ⟨_, hnumbers, hsteps, by decide, rfl, rfl,
    agreement_of_steps _ _ _ _ _ _ hnumbers hsteps (by decide)⟩

end Election

end CompilerLink.Crash
