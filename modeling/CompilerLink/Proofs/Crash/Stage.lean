import CompilerLink.Proofs.Crash.Election
import CompilerLink.Proofs.Lists

/-! # Stages of an election

An election goes through four stages, and the stage tells what is shared (`Fits`) and where each
thread can be (`Allows`). A step of the thread that is elected leads to the next stage, and all
other steps stay in theirs (`Move.sound`).

The record of an election has the same stages in it: its milestones are those of the stage, and
every entry has behind it what must have happened before (`Causal`). -/

namespace CompilerLink.Crash

/-! ### Records -/

namespace Entry

/-- Whether an entry is one of those that can only happen once. -/
def isMilestone : Entry → Bool
  | elected .. | resolved .. | published .. => true
  | _ => false

/-- The thread and the buffer of an entry `wrote`. -/
def write? : Entry → Option (Nat × ByteArray)
  | wrote k _ buffer => some (k, buffer)
  | _ => none

/-- What must have happened `earlier` for an entry to be possible. -/
def Follows (earlier : List Entry) : Entry → Prop
  | numbered .. => True
  | elected k me => .numbered k me ∈ earlier
  | resolved k _ => ∃ me, .elected k me ∈ earlier
  | published k target => .resolved k target ∈ earlier
  | returned _ target => ∃ k, .published k target ∈ earlier
  | wrote k target _ => .returned k target ∈ earlier

end Entry

/-- Each entry of a record has behind it what must have happened before. -/
def Causal (record : List Entry) : Prop :=
  ∀ entry earlier, entry :: earlier <:+ record → entry.Follows earlier

/-- The buffers that were written, oldest first, with the threads that wrote them. -/
def writes (record : List Entry) : List (Nat × ByteArray) := record.reverse.filterMap Entry.write?

/-- The buffers that thread `k` wrote, oldest first. -/
def writesOf (k : Nat) (record : List Entry) : List ByteArray :=
  ((writes record).filter (·.1 = k)).map (·.2)

@[simp] theorem writes_nil : writes [] = [] := rfl

/-- A new entry comes last in `writes`, if it is one. -/
@[simp] theorem writes_cons (entry : Entry) (record : List Entry) :
    writes (entry :: record) = writes record ++ entry.write?.toList := by
  rw [writes, List.reverse_cons, List.filterMap_append]
  cases h : entry.write? <;> simp [writes, h]

@[simp] theorem writesOf_nil (k : Nat) : writesOf k [] = [] := rfl

/-- A new entry comes last in `writesOf` its thread, if it is a write. -/
@[simp] theorem writesOf_cons (k : Nat) (entry : Entry) (record : List Entry) :
    writesOf k (entry :: record) =
      writesOf k record ++ (entry.write?.toList.filter (·.1 = k)).map (·.2) := by
  simp [writesOf]

/-- `Causal` is preserved by an entry that `Follows` the record. -/
theorem Causal.cons {entry : Entry} {record : List Entry} (h : Causal record)
    (hentry : entry.Follows record) : Causal (entry :: record) :=
  forall_suffix_cons hentry h

/-- An entry of a `Causal` record `Follows` a part of the record. -/
theorem Causal.follows {entry : Entry} {record : List Entry} (h : Causal record)
    (hentry : entry ∈ record) : ∃ earlier ⊆ record, entry.Follows earlier := by
  obtain ⟨later, earlier, rfl⟩ := List.mem_iff_append.1 hentry
  have hsuffix : entry :: earlier <:+ later ++ entry :: earlier := List.suffix_append ..
  exact ⟨earlier, ((List.suffix_cons entry earlier).trans hsuffix).subset, h entry earlier hsuffix⟩

/-! ### Stages -/

/-- What only the thread elected does. -/
inductive Duty where
  | none
  | resolve
  | publish

/-- The `Duty` that a place belongs to. -/
def Place.duty : Place → Duty
  | resolving _ => .resolve
  | publishing .. => .publish
  | _ => .none

/-- How far an election has come, if thread `k` won it with the number `me`. -/
inductive Stage where
  /-- Nobody is elected. -/
  | vacant
  | elected (k me : Nat)
  | resolved (k me : Nat)
  | published (k me : Nat)

namespace Stage

/-- The thread that is elected, with its number. -/
def winner? : Stage → Option (Nat × Nat)
  | vacant => none
  | elected k me | resolved k me | published k me => some (k, me)

/-- The election field at a stage. -/
def field (stage : Stage) : Int64 := stage.winner?.elim unset fun winner => .ofNat winner.2

/-- The published target at a stage, if the target found was `found`. -/
def published? (found : Target) : Stage → Option Target
  | published .. => some found
  | _ => none

/-- The milestones so far, newest first. -/
def milestones (found : Target) : Stage → List Entry
  | vacant => []
  | elected k me => [.elected k me]
  | resolved k me => [.resolved k found, .elected k me]
  | published k me => [.published k found, .resolved k found, .elected k me]

/-- What is to be done by thread `j`. -/
def duty (j : Nat) : Stage → Duty
  | elected k _ => if k = j then .resolve else .none
  | resolved k _ => if k = j then .publish else .none
  | _ => .none

/-- What has been written to, if the log was opened on the files `fs`: nothing before the stage
`resolved`. -/
def sheet (log : Log) (fs : FileSystem) (buffers : List ByteArray) : Stage → Sheet
  | vacant | elected .. => ⟨fs, [], 0⟩
  | resolved .. | published .. => (log.firstSheet fs).putAll buffers (log.resolve fs).value

/-- A step of thread `k` leads from a stage to itself or to the next. -/
inductive Next (k : Nat) : Stage → Stage → Prop where
  | same (stage : Stage) : Next k stage stage
  | elect (me : Nat) : Next k vacant (elected k me)
  | resolve (me : Nat) : Next k (elected k me) (resolved k me)
  | publish (me : Nat) : Next k (resolved k me) (published k me)

/-- `Next` of thread `k` does not change the duty of another thread. -/
theorem Next.duty_eq {k j : Nat} {stage stage' : Stage} (h : Next k stage stage') (hj : j ≠ k) :
    stage'.duty j = stage.duty j := by
  have hkj : k ≠ j := Ne.symm hj
  cases h <;> simp [duty, hkj]

/-- `Next` does not lead back to `vacant`. -/
theorem Next.ne_vacant {k : Nat} {stage stage' : Stage} (h : Next k stage stage')
    (hstage : stage ≠ vacant) : stage' ≠ vacant := by
  cases h with
  | same => exact hstage
  | elect me => exact absurd rfl hstage
  | resolve me => exact nofun
  | publish me => exact nofun

/-- A winner after `Next` was the winner before, or is the thread that made the step. -/
theorem Next.winner_eq {k : Nat} {stage stage' : Stage} (h : Next k stage stage')
    {winner : Nat × Nat} (hwinner : winner ∈ stage'.winner?) :
    winner ∈ stage.winner? ∨ winner.1 = k := by
  cases h with
  | same => exact .inl hwinner
  | elect me => exact .inr (congrArg Prod.fst (Option.some.inj hwinner)).symm
  | resolve me => exact .inl hwinner
  | publish me => exact .inl hwinner

end Stage

/-! ### What a stage says -/

variable {log : Log} {fs : FileSystem} {stage stage' : Stage} {s s' : Shared}
variable {record : List Entry} {entries : List Entry} {k : Nat} {t t' : Thread}

/-- What is shared and what is in the record at a stage. -/
structure Fits (log : Log) (fs : FileSystem) (stage : Stage) (s : Shared) (record : List Entry) :
    Prop where
  field_eq : s.field = stage.field
  published_eq : s.published = stage.published? (log.resolve fs).value
  /-- The milestones in the record are exactly those of the stage. -/
  milestones_eq : record.filter Entry.isMilestone = stage.milestones (log.resolve fs).value
  sheet_eq : s.sheet = stage.sheet log fs ((writes record).map (·.2))
  /-- Nothing is written before a target is published. -/
  unwritten : s.published = none → writes record = []
  numbered : Numbered s.numbers record
  /-- The winner took its number in this election. -/
  winner_numbered : ∀ winner ∈ stage.winner?, .numbered winner.1 winner.2 ∈ record
  causal : Causal record

/-- What thread `k` relies on where it is. -/
def Place.Holds (log : Log) (fs : FileSystem) (stage : Stage) (record : List Entry) (k : Nat) :
    Place → Prop
  | idle | resolving _ => True
  | reading me _ | standing me _ => .numbered k me ∈ record
  | publishing found _ => found = (log.resolve fs).value
  | waiting _ => stage ≠ .vacant
  | writing target _ => .returned k target ∈ record

/-- Thread `k` can be at a place at a stage: the thread elected is at its duty, and no other
one is. -/
structure Allows (log : Log) (fs : FileSystem) (stage : Stage) (record : List Entry) (k : Nat)
    (place : Place) : Prop where
  duty_eq : place.duty = stage.duty k
  holds : place.Holds log fs stage record k

/-- `Allows` is preserved for every thread but the one that makes the step. -/
theorem Allows.next {j : Nat} {place : Place} (h : Allows log fs stage record j place)
    (hnext : Stage.Next k stage stage') (hj : j ≠ k) :
    Allows log fs stage' (entries ++ record) j place := by
  have hmem : ∀ entry ∈ record, entry ∈ entries ++ record :=
    fun entry => List.mem_append_right entries
  refine ⟨h.duty_eq.trans (hnext.duty_eq hj).symm, ?_⟩
  have hholds := h.holds
  -- What `Holds` asks for is an entry of the record, or that the stage is not `vacant`; both are
  -- kept.
  cases place with
  | idle => trivial
  | reading me buffer? => exact hmem _ hholds
  | standing me buffer? => exact hmem _ hholds
  | resolving buffer? => trivial
  | publishing found buffer? => exact hholds
  | waiting buffer? => exact hnext.ne_vacant hholds
  | writing target buffer => exact hmem _ hholds

/-- A thread has no duty, or it is the one elected, at the stage of that duty. -/
theorem Stage.duty_cases (stage : Stage) (k : Nat) :
    stage.duty k = .none ∨ stage.duty k = .resolve ∧ (∃ me, stage = .elected k me) ∨
      stage.duty k = .publish ∧ ∃ me, stage = .resolved k me := by
  -- Only an elected or resolved winner has a duty, and nobody else has one.
  cases stage with
  | vacant => exact .inl rfl
  | published w me => exact .inl rfl
  | elected w me =>
    by_cases hw : w = k
    · subst hw
      exact .inr (.inl ⟨by simp [duty], me, rfl⟩)
    · exact .inl (by simp [duty, hw])
  | resolved w me =>
    by_cases hw : w = k
    · subst hw
      exact .inr (.inr ⟨by simp [duty], me, rfl⟩)
    · exact .inl (by simp [duty, hw])

/-- Only thread `k` elected and not further has the duty to resolve. -/
theorem Stage.eq_elected {stage : Stage} {k : Nat} (h : Duty.resolve = stage.duty k) :
    ∃ me, stage = .elected k me := by
  rcases stage.duty_cases k with hduty | ⟨-, helected⟩ | ⟨hduty, -⟩
  · simp [hduty] at h
  · exact helected
  · simp [hduty] at h

/-- Only thread `k` with its target resolved has the duty to publish. -/
theorem Stage.eq_resolved {stage : Stage} {k : Nat} (h : Duty.publish = stage.duty k) :
    ∃ me, stage = .resolved k me := by
  rcases stage.duty_cases k with hduty | ⟨hduty, -⟩ | ⟨-, hresolved⟩
  · simp [hduty] at h
  · simp [hduty] at h
  · exact hresolved

namespace Fits

/-- A number in the record fits into a word, as long as the numbers last. -/
theorem lt_of_numbered (h : Fits log fs stage s record) (hids : s.numbers.next ≤ 2 ^ 63)
    {me : Nat} (hme : .numbered k me ∈ record) : me < 2 ^ 63 := by
  have := h.numbered.lt_next k me hme
  omega

/-- The field is `unset` only at the stage `vacant`. -/
theorem eq_vacant (h : Fits log fs stage s record) (hids : s.numbers.next ≤ 2 ^ 63)
    (hfield : s.field = unset) : stage = .vacant := by
  have hother : ∀ winner ∈ stage.winner?, Int64.ofNat winner.2 ≠ unset := fun winner hwinner =>
    ofNat_ne_unset (h.lt_of_numbered hids (h.winner_numbered winner hwinner))
  rw [h.field_eq] at hfield
  cases stage with
  | vacant => rfl
  | elected k me => exact absurd hfield (hother (k, me) rfl)
  | resolved k me => exact absurd hfield (hother (k, me) rfl)
  | published k me => exact absurd hfield (hother (k, me) rfl)

/-- A milestone in the record is one of the `milestones` of the stage. -/
theorem milestone_mem (h : Fits log fs stage s record) {entry : Entry} (hentry : entry ∈ record)
    (hmilestone : entry.isMilestone) : entry ∈ stage.milestones (log.resolve fs).value := by
  rw [← h.milestones_eq]
  exact List.mem_filter.2 ⟨hentry, hmilestone⟩

/-- The `milestones` of the stage are in the record. -/
theorem mem_of_milestone (h : Fits log fs stage s record) {entry : Entry}
    (hentry : entry ∈ stage.milestones (log.resolve fs).value) : entry ∈ record := by
  rw [← h.milestones_eq] at hentry
  exact (List.mem_filter.1 hentry).1

/-- A target is published only at the stage `published`, and it is the one found. -/
theorem eq_published (h : Fits log fs stage s record) {target : Target}
    (hsome : s.published = some target) :
    target = (log.resolve fs).value ∧ ∃ w me, stage = .published w me := by
  rw [h.published_eq] at hsome
  cases stage with
  | published w me => exact ⟨(Option.some.inj hsome).symm, w, me, rfl⟩
  | vacant => cases hsome
  | elected w me => cases hsome
  | resolved w me => cases hsome

/-- A target that was returned to some thread is the one that is published. -/
theorem published_of_returned (h : Fits log fs stage s record) {target : Target}
    (hreturned : .returned k target ∈ record) :
    s.published = some target ∧ target = (log.resolve fs).value := by
  -- Something was published before anything was returned, and only the last stage has published.
  obtain ⟨earlier, hearlier, j, hpublished⟩ := h.causal.follows hreturned
  have hmem := h.milestone_mem (hearlier hpublished) rfl
  rw [h.published_eq]
  cases stage with
  | published w me =>
    obtain ⟨-, rfl⟩ : j = w ∧ target = (log.resolve fs).value := by
      simpa [Stage.milestones] using hmem
    exact ⟨rfl, rfl⟩
  | vacant => simp [Stage.milestones] at hmem
  | elected w me => simp [Stage.milestones] at hmem
  | resolved w me => simp [Stage.milestones] at hmem

/-- `Fits` is preserved by an entry that is neither a milestone nor a write, with the numbers it
leaves. -/
theorem quiet (h : Fits log fs stage s record) {entry : Entry} {numbers : ThreadNumbers}
    (hmilestone : entry.isMilestone = false) (hwrite : entry.write? = none)
    (hfollows : entry.Follows record) (hnumbers : Numbered numbers (entry :: record)) :
    Fits log fs stage { s with numbers } (entry :: record) where
  -- The entry is neither a milestone nor a write, so only the numbers have to be looked at.
  field_eq := h.field_eq
  published_eq := h.published_eq
  milestones_eq := by
    rw [List.filter_cons_of_neg (by simp [hmilestone])]
    exact h.milestones_eq
  sheet_eq := by simpa [hwrite] using h.sheet_eq
  unwritten := by simpa [hwrite] using h.unwritten
  numbered := hnumbers
  winner_numbered winner hwinner := List.mem_cons_of_mem _ (h.winner_numbered winner hwinner)
  causal := h.causal.cons hfollows

/-- `Fits` is carried to the next stage by its milestone, by which nothing is written to
the target. -/
theorem milestone (h : Fits log fs stage s record) {entry : Entry} (hentry : entry.isMilestone)
    (hfollows : entry.Follows record)
    (hmilestones : stage'.milestones (log.resolve fs).value =
      entry :: stage.milestones (log.resolve fs).value)
    (hfield : s'.field = stage'.field)
    (hpublished : s'.published = stage'.published? (log.resolve fs).value)
    (hsheet : s'.sheet = stage'.sheet log fs ((writes record).map (·.2)))
    (hnumbers : s'.numbers = s.numbers) (hnone : s.published = none)
    (hwinner : ∀ winner ∈ stage'.winner?, .numbered winner.1 winner.2 ∈ record) :
    Fits log fs stage' s' (entry :: record) := by
  -- A milestone is no write and gives no number, so these fields go on as before.
  have hwrite : entry.write? = none := by cases entry <;> first | rfl | cases hentry
  have hother : ∀ k me, entry ≠ .numbered k me := by
    rintro k me rfl
    cases hentry
  exact {
    field_eq := hfield
    published_eq := hpublished
    milestones_eq := by rw [List.filter_cons_of_pos hentry, h.milestones_eq, hmilestones]
    sheet_eq := by simpa [hwrite] using hsheet
    unwritten := fun _ => by simp [hwrite, h.unwritten hnone]
    numbered := hnumbers ▸ h.numbered.cons hother
    winner_numbered := fun winner hw => List.mem_cons_of_mem _ (hwinner winner hw)
    causal := h.causal.cons hfollows }

/-- `Fits` is preserved by a write to the published target, which adds its buffer to
those before. -/
theorem write (h : Fits log fs stage s record) {target : Target}
    (hsome : s.published = some target) (hreturned : .returned k target ∈ record)
    (buffer : ByteArray) :
    Fits log fs stage { s with sheet := s.sheet.put buffer target }
      (.wrote k target buffer :: record) := by
  -- A target that is published is the one that was resolved, and the stage is the last.
  obtain ⟨rfl, w, me, rfl⟩ := h.eq_published hsome
  have hsheet : s.sheet = _ := h.sheet_eq
  exact {
    field_eq := h.field_eq
    published_eq := h.published_eq
    milestones_eq := by
      rw [List.filter_cons_of_neg (by simp [Entry.isMilestone])]
      exact h.milestones_eq
    sheet_eq := by simp [hsheet, Stage.sheet, Entry.write?, Sheet.putAll_append]
    unwritten := fun hnone => by simp [hsome] at hnone
    numbered := h.numbered.cons nofun
    winner_numbered := fun winner hw => List.mem_cons_of_mem _ (h.winner_numbered winner hw)
    causal := h.causal.cons hreturned }

end Fits

/-! ### One step -/

/-- Every `Move` leads to the same stage or to the `Next` one, where it `Fits` and `Allows` the
thread its new place. -/
theorem Move.sound (hmove : Move log k s t s' t' entries) (hids : s.numbers.next ≤ 2 ^ 63)
    (hfits : Fits log fs stage s record) (hallows : Allows log fs stage record k t.place) :
    ∃ stage', Stage.Next k stage stage' ∧ Fits log fs stage' s' (entries ++ record) ∧
      Allows log fs stage' (entries ++ record) k t'.place := by
  obtain ⟨hduty, hholds⟩ := hallows
  cases hmove with
  | enter call calls =>
    have hnumbers := hfits.numbered.take k call.ending
    exact ⟨stage, .same stage, hfits.quiet rfl rfl trivial hnumbers, hduty, List.mem_cons_self⟩
  | read me buffer? calls =>
    refine ⟨stage, .same stage, hfits, ?_⟩
    show Allows log fs stage record k (if s.field = unset then _ else _)
    split
    · exact ⟨hduty, hholds⟩
    · rename_i hfield
      exact ⟨hduty, fun hvacant => hfield (hfits.field_eq.trans (hvacant ▸ rfl))⟩
  | win me buffer? calls hfield =>
    -- As the field is unset, nobody was elected before.
    obtain rfl := hfits.eq_vacant hids hfield
    refine ⟨.elected k me, .elect me, ?_, by simp [Place.duty, Stage.duty], trivial⟩
    exact hfits.milestone rfl hholds rfl rfl hfits.published_eq hfits.sheet_eq rfl
      hfits.published_eq fun winner hwinner => by cases hwinner; exact hholds
  | lose me buffer? calls hfield =>
    exact ⟨stage, .same stage, hfits, hduty,
      fun hvacant => hfield (hfits.field_eq.trans (hvacant ▸ rfl))⟩
  | resolve buffer? calls =>
    -- Nothing has been written, so the files are as they were at the beginning.
    obtain ⟨me, rfl⟩ := Stage.eq_elected hduty
    have hsheet : s.sheet = ⟨fs, [], 0⟩ := hfits.sheet_eq
    have helected : .elected k me ∈ record := hfits.mem_of_milestone List.mem_cons_self
    rw [hsheet]
    refine ⟨.resolved k me, .resolve me, ?_, by simp [Place.duty, Stage.duty], rfl⟩
    refine hfits.milestone rfl ⟨me, helected⟩ rfl hfits.field_eq hfits.published_eq ?_ rfl
      hfits.published_eq hfits.winner_numbered
    rw [hfits.unwritten hfits.published_eq]
    rfl
  | publish found buffer? calls =>
    obtain ⟨me, rfl⟩ := Stage.eq_resolved hduty
    obtain rfl : found = (log.resolve fs).value := hholds
    have hnone : s.published = none := hfits.published_eq
    have hresolved : .resolved k (log.resolve fs).value ∈ record :=
      hfits.mem_of_milestone List.mem_cons_self
    rw [hnone]
    refine ⟨.published k me, .publish me, ?_, rfl, nofun⟩
    exact hfits.milestone rfl hresolved rfl hfits.field_eq rfl hfits.sheet_eq rfl hnone
      hfits.winner_numbered
  | sleep buffer? calls hnone => exact ⟨stage, .same stage, hfits, hduty, hholds⟩
  | «return» target buffer? calls hsome =>
    obtain ⟨rfl, w, me, rfl⟩ := hfits.eq_published hsome
    have hpublished : .published w (log.resolve fs).value ∈ record :=
      hfits.mem_of_milestone List.mem_cons_self
    refine ⟨_, .same _, hfits.quiet rfl rfl ⟨w, hpublished⟩ (hfits.numbered.cons nofun), ?_⟩
    cases buffer? with
    | none => exact ⟨hduty, trivial⟩
    | some buffer => exact ⟨hduty, List.mem_cons_self⟩
  | write target buffer calls =>
    have hwrite := hfits.write (hfits.published_of_returned hholds).1 hholds buffer
    exact ⟨stage, .same stage, hwrite, hduty, trivial⟩

/-- `ThreadNumbers.next` does not decrease by a `Move`. -/
theorem Move.next_le (hmove : Move log k s t s' t' entries) :
    s.numbers.next ≤ s'.numbers.next := by
  cases hmove with
  | enter call calls => exact s.numbers.next_le_take k call.ending
  | _ => exact Nat.le_refl _

/-- A `Move` replaces neither a field that is set nor a published target. -/
theorem Move.kept (hmove : Move log k s t s' t' entries) :
    (s.field ≠ unset → s'.field = s.field) ∧
      ∀ target, s.published = some target → s'.published = some target := by
  -- Two moves write these fields, and each only where nothing has been written before.
  cases hmove with
  | win me buffer? calls hfield => exact ⟨fun hset => absurd hfield hset, fun _ h => h⟩
  | publish found buffer? calls =>
    refine ⟨fun _ => rfl, fun target hsome => ?_⟩
    show s.published.or (some found) = some target
    rw [hsome]
    rfl
  | _ => exact ⟨fun _ => rfl, fun _ h => h⟩

end CompilerLink.Crash
