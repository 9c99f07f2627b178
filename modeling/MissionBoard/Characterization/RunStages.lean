import MissionBoard.Characterization.ProfileRunner

/-!
Owns what the stages of `ProfileRunner::run` keep: but for the command of an epoch nothing reaches the
motor except Coast, the evidence of the journal stays, and an error stays.
-/

namespace MissionBoard.Characterization

/-! ### The journal -/

namespace CommandJournal

/-- From one journal to the other the motor was handed Coast alone, and no evidence was made. -/
structure Coasts (journal next : CommandJournal) : Prop where
  context : ∃ coasts, next.context = journal.context ++ coasts ∧
    ∀ handed ∈ coasts, handed.request = .toCoast
  bound : next.bound = journal.bound
  armed : next.armed = true → journal.armed = true
  current : next.current = journal.current
  nextGeneration : next.nextGeneration = journal.nextGeneration

theorem Coasts.refl (journal : CommandJournal) : Coasts journal journal :=
  ⟨⟨[], (List.append_nil _).symm, fun _ within => absurd within List.not_mem_nil⟩, rfl, id, rfl, rfl⟩

theorem Coasts.trans {first second third : CommandJournal} (before : Coasts first second)
    (after : Coasts second third) : Coasts first third := by
  obtain ⟨earlier, firstContext, firstCoasts⟩ := before.context
  obtain ⟨later, secondContext, secondCoasts⟩ := after.context
  refine ⟨⟨earlier ++ later, ?_, ?_⟩, after.bound.trans before.bound,
    fun armed => before.armed (after.armed armed), after.current.trans before.current,
    after.nextGeneration.trans before.nextGeneration⟩
  · rw [secondContext, firstContext, List.append_assoc]
  · intro handed within
    rcases List.mem_append.mp within with early | late
    · exact firstCoasts handed early
    · exact secondCoasts handed late

variable (answer : ℕ → MotorApplyAnswer) (journal : CommandJournal)

theorem coasts_disarm (nowUs : UInt64) : Coasts journal (journal.disarm answer nowUs).2 := by
  unfold disarm applyCoast callback
  cases bound : journal.bound with
  | false =>
      exact ⟨⟨[], (List.append_nil _).symm, fun _ within => absurd within List.not_mem_nil⟩,
        bound.symm, fun armed => absurd armed Bool.false_ne_true, rfl, rfl⟩
  | true =>
      refine ⟨⟨[_], rfl, ?_⟩, bound.symm, fun armed => absurd armed Bool.false_ne_true, rfl, rfl⟩
      intro handed within
      rw [List.mem_singleton.mp within]

theorem armed_disarm (nowUs : UInt64) : (journal.disarm answer nowUs).2.armed = false := rfl

theorem coasts_stopForError (cause : Int32) (nowUs : UInt64) :
    Coasts journal (journal.stopForError answer cause nowUs).2 := by
  unfold stopForError
  split
  · exact .refl journal
  · exact journal.coasts_disarm answer nowUs

end CommandJournal

/-! ### The state of a run -/

namespace RunState

open CommandJournal (Coasts)

/-- What every stage of an iteration keeps but the command of the next epoch -/
structure Calm (run next : RunState) : Prop where
  moment : run.moment ≤ next.moment
  journal : Coasts run.journal next.journal
  failed : run.firstError ≠ espOk → next.firstError = run.firstError
  reason : next.firstError = espOk → next.lastAbortReason = run.lastAbortReason
  stopped : run.qualificationStop = true → next.qualificationStop = true
  command : next.currentCommandState = run.currentCommandState
  epochZeroUs : next.epochZeroUs = run.epochZeroUs
  zeroRaw : next.zeroRaw = run.zeroRaw

/-- A stage that writes no record -/
structure Quiet (run next : RunState) : Prop extends Calm run next where
  records : next.records = run.records
  sequence : next.sequence = run.sequence
  qualificationTotal : next.qualificationTotal = run.qualificationTotal
  qualificationValid : next.qualificationValid = run.qualificationValid

/-- A stage that leaves the angle and the samples as well -/
structure Still (run next : RunState) : Prop extends Quiet run next where
  haveAngle : next.haveAngle = run.haveAngle
  finAngle : next.finAngle = run.finAngle
  finRate : next.finRate = run.finRate
  assembler : next.assembler = run.assembler

theorem Calm.trans {first second third : RunState} (before : Calm first second)
    (after : Calm second third) : Calm first third where
  moment := before.moment.trans after.moment
  journal := before.journal.trans after.journal
  failed error := by
    have kept := before.failed error
    rw [← kept] at error ⊢
    exact after.failed error
  reason clean := by
    have earlier : second.firstError = espOk := by
      by_contra error
      exact error ((after.failed error).symm.trans clean)
    exact (after.reason clean).trans (before.reason earlier)
  stopped stop := after.stopped (before.stopped stop)
  command := after.command.trans before.command
  epochZeroUs := after.epochZeroUs.trans before.epochZeroUs
  zeroRaw := after.zeroRaw.trans before.zeroRaw

theorem Quiet.refl (run : RunState) : Quiet run run :=
  ⟨⟨le_rfl, .refl _, fun _ => rfl, fun _ => rfl, id, rfl, rfl, rfl⟩, rfl, rfl, rfl, rfl⟩

theorem Quiet.trans {first second third : RunState} (before : Quiet first second)
    (after : Quiet second third) : Quiet first third :=
  ⟨before.toCalm.trans after.toCalm, after.records.trans before.records,
    after.sequence.trans before.sequence, after.qualificationTotal.trans before.qualificationTotal,
    after.qualificationValid.trans before.qualificationValid⟩

theorem Still.refl (run : RunState) : Still run run := ⟨.refl run, rfl, rfl, rfl, rfl⟩

theorem Still.trans {first second third : RunState} (before : Still first second)
    (after : Still second third) : Still first third :=
  ⟨before.toQuiet.trans after.toQuiet, after.haveAngle.trans before.haveAngle,
    after.finAngle.trans before.finAngle, after.finRate.trans before.finRate,
    after.assembler.trans before.assembler⟩

theorem Calm.clean {run next : RunState} (calm : Calm run next) (clean : next.firstError = espOk) :
    run.firstError = espOk := by
  by_contra error
  exact error ((calm.failed error).symm.trans clean)

theorem Calm.going {run next : RunState} (calm : Calm run next)
    (going : next.qualificationStop = false) : run.qualificationStop = false := by
  by_contra stop
  rw [calm.stopped (Bool.not_eq_false _ ▸ stop)] at going
  cases going

variable (world : World) (setup : RunSetup) (run : RunState)

theorem still_later (count : ℕ) : Still run (run.later count) :=
  ⟨⟨⟨Nat.le_add_right _ _, .refl _, fun _ => rfl, fun _ => rfl, id, rfl, rfl, rfl⟩, rfl, rfl, rfl,
    rfl⟩, rfl, rfl, rfl, rfl⟩

theorem still_disarmAt (nowUs : UInt64) : Still run (run.disarmAt world nowUs).2 :=
  ⟨⟨⟨Nat.le_add_right _ _, run.journal.coasts_disarm _ nowUs, fun _ => rfl, fun _ => rfl, id, rfl,
    rfl, rfl⟩, rfl, rfl, rfl, rfl⟩, rfl, rfl, rfl, rfl⟩

theorem still_disarm : Still run (run.disarm world).2 :=
  (run.still_later 1).trans (still_disarmAt world _ _)

theorem still_stopForFatal (cause : Int32) (reason : AbortReason) (timestampUs : UInt64) :
    Still run (run.stopForFatal world cause reason timestampUs) := by
  have coasts : ∀ cause, Coasts run.journal
      (run.journal.stopForError (run.motorAnswer world) cause timestampUs).2 :=
    fun cause => run.journal.coasts_stopForError _ cause timestampUs
  have nonzero : (if cause = espOk then espErrInvalidResponse else cause) ≠ espOk := by
    split
    · decide
    · assumption
  unfold stopForFatal
  dsimp only
  split
  · rename_i clean
    refine ⟨⟨⟨Nat.le_add_right _ _, coasts _, fun error => absurd clean error,
      fun other => absurd other nonzero, id, rfl, rfl, rfl⟩, rfl, rfl, rfl, rfl⟩, rfl, rfl, rfl, rfl⟩
  · exact ⟨⟨⟨Nat.le_add_right _ _, coasts _, fun _ => rfl, fun _ => rfl, id, rfl, rfl, rfl⟩, rfl,
      rfl, rfl, rfl⟩, rfl, rfl, rfl, rfl⟩

/-- After it the run has an error. -/
theorem firstError_stopForFatal (cause : Int32) (reason : AbortReason) (timestampUs : UInt64) :
    (run.stopForFatal world cause reason timestampUs).firstError ≠ espOk := by
  unfold stopForFatal
  dsimp only
  split
  · show (if cause = espOk then espErrInvalidResponse else cause) ≠ espOk
    split
    · decide
    · assumption
  · assumption

theorem still_stopNow (cause : Int32) (reason : AbortReason) :
    Still run (run.stopNow world cause reason) :=
  (run.still_later 1).trans (still_stopForFatal world _ cause reason _)

theorem firstError_stopNow (cause : Int32) (reason : AbortReason) :
    (run.stopNow world cause reason).firstError ≠ espOk :=
  firstError_stopForFatal world _ cause reason _

theorem still_stopForQualification : Still run (run.stopForQualification world) := by
  have marked : Still run { run with qualificationStop := true } :=
    ⟨⟨⟨le_rfl, .refl _, fun _ => rfl, fun _ => rfl, fun _ => rfl, rfl, rfl, rfl⟩, rfl, rfl, rfl,
      rfl⟩, rfl, rfl, rfl, rfl⟩
  exact marked.trans (still_disarm world _)

theorem qualificationStop_stopForQualification :
    (run.stopForQualification world).qualificationStop = true := rfl

/-- It stops the run when it says so. -/
theorem still_stopForLatchedFailure : Still run (run.stopForLatchedFailure world setup).2 := by
  unfold stopForLatchedFailure
  dsimp only
  split_ifs
  · exact (run.still_later 1).trans (still_stopNow world _ _ _)
  · exact run.still_later 2
  · exact (run.still_later 2).trans (still_stopForQualification world _)
  · exact (run.still_later 2).trans (still_stopNow world _ _ _)

theorem still_missed :
    Still run { run with runtimeDeadlineMisses := run.runtimeDeadlineMisses + 1 } :=
  ⟨⟨⟨le_rfl, .refl _, fun _ => rfl, fun _ => rfl, id, rfl, rfl, rfl⟩, rfl, rfl, rfl, rfl⟩, rfl, rfl,
    rfl, rfl⟩

/-! ### The stages -/

theorem still_startApproach (episode : ProfileEpisode) :
    Still run (run.startApproach world episode) := by
  have reset : ∀ positive negative positiveStarted negativeStarted,
      Still run
        { run.later 1 with
          positive := positive, negative := negative, positiveStarted := positiveStarted,
          negativeStarted := negativeStarted } :=
    fun _ _ _ _ =>
      ⟨⟨⟨Nat.le_add_right _ _, .refl _, fun _ => rfl, fun _ => rfl, id, rfl, rfl, rfl⟩, rfl, rfl,
        rfl, rfl⟩, rfl, rfl, rfl, rfl⟩
  unfold startApproach
  split
  · exact .refl run
  · cases episode.branch with
    | none => exact .refl run
    | fromPositive =>
        dsimp only
        split
        · exact .refl run
        · exact reset _ run.negative _ run.negativeStarted
    | fromNegative =>
        dsimp only
        split
        · exact .refl run
        · exact reset run.positive _ run.positiveStarted _

theorem still_awaitTick : Still run (run.awaitTick world setup).2 := by
  unfold awaitTick
  split
  · exact ((run.still_later 1).trans (still_missed _)).trans (still_stopNow world _ _ _)
  · split
    · exact run.still_later 2
    · have looked := still_stopForLatchedFailure world setup (run.later 2)
      dsimp only
      split_ifs
      · exact (run.still_later 2).trans looked
      · exact (((run.still_later 2).trans looked).trans (still_later _ 1)).trans
          (still_stopNow world _ _ _)
      · exact ((run.still_later 2).trans looked).trans (still_later _ 1)

theorem still_checkStop (releaseUs : UInt64) : Still run (run.checkStop world releaseUs) := by
  unfold checkStop
  split
  · exact (run.still_later 1).trans (still_stopForFatal world _ _ _ _)
  · exact run.still_later 1

theorem still_missDeadline (late : Bool) (releaseUs : UInt64) :
    Still run (run.missDeadline world late releaseUs) := by
  unfold missDeadline
  split
  · exact (still_missed run).trans (still_stopForFatal world _ _ _ _)
  · exact .refl run

theorem still_checkWriter (releaseUs : UInt64) : Still run (run.checkWriter world releaseUs) := by
  unfold checkWriter
  split
  · exact (run.still_later 2).trans (still_stopForFatal world _ _ _ _)
  · exact run.still_later 1

theorem still_release (epoch : UInt32) (tick : ConsumerTick) :
    Still run (run.release world setup epoch tick).2 := by
  have looked := still_stopForLatchedFailure world setup run
  unfold release
  dsimp only
  split
  · exact looked
  · have asked := (looked.trans (still_later _ 3)).trans (still_checkStop world _
      ((run.stopForLatchedFailure world setup).2.now world))
    split
    · exact asked
    · have checked := fun (late : Bool) (releaseUs : UInt64) =>
        (asked.trans (still_missDeadline world _ late releaseUs)).trans
          (still_checkWriter world _ releaseUs)
      split
      · exact checked _ _
      · exact checked _ _

theorem quiet_withAssembler (assembler : FixedEpochAssembler) :
    Quiet run (run.withAssembler assembler) :=
  ⟨⟨le_rfl, .refl _, fun _ => rfl, fun _ => rfl, id, rfl, rfl, rfl⟩, rfl, rfl, rfl, rfl⟩

/-- The samples only change the assembler. -/
theorem quiet_drainSample : Quiet run (run.drainSample world setup).2 ∧
    (run.drainSample world setup).2.haveAngle = run.haveAngle := by
  unfold drainSample
  split
  · exact ⟨(run.still_later 1).toQuiet, rfl⟩
  · rename_i raw _
    have taken := (run.still_later 1).toQuiet.trans
      (quiet_withAssembler (run.later 1) (run.assembler.add raw).2)
    dsimp only
    split_ifs
    · have stopped := still_stopNow world ((run.later 1).withAssembler (run.assembler.add raw).2)
        espErrNoMem .queueFull
      exact ⟨taken.trans stopped.toQuiet, stopped.haveAngle⟩
    · have stopped := still_stopForQualification world
        ((run.later 1).withAssembler (run.assembler.add raw).2)
      exact ⟨taken.trans stopped.toQuiet, stopped.haveAngle⟩
    · exact ⟨taken, rfl⟩

/-- The angle is that of the block. -/
theorem quiet_measure (block : EncoderEpochBlock) (guardState : GuardState) :
    Quiet run (run.measure world setup block guardState).2 ∧
      (run.measure world setup block guardState).2.assembler = run.assembler := by
  unfold measure
  split
  · split
    · have stopped := still_stopNow world run espErrInvalidSize .positionGuard
      exact ⟨stopped.toQuiet, stopped.assembler⟩
    · rename_i angle _
      have moved : ∀ haveAngle finRate, Quiet run
          { run with finAngle := angle, haveAngle := haveAngle, finRate := finRate } :=
        fun _ _ => ⟨⟨le_rfl, .refl _, fun _ => rfl, fun _ => rfl, id, rfl, rfl, rfl⟩, rfl, rfl, rfl,
          rfl⟩
      dsimp only
      split
      · have stopped := still_stopNow world { run with finAngle := angle } espErrInvalidSize
          .positionGuard
        exact ⟨(moved run.haveAngle run.finRate).trans stopped.toQuiet, stopped.assembler⟩
      · exact ⟨moved true _, rfl⟩
  · split
    · have stopped := still_stopNow world run espErrInvalidResponse .encoderInvalid
      exact ⟨stopped.toQuiet, stopped.assembler⟩
    · exact ⟨.refl run, rfl⟩

theorem still_checkSampler : Still run (run.checkSampler world setup) := by
  unfold checkSampler
  split_ifs
  · exact (run.still_later 2).trans (still_stopNow world _ _ _)
  · exact (run.still_later 1).trans (still_stopForQualification world _)
  · exact run.still_later 1

theorem still_stopForUpdate (update : ApproachUpdate) :
    Still run (run.stopForUpdate world update) := by
  cases update with
  | holding => exact .refl run
  | targetAdvanced => exact .refl run
  | complete => exact .refl run
  | overshootAbort => exact still_stopNow world run _ _
  | monotonicityAbort => exact still_stopNow world run _ _
  | configurationAbort => exact still_stopNow world run _ _
  | timeoutAbort => exact still_stopNow world run _ _

theorem still_setApproach (branch : ApproachBranch) (controller : ZeroApproachController) :
    Still run (run.setApproach branch controller) := by
  cases branch with
  | none => exact .refl run
  | fromPositive =>
      exact ⟨⟨⟨le_rfl, .refl _, fun _ => rfl, fun _ => rfl, id, rfl, rfl, rfl⟩, rfl, rfl, rfl, rfl⟩,
        rfl, rfl, rfl, rfl⟩
  | fromNegative =>
      exact ⟨⟨⟨le_rfl, .refl _, fun _ => rfl, fun _ => rfl, id, rfl, rfl, rfl⟩, rfl, rfl, rfl, rfl⟩,
        rfl, rfl, rfl, rfl⟩

theorem still_feedApproach (episode : ProfileEpisode) (releaseUs : UInt64) :
    Still run (run.feedApproach world episode releaseUs) := by
  unfold feedApproach
  split
  · exact .refl run
  · split
    · exact (still_setApproach run _ _).trans (still_stopForUpdate world _ _)
    · exact .refl run

theorem still_checkApproach (episode : ProfileEpisode) (localEpoch : UInt32) :
    Still run (run.checkApproach world episode localEpoch) := by
  unfold checkApproach
  split
  · exact .refl run
  · split
    · exact still_stopNow world run _ _
    · exact .refl run

theorem quiet_settle (work : EpochWork) (release : EpochRelease) (block : EncoderEpochBlock) :
    Quiet run (run.settle world setup work release block).2 := by
  have measured := (quiet_measure world setup run block work.guardState).1
  have checked := still_checkSampler world setup (run.measure world setup block work.guardState).2
  exact measured.trans (((checked.trans (still_feedApproach world _ _ _)).trans
    (still_checkApproach world _ _ _)).toQuiet)

theorem still_nextRequest (nextEpoch : UInt32) :
    Still run (run.nextRequest world setup nextEpoch).2 := by
  have drawn : ∀ state, Still run { run with pseudoRandomState := state } :=
    fun _ => ⟨⟨⟨le_rfl, .refl _, fun _ => rfl, fun _ => rfl, id, rfl, rfl, rfl⟩, rfl, rfl, rfl,
      rfl⟩, rfl, rfl, rfl, rfl⟩
  have started := fun state => (drawn state).trans (still_startApproach world
    { run with pseudoRandomState := state } (setup.episodeOf nextEpoch).1)
  unfold nextRequest
  dsimp only
  split
  · exact started _
  · split_ifs
    · exact started _
    · exact started _
    · exact started _

theorem still_countOverrun (overran : Bool) : Still run (run.countOverrun overran) := by
  unfold countOverrun
  split
  · exact still_missed run
  · exact .refl run

theorem still_disarmStopped : Still run (run.disarmStopped world) := by
  unfold disarmStopped
  split
  · exact still_disarm world run
  · exact .refl run

theorem still_checkWriterNow : Still run (run.checkWriterNow world) := by
  unfold checkWriterNow
  split
  · exact (run.still_later 2).trans (still_stopNow world _ _ _)
  · exact run.still_later 1

/-- The writer takes the record, or the run has an error. -/
theorem calm_enqueue (record : LogRecord) :
    Calm run (run.enqueue world record) ∧
      ((run.enqueue world record).records = run.records ++ [record] ∨
        (run.enqueue world record).records = run.records ∧
          (run.enqueue world record).firstError ≠ espOk) := by
  unfold enqueue
  dsimp only
  split
  · have stopped := (run.still_later 1).trans
      (still_stopNow world _ (world run.moment).result
        (if (world run.moment).result = espErrNoMem then .queueFull else .writerError))
    exact ⟨stopped.toCalm, Or.inr ⟨stopped.records, firstError_stopNow world _ _ _⟩⟩
  · exact ⟨⟨Nat.le_add_right _ _, .refl _, fun _ => rfl, fun _ => rfl, id, rfl, rfl, rfl⟩, Or.inl
      rfl⟩

/-- The record of an epoch, as `log` makes it -/
def loggedRecord (work : EpochWork) (block : EncoderEpochBlock) (guardState : GuardState) :
    LogRecord :=
  ((run.later 1).disarmStopped world).record setup work block guardState
    (recordedCommand work.epochCommand (run.now world))

theorem calm_log (work : EpochWork) (block : EncoderEpochBlock) (guardState : GuardState) :
    Calm run (run.log world setup work block guardState) ∧
      ((run.log world setup work block guardState).records =
          run.records ++ [run.loggedRecord world setup work block guardState] ∨
        (run.log world setup work block guardState).records = run.records ∧
          (run.log world setup work block guardState).firstError ≠ espOk) := by
  have disarmed := (run.still_later 1).trans (still_disarmStopped world _)
  have numbered : Calm ((run.later 1).disarmStopped world)
      { (run.later 1).disarmStopped world with
        sequence := ((run.later 1).disarmStopped world).sequence + 1 } :=
    ⟨le_rfl, .refl _, fun _ => rfl, fun _ => rfl, id, rfl, rfl, rfl⟩
  obtain ⟨enqueued, written⟩ := calm_enqueue world
    { (run.later 1).disarmStopped world with
      sequence := ((run.later 1).disarmStopped world).sequence + 1 }
    (run.loggedRecord world setup work block guardState)
  have checked := fun run => still_checkWriterNow world run
  refine ⟨((disarmed.toCalm.trans numbered).trans enqueued).trans (checked _).toCalm, ?_⟩
  rcases written with taken | ⟨refused, error⟩
  · left
    exact (checked _).records.trans (taken.trans (congrArg (· ++ _) disarmed.records))
  · right
    refine ⟨(checked _).records.trans (refused.trans disarmed.records), fun clean => ?_⟩
    exact error ((checked _).toCalm.clean clean)

end RunState

/-! ### The steps of the runner -/

namespace Runner

open RunState

variable (world : World) (setup : RunSetup) (run : RunState)

theorem still_enter (epoch : UInt32) : Still run (enter world setup epoch run).run := by
  have looked := still_stopForLatchedFailure world setup run
  unfold enter
  dsimp only
  split_ifs
  · exact .refl run
  · exact looked
  · exact looked.trans (still_startApproach world _ _)

theorem still_await (work : EpochWork) : Still run (await world setup work run).run := by
  have waited := still_awaitTick world setup run
  unfold await
  split
  · rename_i next turned
    rw [turned] at waited
    exact waited
  · rename_i next turned
    rw [turned] at waited
    exact waited
  · rename_i tick next turned
    rw [turned] at waited
    have released := still_release world setup next work.epoch tick
    split
    · rename_i left stopped
      rw [stopped] at released
      exact waited.trans released
    · rename_i release left passed
      rw [passed] at released
      exact waited.trans released

/-- The end of an iteration only sets the command of the next epoch besides. -/
theorem journal_close (work : EpochWork) (block : EncoderEpochBlock) (guardState : GuardState)
    (next : Option EpochCommandState) :
    (run.log world setup work block guardState).journal.Coasts
        (close world setup work block guardState next run).run.journal ∧
      ((run.log world setup work block guardState).firstError ≠ espOk ∨
          (run.log world setup work block guardState).qualificationStop = true →
        (close world setup work block guardState next run).run =
          run.log world setup work block guardState) := by
  unfold close
  dsimp only
  split_ifs with stopped more
  · exact ⟨.refl _, fun _ => rfl⟩
  · cases next with
    | none => exact ⟨(still_stopNow world _ _ _).journal, fun error => absurd error stopped⟩
    | some state => exact ⟨.refl _, fun error => absurd error stopped⟩
  · exact ⟨.refl _, fun _ => rfl⟩

end Runner

end MissionBoard.Characterization
