import MissionBoard.Characterization.CaptureValidation
import MissionBoard.Characterization.FooterRoundTrip
import MissionBoard.Characterization.RunRecords
import MissionBoard.Characterization.WriterDelivery

/-!
Owns the footer with which `ProfileRunner::run` closes its file: what it says of a run that is not
aborted, that `encodeFooter` takes it, and that `validateCapture` rejects the capture all the same.
-/

namespace MissionBoard.Characterization

namespace RunState

variable (world : World) (setup : RunSetup) (run : RunState)

/-! ### The deadlines that are missed -/

@[simp] theorem misses_stopForFatal (cause : Int32) (reason : AbortReason) (timestampUs : UInt64) :
    (run.stopForFatal world cause reason timestampUs).runtimeDeadlineMisses =
      run.runtimeDeadlineMisses := by
  unfold stopForFatal
  dsimp only
  split <;> rfl

@[simp] theorem misses_later (count : ℕ) :
    (run.later count).runtimeDeadlineMisses = run.runtimeDeadlineMisses := rfl

@[simp] theorem misses_stopNow (cause : Int32) (reason : AbortReason) :
    (run.stopNow world cause reason).runtimeDeadlineMisses = run.runtimeDeadlineMisses :=
  misses_stopForFatal world (run.later 1) cause reason _

@[simp] theorem misses_disarm :
    (run.disarm world).2.runtimeDeadlineMisses = run.runtimeDeadlineMisses := rfl

@[simp] theorem misses_stopForQualification :
    (run.stopForQualification world).runtimeDeadlineMisses = run.runtimeDeadlineMisses := rfl

@[simp] theorem misses_stopForLatchedFailure :
    (run.stopForLatchedFailure world setup).2.runtimeDeadlineMisses =
      run.runtimeDeadlineMisses := by
  unfold stopForLatchedFailure
  dsimp only
  split_ifs <;> simp

@[simp] theorem misses_startApproach (episode : ProfileEpisode) :
    (run.startApproach world episode).runtimeDeadlineMisses = run.runtimeDeadlineMisses := by
  unfold startApproach
  split
  · rfl
  · cases episode.branch <;> dsimp only <;> split_ifs <;> rfl

@[simp] theorem misses_checkStop (releaseUs : UInt64) :
    (run.checkStop world releaseUs).runtimeDeadlineMisses = run.runtimeDeadlineMisses := by
  unfold checkStop
  split <;> simp

@[simp] theorem misses_checkWriter (releaseUs : UInt64) :
    (run.checkWriter world releaseUs).runtimeDeadlineMisses = run.runtimeDeadlineMisses := by
  unfold checkWriter
  split <;> simp

@[simp] theorem misses_drainSample :
    (run.drainSample world setup).2.runtimeDeadlineMisses = run.runtimeDeadlineMisses := by
  unfold drainSample
  split
  · rfl
  · dsimp only
    split_ifs <;> simp <;> rfl

@[simp] theorem misses_measure (block : EncoderEpochBlock) (guardState : GuardState) :
    (run.measure world setup block guardState).2.runtimeDeadlineMisses =
      run.runtimeDeadlineMisses := by
  unfold measure
  split
  · split
    · simp
    · dsimp only
      split <;> simp
  · split <;> simp

@[simp] theorem misses_checkSampler :
    (run.checkSampler world setup).runtimeDeadlineMisses = run.runtimeDeadlineMisses := by
  unfold checkSampler
  split_ifs <;> simp

@[simp] theorem misses_feedApproach (episode : ProfileEpisode) (releaseUs : UInt64) :
    (run.feedApproach world episode releaseUs).runtimeDeadlineMisses =
      run.runtimeDeadlineMisses := by
  have updated : ∀ (run : RunState) (update : ApproachUpdate),
      (run.stopForUpdate world update).runtimeDeadlineMisses = run.runtimeDeadlineMisses := by
    intro run update
    cases update <;> simp [stopForUpdate]
  have set : ∀ (branch : ApproachBranch) (controller : ZeroApproachController),
      (run.setApproach branch controller).runtimeDeadlineMisses = run.runtimeDeadlineMisses := by
    intro branch controller
    cases branch <;> rfl
  unfold feedApproach
  split
  · rfl
  · split
    · exact (updated _ _).trans (set _ _)
    · rfl

@[simp] theorem misses_checkApproach (episode : ProfileEpisode) (localEpoch : UInt32) :
    (run.checkApproach world episode localEpoch).runtimeDeadlineMisses =
      run.runtimeDeadlineMisses := by
  unfold checkApproach
  split
  · rfl
  · split <;> simp

@[simp] theorem misses_settle (work : EpochWork) (release : EpochRelease) (block : EncoderEpochBlock) :
    (run.settle world setup work release block).2.runtimeDeadlineMisses =
      run.runtimeDeadlineMisses := by
  simp [settle]

@[simp] theorem misses_nextRequest (nextEpoch : UInt32) :
    (run.nextRequest world setup nextEpoch).2.runtimeDeadlineMisses =
      run.runtimeDeadlineMisses := by
  unfold nextRequest
  dsimp only
  split
  · simp
  · split_ifs <;> simp

@[simp] theorem misses_log (work : EpochWork) (block : EncoderEpochBlock) (guardState : GuardState) :
    (run.log world setup work block guardState).runtimeDeadlineMisses =
      run.runtimeDeadlineMisses := by
  have disarmed : ∀ run : RunState,
      (run.disarmStopped world).runtimeDeadlineMisses = run.runtimeDeadlineMisses := by
    intro run
    unfold disarmStopped
    split <;> simp
  have enqueued : ∀ (run : RunState) (record : LogRecord),
      (run.enqueue world record).runtimeDeadlineMisses = run.runtimeDeadlineMisses := by
    intro run record
    unfold enqueue
    dsimp only
    split <;> simp
  have checked : ∀ run : RunState,
      (run.checkWriterNow world).runtimeDeadlineMisses = run.runtimeDeadlineMisses := by
    intro run
    unfold checkWriterNow
    split <;> simp
  unfold log
  simp [checked, enqueued, disarmed]

/-! ### A run without an error misses none -/

/-- A run without an error has missed no deadline. -/
def Punctual (run : RunState) : Prop := run.firstError = espOk → run.runtimeDeadlineMisses = 0

variable {world setup run}

theorem Punctual.of_calm {next : RunState} (punctual : Punctual run) (calm : Calm run next)
    (same : next.runtimeDeadlineMisses = run.runtimeDeadlineMisses) : Punctual next :=
  fun clean => same.trans (punctual (calm.clean clean))

/-- A run with an error says nothing of its deadlines. -/
theorem punctual_of_error (error : run.firstError ≠ espOk) : Punctual run :=
  fun clean => absurd clean error

theorem punctual_awaitTick (punctual : Punctual run) : Punctual (run.awaitTick world setup).2 := by
  have still := still_awaitTick world setup run
  by_cases overflown : (world run.moment).tickQueueOverflow = true
  · unfold awaitTick
    rw [if_pos overflown]
    exact punctual_of_error (firstError_stopNow world _ _ _)
  · apply punctual.of_calm still.toCalm
    unfold awaitTick
    rw [if_neg overflown]
    split
    · rfl
    · dsimp only
      split_ifs <;> simp

theorem punctual_release {epoch : UInt32} {tick : ConsumerTick} (punctual : Punctual run) :
    Punctual (run.release world setup epoch tick).2 := by
  have looked := still_stopForLatchedFailure world setup run
  unfold RunState.release
  dsimp only
  split
  · exact punctual.of_calm looked.toCalm (by simp)
  · have asked := (looked.trans (still_later _ 3)).trans (still_checkStop world _
      ((run.stopForLatchedFailure world setup).2.now world))
    have before : Punctual (((run.stopForLatchedFailure world setup).2.later 3).checkStop world
        ((run.stopForLatchedFailure world setup).2.now world)) :=
      punctual.of_calm asked.toCalm (by simp)
    have judged : ∀ (run : RunState) (late : Bool) (releaseUs : UInt64), Punctual run →
        Punctual ((run.missDeadline world late releaseUs).checkWriter world releaseUs) := by
      intro run late releaseUs punctual
      apply Punctual.of_calm _ (still_checkWriter world _ releaseUs).toCalm (by simp)
      unfold missDeadline
      split
      · exact punctual_of_error (firstError_stopForFatal world _ _ _ _)
      · exact punctual
    split
    · exact before
    · split
      · exact judged _ _ _ before
      · exact judged _ _ _ before

theorem punctual_issue {nextEpoch : UInt32} {request : MotorCommandRequest} {guardState : GuardState}
    (punctual : Punctual run) : Punctual (run.issue world nextEpoch request guardState).2 := by
  have applies := applies_applyInTime world (run.later 1) nextEpoch request
  have counted : ((run.later 1).applyInTime world nextEpoch request).1 = false →
      ((run.later 1).applyInTime world nextEpoch request).2.2.runtimeDeadlineMisses =
        run.runtimeDeadlineMisses := by
    unfold applyInTime
    dsimp only
    split
    · intro missed
      cases missed
    · exact fun _ => rfl
  unfold issue
  dsimp only
  split
  · exact punctual_of_error (firstError_stopNow world _ _ _)
  · rename_i inTime
    simp only [Bool.or_eq_true, not_or, Bool.not_eq_true] at inTime
    split
    · exact punctual_of_error (firstError_stopNow world _ _ _)
    · rw [inTime.2]
      have kept : Punctual ((((run.later 1).applyInTime world nextEpoch request).2.2.later
          1).countOverrun false) :=
        fun clean => (counted inTime.1).trans (punctual (applies.reason clean).1)
      split
      · exact kept
      · exact kept

theorem punctual_nextCommand {epoch : UInt32} (punctual : Punctual run) :
    Punctual (run.nextCommand world setup epoch).2 := by
  have asked := (still_nextRequest world setup run (epoch + 1)).trans (still_later _ 1)
  unfold nextCommand
  split
  · dsimp only
    split
    · exact punctual_of_error (firstError_stopNow world _ _ _)
    · exact punctual_issue (punctual.of_calm asked.toCalm (by simp))
  · exact punctual

end RunState

namespace Runner

open RunState

variable {world : World} {setup : RunSetup} {run : RunState}

/-- Until it returns, a run without an error has missed no deadline. -/
def PunctualAt (runner : Runner) : Prop :=
  match runner.stage with
  | .returned _ _ => True
  | _ => Punctual runner.run

theorem punctual_finish {work : EpochWork} {release : EpochRelease} (punctual : Punctual run) :
    PunctualAt (finish world setup work release run) := by
  unfold finish
  dsimp only
  split
  · exact punctual_of_error (firstError_stopNow world _ _ _)
  · rename_i block _
    have settles := (quiet_withAssembler run
      (run.assembler.release work.epoch.toUInt64 release.releaseUs).2).trans
      (quiet_settle world setup _ work release (recordedBlock release block))
    have settled := punctual.of_calm settles.toCalm (misses_settle world setup _ work release _)
    have logged : ∀ (run : RunState) (block : EncoderEpochBlock) (guardState : GuardState),
        Punctual run → Punctual (run.log world setup work block guardState) :=
      fun run block guardState punctual => punctual.of_calm (calm_log world setup run work block
        guardState).1 (misses_log world setup run work block guardState)
    unfold close
    dsimp only
    split_ifs
    · exact logged _ _ _ (punctual_nextCommand settled)
    · split
      · exact punctual_of_error (firstError_stopNow world _ _ _)
      · exact logged _ _ _ (punctual_nextCommand settled)
    · exact logged _ _ _ (punctual_nextCommand settled)

theorem punctual_start : PunctualAt (run.start world setup) := by
  rcases @start_cases world setup run with
    ⟨_, -, same⟩ | ⟨_, _, _, -, same⟩ | ⟨_, -, same⟩ | ⟨-, epochZeroUs, zeroRaw, -, same⟩
  · rw [same]
    trivial
  · rw [same]
    trivial
  · rw [same]
    trivial
  · rw [same]
    rcases @launch_cases world ((run.later 5).opened setup epochZeroUs zeroRaw) with
      ⟨_, -, launched⟩ | ⟨_, -, launched⟩ | ⟨-, launched⟩
    · rw [launched]
      trivial
    · rw [launched]
      trivial
    · rw [launched]
      exact fun _ => rfl

theorem punctual_step {runner : Runner} (punctual : PunctualAt runner) :
    PunctualAt (step world setup runner) := by
  obtain ⟨stage, run⟩ := runner
  cases stage with
  | called => exact punctual_start
  | starting =>
      unfold step
      dsimp only
      split
      · exact punctual
      · exact punctual
  | entering epoch =>
      have looked := punctual.of_calm (still_stopForLatchedFailure world setup run).toCalm (by simp)
      show PunctualAt (enter world setup epoch run)
      unfold enter
      dsimp only
      split_ifs
      · exact punctual
      · exact looked
      · exact looked.of_calm (still_startApproach world _ _).toCalm (by simp)
  | waiting work =>
      have awaited := @punctual_awaitTick world setup run punctual
      show PunctualAt (await world setup work run)
      unfold await
      split
      · rename_i next turned
        rw [turned] at awaited
        exact awaited
      · rename_i next turned
        rw [turned] at awaited
        exact awaited
      · rename_i tick next turned
        rw [turned] at awaited
        have released := @punctual_release world setup next work.epoch tick awaited
        split
        · rename_i left ended
          rw [ended] at released
          exact released
        · rename_i release left passed
          rw [passed] at released
          exact released
  | draining work release =>
      have drained := punctual.of_calm (quiet_drainSample world setup run).1.toCalm
        (misses_drainSample world setup run)
      show PunctualAt (drain world setup work release run)
      unfold drain
      split
      · rename_i next taken
        rw [taken] at drained
        exact drained
      · rename_i next ended
        rw [ended] at drained
        exact punctual_finish drained
  | closing => trivial
  | returned result footer => trivial

end Runner

namespace RunState

/-! ### The footer -/

/-- A footer of a run that is not aborted, against the run -/
structure Finished (setup : RunSetup) (run : RunState) (footer : LogFooter) : Prop where
  counted : Totalled footer.statistics (scanOf run.records)
  late : run.moment < 2 ^ 64 →
    lateRecords run.records ≤ footer.statistics.lateAfterRelease.toNat
  total : footer.qualificationTotalEpochs =
    if setup.runKind = .rateCheck then UInt32.ofNat run.records.length else 0
  valid : footer.qualificationValidEpochs =
    if setup.runKind = .rateCheck then (scanOf run.records).aggregateValidTotal else 0
  silent : ∀ record ∈ run.records, record.reportsError = false
  firstError : footer.statistics.firstError = espOk
  deadline : footer.statistics.consumerDeadlineMisses = 0
  power : footer.statistics.vbusInvalidSamples = 0
  shutdown : footer.shutdownStepMask = 0x3F
  state : validFooterState footer.completion footer.rateSupported footer.unsupportedReason = true
  /-- A rate check that shows that the rate is not supported -/
  unsupported : footer.completion = .unsupported →
    setup.runKind ≠ .full ∧ hasUnsupportedEvidence footer = true
  /-- A run through all its epochs -/
  normal : footer.completion = .normal → fatalAcquisitionCountersAreZero footer.statistics = true ∧
    run.records.length = setup.epochs.toNat ∧ run.records ≠ []

variable {world : World} {setup : RunSetup} {run : RunState}

theorem rememberOperation_eq_ok {operation first : Int32} :
    rememberOperation operation first = espOk ↔ first = espOk ∧ operation = espOk := by
  unfold rememberOperation
  split
  · rename_i failed
    exact ⟨fun ok => absurd ok failed.2, fun ok => absurd ok.2 failed.2⟩
  · rename_i kept
    constructor
    · intro ok
      exact ⟨ok, by_contra fun failed => kept ⟨ok, failed⟩⟩
    · exact And.left

/-- A run that is judged to have no error had none, and its samples were good enough for its kind. -/
theorem judge_ok {reason : UnsupportedReason} {diagnostic : Int32}
    (ok : (run.judge setup reason diagnostic).firstError = espOk) :
    run.firstError = espOk ∧ (setup.full = true → reason = .none) ∧
      (reason = .none → run.qualificationStop = false) := by
  have nonzero : (if diagnostic = espOk then espErrInvalidResponse else diagnostic) ≠ espOk := by
    split
    · decide
    · assumption
  unfold judge at ok
  dsimp only at ok
  have invalid : espErrInvalidResponse ≠ espOk := by decide
  generalize (if diagnostic = espOk then espErrInvalidResponse else diagnostic) = answer at ok nonzero
  split_ifs at ok with notSupported stop diagnosed stop stop
  · exact absurd ok invalid
  · exact absurd ok nonzero
  · exact absurd ok invalid
  · exact absurd ok diagnosed.2.2.1
  · exact absurd ok invalid
  · refine ⟨ok, fun full => ?_, fun none => ?_⟩
    · by_contra other
      exact notSupported ⟨full, other, ok⟩
    · by_contra going
      exact stop ⟨Bool.not_eq_false _ ▸ going, none, ok⟩

/-- Samples for which the rate is not supported show why. -/
theorem evidence_of_reason (statistics : SamplerStatistics) (footer : LogFooter)
    (counters : footer.statistics = { statistics with firstError := footer.statistics.firstError })
    (reason : footer.unsupportedReason = unsupportedReason statistics)
    (some : unsupportedReason statistics ≠ .none) : hasUnsupportedEvidence footer = true := by
  unfold hasUnsupportedEvidence
  rw [reason, counters]
  unfold unsupportedReason at some ⊢
  split_ifs at some ⊢ with coalesced incomplete invalid overflown fault
  · simpa using coalesced
  · simp only [Bool.or_eq_true, bne_iff_ne]
    tauto
  · simp only [Bool.or_eq_true, bne_iff_ne]
    tauto
  · simp only [Bool.or_eq_true, bne_iff_ne]
    tauto
  · simpa using fault
  · exact absurd rfl some

/-- Samples for which it is supported show nothing. -/
theorem counters_of_supported {statistics : SamplerStatistics}
    (supported : unsupportedReason statistics = .none)
    (deadline : statistics.consumerDeadlineMisses = 0) (power : statistics.vbusInvalidSamples = 0) :
    fatalAcquisitionCountersAreZero statistics = true := by
  unfold unsupportedReason at supported
  split_ifs at supported with coalesced incomplete invalid overflown fault
  simp only [not_or, Decidable.not_not] at coalesced incomplete invalid overflown fault
  simp [fatalAcquisitionCountersAreZero, coalesced, incomplete, invalid, overflown, fault, deadline,
    power]

/-- An operation without an error leaves the run as it is. -/
theorem mark_ok {marks next : ShutdownMarks} {operation : Int32} {marked : RunState}
    (marks_eq : run.mark marks operation = (next, marked)) (ok : marked.firstError = espOk) :
    marked = run ∧ next = marks.mark espOk ∧ operation = espOk := by
  obtain ⟨rfl, rfl⟩ := Prod.mk.inj marks_eq
  obtain ⟨clean, rfl⟩ := rememberOperation_eq_ok.mp ok
  refine ⟨?_, rfl, rfl⟩
  rw [show rememberOperation espOk run.firstError = run.firstError from ok.trans clean.symm]

/-- The motor is stopped without an error: both marks are set. -/
theorem stopMotor_ok (ok : (run.stopMotor world).2.firstError = espOk) :
    run.firstError = espOk ∧ (run.stopMotor world).1 = ⟨3, true⟩ := by
  obtain ⟨coastMarks, coasted, coasts⟩ : ∃ marks coasted,
      (run.applyCoast world).2.mark {} (run.applyCoast world).1 = (marks, coasted) := ⟨_, _, rfl⟩
  obtain ⟨marks, motor, stops⟩ : ∃ marks motor,
      (coasted.disarm world).2.mark coastMarks (coasted.disarm world).1 = (marks, motor) :=
    ⟨_, _, rfl⟩
  have same : run.stopMotor world = (marks, motor) := by
    unfold stopMotor
    dsimp only
    rw [coasts]
    exact stops
  rw [same] at ok ⊢
  obtain ⟨disarmed, marked, -⟩ := mark_ok stops ok
  rw [disarmed] at ok
  obtain ⟨coastedClean, coastMarked, -⟩ := mark_ok coasts ok
  rw [coastedClean] at ok
  refine ⟨ok, ?_⟩
  rw [marked, coastMarked]
  rfl

/-- A footer that is not aborted has no error. -/
theorem ok_of_completed {firstError : Int32} {reason : UnsupportedReason}
    {statistics : SamplerStatistics} {shutdownMask : UInt32}
    (completed :
      (run.footer setup firstError reason statistics shutdownMask).completion ≠ .aborted) :
    firstError = espOk := by
  by_contra failed
  apply completed
  unfold footer
  dsimp only
  rw [if_pos failed]

/-- What a footer without an error says of the rate -/
theorem footer_state (reason : UnsupportedReason) (statistics : SamplerStatistics)
    (shutdownMask : UInt32) (supported : setup.full = true → reason = .none) :
    (reason = .none →
      (run.footer setup espOk reason statistics shutdownMask).completion = .normal ∧
        (run.footer setup espOk reason statistics shutdownMask).rateSupported = true ∧
        (run.footer setup espOk reason statistics shutdownMask).unsupportedReason = .none) ∧
      (reason ≠ .none →
        (run.footer setup espOk reason statistics shutdownMask).completion = .unsupported ∧
          (run.footer setup espOk reason statistics shutdownMask).rateSupported = false ∧
          (run.footer setup espOk reason statistics shutdownMask).unsupportedReason = reason) := by
  unfold footer
  constructor
  · rintro rfl
    simp
  · intro some
    have notFull : setup.full ≠ true := fun full => some (supported full)
    simp [notFull, some]

theorem completed_of_ok (reason : UnsupportedReason) (statistics : SamplerStatistics)
    (shutdownMask : UInt32) :
    (run.footer setup espOk reason statistics shutdownMask).completion ≠ .aborted := by
  unfold footer
  dsimp only
  rw [if_neg (not_not.mpr rfl)]
  split_ifs <;> exact CompletionCode.noConfusion

/-- The footer of a run that is judged to have no error -/
theorem finished_footer {drained judged closed : RunState} {statistics : SamplerStatistics}
    (recorded : Recorded setup drained) (punctual : Punctual drained)
    {sampled : SamplerStatistics} {overflows : UInt64}
    (closing : statistics = drained.closingStatistics sampled overflows) {diagnostic : Int32}
    (ok : (drained.judge setup (unsupportedReason statistics) diagnostic).firstError = espOk)
    (judges : judged.qualificationTotal = drained.qualificationTotal ∧
      judged.qualificationValid = drained.qualificationValid)
    (moment : drained.moment ≤ closed.moment) (records : closed.records = drained.records) :
    Finished setup closed
      (judged.footer setup espOk (unsupportedReason statistics) statistics 0x3F) := by
  obtain ⟨clean, supported, going⟩ := judge_ok ok
  obtain ⟨normal, unsupported⟩ := @footer_state setup judged (unsupportedReason statistics) statistics
    0x3F supported
  obtain ⟨⟨counted, late⟩, total, valid, silent⟩ := recorded.balanced clean
  have deadline : statistics.consumerDeadlineMisses = 0 := by
    rw [closing]
    exact punctual clean
  have power : statistics.vbusInvalidSamples = 0 := by rw [closing]; rfl
  have sums : Totalled statistics (scanOf drained.records) := by
    rw [closing]
    exact ⟨counted.1, counted.2, counted.3, counted.4, counted.5⟩
  constructor
  · rw [records]
    exact ⟨sums.1, sums.2, sums.3, sums.4, sums.5⟩
  · intro small
    obtain ⟨-, told⟩ := late (by omega)
    have same : statistics.lateAfterRelease = drained.assembler.statistics.lateAfterRelease := by
      rw [closing]
      rfl
    show lateRecords closed.records ≤ statistics.lateAfterRelease.toNat
    rw [records, same]
    omega
  · rw [records, ← total, ← judges.1]
    rfl
  · rw [records, ← valid, ← judges.2]
    rfl
  · rw [records]
    exact silent
  · rfl
  · exact deadline
  · exact power
  · rfl
  · by_cases none : unsupportedReason statistics = .none
    · obtain ⟨completion, rate, reason⟩ := normal none
      rw [completion, rate, reason]
      rfl
    · obtain ⟨completion, rate, reason⟩ := unsupported none
      rw [completion, rate, reason]
      simpa [validFooterState] using none
  · intro completion
    have some : unsupportedReason statistics ≠ .none := by
      intro none
      rw [(normal none).1] at completion
      cases completion
    refine ⟨fun full => some (supported ?_), ?_⟩
    · unfold RunSetup.full
      rw [full]
      rfl
    · exact evidence_of_reason statistics _ rfl (unsupported some).2.2 some
  · intro completion
    have none : unsupportedReason statistics = .none := by
      by_contra some
      rw [(unsupported some).1] at completion
      cases completion
    have through := recorded.full fun stopped => stopped.elim (fun error => error clean)
      (fun stop => Bool.false_ne_true ((going none).symm.trans stop))
    rw [records]
    exact ⟨counters_of_supported none deadline power, through⟩

/-- A run that returns without an error is not aborted. -/
theorem completed_shutDown (ok : (run.shutDown world setup).1 = espOk) :
    (run.shutDown world setup).2.1.completion ≠ .aborted := by
  unfold shutDown at ok ⊢
  dsimp only at ok ⊢
  rw [(rememberOperation_eq_ok.mp ok).1]
  exact completed_of_ok _ _ _

/-- The run when its motor is stopped, against the run before -/
structure MotorStopped (run motor : RunState) : Prop where
  moment : run.moment ≤ motor.moment
  clean : motor.firstError = espOk → run.firstError = espOk
  records : motor.records = run.records
  assembler : motor.assembler = run.assembler
  total : motor.qualificationTotal = run.qualificationTotal
  valid : motor.qualificationValid = run.qualificationValid
  stop : motor.qualificationStop = run.qualificationStop
  misses : motor.runtimeDeadlineMisses = run.runtimeDeadlineMisses

/-- A shutdown to a footer that is not aborted -/
theorem shutDown_completed (completed : (run.shutDown world setup).2.1.completion ≠ .aborted) :
    ∃ motor sampled overflows diagnostic, MotorStopped run motor ∧
      (motor.judge setup (unsupportedReason (motor.closingStatistics sampled overflows))
        diagnostic).firstError = espOk ∧
      (run.shutDown world setup).2.1 =
        (motor.judge setup (unsupportedReason (motor.closingStatistics sampled overflows))
          diagnostic).footer setup espOk
            (unsupportedReason (motor.closingStatistics sampled overflows))
            (motor.closingStatistics sampled overflows) 0x3F ∧
      motor.moment ≤ (run.shutDown world setup).2.2.moment ∧
      (run.shutDown world setup).2.2.records = motor.records := by
  have stopped := @stopMotor_ok world run
  obtain ⟨marks, motor, stops⟩ : ∃ marks motor, run.stopMotor world = (marks, motor) := ⟨_, _, rfl⟩
  have kept : (motor.firstError = espOk → run.firstError = espOk) → MotorStopped run motor := by
    intro clean
    have moment : run.moment ≤ (run.stopMotor world).2.moment :=
      Nat.le_trans (Nat.le_add_right _ 3) (Nat.le_add_right _ 2)
    have same : motor = (run.stopMotor world).2 := (congrArg Prod.snd stops).symm
    subst same
    exact ⟨moment, clean, rfl, rfl, rfl, rfl, rfl, rfl⟩
  rw [stops] at stopped
  unfold shutDown at completed ⊢
  rw [stops] at completed ⊢
  dsimp only at stopped completed ⊢
  generalize cleans : motor.mark marks _ = cleaning at completed ⊢
  obtain ⟨cleanMarks, cleaned⟩ := cleaning
  dsimp only at completed ⊢
  generalize drains : cleaned.mark cleanMarks espOk = draining at completed ⊢
  obtain ⟨drainMarks, drained⟩ := draining
  dsimp only at completed ⊢
  generalize closing : drained.closingStatistics _ _ = statistics at completed ⊢
  generalize flushes : (drained.judge setup _ _).mark drainMarks _ = flushing at completed ⊢
  obtain ⟨flushMarks, flushed⟩ := flushing
  dsimp only at completed ⊢
  have ok := ok_of_completed completed
  obtain ⟨judged, flushMarked, synced⟩ := mark_ok flushes ok
  have judgedOk := judged ▸ ok
  have drainedOk := (judge_ok judgedOk).1
  obtain ⟨sameDrained, drainMarked, -⟩ := mark_ok drains drainedOk
  obtain ⟨sameCleaned, cleanMarked, -⟩ := mark_ok cleans (sameDrained ▸ drainedOk)
  obtain ⟨clean, marked⟩ := stopped (sameCleaned ▸ sameDrained ▸ drainedOk)
  have mask : (flushMarks.mark espOk).mask = 0x3F := by
    rw [flushMarked, drainMarked, cleanMarked, marked]
    rfl
  rw [sameDrained, sameCleaned] at closing judged judgedOk
  obtain ⟨sameRecords, -, -, -, sameMoment⟩ :=
    @Runner.judge_keeps setup motor (unsupportedReason statistics) (world (motor.moment + 1)).result
  rw [← judged] at sameRecords sameMoment
  rw [synced, if_pos rfl, mask, ok, judged]
  subst closing
  refine ⟨motor, _, _, _, kept fun _ => clean, judgedOk, rfl, ?_, ?_⟩
  · rw [← judged]
    show motor.moment ≤ flushed.moment + 7
    omega
  · rw [← judged]
    exact sameRecords

/-- What the shutdown says without an error -/
theorem finished_shutDown (recorded : Recorded setup run) (punctual : Punctual run)
    (completed : (run.shutDown world setup).2.1.completion ≠ .aborted) :
    Finished setup (run.shutDown world setup).2.2 (run.shutDown world setup).2.1 := by
  obtain ⟨motor, sampled, overflows, diagnostic, kept, ok, written, moment, records⟩ :=
    shutDown_completed completed
  have clean := kept.clean (judge_ok ok).1
  obtain ⟨listed, length, balanced, full⟩ := recorded
  have motorRecorded : Recorded setup motor := by
    obtain ⟨tallied, total, valid, silent⟩ := balanced clean
    refine ⟨kept.records ▸ listed, kept.records ▸ length, fun _ => ⟨?_, ?_, ?_, ?_⟩, fun going => ?_⟩
    · rw [kept.assembler, kept.records]
      exact tallied.later kept.moment
    · rw [kept.total, kept.records]
      exact total
    · rw [kept.valid, kept.records]
      exact valid
    · rw [kept.records]
      exact silent
    · rw [kept.records]
      refine full fun stopped => going ?_
      exact stopped.elim (fun error => absurd clean error)
        (fun asked => Or.inr (kept.stop.trans asked))
  have motorPunctual : Punctual motor := fun _ => kept.misses.trans (punctual clean)
  obtain ⟨-, -, sameTotal, sameValid, -⟩ := @Runner.judge_keeps setup motor
    (unsupportedReason (motor.closingStatistics sampled overflows)) diagnostic
  rw [written]
  exact finished_footer motorRecorded motorPunctual rfl ok ⟨sameTotal, sameValid⟩ moment records

end RunState

namespace Runner

open RunState

variable {world : World} {setup : RunSetup}

/-- The runner is between its start and its shutdown. -/
def InLoop (runner : Runner) : Prop :=
  match runner.stage with
  | .called => False
  | .closing => False
  | .returned _ _ => False
  | _ => True

/-- The runner has been started and has not returned. -/
def Going (runner : Runner) : Prop :=
  match runner.stage with
  | .called => False
  | .returned _ _ => False
  | _ => True

/-- Only its start and its shutdown return. -/
theorem loop_step {runner : Runner} (loop : InLoop runner) : Going (step world setup runner) := by
  obtain ⟨stage, run⟩ := runner
  cases stage with
  | called => exact loop.elim
  | starting =>
      unfold step
      dsimp only
      split <;> trivial
  | entering epoch =>
      show Going (enter world setup epoch run)
      unfold enter
      dsimp only
      split_ifs <;> trivial
  | waiting work =>
      show Going (await world setup work run)
      unfold await
      split
      · trivial
      · trivial
      · split <;> trivial
  | draining work release =>
      show Going (drain world setup work release run)
      unfold drain
      split
      · trivial
      · unfold finish
        dsimp only
        split
        · trivial
        · unfold close
          dsimp only
          split_ifs
          · trivial
          · split <;> trivial
          · trivial
  | closing => exact loop.elim
  | returned result footer => exact loop.elim

/-- What is known of a footer once the run has returned -/
def FooterAt (setup : RunSetup) (runner : Runner) : Prop :=
  match runner.stage with
  | .returned result footer =>
      (∀ written ∈ footer, written.statistics.vbusInvalidSamples = 0 ∧
        (written.completion ≠ .aborted → Finished setup runner.run written)) ∧
        (result = espOk → ∃ written ∈ footer, written.completion ≠ .aborted)
  | _ => True

theorem footer_refused {run : RunState} {error : Int32} {fileOpen : Bool} (failed : error ≠ espOk) :
    FooterAt setup (run.refused error fileOpen) := by
  refine ⟨?_, fun ok => absurd ok failed⟩
  intro written there
  cases fileOpen with
  | false => cases there
  | true =>
      obtain rfl := Option.some.inj there
      exact ⟨rfl, fun completed => absurd rfl completed⟩

theorem footer_start {run : RunState} : FooterAt setup (run.start world setup) := by
  rcases @start_cases world setup run with ⟨_, failed, same⟩ | ⟨_, _, _, failed, same⟩ |
    ⟨_, failed, same⟩ | ⟨-, epochZeroUs, zeroRaw, -, same⟩
  · rw [same]
    exact footer_refused failed
  · rw [same]
    exact footer_refused failed
  · rw [same]
    exact footer_refused failed
  · rw [same]
    rcases @launch_cases world ((run.later 5).opened setup epochZeroUs zeroRaw) with
      ⟨_, failed, launched⟩ | ⟨_, failed, launched⟩ | ⟨-, launched⟩
    · rw [launched]
      exact footer_refused failed
    · rw [launched]
      exact footer_refused failed
    · rw [launched]
      trivial

theorem footer_step {runner : Runner} (recording : RecordingAt setup runner)
    (punctual : PunctualAt runner) (known : FooterAt setup runner) :
    FooterAt setup (step world setup runner) := by
  have loops : InLoop runner → FooterAt setup (step world setup runner) := by
    intro loop
    have going := @loop_step world setup runner loop
    unfold FooterAt
    split
    · rename_i returned
      unfold Going at going
      rw [returned] at going
      exact going.elim
    · trivial
  obtain ⟨stage, run⟩ := runner
  cases stage with
  | called => exact footer_start
  | starting => exact loops trivial
  | entering epoch => exact loops trivial
  | waiting work => exact loops trivial
  | draining work release => exact loops trivial
  | closing =>
      refine ⟨?_, ?_⟩
      · intro written there
        obtain rfl := Option.some.inj there
        exact ⟨rfl, finished_shutDown recording punctual⟩
      · intro ok
        exact ⟨_, rfl, completed_shutDown ok⟩
  | returned result footer => exact known

theorem footer_after (world : World) (setup : RunSetup) (journal : CommandJournal) (count : ℕ) :
    PunctualAt (after world setup journal count) ∧
      FooterAt setup (after world setup journal count) := by
  induction count with
  | zero => exact ⟨fun _ => rfl, trivial⟩
  | succ count inductionHypothesis =>
      obtain ⟨punctual, known⟩ := inductionHypothesis
      exact ⟨punctual_step punctual, footer_step (recording_after world setup journal count)
        punctual known⟩

end Runner

/-! ### What is written of a footer -/

/-- What is staged of records has their numbers. -/
theorem sequence_of_staged {records : List LogRecord} {staged : List StagedRecord}
    (same : records.map stagedOf = staged.map some) :
    staged.map StagedRecord.sequence = records.map LogRecord.sequence := by
  induction records generalizing staged with
  | nil =>
      rw [List.map_nil, eq_comm, List.map_eq_nil_iff] at same
      rw [same]
      rfl
  | cons record rest inductionHypothesis =>
      cases staged with
      | nil => cases same
      | cons first others =>
          obtain ⟨head, tail⟩ := List.cons.inj same
          rw [List.map_cons, List.map_cons, inductionHypothesis tail]
          congr 1
          unfold stagedOf at head
          cases encodes : encodeRecord record with
          | none =>
              rw [encodes] at head
              cases head
          | some bytes =>
              rw [encodes] at head
              obtain rfl := Option.some.inj head
              rfl

theorem ofNat_eq_zero {count : ℕ} (few : count < 2 ^ 32) : UInt64.ofNat count = 0 ↔ count = 0 := by
  constructor
  · intro zero
    have same := congrArg UInt64.toNat zero
    rw [UInt64.toNat_ofNat', UInt64.toNat_zero] at same
    omega
  · rintro rfl
    rfl

namespace RunState

variable {setup : RunSetup} {run : RunState} {footer : LogFooter}

/-- `encodeFooter` takes the footer of a run that is not aborted. -/
theorem Finished.encodes (finished : Finished setup run footer) (listed : Listed run.records)
    (length : run.records.length ≤ setup.epochs.toNat) (image : HeaderBytes)
    {staged : List StagedRecord} (same : run.records.map stagedOf = staged.map some) :
    (encodeFooter
      (completedFooter footer image staged footer.statistics.writerQueueOverflows)).isSome := by
  have sequences := (sequence_of_staged same).trans listed.sequence
  have count : staged.length = run.records.length := by
    rw [← List.length_map some, ← same, List.length_map]
  have few : run.records.length < 2 ^ 32 := length.trans_lt setup.epochs.toNat_lt
  have bounds : (staged.head?.map (·.sequence)).getD 0 = 0 ∧
      (staged.getLast?.map (·.sequence)).getD 0 = UInt64.ofNat (run.records.length - 1) := by
    rw [← List.head?_map, ← List.getLast?_map, sequences, List.head?_map, List.getLast?_map,
      List.head?_range, List.getLast?_range]
    cases run.records.length with
    | zero => exact ⟨rfl, rfl⟩
    | succ more => exact ⟨rfl, rfl⟩
  have fields : footerFieldsValid
      (completedFooter footer image staged footer.statistics.writerQueueOverflows) = true := by
    unfold footerFieldsValid completedFooter
    rw [bounds.1, bounds.2, count]
    simp only [Bool.and_eq_true]
    refine ⟨⟨⟨⟨?_, ?_⟩, ?_⟩, ?_⟩, ?_⟩
    · split
      · rename_i some
        rw [Bool.and_eq_true, decide_eq_true_eq, beq_iff_eq]
        constructor
        · exact UInt64.le_iff_toNat_le.mpr (Nat.zero_le _)
        · rw [UInt64.sub_zero, ← UInt64.ofNat_one, ← UInt64.ofNat_add]
          congr 1
          rw [bne_iff_ne, ne_eq, ofNat_eq_zero few] at some
          omega
      · rename_i none
        rw [bne_iff_ne, Decidable.not_not, ofNat_eq_zero few] at none
        rw [none]
        rfl
    · rw [decide_eq_true_eq, UInt32.le_iff_toNat_le, finished.valid, finished.total]
      split
      · have fewer := List.countP_le_length (l := run.records)
          (p := fun record => hasFlag record.encoder.flags EpochAggregateValid)
        show (UInt32.ofNat (run.records.countP _)).toNat ≤ (UInt32.ofNat run.records.length).toNat
        rw [UInt32.toNat_ofNat', UInt32.toNat_ofNat', Nat.mod_eq_of_lt (fewer.trans_lt few),
          Nat.mod_eq_of_lt few]
        exact fewer
      · exact le_rfl
    · rw [finished.shutdown]
      rfl
    · rw [finished.shutdown]
      simp
    · rw [Bool.or_eq_true, bne_iff_ne]
      by_cases normal : footer.completion = .normal
      · obtain ⟨counters, -, some⟩ := finished.normal normal
        have several : UInt64.ofNat run.records.length ≠ 0 := fun zero =>
          some (List.length_eq_zero_iff.mp ((ofNat_eq_zero few).mp zero))
        right
        rw [Bool.and_eq_true, Bool.and_eq_true, bne_iff_ne]
        refine ⟨⟨several, ?_⟩, counters⟩
        rw [beq_iff_eq]
        exact finished.firstError
      · exact Or.inl normal
  have valid : footerValid
      (completedFooter footer image staged footer.statistics.writerQueueOverflows) = true := by
    unfold footerValid
    rw [fields, Bool.and_true, Bool.and_eq_true]
    refine ⟨finished.state, ?_⟩
    rw [Bool.or_eq_true, bne_iff_ne]
    by_cases unsupported : footer.completion = .unsupported
    · exact Or.inr (finished.unsupported unsupported).2
    · exact Or.inl unsupported
  unfold encodeFooter
  rw [if_pos valid]
  rfl

end RunState

/-! ### The capture -/

/-- The bytes of a record in the file -/
theorem chunk_of_batch (staged : List StagedRecord) (tail : List UInt8) {index : ℕ}
    (within : index < staged.length) :
    ((batchBytes staged ++ tail).drop (index * kRecordBytes)).take kRecordBytes =
      staged[index].bytes.toList := by
  induction staged generalizing index with
  | nil => cases within
  | cons first rest inductionHypothesis =>
      have whole : batchBytes (first :: rest) ++ tail =
          first.bytes.toList ++ (batchBytes rest ++ tail) := by
        show first.bytes.toList ++ batchBytes rest ++ tail = _
        rw [List.append_assoc]
      have size : first.bytes.toList.length = kRecordBytes := first.bytes.length_toList
      rw [whole]
      cases index with
      | zero =>
          rw [Nat.zero_mul, List.drop_zero, ← size, List.take_left]
          rfl
      | succ index =>
          have ahead : (index + 1) * kRecordBytes =
              first.bytes.toList.length + index * kRecordBytes := by
            rw [size]
            ring
          rw [ahead, List.drop_append, List.drop_of_length_le (Nat.le_add_right _ _),
            List.nil_append, Nat.add_sub_cancel_left]
          exact inductionHypothesis (Nat.lt_of_succ_lt_succ within)

/-- The records of a file are read back from it. -/
theorem decodes_of_delivers {image : HeaderBytes} {staged : List StagedRecord}
    {records : List LogRecord} (same : records.map stagedOf = staged.map some) (tail : List UInt8) :
    Decodes (image.toList ++ batchBytes staged ++ tail) (records.map LogRecord.onWire) := by
  have count : staged.length = records.length := by
    rw [← List.length_map some, ← same, List.length_map]
  unfold Decodes
  apply List.ext_getElem
  · simp
  · intro index left right
    have within : index < records.length := by simpa using right
    have here : index < staged.length := count ▸ within
    have stages : stagedOf records[index] = some staged[index] := by
      have entry := congrArg (fun list => list[index]?) same
      simpa [within, here] using entry
    have encoded : encodeRecord records[index] = some staged[index].bytes := by
      unfold stagedOf at stages
      rw [Option.map_eq_some_iff] at stages
      obtain ⟨bytes, encodes, built⟩ := stages
      rw [encodes, ← built]
    have chunk : recordChunk (image.toList ++ batchBytes staged ++ tail) index =
        staged[index].bytes.toList := by
      have size : image.toList.length = kHeaderBytes := image.length_toList
      unfold recordChunk
      rw [List.append_assoc, ← size, List.drop_append, List.drop_of_length_le (Nat.le_add_right _ _),
        List.nil_append, Nat.add_sub_cancel_left]
      exact chunk_of_batch staged tail here
    simp only [List.getElem_map, List.getElem_range]
    rw [chunk, decodeRecord_of_encodeRecord encoded]

/-- A file that parses is read back as it was written: its records, and a footer that could be encoded. -/
theorem reads_of_delivers {image : HeaderBytes} {staged : List StagedRecord}
    {records : List LogRecord} (same : records.map stagedOf = staged.map some) {footer : LogFooter}
    {header : LogHeader} {read : List LogRecord} {closing : LogFooter}
    (parses : Parses (image.toList ++ batchBytes staged ++ footerPart footer) header read closing) :
    read = records.map LogRecord.onWire ∧ closing = footer.onWire := by
  have count : staged.length = records.length := by
    rw [← List.length_map some, ← same, List.length_map]
  have size := parses.long
  rw [List.length_append, List.length_append, length_batchBytes, Vector.length_toList, count] at size
  cases encodes : encodeFooter footer with
  | none =>
      rw [footerPart, encodes, Option.elim_none, List.length_nil] at size
      unfold kRecordBytes kHeaderBytes kFooterBytes at size
      omega
  | some bytes =>
      have part : footerPart footer = bytes.toList := by
        rw [footerPart, encodes]
        rfl
      rw [part, Vector.length_toList] at size
      have sameCount : read.length = records.length := by
        unfold kRecordBytes kHeaderBytes kFooterBytes at size
        omega
      constructor
      · have decoded := parses.recordsDecode
        have written := @decodes_of_delivers image staged records same (footerPart footer)
        unfold Decodes at decoded written
        rw [List.length_map, ← sameCount, decoded] at written
        exact List.map_injective_iff.mpr (fun _ _ equal => Except.ok.inj equal) written
      · have decoded := parses.footerDecodes
        have front : (image.toList ++ batchBytes staged).length =
            kHeaderBytes + records.length * kRecordBytes := by
          rw [List.length_append, Vector.length_toList, length_batchBytes, count, Nat.mul_comm]
          rfl
        rw [part, sameCount, ← front, List.drop_left] at decoded
        obtain ⟨-, rfl⟩ := encodeFooter_eq_some_iff.mp encodes
        rw [decodeFooter_footerImage] at decoded
        split at decoded
        · exact (Except.ok.inj decoded).symm
        · cases decoded

/-- Records without a power sample are all counted. -/
theorem vbusInvalidTotal_of_unread {records : List LogRecord}
    (unread : ∀ record ∈ records, record.power.valid = false) :
    (scanOf (records.map LogRecord.onWire)).vbusInvalidTotal = UInt64.ofNat records.length := by
  have each : ∀ record ∈ records.map LogRecord.onWire, (!record.power.valid) = true := by
    intro record within
    obtain ⟨original, there, rfl⟩ := List.mem_map.mp within
    show (!original.power.valid) = true
    rw [unread original there]
    rfl
  show UInt64.ofNat ((records.map LogRecord.onWire).countP _) = _
  rw [List.countP_eq_length.mpr each, List.length_map]

namespace Runner

open RunState

/-- In every run the records are those of the epochs from zero on, never more than there are epochs. A
run that returns without an error has closed its file with a footer that is not aborted, and every such
footer is that of its records, is taken by `encodeFooter`, and is normal only after all epochs. -/
theorem footer_agrees (world : World) (setup : RunSetup) (journal : CommandJournal) (count : ℕ)
    {result : Int32} {footer : Option LogFooter}
    (returned : (after world setup journal count).stage = .returned result footer) :
    (result = espOk → ∃ written, footer = some written ∧ written.completion ≠ .aborted) ∧
      ∀ written, footer = some written → written.completion ≠ .aborted →
        Finished setup (after world setup journal count).run written ∧
          ∀ (image : HeaderBytes) (staged : List StagedRecord),
            (after world setup journal count).run.records.map stagedOf = staged.map some →
            (encodeFooter (completedFooter written image staged
              written.statistics.writerQueueOverflows)).isSome := by
  have recording := recording_after world setup journal count
  have known := (footer_after world setup journal count).2
  unfold RecordingAt at recording
  unfold FooterAt at known
  rw [returned] at recording known
  obtain ⟨listed, length⟩ := recording
  obtain ⟨footers, ok⟩ := known
  refine ⟨fun clean => ?_, fun written there completed => ?_⟩
  · obtain ⟨written, there, completed⟩ := ok clean
    exact ⟨written, there, completed⟩
  · have finished := (footers written there).2 completed
    exact ⟨finished, fun image staged same => finished.encodes listed length image same⟩

/-- The journal of a motor that is bound and answers at once -/
def quietJournal : CommandJournal := (JournalRun.after (fun _ => ⟨espOk, 0⟩) []).journal

/-- The footer of the run in the quiet world -/
def quietFooter : LogFooter :=
  match (after quietWorld quietSetup quietJournal 7).stage with
  | .returned _ (some footer) => footer
  | _ => {}

theorem returned_quiet :
    (after quietWorld quietSetup quietJournal 7).stage = .returned espOk (some quietFooter) := rfl

theorem footer_agrees_quiet :
    ∃ footer, (after quietWorld quietSetup quietJournal 7).stage = .returned espOk (some footer) ∧
      footer.completion = .normal ∧
      Finished quietSetup (after quietWorld quietSetup quietJournal 7).run footer := by
  have completed : quietFooter.completion ≠ .aborted := by decide
  exact ⟨quietFooter, returned_quiet, rfl,
    ((footer_agrees quietWorld quietSetup quietJournal 7 returned_quiet).2 quietFooter rfl
      completed).1⟩

/-- No capture of a run with a record passes `validateCapture`, whatever its footer says of the run: the
records tell that the power was not read, and the footer that it always was. -/
theorem capture_rejected (world : World) (setup : RunSetup) (journal : CommandJournal) (count : ℕ)
    {result : Int32} {footer : LogFooter}
    (returned : (after world setup journal count).stage = .returned result (some footer))
    (recorded : (after world setup journal count).run.records ≠ []) {closed : ClosedFile}
    (closes : closed.footer = footer)
    (delivers : closed.Delivers (after world setup journal count).run.records)
    (summary : CaptureSummary) : validateCapture closed.bytes ≠ .ok summary := by
  have recording := recording_after world setup journal count
  have known := (footer_after world setup journal count).2
  unfold RecordingAt at recording
  unfold FooterAt at known
  rw [returned] at recording known
  obtain ⟨listed, few⟩ := recording
  have power := (known.1 footer rfl).1
  generalize (after world setup journal count).run.records = records at *
  obtain ⟨staged, overflows, same, bytes⟩ := delivers
  intro accepted
  obtain ⟨header, read, closing, parses, -, consistent⟩ :=
    validateCapture_isOk_iff.mp ⟨summary, accepted⟩
  rw [bytes] at parses
  obtain ⟨rfl, rfl⟩ := reads_of_delivers same parses
  have unread : ∀ record ∈ records, record.power.valid = false := by
    intro record within
    rw [(listed.evidence record within).1]
    rfl
  have invalid := vbusInvalidTotal_of_unread unread
  have rules := consistent.consistent
  unfold footerConsistent at rules
  simp only [Bool.and_eq_true, decide_eq_true_eq] at rules
  have told : (scanOf (records.map LogRecord.onWire)).vbusInvalidTotal ≤
      closed.footer.statistics.vbusInvalidSamples := rules.1.1.1.2
  have bounded := few.trans_lt setup.epochs.toNat_lt
  rw [invalid, closes, power, UInt64.le_iff_toNat_le, UInt64.toNat_ofNat',
    UInt64.toNat_zero] at told
  have some := List.length_pos_of_ne_nil recorded
  omega

/-- The record of that run -/
def quietRecord : LogRecord := (after quietWorld quietSetup quietJournal 7).run.records.headD {}

theorem capture_rejected_quiet :
    ∃ closed : ClosedFile, closed.footer = quietFooter ∧
      closed.Delivers (after quietWorld quietSetup quietJournal 7).run.records ∧
      ∀ summary, validateCapture closed.bytes ≠ .ok summary := by
  have records : (after quietWorld quietSetup quietJournal 7).run.records = [quietRecord] := rfl
  have valid : hasError (validateRecordStrict quietRecord) = false := by decide
  obtain ⟨bytes, encoded⟩ : ∃ bytes, encodeRecord quietRecord = some bytes := by
    unfold encodeRecord
    rw [valid]
    exact ⟨_, rfl⟩
  have same : [quietRecord].map stagedOf = [⟨quietRecord.sequence, bytes⟩].map some := by
    unfold stagedOf
    rw [List.map_singleton, encoded]
    rfl
  have delivers : ∀ image : HeaderBytes, ClosedFile.Delivers
      ⟨image, quietFooter, image.toList ++ batchBytes [⟨quietRecord.sequence, bytes⟩] ++
        footerPart (completedFooter quietFooter image [⟨quietRecord.sequence, bytes⟩] 0)⟩
      (after quietWorld quietSetup quietJournal 7).run.records :=
    fun image => ⟨[⟨quietRecord.sequence, bytes⟩], 0, records ▸ same, rfl⟩
  have image : HeaderBytes := Vector.replicate 256 0
  refine ⟨_, rfl, delivers image, fun summary => ?_⟩
  exact capture_rejected quietWorld quietSetup quietJournal 7 returned_quiet
    (records ▸ List.cons_ne_nil _ _) rfl (delivers image) summary

end Runner

end MissionBoard.Characterization
