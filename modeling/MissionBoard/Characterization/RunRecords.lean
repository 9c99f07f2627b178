import MissionBoard.Characterization.AssemblerAgreement
import MissionBoard.Characterization.CaptureValidation
import MissionBoard.Characterization.CommandAttribution
import MissionBoard.Characterization.SampleSelection

/-!
Owns the records of `ProfileRunner::run` and the counters beside them: the records are those of the
epochs from zero on, and while there is no error the counters of the assembler and of the runner are what
`validateCapture` adds up over them.
-/

namespace MissionBoard.Characterization

/-! ### What is counted -/

/-- The counters of the assembler, against the totals of the records -/
structure Totalled (statistics : SamplerStatistics) (scan : CaptureScan) : Prop where
  repeated : statistics.repeatedSamples = scan.repeatedTotal
  skipped : statistics.skippedSamples = scan.skippedTotal
  invalid : statistics.invalidSamples = scan.invalidTotal
  startup : statistics.startupIncompleteEpochs = scan.startupTotal
  steady : statistics.steadyStateIncompleteEpochs = scan.steadyIncompleteTotal

/-- How many records tell of samples that came late -/
def lateRecords (records : List LogRecord) : ℕ :=
  records.countP fun record => hasFlag record.encoder.flags EpochLate

/-- The assembler, against the records. A late sample is told with the next release; there are no more
of them than moments, so that their counter does not wrap before the moments do. -/
structure Tallied (moment : ℕ) (assembler : FixedEpochAssembler) (records : List LogRecord) : Prop where
  counted : Totalled assembler.statistics (scanOf records)
  late : moment < 2 ^ 64 →
    assembler.statistics.lateAfterRelease.toNat ≤ moment ∧
      lateRecords records + (if assembler.unreportedLateSamples = 0 then 0 else 1) ≤
        assembler.statistics.lateAfterRelease.toNat

theorem Tallied.later {earlier later : ℕ} {assembler : FixedEpochAssembler} {records : List LogRecord}
    (tallied : Tallied earlier assembler records) (after : earlier ≤ later) :
    Tallied later assembler records := by
  refine ⟨tallied.counted, fun small => ?_⟩
  obtain ⟨bounded, told⟩ := tallied.late (by omega)
  exact ⟨bounded.trans after, told⟩

theorem add_countIf (counter : UInt64) (condition : Bool) :
    (if condition then counter + 1 else counter) = counter + countIf condition := by
  cases condition with
  | false => exact (UInt64.add_zero counter).symm
  | true => rfl

/-- The flags that are recorded are those of the block, but for that of the deadline. -/
theorem hasFlag_recorded (release : EpochRelease) (block : EncoderEpochBlock) {flag : UInt16}
    (other : ~~~EpochDeadline &&& flag = flag) :
    hasFlag (RunState.recordedBlock release block).flags flag = hasFlag block.flags flag := by
  unfold RunState.recordedBlock
  split
  · unfold hasFlag
    rw [UInt16.and_assoc, other]
  · rfl

namespace FixedEpochAssembler

variable {assembler : FixedEpochAssembler} {epochIndex releaseTimestampUs : UInt64}

/-- A sample that is not late leaves the count of the late ones that are not told. -/
theorem unreported_add (sample : RawEncoderSample) :
    (assembler.add sample).1 ≠ .alreadyReleased →
      (assembler.add sample).2.unreportedLateSamples = assembler.unreportedLateSamples := by
  unfold add
  dsimp only
  split
  · exact fun _ => rfl
  · split
    · exact fun other => absurd rfl other
    · split
      · exact fun _ => rfl
      · split <;> exact fun _ => rfl

/-- A sample leaves the totals. -/
theorem tallied_add (sample : RawEncoderSample) {moment : ℕ} {records : List LogRecord}
    (tallied : Tallied moment assembler records) :
    Tallied (moment + 1) (assembler.add sample).2 records := by
  have kept := @unreported_add assembler sample
  obtain ⟨⟨repeated, skipped, invalid, startup, steady⟩, late⟩ := tallied
  constructor
  · rw [add_statistics]
    cases (assembler.add sample).1 <;> exact ⟨repeated, skipped, invalid, startup, steady⟩
  · intro small
    obtain ⟨bounded, told⟩ := late (by omega)
    rw [add_statistics]
    cases result : (assembler.add sample).1 with
    | accepted =>
        rw [kept (result ▸ by decide)]
        exact ⟨bounded.trans (Nat.le_succ moment), told⟩
    | preEpoch =>
        rw [kept (result ▸ by decide)]
        exact ⟨bounded.trans (Nat.le_succ moment), told⟩
    | bucketCollision =>
        rw [kept (result ▸ by decide)]
        exact ⟨bounded.trans (Nat.le_succ moment), told⟩
    | alreadyReleased =>
        have counted : (assembler.statistics.lateAfterRelease + 1).toNat =
            assembler.statistics.lateAfterRelease.toNat + 1 := by
          rw [UInt64.toNat_add, UInt64.toNat_one]
          omega
        show (assembler.statistics.lateAfterRelease + 1).toNat ≤ _ ∧
          _ ≤ (assembler.statistics.lateAfterRelease + 1).toNat
        rw [counted]
        constructor
        · omega
        · split at told <;> split <;> omega

theorem kept_release :
    (assembler.release epochIndex releaseTimestampUs).2.epochZeroTimestampUs =
        assembler.epochZeroTimestampUs ∧
      (assembler.release epochIndex releaseTimestampUs).2.deadlineBudgetUs =
        assembler.deadlineBudgetUs := by
  unfold release
  dsimp only
  split
  · exact ⟨rfl, rfl⟩
  · split <;> exact ⟨rfl, rfl⟩

/-- The slots of an epoch that hold no sample are few. -/
theorem skippedCount_le (bucket : Bucket) (rate : EncoderRate) :
    bucket.skippedCount rate ≤ 5 ∧ bucket.invalidCount rate ≤ 5 := by
  have slots : (epochSlots rate).length ≤ 5 := by cases rate <;> decide
  constructor
  · exact List.countP_le_length.trans slots
  · exact List.countP_le_length.trans ((List.length_filterMap_le _ _).trans slots)

/-- With the record of a block the totals stay those of the assembler. -/
theorem totalled_release {block : EncoderEpochBlock} {records : List LogRecord} {record : LogRecord}
    (counted : Totalled assembler.statistics (scanOf records))
    (released : (assembler.release epochIndex releaseTimestampUs).1 = some block)
    {release : EpochRelease} (recorded : record.encoder = RunState.recordedBlock release block) :
    Totalled (assembler.release epochIndex releaseTimestampUs).2.statistics
      (scanOf (records ++ [record])) := by
  have same := block_of_release released
  obtain ⟨few, fewInvalid⟩ := skippedCount_le (assembler.taken epochIndex) assembler.rate
  obtain ⟨incomplete, startup, -⟩ := @Assembly.block_flags epochIndex releaseTimestampUs assembler
  rw [← same] at incomplete startup
  rw [← hasFlag_recorded release block (by decide), ← recorded] at incomplete startup
  have byte : ∀ count : ℕ, count ≤ 5 → (UInt8.ofNat count).toUInt64 = UInt64.ofNat count := by
    decide
  have counts : (RunState.recordedBlock release block).repeatedSampleCount =
        block.repeatedSampleCount ∧
      (RunState.recordedBlock release block).skippedSampleCount = block.skippedSampleCount ∧
      (RunState.recordedBlock release block).invalidSampleCount = block.invalidSampleCount := by
    unfold RunState.recordedBlock
    split <;> exact ⟨rfl, rfl, rfl⟩
  rw [← recorded, same] at counts
  obtain ⟨repeated, skipped, invalid⟩ := counts
  unfold FixedEpochAssembler.release at released ⊢
  dsimp only at released ⊢
  split at released
  · cases released
  · rename_i admitted
    rw [if_neg admitted]
    split at released
    · cases released
    · rename_i sound
      rw [if_neg sound, ← addRecord_scanOf]
      constructor
      · show _ + (assembler.taken epochIndex).repeatedCount.toUInt64 = _
        rw [counted.repeated]
        exact congrArg (fun count : UInt8 => _ + count.toUInt64) repeated.symm
      · show _ + UInt64.ofNat ((assembler.taken epochIndex).skippedCount assembler.rate) = _
        rw [counted.skipped, ← byte _ few]
        exact congrArg (fun count : UInt8 => _ + count.toUInt64) skipped.symm
      · show _ + UInt64.ofNat ((assembler.taken epochIndex).invalidCount assembler.rate) = _
        rw [counted.invalid, ← byte _ fewInvalid]
        exact congrArg (fun count : UInt8 => _ + count.toUInt64) invalid.symm
      · show _ = _ + countIf (hasFlag record.encoder.flags EpochStartup)
        rw [startup, ← counted.startup]
        exact add_countIf _ _
      · have steady : record.encoder.steadyIncomplete =
            (!(assembler.taken epochIndex).complete assembler.rate && epochIndex != 0) := by
          unfold EncoderEpochBlock.steadyIncomplete
          rw [incomplete, startup]
          cases (assembler.taken epochIndex).complete assembler.rate <;> simp [bne]
        show _ = _ + countIf record.encoder.steadyIncomplete
        rw [steady, ← counted.steady]
        exact add_countIf _ _

theorem tallied_release {moment : ℕ} {block : EncoderEpochBlock} {records : List LogRecord}
    {record : LogRecord} (tallied : Tallied moment assembler records)
    (released : (assembler.release epochIndex releaseTimestampUs).1 = some block)
    {release : EpochRelease} (recorded : record.encoder = RunState.recordedBlock release block) :
    Tallied moment (assembler.release epochIndex releaseTimestampUs).2 (records ++ [record]) := by
  refine ⟨totalled_release tallied.counted released recorded, fun small => ?_⟩
  obtain ⟨bounded, told⟩ := tallied.late small
  have late : hasFlag record.encoder.flags EpochLate =
      decide (assembler.unreportedLateSamples ≠ 0) := by
    rw [recorded, hasFlag_recorded release block (by decide), block_of_release released,
      hasFlag_block, Bucket.hasFlag_countFlags]
    have apart : hasFlag EpochLate EpochLate = true ∧ hasFlag EpochRepeated EpochLate = false ∧
        hasFlag EpochSkipped EpochLate = false ∧ hasFlag EpochInvalid EpochLate = false ∧
        hasFlag EpochIncomplete EpochLate = false ∧ hasFlag EpochStartup EpochLate = false ∧
        hasFlag EpochAggregateValid EpochLate = false ∧ hasFlag EpochDeadline EpochLate = false := by
      decide
    simp [apart]
  have reported : (assembler.release epochIndex releaseTimestampUs).2.unreportedLateSamples = 0 := by
    unfold FixedEpochAssembler.release at released ⊢
    dsimp only at released ⊢
    split at released
    · cases released
    · rename_i admitted
      rw [if_neg admitted]
      split <;> rfl
  rw [(release_statistics epochIndex releaseTimestampUs).2.1, reported]
  refine ⟨bounded, ?_⟩
  unfold lateRecords at told ⊢
  rw [List.countP_append, List.countP_singleton, late]
  simpa using told

end FixedEpochAssembler

/-! ### The records of a run -/

/-- The records are those of the epochs from zero on; the power is not read, and no deadline is told. -/
structure Listed (records : List LogRecord) : Prop where
  sequence : records.map LogRecord.sequence = (List.range records.length).map UInt64.ofNat
  epochIndex : records.map (fun record => record.encoder.epochIndex) =
    (List.range records.length).map UInt64.ofNat
  evidence : ∀ record ∈ records,
    record.power = RunState.powerEvidence ∧ hasFlag record.encoder.flags EpochDeadline = false

theorem listed_nil : Listed [] := ⟨rfl, rfl, fun _ within => absurd within List.not_mem_nil⟩

theorem Listed.concat {records : List LogRecord} {record : LogRecord} (listed : Listed records)
    (sequence : record.sequence = UInt64.ofNat records.length)
    (epochIndex : record.encoder.epochIndex = UInt64.ofNat records.length)
    (power : record.power = RunState.powerEvidence)
    (deadline : hasFlag record.encoder.flags EpochDeadline = false) :
    Listed (records ++ [record]) := by
  refine ⟨?_, ?_, ?_⟩
  · rw [List.map_append, List.length_append, List.length_singleton, List.range_succ,
      List.map_append, listed.sequence, List.map_singleton, List.map_singleton, sequence]
  · rw [List.map_append, List.length_append, List.length_singleton, List.range_succ,
      List.map_append, listed.epochIndex, List.map_singleton, List.map_singleton, epochIndex]
  · intro other within
    rcases List.mem_append.mp within with earlier | here
    · exact listed.evidence other earlier
    · rw [List.mem_singleton.mp here]
      exact ⟨power, deadline⟩

namespace RunState

/-- The run in an epoch, but for the counters of its assembler -/
structure Recording (epoch : UInt32) (run : RunState) : Prop where
  listed : Listed run.records
  length : run.records.length = epoch.toNat
  total : run.qualificationTotal = UInt32.ofNat run.records.length
  valid : run.qualificationValid = (scanOf run.records).aggregateValidTotal
  silent : ∀ record ∈ run.records, record.reportsError = false
  sequence : run.sequence = UInt64.ofNat run.records.length
  zero : run.assembler.epochZeroTimestampUs = run.epochZeroUs
  budget : run.assembler.deadlineBudgetUs = kConsumerDeadlineBudgetUs.toUInt32
  reason : run.firstError = espOk → run.lastAbortReason = .none
  accepted : run.journal.current.applyResultCode = espOk
  command : run.currentCommandState.evidence.applyResultCode = espOk

/-- The counters of a run, against its records, of which none tells of an error -/
structure Balanced (run : RunState) : Prop where
  tallied : Tallied run.moment run.assembler run.records
  total : run.qualificationTotal = UInt32.ofNat run.records.length
  valid : run.qualificationValid = (scanOf run.records).aggregateValidTotal
  silent : ∀ record ∈ run.records, record.reportsError = false

/-- The run after its loop -/
structure Recorded (setup : RunSetup) (run : RunState) : Prop where
  listed : Listed run.records
  length : run.records.length ≤ setup.epochs.toNat
  balanced : run.firstError = espOk → Balanced run
  full : ¬Runner.Stopped run → run.records.length = setup.epochs.toNat ∧ run.records ≠ []

variable {world : World} {setup : RunSetup} {run next : RunState} {epoch : UInt32}

/-- What a stage leaves of an epoch, whatever it does to the samples -/
theorem Recording.of_quiet (recording : Recording epoch run) (quiet : Quiet run next)
    (zero : next.assembler.epochZeroTimestampUs = run.assembler.epochZeroTimestampUs)
    (budget : next.assembler.deadlineBudgetUs = run.assembler.deadlineBudgetUs) :
    Recording epoch next := by
  obtain ⟨listed, length, total, valid, silent, sequence, starts, limit, reason, accepted, command⟩ :=
    recording
  rw [← quiet.records] at listed length total valid silent sequence
  rw [← quiet.qualificationTotal] at total
  rw [← quiet.qualificationValid] at valid
  rw [← quiet.sequence] at sequence
  rw [← zero, ← quiet.epochZeroUs] at starts
  rw [← budget] at limit
  rw [← quiet.journal.current] at accepted
  rw [← quiet.command] at command
  refine ⟨listed, length, total, valid, silent, sequence, starts, limit, fun clean => ?_, accepted,
    command⟩
  exact (quiet.reason clean).trans (reason (quiet.toCalm.clean clean))

theorem Recording.of_still (recording : Recording epoch run) (still : Still run next) :
    Recording epoch next :=
  recording.of_quiet still.toQuiet (congrArg _ still.assembler) (congrArg _ still.assembler)

theorem tallied_of_still (tallied : Tallied run.moment run.assembler run.records)
    (still : Still run next) : Tallied next.moment next.assembler next.records := by
  rw [still.assembler, still.records]
  exact tallied.later still.moment

/-- The loop is left with an error or a stop. -/
theorem Recording.ended (recording : Recording epoch run)
    (tallied : Tallied run.moment run.assembler run.records) (within : epoch < setup.epochs)
    (stopped : Runner.Stopped run) : Recorded setup run where
  listed := recording.listed
  length := recording.length.trans_le (UInt32.le_iff_toNat_le.mp (UInt32.le_of_lt within))
  balanced _ := ⟨tallied, recording.total, recording.valid, recording.silent⟩
  full going := absurd stopped going

/-- Once the run has an error, only its records are told. -/
theorem recorded_of_failed (listed : Listed run.records)
    (length : run.records.length ≤ setup.epochs.toNat) (error : run.firstError ≠ espOk) :
    Recorded setup run :=
  ⟨listed, length, fun clean => absurd clean error, fun going => absurd (Or.inl error) going⟩

/-! ### The stages -/

variable (world setup run)

/-- What the samples do to the assembler -/
theorem assembler_drainSample :
    (run.drainSample world setup).2.assembler = run.assembler ∨
      run.moment + 1 ≤ (run.drainSample world setup).2.moment ∧
        ∃ raw, (run.drainSample world setup).2.assembler = (run.assembler.add raw).2 := by
  unfold drainSample
  split
  · exact Or.inl rfl
  · rename_i raw _
    right
    dsimp only
    split_ifs
    · have stopped := still_stopNow world ((run.later 1).withAssembler (run.assembler.add raw).2)
        espErrNoMem .queueFull
      exact ⟨stopped.moment, raw, stopped.assembler⟩
    · have stopped := still_stopForQualification world
        ((run.later 1).withAssembler (run.assembler.add raw).2)
      exact ⟨stopped.moment, raw, stopped.assembler⟩
    · exact ⟨le_rfl, raw, rfl⟩

/-- The samples leave the totals of the records. -/
theorem recording_drainSample (recording : Recording epoch run)
    (tallied : Tallied run.moment run.assembler run.records) :
    Recording epoch (run.drainSample world setup).2 ∧
      Tallied (run.drainSample world setup).2.moment (run.drainSample world setup).2.assembler
        (run.drainSample world setup).2.records := by
  have quiet := (quiet_drainSample world setup run).1
  rw [quiet.records]
  rcases assembler_drainSample world setup run with same | ⟨taken, raw, added⟩
  · refine ⟨recording.of_quiet quiet (congrArg _ same) (congrArg _ same), ?_⟩
    rw [same]
    exact tallied.later quiet.moment
  · have kept : (run.assembler.add raw).2.epochZeroTimestampUs =
          run.assembler.epochZeroTimestampUs ∧
        (run.assembler.add raw).2.deadlineBudgetUs = run.assembler.deadlineBudgetUs := by
      rcases @FixedEpochAssembler.add_cases run.assembler raw with
        ⟨-, -, -, bucket, -, next⟩ | ⟨-, statistics, late, next⟩
      · rw [next]
        exact ⟨rfl, rfl⟩
      · rw [next]
        exact ⟨rfl, rfl⟩
    rw [← added] at kept
    refine ⟨recording.of_quiet quiet kept.1 kept.2, ?_⟩
    rw [added]
    exact (FixedEpochAssembler.tallied_add raw tallied).later taken

/-- The deadline of a release -/
def Judged (epoch : UInt32) (release : EpochRelease) (run : RunState) : Prop :=
  release.deadlineMissed =
    decide (release.releaseUs > run.epochEnd epoch + kConsumerDeadlineBudgetUs)

theorem judged_release (tick : ConsumerTick) {release : EpochRelease}
    (released : (run.release world setup epoch tick).1 = some release) :
    Judged epoch release (run.release world setup epoch tick).2 := by
  have still := still_release world setup run epoch tick
  unfold Judged
  rw [still.epochEnd]
  unfold RunState.release at released
  dsimp only at released
  split at released
  · cases released
  · split at released
    · cases released
    · split at released
      · cases released
      · obtain rfl := Option.some.inj released
        rfl

/-- What the writing of a record does to the counters -/
theorem log_counts (work : EpochWork) (block : EncoderEpochBlock) (guardState : GuardState) :
    (run.log world setup work block guardState).sequence = run.sequence + 1 ∧
      ((run.log world setup work block guardState).firstError = espOk →
        (run.log world setup work block guardState).qualificationTotal =
            run.qualificationTotal + 1 ∧
          (run.log world setup work block guardState).qualificationValid =
            run.qualificationValid + if hasFlag block.flags EpochAggregateValid then 1 else 0) := by
  have disarmed := (run.still_later 1).trans (still_disarmStopped world _)
  have checked := fun run => still_checkWriterNow world run
  have enqueued : ∀ (run : RunState) (record : LogRecord),
      (run.enqueue world record).sequence = run.sequence ∧
        ((run.enqueue world record).firstError = espOk →
          (run.enqueue world record).qualificationTotal = run.qualificationTotal + 1 ∧
            (run.enqueue world record).qualificationValid = run.qualificationValid +
              if hasFlag record.encoder.flags EpochAggregateValid then 1 else 0) := by
    intro run record
    unfold enqueue
    dsimp only
    split
    · have stopped := (run.still_later 1).trans (still_stopNow world _ (world run.moment).result
        (if (world run.moment).result = espErrNoMem then .queueFull else .writerError))
      exact ⟨stopped.sequence, fun clean => absurd clean (firstError_stopNow world _ _ _)⟩
    · exact ⟨rfl, fun _ => ⟨rfl, rfl⟩⟩
  unfold log
  dsimp only
  rw [(checked _).sequence, (checked _).qualificationTotal, (checked _).qualificationValid]
  refine ⟨(enqueued _ _).1.trans (congrArg (· + 1) disarmed.sequence), fun clean => ?_⟩
  obtain ⟨total, valid⟩ := (enqueued _ _).2 ((checked _).toCalm.clean clean)
  refine ⟨total.trans (congrArg (· + 1) disarmed.qualificationTotal), valid.trans ?_⟩
  exact congrArg (· + _) disarmed.qualificationValid

/-- The record of an epoch, when it is written without an error -/
theorem logged_silent (work : EpochWork) (block : EncoderEpochBlock) (guardState : GuardState)
    (reason : run.firstError = espOk → run.lastAbortReason = .none)
    (accepted : work.epochCommand.applyResultCode = espOk)
    (clean : (run.log world setup work block guardState).firstError = espOk) :
    (run.loggedRecord world setup work block guardState).reportsError = false := by
  have disarmed := (run.still_later 1).trans (still_disarmStopped world _)
  have numbered : Calm ((run.later 1).disarmStopped world)
      { (run.later 1).disarmStopped world with
        sequence := ((run.later 1).disarmStopped world).sequence + 1 } :=
    ⟨le_rfl, .refl _, fun _ => rfl, fun _ => rfl, id, rfl, rfl, rfl⟩
  have between := (numbered.trans ((calm_enqueue world _ _).1.trans
    (still_checkWriterNow world _).toCalm)).clean clean
  have none := (disarmed.reason between).trans (reason (disarmed.toCalm.clean between))
  show ((((run.later 1).disarmStopped world).lastAbortReason != .none ||
    ((run.later 1).disarmStopped world).firstError != 0) ||
      work.epochCommand.applyResultCode != 0) = false
  rw [none, between, accepted]
  rfl

end RunState

namespace Runner

open RunState

variable {world : World} {setup : RunSetup} {run : RunState}

/-! ### An iteration -/

theorem ofNat_toNat (epoch : UInt32) : UInt64.ofNat epoch.toNat = epoch.toUInt64 := by
  apply UInt64.toNat_inj.mp
  rw [UInt64.toNat_ofNat', UInt32.toNat_toUInt64]
  exact Nat.mod_eq_of_lt (epoch.toNat_lt.trans (by decide))

/-- The block of an epoch as it is recorded -/
theorem recorded_of_release {work : EpochWork} {release : EpochRelease} {block : EncoderEpochBlock}
    (recording : Recording work.epoch run) (judged : Judged work.epoch release run)
    (released : (run.assembler.release work.epoch.toUInt64 release.releaseUs).1 = some block) :
    (recordedBlock release block).epochIndex = UInt64.ofNat run.records.length ∧
      hasFlag (recordedBlock release block).flags EpochDeadline = false := by
  have same := FixedEpochAssembler.block_of_release released
  obtain ⟨-, -, -, -, -, deadline, -⟩ :=
    @Assembly.block_flags work.epoch.toUInt64 release.releaseUs run.assembler
  constructor
  · rw [(kept_recordedBlock release block).1, same, recording.length]
    exact (ofNat_toNat work.epoch).symm
  · unfold recordedBlock
    split
    · have apart : ~~~EpochDeadline &&& EpochDeadline = 0 := by decide
      unfold hasFlag
      dsimp only
      rw [UInt16.and_assoc, apart, UInt16.and_zero]
      rfl
    · rename_i inTime
      rw [same, deadline]
      unfold FixedEpochAssembler.releasedLate FixedEpochAssembler.epochStartUs
      rw [recording.zero, recording.budget]
      rw [Bool.not_eq_true, judged] at inTime
      exact inTime

/-- What the runner knows of its records, wherever it stands in its run -/
def RecordingAt (setup : RunSetup) (runner : Runner) : Prop :=
  match runner.stage with
  | .called => ∃ journal, runner.run = { journal }
  | .starting =>
      0 < setup.epochs ∧ Recording 0 runner.run ∧
        Tallied runner.run.moment runner.run.assembler runner.run.records
  | .entering epoch =>
      (epoch < setup.epochs → Recording epoch runner.run ∧
        Tallied runner.run.moment runner.run.assembler runner.run.records) ∧
      (setup.epochs ≤ epoch → Recorded setup runner.run)
  | .waiting work =>
      work.epoch < setup.epochs ∧ Recording work.epoch runner.run ∧
        Tallied runner.run.moment runner.run.assembler runner.run.records ∧
        work.epochCommand = runner.run.currentCommandState.evidence
  | .draining work release =>
      work.epoch < setup.epochs ∧ Recording work.epoch runner.run ∧
        Tallied runner.run.moment runner.run.assembler runner.run.records ∧
        work.epochCommand = runner.run.currentCommandState.evidence ∧
        Judged work.epoch release runner.run
  | .closing => Recorded setup runner.run
  | .returned _ _ => Listed runner.run.records ∧ runner.run.records.length ≤ setup.epochs.toNat

section Logging

variable {work : EpochWork} {settled commanded : RunState} {block : EncoderEpochBlock}
  {guardState : GuardState}

/-- The record goes to the end of the list, or not at all. -/
theorem listed_log (within : work.epoch < setup.epochs) (recording : Recording work.epoch settled)
    (index : block.epochIndex = UInt64.ofNat settled.records.length)
    (deadline : hasFlag block.flags EpochDeadline = false) (applies : Applies settled commanded) :
    Listed (commanded.log world setup work block guardState).records ∧
      (commanded.log world setup work block guardState).records.length ≤ setup.epochs.toNat := by
  have more := UInt32.lt_iff_toNat_lt.mp within
  have disarmed := (commanded.still_later 1).trans (still_disarmStopped world _)
  have numbered : (commanded.loggedRecord world setup work block guardState).sequence =
      UInt64.ofNat commanded.records.length := by
    rw [applies.records, ← recording.sequence, ← applies.sequence]
    exact disarmed.sequence
  have before : Listed commanded.records := applies.records ▸ recording.listed
  have length : commanded.records.length = work.epoch.toNat := applies.records ▸ recording.length
  rcases (calm_log world setup commanded work block guardState).2 with taken | ⟨refused, -⟩
  · rw [taken, List.length_append, List.length_singleton]
    exact ⟨before.concat numbered (applies.records ▸ index) rfl deadline, by omega⟩
  · rw [refused]
    exact ⟨before, by omega⟩

theorem length_log (recording : Recording work.epoch settled) (applies : Applies settled commanded)
    (clean : (commanded.log world setup work block guardState).firstError = espOk) :
    (commanded.log world setup work block guardState).records.length = work.epoch.toNat + 1 := by
  rw [records_log applies clean, List.length_append, List.length_singleton, recording.length]

theorem reason_log (recording : Recording work.epoch settled) (applies : Applies settled commanded)
    (clean : (commanded.log world setup work block guardState).firstError = espOk) :
    commanded.lastAbortReason = .none := by
  have earlier := (calm_log world setup commanded work block guardState).1.clean clean
  obtain ⟨settledClean, same⟩ := applies.reason earlier
  exact same.trans (recording.reason settledClean)

/-- With the record the counters are still those of the records. -/
theorem balanced_log (recording : Recording work.epoch settled)
    (tallied : ∀ record : LogRecord, record.encoder = block →
      Tallied settled.moment settled.assembler (settled.records ++ [record]))
    (carried : work.epochCommand = settled.currentCommandState.evidence)
    (applies : Applies settled commanded)
    (clean : (commanded.log world setup work block guardState).firstError = espOk) :
    Balanced (commanded.log world setup work block guardState) := by
  obtain ⟨calm, -⟩ := calm_log world setup commanded work block guardState
  obtain ⟨-, counts⟩ := log_counts world setup commanded work block guardState
  have taken := records_log applies clean
  obtain ⟨total, valid⟩ := counts clean
  constructor
  · rw [assembler_log, applies.assembler, taken]
    exact (tallied _ rfl).later (applies.moment.trans calm.moment)
  · rw [total, applies.qualificationTotal, recording.total, length_log recording applies clean,
      recording.length, UInt32.ofNat_add]
    rfl
  · rw [valid, applies.qualificationValid, recording.valid, taken, ← addRecord_scanOf]
    rfl
  · intro record within
    rw [taken] at within
    rcases List.mem_append.mp within with earlier | here
    · exact recording.silent record earlier
    · rw [List.mem_singleton.mp here]
      apply logged_silent world setup commanded work block guardState
      · exact fun _ => reason_log recording applies clean
      · rw [carried]
        exact recording.command
      · exact clean

/-- The next epoch begins with the command that was found for it. -/
theorem recording_log {state : EpochCommandState} (within : work.epoch < setup.epochs)
    (recording : Recording work.epoch settled) (applies : Applies settled commanded)
    (listed : Listed (commanded.log world setup work block guardState).records)
    (balance : Balanced (commanded.log world setup work block guardState))
    (clean : (commanded.log world setup work block guardState).firstError = espOk)
    (current : commanded.journal.current.applyResultCode = espOk)
    (evidence : state.evidence.applyResultCode = espOk) :
    Recording (work.epoch + 1)
      { commanded.log world setup work block guardState with currentCommandState := state } := by
  obtain ⟨calm, -⟩ := calm_log world setup commanded work block guardState
  obtain ⟨sequence, -⟩ := log_counts world setup commanded work block guardState
  have length := length_log recording applies clean
  constructor
  · exact listed
  · exact length.trans (succ_toNat within).symm
  · exact balance.total
  · exact balance.valid
  · exact balance.silent
  · show (commanded.log world setup work block guardState).sequence =
      UInt64.ofNat (commanded.log world setup work block guardState).records.length
    rw [sequence, applies.sequence, recording.sequence, recording.length, length, UInt64.ofNat_add]
    rfl
  · show (commanded.log world setup work block guardState).assembler.epochZeroTimestampUs =
      (commanded.log world setup work block guardState).epochZeroUs
    rw [assembler_log, applies.assembler, calm.epochZeroUs, applies.epochZeroUs]
    exact recording.zero
  · show (commanded.log world setup work block guardState).assembler.deadlineBudgetUs = _
    rw [assembler_log, applies.assembler]
    exact recording.budget
  · exact fun clean => (calm.reason clean).trans (reason_log recording applies clean)
  · show (commanded.log world setup work block guardState).journal.current.applyResultCode = _
    rw [calm.journal.current]
    exact current
  · exact evidence

/-- With its record an epoch is over. -/
theorem recording_close {found : Option EpochCommandState} (within : work.epoch < setup.epochs)
    (recording : Recording work.epoch settled)
    (tallied : ∀ record : LogRecord, record.encoder = block →
      Tallied settled.moment settled.assembler (settled.records ++ [record]))
    (index : block.epochIndex = UInt64.ofNat settled.records.length)
    (deadline : hasFlag block.flags EpochDeadline = false)
    (carried : work.epochCommand = settled.currentCommandState.evidence)
    (applies : Applies settled commanded)
    (accepts : ∀ state ∈ found, commanded.journal.current.applyResultCode = espOk ∧
      state.evidence.applyResultCode = espOk) :
    RecordingAt setup (close world setup work block guardState found commanded) := by
  have listed := @listed_log world setup work settled commanded block guardState within recording
    index deadline applies
  have balanced := @balanced_log world setup work settled commanded block guardState recording
    tallied carried applies
  unfold close
  dsimp only
  split
  · rename_i stopped
    exact ⟨listed.1, listed.2, balanced, fun going => absurd stopped going⟩
  · rename_i going
    have clean := Decidable.not_not.mp (not_or.mp going).1
    split
    · rename_i next
      cases found with
      | none =>
          have stopped := still_stopNow world (commanded.log world setup work block guardState)
            espErrInvalidState .validationError
          apply recorded_of_failed
          · rw [stopped.records]
            exact listed.1
          · rw [stopped.records]
            exact listed.2
          · exact firstError_stopNow world _ _ _
      | some state =>
          obtain ⟨current, evidence⟩ := accepts state rfl
          have balance := balanced clean
          have goes := recording_log within recording applies listed.1 balance clean current evidence
          exact ⟨fun _ => ⟨goes, balance.tallied⟩,
            fun beyond => absurd next (UInt32.not_lt.mpr beyond)⟩
    · rename_i last
      have length := length_log recording applies clean
      refine ⟨fun next => absurd next last, fun _ => ?_⟩
      refine ⟨listed.1, listed.2, balanced, fun _ => ⟨?_, fun empty => ?_⟩⟩
      · rw [UInt32.lt_iff_toNat_lt, succ_toNat within] at last
        have fits := listed.2
        rw [length] at fits ⊢
        omega
      · rw [empty] at length
        cases length

end Logging

theorem recording_finish {work : EpochWork} {release : EpochRelease} (within : work.epoch < setup.epochs)
    (recording : Recording work.epoch run)
    (tallied : Tallied run.moment run.assembler run.records)
    (carried : work.epochCommand = run.currentCommandState.evidence)
    (judged : Judged work.epoch release run) :
    RecordingAt setup (finish world setup work release run) := by
  have recorded := fun block => @recorded_of_release run work release block recording judged
  unfold finish
  cases released : run.assembler.release work.epoch.toUInt64 release.releaseUs with
  | mk block assembler =>
  have taken := quiet_withAssembler run assembler
  cases block with
  | none =>
      have stopped := still_stopNow world (run.withAssembler assembler) espErrInvalidSize
        .validationError
      apply recorded_of_failed
      · rw [stopped.records, taken.records]
        exact recording.listed
      · rw [stopped.records, taken.records, recording.length]
        exact UInt32.le_iff_toNat_le.mp (UInt32.le_of_lt within)
      · exact firstError_stopNow world _ _ _
  | some block =>
      have kept : assembler.epochZeroTimestampUs = run.assembler.epochZeroTimestampUs ∧
          assembler.deadlineBudgetUs = run.assembler.deadlineBudgetUs := by
        have kept := @FixedEpochAssembler.kept_release run.assembler work.epoch.toUInt64
          release.releaseUs
        rw [released] at kept
        exact kept
      have told := fun record => @FixedEpochAssembler.tallied_release run.assembler
        work.epoch.toUInt64 release.releaseUs run.moment block run.records record tallied
        (congrArg Prod.fst released) release
      obtain ⟨index, deadline⟩ := recorded block (congrArg Prod.fst released)
      have quiet := taken.trans (quiet_settle world setup (run.withAssembler assembler) work release
        (recordedBlock release block))
      have same := assembler_settle world setup (run.withAssembler assembler) work release
        (recordedBlock release block)
      obtain ⟨guardState, settled, settles⟩ : ∃ guardState settled,
          (run.withAssembler assembler).settle world setup work release
            (recordedBlock release block) = (guardState, settled) := ⟨_, _, rfl⟩
      rw [settles] at quiet same
      dsimp only at quiet same
      have applies := applies_nextCommand world setup settled work.epoch
      have settledRecording : Recording work.epoch settled :=
        recording.of_quiet quiet (same ▸ kept.1) (same ▸ kept.2)
      have accepts := fun state => @accepted_nextCommand world setup settled settledRecording.accepted
        work.epoch state
      obtain ⟨found, commanded, commands⟩ : ∃ found commanded,
          settled.nextCommand world setup work.epoch = (found, commanded) := ⟨_, _, rfl⟩
      rw [commands] at applies accepts
      dsimp only at applies accepts ⊢
      rw [settles]
      dsimp only
      rw [commands]
      apply recording_close within settledRecording
      · intro record encoder
        have tally := told record encoder
        rw [released] at tally
        rw [quiet.records, same]
        exact tally.later quiet.moment
      · rw [quiet.records]
        exact index
      · exact deadline
      · rw [quiet.command]
        exact carried
      · exact applies
      · exact fun state there => accepts state there

/-! ### A step -/

/-- The loop is left only when the run is stopped. -/
theorem stopped_of_latched (stopped : (run.stopForLatchedFailure world setup).1 = true) :
    Stopped (run.stopForLatchedFailure world setup).2 := by
  unfold stopForLatchedFailure at stopped ⊢
  dsimp only at stopped ⊢
  split_ifs at stopped ⊢
  · exact Or.inl (firstError_stopNow world _ _ _)
  · exact Or.inr (qualificationStop_stopForQualification world _)
  · exact Or.inl (firstError_stopNow world _ _ _)

theorem stopped_of_awaitTick (stopped : (run.awaitTick world setup).1 = .stopped) :
    Stopped (run.awaitTick world setup).2 := by
  have latched := @stopped_of_latched world setup (run.later 2)
  unfold awaitTick at stopped ⊢
  split at stopped
  · rename_i overflown
    rw [if_pos overflown]
    exact Or.inl (firstError_stopNow world _ _ _)
  · rename_i overflown
    rw [if_neg overflown]
    split at stopped
    · cases stopped
    · dsimp only at stopped ⊢
      split_ifs at stopped ⊢ with latch asked
      · exact latched latch
      · exact Or.inl (firstError_stopNow world _ _ _)

/-- A release without a block to take is that of a stopped run. -/
theorem stopped_of_release {epoch : UInt32} (reason : run.firstError = espOk → run.lastAbortReason = .none)
    (tick : ConsumerTick) (left : (run.release world setup epoch tick).1 = none) :
    Stopped (run.release world setup epoch tick).2 := by
  have latched := @stopped_of_latched world setup run
  have looked := still_stopForLatchedFailure world setup run
  unfold RunState.release at left ⊢
  dsimp only at left ⊢
  split at left
  · rename_i latch
    rw [if_pos latch]
    exact latched latch
  · rename_i latch
    rw [if_neg latch]
    have asked := (looked.trans (still_later _ 3)).trans (still_checkStop world _
      ((run.stopForLatchedFailure world setup).2.now world))
    split at left
    · rename_i early
      rw [if_pos early]
      left
      intro clean
      have none := (asked.reason clean).trans (reason (asked.toCalm.clean clean))
      rw [none] at early
      exact absurd early.1 (by decide)
    · rename_i early
      rw [if_neg early]
      split at left
      · rename_i failed
        rw [if_pos failed]
        left
        unfold checkWriter
        rw [if_pos failed.1]
        exact firstError_stopForFatal world _ _ _ _
      · cases left

theorem recording_enter {epoch : UInt32}
    (recording : epoch < setup.epochs →
      Recording epoch run ∧ Tallied run.moment run.assembler run.records)
    (recorded : setup.epochs ≤ epoch → Recorded setup run) :
    RecordingAt setup (enter world setup epoch run) := by
  have looked := still_stopForLatchedFailure world setup run
  have latched := @stopped_of_latched world setup run
  unfold enter
  dsimp only
  split_ifs with beyond stopped
  · exact recorded beyond
  · obtain ⟨within, tallied⟩ := recording (UInt32.not_le.mp beyond)
    exact (within.of_still looked).ended (tallied_of_still tallied looked) (UInt32.not_le.mp beyond)
      (latched stopped)
  · obtain ⟨within, tallied⟩ := recording (UInt32.not_le.mp beyond)
    have entered := looked.trans (still_startApproach world _ (setup.episodeOf epoch).1)
    exact ⟨UInt32.not_le.mp beyond, within.of_still entered, tallied_of_still tallied entered, rfl⟩

theorem recording_await {work : EpochWork} (within : work.epoch < setup.epochs)
    (recording : Recording work.epoch run)
    (tallied : Tallied run.moment run.assembler run.records)
    (carried : work.epochCommand = run.currentCommandState.evidence) :
    RecordingAt setup (await world setup work run) := by
  have waited := still_awaitTick world setup run
  have stopped := @stopped_of_awaitTick world setup run
  unfold await
  split
  · rename_i next turned
    rw [turned] at waited
    exact ⟨within, recording.of_still waited, tallied_of_still tallied waited, carried.trans
      (congrArg _ waited.command.symm)⟩
  · rename_i next turned
    rw [turned] at waited stopped
    exact (recording.of_still waited).ended (tallied_of_still tallied waited) within (stopped rfl)
  · rename_i tick next turned
    rw [turned] at waited
    have released := waited.trans (still_release world setup next work.epoch tick)
    have left := @stopped_of_release world setup next work.epoch
      (recording.of_still waited).reason tick
    have judged := fun release => @judged_release world setup next work.epoch tick release
    split
    · rename_i last ended
      rw [ended] at released left
      exact (recording.of_still released).ended (tallied_of_still tallied released) within (left rfl)
    · rename_i release last passed
      rw [passed] at released judged
      exact ⟨within, recording.of_still released, tallied_of_still tallied released, carried.trans
        (congrArg _ released.command.symm), judged release rfl⟩

/-! ### The start -/

theorem recording_refused {error : Int32} {fileOpen : Bool} (empty : run.records = []) :
    RecordingAt setup (run.refused error fileOpen) := by
  show Listed run.records ∧ run.records.length ≤ _
  rw [empty]
  exact ⟨listed_nil, Nat.zero_le _⟩

/-- A run that is opened has no record yet. -/
structure Fresh (run : RunState) : Prop where
  records : run.records = []
  firstError : run.firstError = espOk
  reason : run.lastAbortReason = .none
  sequence : run.sequence = 0
  total : run.qualificationTotal = 0
  valid : run.qualificationValid = 0
  statistics : run.assembler.statistics = {}
  unreported : run.assembler.unreportedLateSamples = 0
  zero : run.assembler.epochZeroTimestampUs = run.epochZeroUs
  budget : run.assembler.deadlineBudgetUs = kConsumerDeadlineBudgetUs.toUInt32

/-- How a run that is opened is launched -/
theorem launch_cases :
    (∃ error, error ≠ espOk ∧
        run.launch world = ((run.applyCoast world).2.disarm world).2.refused error true) ∨
      (∃ error, error ≠ espOk ∧
        run.launch world = ((((run.applyCoast world).2.takeEvidence world).startConsumerTimer
          world).2.coastAndDisarm world).refused error true) ∨
      (run.applyCoast world).1 = espOk ∧
        run.launch world = ⟨.starting, ((run.applyCoast world).2.takeEvidence world).later 4⟩ := by
  have timed := @startConsumerTimer_ok world ((run.applyCoast world).2.takeEvidence world)
  unfold launch
  dsimp only
  split_ifs with failed late
  · exact Or.inl ⟨_, failed, rfl⟩
  · exact Or.inr (Or.inl ⟨_, late, rfl⟩)
  · rw [Decidable.not_not] at failed late
    rw [(timed late).1]
    exact Or.inr (Or.inr ⟨failed, rfl⟩)

/-- How a run is started -/
theorem start_cases :
    (∃ error, error ≠ espOk ∧ run.start world setup = run.refused error false) ∨
      (∃ count error fileOpen, error ≠ espOk ∧
        run.start world setup = ((run.later count).disarm world).2.refused error fileOpen) ∨
      (∃ error, error ≠ espOk ∧
        run.start world setup = ((run.later 5).coastAndDisarm world).refused error true) ∨
      setup.epochs ≠ 0 ∧ ∃ epochZeroUs zeroRaw,
        epochZeroUs = (world (run.moment + 1)).nowUs + kRunStartLeadUs ∧
          run.start world setup = ((run.later 5).opened setup epochZeroUs zeroRaw).launch world := by
  unfold start
  split
  · exact Or.inl ⟨_, by decide, rfl⟩
  · dsimp only
    split_ifs with none invalid prepared unopened late sampling
    · exact Or.inl ⟨_, by decide, rfl⟩
    · exact Or.inl ⟨_, by decide, rfl⟩
    · exact Or.inr (Or.inl ⟨1, _, _, prepared, rfl⟩)
    · exact Or.inr (Or.inl ⟨3, _, _, unopened, rfl⟩)
    · exact Or.inr (Or.inl ⟨4, _, _, by decide, rfl⟩)
    · exact Or.inr (Or.inr (Or.inl ⟨_, sampling, rfl⟩))
    · exact Or.inr (Or.inr (Or.inr ⟨none, _, _, rfl, rfl⟩))

theorem recording_launch (positive : 0 < setup.epochs) (fresh : Fresh run) :
    RecordingAt setup (run.launch world) := by
  have kept : (((run.applyCoast world).2.takeEvidence world).startConsumerTimer world).2.records =
      run.records := by
    unfold startConsumerTimer
    dsimp only
    split_ifs <;> rfl
  rcases @launch_cases world run with ⟨_, -, same⟩ | ⟨_, -, same⟩ | ⟨ok, same⟩
  · rw [same]
    exact recording_refused ((still_disarm world _).records.trans fresh.records)
  · rw [same]
    exact recording_refused ((still_disarm world _).records.trans (kept.trans fresh.records))
  · have accepted := accepted_of_apply world (run.later 1) .toCoast (run.now world) ok
    have empty := fresh.records
    rw [same]
    refine ⟨positive, ?_, ?_⟩
    · constructor
      · show Listed run.records
        rw [empty]
        exact listed_nil
      · show run.records.length = 0
        rw [empty]
        rfl
      · show run.qualificationTotal = UInt32.ofNat run.records.length
        rw [empty]
        exact fresh.total
      · show run.qualificationValid = (scanOf run.records).aggregateValidTotal
        rw [empty]
        exact fresh.valid
      · show ∀ record ∈ run.records, _
        rw [empty]
        exact fun _ within => absurd within List.not_mem_nil
      · show run.sequence = UInt64.ofNat run.records.length
        rw [empty]
        exact fresh.sequence
      · exact fresh.zero
      · exact fresh.budget
      · exact fun _ => fresh.reason
      · exact accepted
      · exact accepted
    · show Tallied _ run.assembler run.records
      rw [empty]
      constructor
      · rw [fresh.statistics]
        exact ⟨rfl, rfl, rfl, rfl, rfl⟩
      · intro _
        rw [fresh.statistics, fresh.unreported]
        exact ⟨Nat.zero_le _, le_rfl⟩

theorem recording_start {journal : CommandJournal} (called : run = { journal }) :
    RecordingAt setup (run.start world setup) := by
  have empty : run.records = [] := called ▸ rfl
  rcases @start_cases world setup run with
    ⟨_, -, same⟩ | ⟨_, _, _, -, same⟩ | ⟨_, -, same⟩ | ⟨some, epochZeroUs, zeroRaw, -, same⟩
  · rw [same]
    exact recording_refused empty
  · rw [same]
    exact recording_refused ((still_disarm world _).records.trans empty)
  · rw [same]
    exact recording_refused ((still_disarm world _).records.trans empty)
  · rw [same]
    apply recording_launch (UInt32.pos_iff_ne_zero.mpr some)
    constructor
    all_goals rfl

/-! ### The shutdown -/

theorem judge_keeps (reason : UnsupportedReason) (diagnostic : Int32) :
    (run.judge setup reason diagnostic).records = run.records ∧
      (run.judge setup reason diagnostic).assembler = run.assembler ∧
      (run.judge setup reason diagnostic).qualificationTotal = run.qualificationTotal ∧
      (run.judge setup reason diagnostic).qualificationValid = run.qualificationValid ∧
      (run.judge setup reason diagnostic).moment = run.moment := by
  unfold judge
  dsimp only
  split_ifs <;> exact ⟨rfl, rfl, rfl, rfl, rfl⟩

theorem recording_step {runner : Runner} (recording : RecordingAt setup runner) :
    RecordingAt setup (step world setup runner) := by
  obtain ⟨stage, run⟩ := runner
  cases stage with
  | called =>
      obtain ⟨journal, called⟩ := recording
      exact recording_start called
  | starting =>
      obtain ⟨positive, within, tallied⟩ := recording
      have later := within.of_still (run.still_later 1)
      have told := tallied_of_still tallied (run.still_later 1)
      unfold step
      dsimp only
      split
      · exact ⟨positive, later, told⟩
      · exact ⟨fun _ => ⟨later, told⟩, fun none => absurd positive (UInt32.not_lt.mpr none)⟩
  | entering epoch => exact recording_enter recording.1 recording.2
  | waiting work =>
      obtain ⟨within, inEpoch, tallied, carried⟩ := recording
      exact recording_await within inEpoch tallied carried
  | draining work release =>
      obtain ⟨within, inEpoch, tallied, carried, judged⟩ := recording
      have quiet := (quiet_drainSample world setup run).1
      obtain ⟨drained, told⟩ := recording_drainSample world setup run inEpoch tallied
      have judgedAfter : Judged work.epoch release (run.drainSample world setup).2 := by
        unfold Judged epochEnd epochStart at judged ⊢
        rw [quiet.epochZeroUs]
        exact judged
      rw [← quiet.command] at carried
      show RecordingAt setup (drain world setup work release run)
      unfold drain
      split
      · rename_i next taken
        rw [taken] at drained told carried judgedAfter
        exact ⟨within, drained, told, carried, judgedAfter⟩
      · rename_i next ended
        rw [ended] at drained told carried judgedAfter
        exact recording_finish within drained told carried judgedAfter
  | closing =>
      have same : (run.shutDown world setup).2.2.records = (run.stopMotor world).2.records :=
        (judge_keeps _ _).1
      have stopped : (run.stopMotor world).2.records = run.records :=
        (still_disarm world ((run.applyCoast world).2.mark {} (run.applyCoast world).1).2).records
      show Listed (run.shutDown world setup).2.2.records ∧
        (run.shutDown world setup).2.2.records.length ≤ _
      rw [same, stopped]
      exact ⟨recording.listed, recording.length⟩
  | returned result footer => exact recording

theorem recording_after (world : World) (setup : RunSetup) (journal : CommandJournal) (count : ℕ) :
    RecordingAt setup (after world setup journal count) := by
  induction count with
  | zero => exact ⟨journal, rfl⟩
  | succ count inductionHypothesis => exact recording_step inductionHypothesis

/-! ### The records of a run -/

/-- An iteration writes its record behind the others, or none. -/
theorem records_finish {work : EpochWork} {release : EpochRelease} :
    run.records <+: (finish world setup work release run).run.records := by
  unfold finish
  dsimp only
  split
  · rw [(still_stopNow world _ _ _).records]
    exact List.prefix_rfl
  · rename_i block _
    have settles := quiet_settle world setup (run.withAssembler
      (run.assembler.release work.epoch.toUInt64 release.releaseUs).2) work release
      (recordedBlock release block)
    have commanded := applies_nextCommand world setup ((run.withAssembler
      (run.assembler.release work.epoch.toUInt64 release.releaseUs).2).settle world setup work release
      (recordedBlock release block)).2 work.epoch
    have before := commanded.records.trans settles.records
    have closed : ∀ (run : RunState) (guardState : GuardState) (next : Option EpochCommandState),
        run.records <+:
          (close world setup work (recordedBlock release block) guardState next run).run.records := by
      intro run guardState next
      have written := (calm_log world setup run work (recordedBlock release block) guardState).2
      have kept : (close world setup work (recordedBlock release block) guardState next
          run).run.records =
          (run.log world setup work (recordedBlock release block) guardState).records := by
        unfold close
        dsimp only
        split_ifs
        · rfl
        · cases next with
          | none => exact (still_stopNow world _ _ _).records
          | some state => rfl
        · rfl
      rw [kept]
      rcases written with taken | ⟨refused, -⟩
      · rw [taken]
        exact List.prefix_append _ _
      · rw [refused]
    have result := closed (((run.withAssembler (run.assembler.release work.epoch.toUInt64
      release.releaseUs).2).settle world setup work release (recordedBlock release
      block)).2.nextCommand world setup work.epoch).2
    rw [before] at result
    exact result _ _

theorem records_step {runner : Runner} (recording : RecordingAt setup runner) :
    runner.run.records <+: (step world setup runner).run.records := by
  obtain ⟨stage, run⟩ := runner
  cases stage with
  | called =>
      obtain ⟨journal, called⟩ := recording
      have empty : run.records = [] := congrArg RunState.records called
      show run.records <+: _
      rw [empty]
      exact List.nil_prefix
  | starting =>
      unfold step
      dsimp only
      split <;> exact List.prefix_rfl
  | entering epoch =>
      show run.records <+: (enter world setup epoch run).run.records
      rw [(still_enter world setup run epoch).records]
  | waiting work =>
      show run.records <+: (await world setup work run).run.records
      rw [(still_await world setup run work).records]
  | draining work release =>
      have quiet := (quiet_drainSample world setup run).1
      show run.records <+: (drain world setup work release run).run.records
      unfold drain
      split
      · rename_i next taken
        rw [taken] at quiet
        show run.records <+: next.records
        rw [quiet.records]
      · rename_i next ended
        rw [ended] at quiet
        rw [← quiet.records]
        exact records_finish
  | closing =>
      have same : (run.shutDown world setup).2.2.records = run.records :=
        (judge_keeps _ _).1.trans (still_disarm world
          ((run.applyCoast world).2.mark {} (run.applyCoast world).1).2).records
      show run.records <+: (run.shutDown world setup).2.2.records
      rw [same]
  | returned result footer => exact List.prefix_rfl

theorem listed_at {runner : Runner} (recording : RecordingAt setup runner) :
    Listed runner.run.records ∧ runner.run.records.length ≤ setup.epochs.toNat := by
  have inEpoch : ∀ {epoch : UInt32} {run : RunState}, epoch < setup.epochs → Recording epoch run →
      Listed run.records ∧ run.records.length ≤ setup.epochs.toNat := by
    intro epoch run within recording
    refine ⟨recording.listed, ?_⟩
    rw [recording.length]
    exact UInt32.le_iff_toNat_le.mp (UInt32.le_of_lt within)
  obtain ⟨stage, run⟩ := runner
  cases stage with
  | called =>
      obtain ⟨journal, called⟩ := recording
      have empty : run.records = [] := congrArg RunState.records called
      show Listed run.records ∧ run.records.length ≤ _
      rw [empty]
      exact ⟨listed_nil, Nat.zero_le _⟩
  | starting => exact inEpoch recording.1 recording.2.1
  | entering epoch =>
      by_cases within : epoch < setup.epochs
      · exact inEpoch within (recording.1 within).1
      · have recorded := recording.2 (UInt32.not_lt.mp within)
        exact ⟨recorded.listed, recorded.length⟩
  | waiting work => exact inEpoch recording.1 recording.2.1
  | draining work release => exact inEpoch recording.1 recording.2.1
  | closing => exact ⟨recording.listed, recording.length⟩
  | returned result footer => exact recording

/-- In every run the records are those of the epochs from zero on, there are never more than epochs, and
a record stays. -/
theorem records_in_order (world : World) (setup : RunSetup) (journal : CommandJournal) (count : ℕ) :
    Listed (after world setup journal count).run.records ∧
      (after world setup journal count).run.records.length ≤ setup.epochs.toNat ∧
      ∀ more, (after world setup journal count).run.records <+:
        (after world setup journal (count + more)).run.records := by
  have recording := recording_after world setup journal count
  obtain ⟨listed, length⟩ := listed_at recording
  refine ⟨listed, length, fun more => ?_⟩
  induction more with
  | zero => exact List.prefix_rfl
  | succ more inductionHypothesis =>
      exact inductionHypothesis.trans (records_step (recording_after world setup journal _))

end Runner

end MissionBoard.Characterization
