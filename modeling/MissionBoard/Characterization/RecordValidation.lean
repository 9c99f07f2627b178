import Mathlib.Data.List.Chain
import MissionBoard.Characterization.CharacterizationTypes

/-!
Owns `validateRecordStrict` of `characterization/record_validation.cpp`: the rules for one
record, checked in the order of the source, each with the error that it adds.

`validateRecord` is `validateRecordStrict` in the builds that decode; on the target the writer
calls `validateRecordStrict` before it encodes.
-/

namespace MissionBoard.Characterization

/-- `RecordValidationError`: the bits of the errors, zero for none -/
abbrev RecordValidationError := UInt32

namespace RecordValidationError

def InvalidStage : RecordValidationError := 0x1
def InvalidEncoderRate : RecordValidationError := 0x2
def InvalidEnum : RecordValidationError := 0x4
def RequestedCommandModeMismatch : RecordValidationError := 0x8
def AppliedCommandModeMismatch : RecordValidationError := 0x10
def InvalidCommandTimestamp : RecordValidationError := 0x20
def InvalidEpochTimestamp : RecordValidationError := 0x40
def WrongExpectedSampleCount : RecordValidationError := 0x80
def InconsistentCounts : RecordValidationError := 0x100
def InconsistentFlags : RecordValidationError := 0x200
def SampleOutsideEpoch : RecordValidationError := 0x400
def InvalidRawDiagnostic : RecordValidationError := 0x800
def InvalidGeneration : RecordValidationError := 0x1000
def InvalidVbus : RecordValidationError := 0x2000

/-- `if (violated) error = error | added` -/
def noteIf (error : RecordValidationError) (check : Bool × RecordValidationError) :
    RecordValidationError :=
  if check.1 then error ||| check.2 else error

/-- Several checks, one after another -/
def noteAll (error : RecordValidationError) (checks : List (Bool × RecordValidationError)) :
    RecordValidationError :=
  checks.foldl noteIf error

theorem noteIf_eq_zero_iff {error : RecordValidationError} {check : Bool × RecordValidationError}
    (named : check.2 ≠ 0) : noteIf error check = 0 ↔ error = 0 ∧ check.1 = false := by
  unfold noteIf
  cases violated : check.1 with
  | false => simp
  | true => simp [named]

/-- No error is left when there was none and no check fails. -/
theorem noteAll_eq_zero_iff {checks : List (Bool × RecordValidationError)}
    (named : ∀ check ∈ checks, check.2 ≠ 0) (error : RecordValidationError) :
    noteAll error checks = 0 ↔ error = 0 ∧ ∀ check ∈ checks, check.1 = false := by
  unfold noteAll
  induction checks generalizing error with
  | nil => simp
  | cons check rest inductionHypothesis =>
      rw [List.foldl_cons,
        inductionHypothesis (fun later within => named later (List.mem_cons_of_mem _ within)),
        noteIf_eq_zero_iff (named check List.mem_cons_self), List.forall_mem_cons]
      exact and_assoc

end RecordValidationError

open RecordValidationError

/-! ### The command and its deadline -/

/-- `(flags & flag) != 0U` -/
def hasFlag (flags flag : UInt16) : Bool := flags &&& flag != 0

/-- `-kMaximumCommandPermille <= permille && permille <= kMaximumCommandPermille` -/
def commandWithinLimit (permille : Int16) : Bool :=
  -kMaximumCommandPermille ≤ permille && permille ≤ kMaximumCommandPermille

namespace LogRecord

variable (record : LogRecord)

/-- `command_applied_this_epoch` -/
def commandAppliedThisEpoch : Bool :=
  record.command.commandApplyTimestampUs ≥ record.encoder.epochStartTimestampUs

/-- `command_apply_target_late` -/
def commandApplyTargetLate : Bool :=
  record.commandAppliedThisEpoch &&
    record.command.commandApplyTimestampUs >
      record.encoder.epochStartTimestampUs + kConsumerDeadlineBudgetUs

/-- `command_apply_hard_deadline_missed` -/
def commandApplyHardDeadlineMissed : Bool :=
  record.commandAppliedThisEpoch &&
    record.command.commandApplyTimestampUs ≥ record.encoder.epochStartTimestampUs + kEpochDurationUs

/-- `release_late` -/
def releaseLate : Bool := record.encoder.consumerLatenessUs > 100

/-- `legacy_command_deadline` -/
def legacyCommandDeadline : Bool :=
  hasFlag record.encoder.flags EpochDeadline && record.commandApplyTargetLate &&
    !record.commandApplyHardDeadlineMissed

/-- The order of the three timestamps of a command does not hold. -/
def commandTimestampsTorn : Bool :=
  record.command.commandApplyTimestampUs == 0 ||
    record.command.commandApplyTimestampUs > record.encoder.releaseTimestampUs ||
    record.encoder.releaseTimestampUs > record.command.loggerSnapshotTimestampUs ||
    record.command.loggerSnapshotTimestampUs < record.command.commandApplyTimestampUs

end LogRecord

/-! ### The counts and the flags of an epoch -/

namespace EncoderEpochBlock

variable (block : EncoderEpochBlock)

/-- `counts_consistent` -/
def countsConsistent : Bool :=
  block.expectedSampleCount.toNat ≤ kMaximumEncoderSamplesPerEpoch &&
    block.selectedSampleCount ≤ block.expectedSampleCount &&
    block.validSampleCount.toNat + block.invalidSampleCount.toNat ==
      block.selectedSampleCount.toNat &&
    block.selectedSampleCount.toNat + block.skippedSampleCount.toNat ==
      block.expectedSampleCount.toNat &&
    block.selectedSampleCount.toNat + block.repeatedSampleCount.toNat ==
      block.actualSampleCount.toNat

/-- `complete` -/
def complete : Bool :=
  block.countsConsistent && block.validSampleCount == block.expectedSampleCount &&
    block.repeatedSampleCount == 0 && block.skippedSampleCount == 0 &&
    block.invalidSampleCount == 0

end EncoderEpochBlock

/-- The flags of the epoch do not fit its counts and its deadlines. -/
def LogRecord.flagsInconsistent (record : LogRecord) : Bool :=
  let block := record.encoder
  block.complete != hasFlag block.flags EpochAggregateValid ||
    block.complete == hasFlag block.flags EpochIncomplete ||
    hasFlag block.flags EpochStartup !=
      (block.epochIndex == 0 && hasFlag block.flags EpochIncomplete) ||
    hasFlag block.flags EpochRepeated != (block.repeatedSampleCount != 0) ||
    hasFlag block.flags EpochSkipped != (block.skippedSampleCount != 0) ||
    hasFlag block.flags EpochInvalid != (block.invalidSampleCount != 0) ||
    (record.commandApplyHardDeadlineMissed && !hasFlag block.flags EpochDeadline) ||
    (record.runKind == .rateCheck && record.commandApplyTargetLate &&
      !hasFlag block.flags EpochDeadline) ||
    (hasFlag block.flags EpochDeadline && !record.commandApplyTargetLate &&
      !record.releaseLate) ||
    block.flags &&& ~~~0x00FF != 0

/-! ### The samples of an epoch -/

/-- Where the loop over the slots stands -/
structure SampleScan where
  error : RecordValidationError
  previousGeneration : UInt64 := 0
  previousScheduled : UInt64 := 0
  previousCapture : UInt64 := 0

/-- `slot_count` -/
def EncoderEpochBlock.slotCount (block : EncoderEpochBlock) : UInt64 :=
  if block.expectedSampleCount = 0 then 1 else block.expectedSampleCount.toUInt64

/-- The time at which the slot of this number begins -/
def EncoderEpochBlock.slotStart (block : EncoderEpochBlock) (index : ℕ) : UInt64 :=
  block.epochStartTimestampUs + UInt64.ofNat index * kEpochDurationUs / block.slotCount

/-- The sample does not lie where its slot is, or not behind the sample before it. -/
def sampleMisplaced (block : EncoderEpochBlock) (scan : SampleScan) (index : ℕ)
    (sample : RawEncoderSample) : Bool :=
  sample.captureTimestampUs < block.epochStartTimestampUs ||
    sample.captureTimestampUs ≥ block.epochEndTimestampUs ||
    sample.captureTimestampUs < block.slotStart index ||
    sample.captureTimestampUs ≥ block.slotStart (index + 1) ||
    sample.scheduledTimestampUs == 0 || sample.scheduledTimestampUs > sample.captureTimestampUs ||
    sample.generation == 0 || sample.angleRaw > 0x3FFF || sample.slot.toNat != index ||
    (scan.previousGeneration != 0 &&
      (sample.generation ≤ scan.previousGeneration ||
        sample.scheduledTimestampUs ≤ scan.previousScheduled ||
        sample.captureTimestampUs ≤ scan.previousCapture))

/-- `diagnostic_valid` -/
def diagnosticValid (sample : RawEncoderSample) : Bool :=
  sample.diagnosticFlags &&& ~~~kRawDiagnosticMask == 0 &&
    ((sample.valid && sample.readResultCode == 0 && sample.diagnosticFlags &&& 0x003F == 0) ||
      (!sample.valid && (sample.readResultCode != 0 || sample.diagnosticFlags &&& 0x003F != 0)))

/-- One slot of the loop -/
def SampleScan.step (block : EncoderEpochBlock) (scan : SampleScan) (index : Fin 5) : SampleScan :=
  if block.presentAt index then
    let sample := block.sampleAt index
    { error := noteAll scan.error
        [(sampleMisplaced block scan index sample, SampleOutsideEpoch),
          (!diagnosticValid sample, InvalidRawDiagnostic)]
      previousGeneration := sample.generation
      previousScheduled := sample.scheduledTimestampUs
      previousCapture := sample.captureTimestampUs }
  else scan

/-! ### The rules for a record -/

/-- The power evidence contradicts itself or is stale. -/
def LogRecord.vbusInvalid (record : LogRecord) : Bool :=
  (record.power.valid &&
    (record.power.readResult != 0 || record.power.captureTimestampUs == 0 ||
      record.power.captureTimestampUs > record.command.loggerSnapshotTimestampUs ||
      record.command.loggerSnapshotTimestampUs - record.power.captureTimestampUs > 100000)) ||
  (!record.power.valid &&
    (record.power.readResult == 0 ||
      record.power.captureTimestampUs > record.command.loggerSnapshotTimestampUs))

/-- `knownRunKind` -/
def knownRunKind (kind : RunKind) : Bool := kind == .rateCheck || kind == .full

/-- The checks before the loop over the samples. Those of `isSupportedEncoderRate` and of
the phase, the branch, the guard and the abort reason hold of every enumerator. -/
def LogRecord.checksBeforeSamples (record : LogRecord) : List (Bool × RecordValidationError) :=
  let command := record.command
  let block := record.encoder
  [(!isKnownStage record.stage, InvalidStage),
    (!knownRunKind record.runKind, InvalidEnum),
    (!motorModeMatchesCommand command.requestedCommandPermille command.requestedMotorMode,
      RequestedCommandModeMismatch),
    (!motorModeMatchesCommand command.appliedCommandPermille command.appliedMotorMode,
      AppliedCommandModeMismatch),
    (!commandWithinLimit command.requestedCommandPermille ||
      !commandWithinLimit command.appliedCommandPermille, InvalidGeneration),
    (command.commandGeneration == 0, InvalidGeneration),
    (record.commandTimestampsTorn, InvalidCommandTimestamp),
    (block.epochEndTimestampUs != block.epochStartTimestampUs + kEpochDurationUs ||
      block.releaseTimestampUs < block.epochEndTimestampUs, InvalidEpochTimestamp),
    (block.expectedSampleCount != expectedSamplesPerEpoch record.encoderRate,
      WrongExpectedSampleCount),
    (!block.countsConsistent, InconsistentCounts),
    (record.flagsInconsistent, InconsistentFlags),
    (record.runKind == .full &&
      (record.commandApplyHardDeadlineMissed || record.legacyCommandDeadline) &&
      (record.firstError == 0 || record.abortReason != .deadline), InvalidCommandTimestamp)]

/-- The checks after it -/
def LogRecord.checksAfterSamples (record : LogRecord) : List (Bool × RecordValidationError) :=
  [(record.vbusInvalid, InvalidVbus),
    ((record.stage == .m0) != (record.zeroReferenceKind == .m0), InvalidEnum),
    ((record.firstError == 0) != (record.abortReason == .none), InvalidGeneration),
    (record.qualification != (if record.runKind = .rateCheck then 0 else 1), InvalidEnum)]

/-- The loop over the slots -/
def EncoderEpochBlock.scanSamples (block : EncoderEpochBlock) (error : RecordValidationError) :
    SampleScan :=
  (List.finRange 5).foldl (SampleScan.step block) { error := error }

/-- `validateRecordStrict` -/
def validateRecordStrict (record : LogRecord) : RecordValidationError :=
  noteAll (record.encoder.scanSamples (noteAll 0 record.checksBeforeSamples)).error
    record.checksAfterSamples

/-- `hasError` -/
def hasError (error : RecordValidationError) : Bool := error != 0

/-! ### What a record without errors is -/

/-- The sample lies in its slot. -/
structure SamplePlaced (block : EncoderEpochBlock) (index : ℕ) (sample : RawEncoderSample) :
    Prop where
  begun : block.epochStartTimestampUs ≤ sample.captureTimestampUs
  before : sample.captureTimestampUs < block.epochEndTimestampUs
  slotBegun : block.slotStart index ≤ sample.captureTimestampUs
  slotBefore : sample.captureTimestampUs < block.slotStart (index + 1)
  scheduled : sample.scheduledTimestampUs ≠ 0
  causal : sample.scheduledTimestampUs ≤ sample.captureTimestampUs
  generated : sample.generation ≠ 0
  angle : sample.angleRaw ≤ 0x3FFF
  slot : sample.slot.toNat = index

/-- One sample was taken after the other. -/
structure TakenAfter (first second : RawEncoderSample) : Prop where
  generation : first.generation < second.generation
  scheduled : first.scheduledTimestampUs < second.scheduledTimestampUs
  capture : first.captureTimestampUs < second.captureTimestampUs

/-- The sample that a scan has seen last, as far as the scan keeps it -/
def SampleScan.last (scan : SampleScan) : RawEncoderSample where
  generation := scan.previousGeneration
  scheduledTimestampUs := scan.previousScheduled
  captureTimestampUs := scan.previousCapture

theorem sampleMisplaced_eq_false_iff {block : EncoderEpochBlock} {scan : SampleScan} {index : ℕ}
    {sample : RawEncoderSample} :
    sampleMisplaced block scan index sample = false ↔
      SamplePlaced block index sample ∧
        (scan.previousGeneration ≠ 0 → TakenAfter scan.last sample) := by
  unfold sampleMisplaced
  simp only [Bool.or_eq_false_iff, Bool.and_eq_false_iff, decide_eq_false_iff_not,
    beq_eq_false_iff_ne, bne_eq_false_iff_eq, UInt64.not_lt, ge_iff_le, UInt64.not_le, gt_iff_lt,
    UInt16.not_lt, ne_eq]
  constructor
  · rintro ⟨⟨⟨⟨⟨⟨⟨⟨⟨begun, before⟩, slotBegun⟩, slotBefore⟩, scheduled⟩, causal⟩, generated⟩, angle⟩,
      slot⟩, follows⟩
    refine ⟨⟨begun, before, slotBegun, slotBefore, scheduled, causal, generated, angle, slot⟩, ?_⟩
    intro seen
    rcases follows with unseen | ⟨⟨generation, schedule⟩, capture⟩
    · exact absurd unseen seen
    · exact ⟨generation, schedule, capture⟩
  · rintro ⟨placed, follows⟩
    refine ⟨⟨⟨⟨⟨⟨⟨⟨⟨placed.begun, placed.before⟩, placed.slotBegun⟩, placed.slotBefore⟩,
      placed.scheduled⟩, placed.causal⟩, placed.generated⟩, placed.angle⟩, placed.slot⟩, ?_⟩
    by_cases seen : scan.previousGeneration = 0
    · exact Or.inl seen
    · have after := follows seen
      exact Or.inr ⟨⟨after.generation, after.scheduled⟩, after.capture⟩

/-- The samples present in some of the slots -/
def EncoderEpochBlock.samplesIn (block : EncoderEpochBlock) (slots : List (Fin 5)) :
    List RawEncoderSample :=
  slots.filterMap fun slot => if block.presentAt slot then some (block.sampleAt slot) else none

/-- A sample that is present is sound when it lies in its slot and its diagnostics agree. -/
def EncoderEpochBlock.SlotsSound (block : EncoderEpochBlock) (slots : List (Fin 5)) : Prop :=
  ∀ slot ∈ slots, block.presentAt slot = true →
    SamplePlaced block slot (block.sampleAt slot) ∧ diagnosticValid (block.sampleAt slot) = true

theorem step_error_eq_zero_iff {block : EncoderEpochBlock} {scan : SampleScan} {slot : Fin 5}
    (present : block.presentAt slot = true) :
    (scan.step block slot).error = 0 ↔
      scan.error = 0 ∧ (SamplePlaced block slot (block.sampleAt slot) ∧
        diagnosticValid (block.sampleAt slot) = true) ∧
        (scan.previousGeneration ≠ 0 → TakenAfter scan.last (block.sampleAt slot)) := by
  unfold SampleScan.step
  rw [if_pos present]
  dsimp only
  rw [noteAll_eq_zero_iff (by simp [SampleOutsideEpoch, InvalidRawDiagnostic])]
  simp only [List.forall_mem_cons, sampleMisplaced_eq_false_iff, Bool.not_eq_false']
  constructor
  · rintro ⟨clean, ⟨placed, follows⟩, diagnostic, _⟩
    exact ⟨clean, ⟨placed, diagnostic⟩, follows⟩
  · rintro ⟨clean, ⟨placed, diagnostic⟩, follows⟩
    exact ⟨clean, ⟨placed, follows⟩, diagnostic, by simp⟩

/-- The scan finds nothing when every sample is sound and each was taken after the one before. -/
theorem foldl_step_error_eq_zero_iff {block : EncoderEpochBlock} (slots : List (Fin 5))
    (scan : SampleScan) :
    (slots.foldl (SampleScan.step block) scan).error = 0 ↔
      scan.error = 0 ∧ block.SlotsSound slots ∧
        (block.samplesIn slots).IsChain TakenAfter ∧
        (scan.previousGeneration ≠ 0 →
          ∀ first ∈ (block.samplesIn slots).head?, TakenAfter scan.last first) := by
  induction slots generalizing scan with
  | nil => simp [EncoderEpochBlock.SlotsSound, EncoderEpochBlock.samplesIn]
  | cons slot rest inductionHypothesis =>
      rw [List.foldl_cons, inductionHypothesis]
      unfold EncoderEpochBlock.SlotsSound
      rw [List.forall_mem_cons]
      by_cases present : block.presentAt slot = true
      · have samples : block.samplesIn (slot :: rest) =
            block.sampleAt slot :: block.samplesIn rest := by
          unfold EncoderEpochBlock.samplesIn
          rw [List.filterMap_cons, if_pos present]
        have stepped : scan.step block slot =
            { error := (scan.step block slot).error
              previousGeneration := (block.sampleAt slot).generation
              previousScheduled := (block.sampleAt slot).scheduledTimestampUs
              previousCapture := (block.sampleAt slot).captureTimestampUs } := by
          unfold SampleScan.step
          rw [if_pos present]
        rw [samples, List.isChain_cons, step_error_eq_zero_iff present, stepped]
        constructor
        · rintro ⟨⟨clean, sound, follows⟩, rest, chain, linked⟩
          refine ⟨clean, ⟨fun _ => sound, rest⟩, ⟨?_, chain⟩, ?_⟩
          · exact fun next first => ⟨(linked sound.1.generated next first).generation,
              (linked sound.1.generated next first).scheduled,
              (linked sound.1.generated next first).capture⟩
          · intro seen first head
            rw [← Option.some.inj head]
            exact follows seen
        · rintro ⟨clean, ⟨sound, rest⟩, ⟨linked, chain⟩, follows⟩
          refine ⟨⟨clean, sound present, fun seen => follows seen _ rfl⟩, rest, chain, ?_⟩
          exact fun _ next first => ⟨(linked next first).generation, (linked next first).scheduled,
            (linked next first).capture⟩
      · have samples : block.samplesIn (slot :: rest) = block.samplesIn rest := by
          unfold EncoderEpochBlock.samplesIn
          rw [List.filterMap_cons, if_neg present]
        have stepped : scan.step block slot = scan := if_neg present
        rw [samples, stepped]
        simp [present]

/-- The samples of an epoch that are present, in the order of their slots -/
def EncoderEpochBlock.presentSamples (block : EncoderEpochBlock) : List RawEncoderSample :=
  block.samplesIn (List.finRange 5)

/-- A record without errors passes every check, and its samples are sound and in order. -/
theorem validateRecordStrict_eq_zero_iff (record : LogRecord) :
    validateRecordStrict record = 0 ↔
      (∀ check ∈ record.checksBeforeSamples, check.1 = false) ∧
        record.encoder.SlotsSound (List.finRange 5) ∧
        record.encoder.presentSamples.IsChain TakenAfter ∧
        ∀ check ∈ record.checksAfterSamples, check.1 = false := by
  have namedBefore : ∀ check ∈ record.checksBeforeSamples, check.2 ≠ 0 := by
    simp [LogRecord.checksBeforeSamples, InvalidStage, InvalidEnum, RequestedCommandModeMismatch,
      AppliedCommandModeMismatch, InvalidGeneration, InvalidCommandTimestamp,
      InvalidEpochTimestamp, WrongExpectedSampleCount, InconsistentCounts, InconsistentFlags]
  have namedAfter : ∀ check ∈ record.checksAfterSamples, check.2 ≠ 0 := by
    simp [LogRecord.checksAfterSamples, InvalidVbus, InvalidEnum, InvalidGeneration]
  unfold validateRecordStrict EncoderEpochBlock.scanSamples EncoderEpochBlock.presentSamples
  rw [noteAll_eq_zero_iff namedAfter, foldl_step_error_eq_zero_iff]
  dsimp only
  rw [noteAll_eq_zero_iff namedBefore]
  constructor
  · rintro ⟨⟨⟨_, before⟩, sound, chain, _⟩, after⟩
    exact ⟨before, sound, chain, after⟩
  · rintro ⟨before, sound, chain, after⟩
    exact ⟨⟨⟨rfl, before⟩, sound, chain, fun seen => absurd rfl seen⟩, after⟩

end MissionBoard.Characterization
