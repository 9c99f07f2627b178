import MissionBoard.Characterization.EpochCompleteness
import MissionBoard.Characterization.SlotPresence

/-!
Owns the agreement of the assembler with `validateRecordStrict`: a block that the assembler releases
passes every check of an epoch, of its counts, of its flags and of its samples.

The checks add up their errors, so that those of some kinds can be looked at without the others. Both
sides count in eight bits; the bound on the samples of an epoch is what keeps the counts true.
-/

namespace MissionBoard.Characterization

open RecordValidationError

/-! ### The errors of some kinds -/

namespace RecordValidationError

theorem or_kinds (first second kinds : RecordValidationError) :
    (first ||| second) &&& kinds = first &&& kinds ||| second &&& kinds :=
  UInt32.toBitVec_inj.mp BitVec.and_or_distrib_right

/-- The checks add their errors to those that there are. -/
theorem noteAll_or (error : RecordValidationError) (checks : List (Bool × RecordValidationError)) :
    noteAll error checks = error ||| noteAll 0 checks := by
  unfold noteAll
  induction checks generalizing error with
  | nil => exact UInt32.or_zero.symm
  | cons check rest inductionHypothesis =>
      rw [List.foldl_cons, List.foldl_cons, inductionHypothesis, inductionHypothesis (noteIf 0 check)]
      unfold noteIf
      cases check.1 with
      | false => rw [if_neg nofun, if_neg nofun, UInt32.zero_or]
      | true => rw [if_pos rfl, if_pos rfl, UInt32.zero_or, UInt32.or_assoc]

/-- No error of these kinds is added when no check of these kinds fails. -/
theorem noteAll_kinds {kinds : RecordValidationError}
    {checks : List (Bool × RecordValidationError)}
    (passed : ∀ check ∈ checks, check.1 = true → check.2 &&& kinds = 0) :
    noteAll 0 checks &&& kinds = 0 := by
  induction checks with
  | nil => exact UInt32.zero_and
  | cons check rest inductionHypothesis =>
      have later := inductionHypothesis fun other within =>
        passed other (List.mem_cons_of_mem _ within)
      have first := passed check List.mem_cons_self
      have split : noteAll 0 (check :: rest) = noteIf 0 check ||| noteAll 0 rest :=
        noteAll_or (noteIf 0 check) rest
      rw [split, or_kinds, later, UInt32.or_zero]
      unfold noteIf
      cases failed : check.1 with
      | false => exact UInt32.zero_and
      | true => rw [if_pos rfl, UInt32.zero_or, first failed]

end RecordValidationError

namespace EncoderEpochBlock

variable {block : EncoderEpochBlock}

theorem step_or (scan : SampleScan) (error : RecordValidationError) (slot : Fin 5) :
    { scan with error := error ||| scan.error }.step block slot =
      { scan.step block slot with error := error ||| (scan.step block slot).error } := by
  unfold SampleScan.step
  split
  · dsimp only
    rw [noteAll_or, noteAll_or scan.error, UInt32.or_assoc]
    rfl
  · rfl

theorem scanSamples_or (error : RecordValidationError) :
    (block.scanSamples error).error = error ||| (block.scanSamples 0).error := by
  have added : ∀ (slots : List (Fin 5)) (scan : SampleScan),
      (slots.foldl (SampleScan.step block) { scan with error := error ||| scan.error }).error =
        error ||| (slots.foldl (SampleScan.step block) scan).error := by
    intro slots
    induction slots with
    | nil =>
        intro scan
        rfl
    | cons slot rest inductionHypothesis =>
        intro scan
        rw [List.foldl_cons, step_or, inductionHypothesis]
        rfl
  have start := added (List.finRange 5) { error := 0 }
  rw [UInt32.or_zero] at start
  exact start

end EncoderEpochBlock

/-- The kinds of the errors about the epoch of a record: its times, its number of slots, its counts, its
flags, and its samples -/
def epochErrors : RecordValidationError :=
  InvalidEpochTimestamp ||| WrongExpectedSampleCount ||| InconsistentCounts ||| InconsistentFlags |||
    SampleOutsideEpoch ||| InvalidRawDiagnostic

/-- A record has no error about its epoch when the epoch passes its checks and the samples are sound and
in order. -/
theorem LogRecord.EpochChecked.errors {record : LogRecord} (checked : record.EpochChecked)
    (sound : record.encoder.SlotsSound (List.finRange 5))
    (ordered : record.encoder.presentSamples.IsChain TakenAfter) :
    validateRecordStrict record &&& epochErrors = 0 := by
  have before : noteAll 0 record.checksBeforeSamples &&& epochErrors = 0 := by
    apply noteAll_kinds
    have epoch : (record.encoder.epochEndTimestampUs !=
          record.encoder.epochStartTimestampUs + kEpochDurationUs ||
        decide (record.encoder.releaseTimestampUs < record.encoder.epochEndTimestampUs)) = false := by
      rw [Bool.or_eq_false_iff, bne_eq_false_iff_eq, decide_eq_false_iff_not, UInt64.not_lt]
      exact ⟨checked.ends, checked.released⟩
    have expected : (record.encoder.expectedSampleCount !=
        expectedSamplesPerEpoch record.encoderRate) = false :=
      bne_eq_false_iff_eq.mpr checked.expected
    unfold checksBeforeSamples
    dsimp only
    simp only [List.forall_mem_cons, epoch, expected, checked.counts, checked.flags]
    have other : InvalidStage &&& epochErrors = 0 ∧ InvalidEnum &&& epochErrors = 0 ∧
        RequestedCommandModeMismatch &&& epochErrors = 0 ∧
        AppliedCommandModeMismatch &&& epochErrors = 0 ∧ InvalidGeneration &&& epochErrors = 0 ∧
        InvalidCommandTimestamp &&& epochErrors = 0 := by
      decide
    simp [other]
  have scan : (record.encoder.scanSamples 0).error = 0 :=
    (foldl_step_error_eq_zero_iff _ _).mpr ⟨rfl, sound, ordered, fun seen => absurd rfl seen⟩
  have after : noteAll 0 record.checksAfterSamples &&& epochErrors = 0 := by
    apply noteAll_kinds
    have other : InvalidVbus &&& epochErrors = 0 ∧ InvalidEnum &&& epochErrors = 0 ∧
        InvalidGeneration &&& epochErrors = 0 := by
      decide
    unfold checksAfterSamples
    simp [other]
  unfold validateRecordStrict
  rw [noteAll_or, record.encoder.scanSamples_or, scan, or_kinds, or_kinds, before, after]
  rfl

/-! ### The samples of a run -/

/-- The samples with which `add` is called -/
def samplesAdded (calls : List AssemblerCall) : List RawEncoderSample :=
  calls.filterMap fun
    | .add sample => some sample
    | .release .. => none

namespace Assembly

/-- Every sample accepted for an epoch was added, and was captured in that epoch. -/
def AcceptedInEpoch (calls : List AssemblerCall) (assembly : Assembly) : Prop :=
  ∀ epochIndex, ∀ sample ∈ assembly.accepted epochIndex,
    sample ∈ samplesAdded calls ∧
      assembly.assembler.epochZeroTimestampUs ≤ sample.captureTimestampUs ∧
      assembly.assembler.epochOf sample = epochIndex

theorem accepted_add (assembly : Assembly) (sample : RawEncoderSample) (epochIndex : UInt64) :
    (assembly.step (.add sample)).accepted epochIndex =
      acceptedAfter assembly.assembler.epochOf epochIndex (assembly.accepted epochIndex)
        (.added sample (assembly.assembler.add sample).1) := by
  unfold accepted
  rw [step_epochOf, step, List.foldl_concat]

theorem accepted_release (assembly : Assembly) (released releaseTimestampUs epochIndex : UInt64) :
    (assembly.step (.release released releaseTimestampUs)).accepted epochIndex =
      assembly.accepted epochIndex := by
  unfold accepted
  rw [step_epochOf, step, List.foldl_concat]
  rfl

theorem acceptedInEpoch_after (before : FixedEpochAssembler) (reset : AssemblerReset)
    (calls : List AssemblerCall) : AcceptedInEpoch calls (after before reset calls) := by
  induction calls using List.reverseRecOn with
  | nil =>
      intro epochIndex sample within
      cases within
  | append_singleton calls call inductionHypothesis =>
      have next : after before reset (calls ++ [call]) = (after before reset calls).step call :=
        Run.after_concat ..
      rw [next]
      have added : samplesAdded (calls ++ [call]) = samplesAdded calls ++ samplesAdded [call] :=
        List.filterMap_append
      have earlier : ∀ epochIndex, ∀ sample ∈ (after before reset calls).accepted epochIndex,
          sample ∈ samplesAdded (calls ++ [call]) ∧
            (after before reset calls).assembler.epochZeroTimestampUs ≤
              sample.captureTimestampUs ∧
            (after before reset calls).assembler.epochOf sample = epochIndex := by
        intro epochIndex sample within
        obtain ⟨there, rest⟩ := inductionHypothesis epochIndex sample within
        rw [added]
        exact ⟨List.mem_append_left _ there, rest⟩
      intro epochIndex sample within
      rw [(step_config call).2, step_epochOf]
      cases call with
      | release released releaseTimestampUs =>
          rw [accepted_release] at within
          exact earlier epochIndex sample within
      | add new =>
          rw [accepted_add] at within
          rcases @FixedEpochAssembler.add_cases (after before reset calls).assembler new with
            ⟨result, begun, -⟩ | ⟨refused, -⟩
          · rw [result, acceptedAfter] at within
            split at within
            · rename_i mine
              rw [List.mem_append, List.mem_singleton] at within
              cases within with
              | inl before => exact earlier epochIndex sample before
              | inr same =>
                  rw [same, added]
                  exact ⟨List.mem_append_right _ (List.mem_singleton_self _), begun, mine⟩
            · exact earlier epochIndex sample within
          · rw [acceptedAfter_refused refused] at within
            exact earlier epochIndex sample within

/-- No call changes the budget of the deadline. -/
theorem deadlineBudget_after (before : FixedEpochAssembler) (reset : AssemblerReset)
    (calls : List AssemblerCall) :
    (after before reset calls).assembler.deadlineBudgetUs = before.deadlineBudgetUs := by
  induction calls using List.reverseRecOn with
  | nil => cases reset <;> rfl
  | append_singleton calls call inductionHypothesis =>
      have next : after before reset (calls ++ [call]) = (after before reset calls).step call :=
        Run.after_concat ..
      rw [next, ← inductionHypothesis]
      cases call with
      | add sample =>
          rcases @FixedEpochAssembler.add_cases (after before reset calls).assembler sample with
            ⟨-, -, -, bucket, -, same⟩ | ⟨-, statistics, late, same⟩
          · exact congrArg (·.deadlineBudgetUs) same
          · exact congrArg (·.deadlineBudgetUs) same
      | release epochIndex releaseTimestampUs =>
          show ((after before reset calls).assembler.release epochIndex
            releaseTimestampUs).2.deadlineBudgetUs = _
          unfold FixedEpochAssembler.release
          dsimp only
          split
          · rfl
          · split <;> rfl

end Assembly

/-! ### The times of a release -/

namespace FixedEpochAssembler

variable {assembler : FixedEpochAssembler} {epochIndex releaseTimestampUs : UInt64}

/-- The times of an epoch that is admitted do not wrap around, and the epoch is over. -/
theorem admits_times (admitted : assembler.admits epochIndex releaseTimestampUs = true) :
    (assembler.epochStartUs epochIndex).toNat =
        assembler.epochZeroTimestampUs.toNat + epochIndex.toNat * 1000 ∧
      (assembler.epochStartUs epochIndex + kEpochDurationUs).toNat =
        (assembler.epochStartUs epochIndex).toNat + 1000 ∧
      (assembler.epochStartUs epochIndex).toNat + 1000 ≤ releaseTimestampUs.toNat := by
  unfold admits at admitted
  simp only [Bool.and_eq_true, decide_eq_true_eq] at admitted
  obtain ⟨⟨-, below⟩, ended⟩ := admitted
  have duration : kEpochDurationUs.toNat = 1000 := rfl
  have zeroSmall := assembler.epochZeroTimestampUs.toNat_lt
  have room : (0xFFFFFFFFFFFFFFFF - assembler.epochZeroTimestampUs).toNat =
      2 ^ 64 - 1 - assembler.epochZeroTimestampUs.toNat := by
    apply UInt64.toNat_sub_of_le
    rw [UInt64.le_iff_toNat_le]
    exact Nat.le_pred_of_lt zeroSmall
  rw [UInt64.lt_iff_toNat_lt, UInt64.toNat_div, room, duration] at below
  have fits : assembler.epochZeroTimestampUs.toNat + epochIndex.toNat * 1000 + 1000 < 2 ^ 64 := by
    omega
  have start : (assembler.epochStartUs epochIndex).toNat =
      assembler.epochZeroTimestampUs.toNat + epochIndex.toNat * 1000 := by
    unfold epochStartUs
    rw [UInt64.toNat_add, UInt64.toNat_mul, duration, Nat.mod_eq_of_lt (by omega : _ * _ < _),
      Nat.mod_eq_of_lt (by omega)]
  have finish : (assembler.epochStartUs epochIndex + kEpochDurationUs).toNat =
      (assembler.epochStartUs epochIndex).toNat + 1000 := by
    rw [UInt64.toNat_add, duration, start]
    exact Nat.mod_eq_of_lt fits
  have next : assembler.epochStartUs (epochIndex + 1) =
      assembler.epochStartUs epochIndex + kEpochDurationUs := by
    unfold epochStartUs
    rw [UInt64.add_mul, UInt64.one_mul, UInt64.add_assoc]
  refine ⟨start, finish, ?_⟩
  rw [next, UInt64.le_iff_toNat_le, finish] at ended
  exact ended

/-- The two sides agree on whether a release is late. -/
theorem releasedLate_eq (admitted : assembler.admits epochIndex releaseTimestampUs = true)
    (budget : assembler.deadlineBudgetUs = 100) (past : releaseTimestampUs.toNat < 2 ^ 63) :
    assembler.releasedLate epochIndex releaseTimestampUs =
      decide ((assembler.block epochIndex releaseTimestampUs).consumerLatenessUs > 100) := by
  obtain ⟨-, finish, ended⟩ := admits_times admitted
  have budgetEnds : (assembler.epochStartUs epochIndex + kEpochDurationUs +
      (100 : UInt32).toUInt64).toNat = (assembler.epochStartUs epochIndex).toNat + 1100 := by
    rw [UInt64.toNat_add, finish, show (100 : UInt32).toUInt64.toNat = 100 from rfl]
    exact Nat.mod_eq_of_lt (by omega)
  have behind : (releaseTimestampUs -
      (assembler.epochStartUs epochIndex + kEpochDurationUs)).toNat =
        releaseTimestampUs.toNat - ((assembler.epochStartUs epochIndex).toNat + 1000) := by
    rw [← finish]
    apply UInt64.toNat_sub_of_le
    rw [UInt64.le_iff_toNat_le, finish]
    exact ended
  have lateness : (releaseTimestampUs -
      (assembler.epochStartUs epochIndex + kEpochDurationUs)).toInt64.toInt =
        releaseTimestampUs.toNat - ((assembler.epochStartUs epochIndex).toNat + 1000 : ℕ) := by
    rw [← Nat.cast_sub ended, ← behind]
    apply BitVec.toInt_eq_toNat_of_lt
    show 2 * (releaseTimestampUs -
      (assembler.epochStartUs epochIndex + kEpochDurationUs)).toNat < 2 ^ 64
    rw [behind]
    omega
  unfold releasedLate block
  dsimp only
  rw [budget, decide_eq_decide, gt_iff_lt, gt_iff_lt, UInt64.lt_iff_toNat_lt, budgetEnds, lateness,
    Int32.lt_iff_toInt_lt, Int32.toInt_ofInt_of_le (by omega) (by omega),
    show (100 : Int32).toInt = 100 from rfl]
  omega

end FixedEpochAssembler

/-! ### The counts and the flags -/

namespace Assembly

variable {assembly : Assembly} {epochIndex releaseTimestampUs : UInt64}

/-- With at most 255 samples the counts of a block are those of its slots. -/
structure TrueCounts (assembler : FixedEpochAssembler) (bucket : Bucket)
    (block : EncoderEpochBlock) : Prop where
  selected : block.selectedSampleCount.toNat = (bucket.selected assembler.rate).length
  atMost : (bucket.selected assembler.rate).length ≤ (expectedSamplesPerEpoch assembler.rate).toNat
  valid : block.validSampleCount.toNat = (bucket.selected assembler.rate).countP usable
  invalid : block.invalidSampleCount.toNat = bucket.invalidCount assembler.rate
  used : (bucket.selected assembler.rate).countP usable + bucket.invalidCount assembler.rate =
    (bucket.selected assembler.rate).length
  skipped : block.skippedSampleCount.toNat = bucket.skippedCount assembler.rate
  slots : (bucket.selected assembler.rate).length + bucket.skippedCount assembler.rate =
    (expectedSamplesPerEpoch assembler.rate).toNat
  observed : block.actualSampleCount.toNat =
    (bucket.selected assembler.rate).length + block.repeatedSampleCount.toNat
  expected : block.expectedSampleCount = expectedSamplesPerEpoch assembler.rate
  observedCount : bucket.observedCount = block.actualSampleCount
  repeatedCount : bucket.repeatedCount = block.repeatedSampleCount

theorem Assembled.trueCounts (assembled : Assembled assembly)
    (few : (assembly.held epochIndex).length ≤ 255) :
    TrueCounts assembly.assembler (assembly.assembler.taken epochIndex)
      (assembly.assembler.block epochIndex releaseTimestampUs) := by
  have small := Bucket.expectedSamplesPerEpoch_le assembly.assembler.rate
  have slots : ((assembly.assembler.taken epochIndex).selected assembly.assembler.rate).length +
      (assembly.assembler.taken epochIndex).skippedCount assembly.assembler.rate =
        (expectedSamplesPerEpoch assembly.assembler.rate).toNat := by
    rw [← Bucket.card_epochSlots, List.toFinset_card_of_nodup Bucket.nodup_epochSlots]
    unfold Bucket.selected Bucket.skippedCount
    rw [List.length_filterMap_eq_countP, List.length_eq_countP_add_countP
      (fun slot => ((assembly.assembler.taken epochIndex).kept slot).isSome)]
    congr 1
    apply List.countP_congr
    intro slot _
    simp
  have used : ((assembly.assembler.taken epochIndex).selected assembly.assembler.rate).countP usable +
      (assembly.assembler.taken epochIndex).invalidCount assembly.assembler.rate =
        ((assembly.assembler.taken epochIndex).selected assembly.assembler.rate).length := by
    rw [List.length_eq_countP_add_countP usable]
    congr 1
    apply List.countP_congr
    intro sample _
    simp
  have value : ∀ count : ℕ, count ≤ 255 → (UInt8.ofNat count).toNat = count := by
    intro count below
    rw [UInt8.toNat_ofNat']
    exact Nat.mod_eq_of_lt (Nat.lt_succ_of_le below)
  constructor
  · exact value _ (by omega)
  · omega
  · exact value _ (by omega)
  · exact value _ (by omega)
  · exact used
  · exact value _ (by omega)
  · exact slots
  · show (assembly.assembler.taken epochIndex).observedCount.toNat =
      _ + (assembly.assembler.taken epochIndex).repeatedCount.toNat
    have fewer := @Bucket.card_filledSlots_le assembly.assembler.rate
      (assembly.assembler.epochStartUs epochIndex) (assembly.held epochIndex)
    rw [assembled epochIndex, FixedEpochAssembler.filled, Bucket.fill_observedCount,
      Bucket.fill_repeatedCount, Bucket.length_selected, value _ few, value _ (by omega)]
    omega
  · rfl
  · rfl
  · rfl

variable {assembler : FixedEpochAssembler} {bucket : Bucket} {block : EncoderEpochBlock}

theorem TrueCounts.consistent (counts : TrueCounts assembler bucket block) :
    block.countsConsistent = true := by
  have small := Bucket.expectedSamplesPerEpoch_le assembler.rate
  have selected := counts.selected
  have atMost := counts.atMost
  have valid := counts.valid
  have invalid := counts.invalid
  have used := counts.used
  have skipped := counts.skipped
  have slots := counts.slots
  have observed := counts.observed
  unfold EncoderEpochBlock.countsConsistent
  simp only [Bool.and_eq_true, beq_iff_eq, decide_eq_true_eq, UInt8.le_iff_toNat_le,
    counts.expected, kMaximumEncoderSamplesPerEpoch]
  omega

/-- The two sides agree on whether an epoch is complete. -/
theorem TrueCounts.complete (counts : TrueCounts assembler bucket block) :
    block.complete = bucket.complete assembler.rate := by
  have selected := counts.selected
  have valid := counts.valid
  have invalid := counts.invalid
  have used := counts.used
  have skipped := counts.skipped
  have slots := counts.slots
  have observed := counts.observed
  unfold EncoderEpochBlock.complete Bucket.complete
  rw [counts.consistent, Bool.eq_iff_iff, counts.observedCount, counts.repeatedCount]
  simp only [Bool.and_eq_true, beq_iff_eq, ← UInt8.toNat_inj, counts.expected, true_and,
    UInt8.toNat_zero]
  omega

/-- What each flag of a block says; no other bit is set. -/
theorem block_flags :
    (hasFlag (assembler.block epochIndex releaseTimestampUs).flags EpochIncomplete =
        !(assembler.taken epochIndex).complete assembler.rate) ∧
      hasFlag (assembler.block epochIndex releaseTimestampUs).flags EpochStartup =
        (!(assembler.taken epochIndex).complete assembler.rate && epochIndex == 0) ∧
      hasFlag (assembler.block epochIndex releaseTimestampUs).flags EpochRepeated =
        ((assembler.taken epochIndex).repeatedCount != 0) ∧
      hasFlag (assembler.block epochIndex releaseTimestampUs).flags EpochSkipped =
        ((assembler.taken epochIndex).skippedCount assembler.rate != 0) ∧
      hasFlag (assembler.block epochIndex releaseTimestampUs).flags EpochInvalid =
        ((assembler.taken epochIndex).invalidCount assembler.rate != 0) ∧
      hasFlag (assembler.block epochIndex releaseTimestampUs).flags EpochDeadline =
        assembler.releasedLate epochIndex releaseTimestampUs ∧
      hasFlag (assembler.block epochIndex releaseTimestampUs).flags (~~~0x00FF) = false := by
  refine ⟨?_, ?_, ?_, ?_, ?_, ?_, ?_⟩
  all_goals
    rw [FixedEpochAssembler.hasFlag_block, Bucket.hasFlag_countFlags]
    generalize decide (assembler.unreportedLateSamples ≠ 0) = late
    generalize ((assembler.taken epochIndex).repeatedCount != 0) = repeated
    generalize ((assembler.taken epochIndex).skippedCount assembler.rate != 0) = skipped
    generalize ((assembler.taken epochIndex).invalidCount assembler.rate != 0) = invalid
    generalize (assembler.taken epochIndex).complete assembler.rate = complete
    generalize (epochIndex == 0) = first
    generalize assembler.releasedLate epochIndex releaseTimestampUs = deadline
    revert late repeated skipped invalid complete first deadline
    decide

/-- So the flags of a block fit its counts. -/
theorem flags_agree (counts : TrueCounts assembler (assembler.taken epochIndex)
      (assembler.block epochIndex releaseTimestampUs))
    (late : assembler.releasedLate epochIndex releaseTimestampUs =
      decide ((assembler.block epochIndex releaseTimestampUs).consumerLatenessUs > 100))
    {record : LogRecord} (carries : record.encoder = assembler.block epochIndex releaseTimestampUs)
    (applied : record.command.commandApplyTimestampUs < record.encoder.epochStartTimestampUs) :
    record.flagsInconsistent = false := by
  have earlier : record.commandAppliedThisEpoch = false := by
    unfold LogRecord.commandAppliedThisEpoch
    rw [decide_eq_false_iff_not]
    exact UInt64.not_le.mpr applied
  unfold LogRecord.flagsInconsistent LogRecord.commandApplyHardDeadlineMissed
    LogRecord.commandApplyTargetLate LogRecord.releaseLate
  rw [earlier, carries]
  dsimp only
  obtain ⟨incomplete, startup, repeated, skipped, invalid, deadline, others⟩ :=
    @block_flags epochIndex releaseTimestampUs assembler
  unfold hasFlag at others
  rw [counts.complete, ← late, FixedEpochAssembler.hasFlag_aggregateValid, incomplete, startup,
    repeated, skipped, invalid, deadline, others, counts.repeatedCount]
  have none : ∀ {count : UInt8} {number : ℕ}, count.toNat = number →
      (number != 0) = (count != 0) := by
    intro count number same
    rw [bne, bne, ← same, Bool.eq_iff_iff]
    simp [← UInt8.toNat_inj]
  have index : (assembler.block epochIndex releaseTimestampUs).epochIndex = epochIndex := rfl
  rw [none counts.skipped, none counts.invalid, index]
  cases (assembler.taken epochIndex).complete assembler.rate <;>
    cases assembler.releasedLate epochIndex releaseTimestampUs <;> simp

end Assembly

/-! ### The samples of a block -/

/-- What a sample of the sampler is: it has a generation and a schedule, is captured no earlier than
scheduled, its angle has 14 bits, and its diagnostics agree with its validity. -/
structure SampleSound (sample : RawEncoderSample) : Prop where
  generated : sample.generation ≠ 0
  scheduled : sample.scheduledTimestampUs ≠ 0
  causal : sample.scheduledTimestampUs ≤ sample.captureTimestampUs
  angle : sample.angleRaw ≤ 0x3FFF
  diagnostic : diagnosticValid sample = true

/-- Of samples taken one after another the one captured later was taken later. -/
theorem takenAfter_of_capture {samples : List RawEncoderSample}
    (ordered : samples.Pairwise TakenAfter) {first second : RawEncoderSample}
    (firstWithin : first ∈ samples) (secondWithin : second ∈ samples)
    (captured : first.captureTimestampUs < second.captureTimestampUs) :
    TakenAfter first second := by
  induction ordered with
  | nil => cases firstWithin
  | @cons sample rest following _ inductionHypothesis =>
      rw [List.mem_cons] at firstWithin secondWithin
      cases firstWithin with
      | inl same =>
          cases secondWithin with
          | inl too =>
              rw [same, too] at captured
              exact absurd captured (UInt64.lt_irrefl _)
          | inr later => exact same ▸ following second later
      | inr earlier =>
          cases secondWithin with
          | inl same =>
              have reversed := (following first earlier).capture
              rw [← same] at reversed
              exact absurd (UInt64.lt_trans captured reversed) (UInt64.lt_irrefl _)
          | inr later => exact inductionHypothesis earlier later

namespace FixedEpochAssembler

variable {assembler : FixedEpochAssembler} {epochIndex releaseTimestampUs : UInt64}

/-- A sample that is present is one that the bucket keeps in that slot. -/
theorem sampleAt_block {slot : Fin 5}
    (present : (assembler.block epochIndex releaseTimestampUs).presentAt slot = true) :
    slot.val < (expectedSamplesPerEpoch assembler.rate).toNat ∧
      ∃ sample, (assembler.taken epochIndex).kept slot = some sample ∧
        (assembler.block epochIndex releaseTimestampUs).sampleAt slot =
          { sample with slot := UInt8.ofNat slot } := by
  unfold EncoderEpochBlock.presentAt block at present
  unfold EncoderEpochBlock.sampleAt block
  simp only [Fin.getElem_fin, Vector.getElem_ofFn, Bucket.slotOf] at present ⊢
  by_cases inside : slot.val < (expectedSamplesPerEpoch assembler.rate).toNat
  · simp only [if_pos inside] at present ⊢
    obtain ⟨sample, found⟩ := Option.isSome_iff_exists.mp present
    refine ⟨inside, sample, found, ?_⟩
    rw [found]
  · rw [if_neg inside] at present
    cases present

/-- The times of the slots of a block -/
theorem slotStart_block (admitted : assembler.admits epochIndex releaseTimestampUs = true)
    {index : ℕ} (small : index ≤ (expectedSamplesPerEpoch assembler.rate).toNat) :
    ((assembler.block epochIndex releaseTimestampUs).slotStart index).toNat =
      (assembler.epochStartUs epochIndex).toNat +
        index * 1000 / (expectedSamplesPerEpoch assembler.rate).toNat := by
  obtain ⟨-, finish, ended⟩ := admits_times admitted
  have known : (assembler.block epochIndex releaseTimestampUs).KnownRate := by
    show expectedSamplesPerEpoch assembler.rate = 1 ∨ expectedSamplesPerEpoch assembler.rate = 2 ∨
      expectedSamplesPerEpoch assembler.rate = 5
    cases assembler.rate <;> decide
  have expected : (assembler.block epochIndex releaseTimestampUs).expectedSampleCount =
      expectedSamplesPerEpoch assembler.rate := rfl
  have start : (assembler.block epochIndex releaseTimestampUs).epochStartTimestampUs =
      assembler.epochStartUs epochIndex := rfl
  obtain ⟨offset, begins, value⟩ := EncoderEpochBlock.slotStart_eq known
    (small.trans (Bucket.expectedSamplesPerEpoch_le _))
  have within : offset.toNat ≤ 1000 := by
    rw [value, expected]
    exact Nat.div_le_of_le_mul (Nat.mul_le_mul_right 1000 small)
  have bounded := (assembler.epochStartUs epochIndex + kEpochDurationUs).toNat_lt
  rw [finish] at bounded
  rw [begins, start, UInt64.toNat_add, Nat.mod_eq_of_lt (by omega), value, expected]

/-- Within an epoch the slot of an offset is the number of whole slots before it. -/
theorem slotForCaptureOffset_val (rate : EncoderRate) {offsetUs : UInt64}
    (within : offsetUs.toNat < 1000) :
    (slotForCaptureOffset rate offsetUs).val =
      offsetUs.toNat * (expectedSamplesPerEpoch rate).toNat / 1000 := by
  have duration : kEpochDurationUs.toNat = 1000 := rfl
  have wide : (expectedSamplesPerEpoch rate).toUInt64.toNat =
      (expectedSamplesPerEpoch rate).toNat := rfl
  have slots : 0 < (expectedSamplesPerEpoch rate).toNat ∧
      (expectedSamplesPerEpoch rate).toNat ≤ 5 := by
    cases rate <;> decide
  have product : offsetUs.toNat * (expectedSamplesPerEpoch rate).toNat <
      1000 * (expectedSamplesPerEpoch rate).toNat := Nat.mul_lt_mul_of_pos_right within slots.1
  unfold slotForCaptureOffset
  dsimp only
  rw [UInt64.toNat_div, UInt64.toNat_mul, duration, wide, Nat.mod_eq_of_lt (by omega : _ * _ < _)]
  omega

/-- A sample captured in the epoch lies in its slot. -/
theorem placed_of_epochOf (admitted : assembler.admits epochIndex releaseTimestampUs = true)
    {sample : RawEncoderSample} (sound : SampleSound sample)
    (begun : assembler.epochZeroTimestampUs ≤ sample.captureTimestampUs)
    (epoch : assembler.epochOf sample = epochIndex) {slot : Fin 5}
    (there : Bucket.slotAt assembler.rate (assembler.epochStartUs epochIndex) sample = slot) :
    SamplePlaced (assembler.block epochIndex releaseTimestampUs) slot
      { sample with slot := UInt8.ofNat slot } := by
  obtain ⟨start, finish, ended⟩ := admits_times admitted
  have duration : kEpochDurationUs.toNat = 1000 := rfl
  have zeroBegun := UInt64.le_iff_toNat_le.mp begun
  have number : (sample.captureTimestampUs.toNat - assembler.epochZeroTimestampUs.toNat) / 1000 =
      epochIndex.toNat := by
    rw [← epoch, epochOf, UInt64.toNat_div, UInt64.toNat_sub_of_le _ _ begun, duration]
  have within : (assembler.epochStartUs epochIndex).toNat ≤ sample.captureTimestampUs.toNat ∧
      sample.captureTimestampUs.toNat < (assembler.epochStartUs epochIndex).toNat + 1000 := by
    omega
  have offset : (sample.captureTimestampUs - assembler.epochStartUs epochIndex).toNat =
      sample.captureTimestampUs.toNat - (assembler.epochStartUs epochIndex).toNat :=
    UInt64.toNat_sub_of_le _ _ (UInt64.le_iff_toNat_le.mpr within.1)
  have early : (sample.captureTimestampUs - assembler.epochStartUs epochIndex).toNat < 1000 := by
    omega
  have slotValue := slotForCaptureOffset_val assembler.rate early
  rw [show slotForCaptureOffset assembler.rate
    (sample.captureTimestampUs - assembler.epochStartUs epochIndex) = slot from there,
    offset] at slotValue
  have below : slot.val < (expectedSamplesPerEpoch assembler.rate).toNat :=
    there ▸ Bucket.slotAt_lt sample
  have slotBegins := @slotStart_block assembler epochIndex releaseTimestampUs admitted slot.val
    (Nat.le_of_lt below)
  have slotEnds := @slotStart_block assembler epochIndex releaseTimestampUs admitted (slot.val + 1)
    below
  have split : (slot.val * 1000 / (expectedSamplesPerEpoch assembler.rate).toNat ≤
        sample.captureTimestampUs.toNat - (assembler.epochStartUs epochIndex).toNat) ∧
      sample.captureTimestampUs.toNat - (assembler.epochStartUs epochIndex).toNat <
        (slot.val + 1) * 1000 / (expectedSamplesPerEpoch assembler.rate).toNat := by
    revert slotValue
    cases assembler.rate with
    | hz1000 =>
        rw [show (expectedSamplesPerEpoch .hz1000).toNat = 1 from rfl]
        omega
    | hz2000 =>
        rw [show (expectedSamplesPerEpoch .hz2000).toNat = 2 from rfl]
        omega
    | hz5000 =>
        rw [show (expectedSamplesPerEpoch .hz5000).toNat = 5 from rfl]
        omega
  constructor
  · exact UInt64.le_iff_toNat_le.mpr within.1
  · apply UInt64.lt_iff_toNat_lt.mpr
    show sample.captureTimestampUs.toNat <
      (assembler.epochStartUs epochIndex + kEpochDurationUs).toNat
    rw [finish]
    exact within.2
  · rw [UInt64.le_iff_toNat_le, slotBegins]
    show _ ≤ sample.captureTimestampUs.toNat
    omega
  · rw [UInt64.lt_iff_toNat_lt, slotEnds]
    show sample.captureTimestampUs.toNat < _
    omega
  · exact sound.scheduled
  · exact sound.causal
  · exact sound.generated
  · exact sound.angle
  · have small : slot.val < 256 := by omega
    exact (UInt8.toNat_ofNat' ..).trans (Nat.mod_eq_of_lt small)

end FixedEpochAssembler

/-! ### Runs -/

namespace Assembly

variable {before : FixedEpochAssembler} {reset : AssemblerReset} {calls : List AssemblerCall}
  {assembly : Assembly} {epochIndex releaseTimestampUs : UInt64}

/-- A sample that is present in a block was added, and is where the validator looks for it. -/
theorem sample_of_present (run : assembly = after before reset calls)
    (sound : ∀ sample ∈ samplesAdded calls, SampleSound sample)
    (admitted : assembly.assembler.admits epochIndex releaseTimestampUs = true) {slot : Fin 5}
    (present : (assembly.assembler.block epochIndex releaseTimestampUs).presentAt slot = true) :
    ∃ sample ∈ samplesAdded calls,
      (assembly.assembler.block epochIndex releaseTimestampUs).sampleAt slot =
          { sample with slot := UInt8.ofNat slot } ∧
        SamplePlaced (assembly.assembler.block epochIndex releaseTimestampUs) slot
          { sample with slot := UInt8.ofNat slot } := by
  have assembled : Assembled assembly := run ▸ assembled_after before reset calls
  have inEpoch : AcceptedInEpoch calls assembly := run ▸ acceptedInEpoch_after before reset calls
  obtain ⟨-, sample, kept, same⟩ := FixedEpochAssembler.sampleAt_block present
  rw [assembled epochIndex, FixedEpochAssembler.filled, Bucket.fill_kept] at kept
  obtain ⟨held, there⟩ := List.mem_filter.mp (List.argmin_mem (Option.mem_def.mpr kept))
  obtain ⟨added, begun, epoch⟩ := inEpoch epochIndex sample ((assembly.held_suffix epochIndex).mem held)
  exact ⟨sample, added, same,
    FixedEpochAssembler.placed_of_epochOf admitted (sound sample added) begun epoch
      (of_decide_eq_true there).symm⟩

/-- The samples of a block were taken in the order of their slots. -/
theorem presentSamples_ordered (run : assembly = after before reset calls)
    (sound : ∀ sample ∈ samplesAdded calls, SampleSound sample)
    (ordered : (samplesAdded calls).Pairwise TakenAfter)
    (admitted : assembly.assembler.admits epochIndex releaseTimestampUs = true) :
    (assembly.assembler.block epochIndex releaseTimestampUs).presentSamples.IsChain TakenAfter := by
  apply List.Pairwise.isChain
  unfold EncoderEpochBlock.presentSamples EncoderEpochBlock.samplesIn
  rw [List.pairwise_filterMap]
  apply (List.pairwise_lt_finRange 5).imp
  intro earlier later below first firstThere second secondThere
  rw [Option.ite_none_right_eq_some] at firstThere secondThere
  obtain ⟨firstSample, firstAdded, firstSame, firstPlaced⟩ :=
    sample_of_present run sound admitted firstThere.1
  obtain ⟨secondSample, secondAdded, secondSame, secondPlaced⟩ :=
    sample_of_present run sound admitted secondThere.1
  -- The slot of the first one ends before that of the second begins.
  have inside := (FixedEpochAssembler.sampleAt_block secondThere.1).1
  have ends := @FixedEpochAssembler.slotStart_block assembly.assembler epochIndex releaseTimestampUs
    admitted (earlier.val + 1) (by omega)
  have begins := @FixedEpochAssembler.slotStart_block assembly.assembler epochIndex
    releaseTimestampUs admitted later.val (Nat.le_of_lt inside)
  have between : (earlier.val + 1) * 1000 / (expectedSamplesPerEpoch assembly.assembler.rate).toNat ≤
      later.val * 1000 / (expectedSamplesPerEpoch assembly.assembler.rate).toNat :=
    Nat.div_le_div_right (Nat.mul_le_mul_right 1000 below)
  have captured : firstSample.captureTimestampUs < secondSample.captureTimestampUs := by
    have leaves := UInt64.lt_iff_toNat_lt.mp firstPlaced.slotBefore
    have enters := UInt64.le_iff_toNat_le.mp secondPlaced.slotBegun
    rw [ends] at leaves
    rw [begins] at enters
    rw [UInt64.lt_iff_toNat_lt]
    exact Nat.lt_of_lt_of_le leaves ((Nat.add_le_add_left between _).trans enters)
  have taken := takenAfter_of_capture ordered firstAdded secondAdded captured
  rw [← Option.some.inj firstThere.2, ← Option.some.inj secondThere.2, firstSame, secondSame]
  exact ⟨taken.generation, taken.scheduled, taken.capture⟩

/-- Every block that is released passes the checks of its epoch. -/
theorem released_agrees (run : assembly = after before reset calls)
    (budget : before.deadlineBudgetUs = 100)
    (few : ∀ epochIndex, (assembly.accepted epochIndex).length ≤ 255)
    (sound : ∀ sample ∈ samplesAdded calls, SampleSound sample)
    (ordered : (samplesAdded calls).Pairwise TakenAfter) {block : EncoderEpochBlock}
    (past : releaseTimestampUs.toNat < 2 ^ 63)
    (released : (assembly.assembler.release epochIndex releaseTimestampUs).1 = some block)
    {record : LogRecord} (carries : record.encoder = block)
    (rate : record.encoderRate = assembly.assembler.rate)
    (applied : record.command.commandApplyTimestampUs < block.epochStartTimestampUs) :
    validateRecordStrict record &&& epochErrors = 0 := by
  have assembled : Assembled assembly := run ▸ assembled_after before reset calls
  have admitted : assembly.assembler.admits epochIndex releaseTimestampUs = true := by
    rcases @FixedEpochAssembler.release_cases assembly.assembler epochIndex releaseTimestampUs with
      ⟨-, same⟩ | ⟨admitted, -⟩
    · rw [same] at released
      cases released
    · exact admitted
  obtain rfl := released_block released
  have counts := @Assembled.trueCounts assembly epochIndex releaseTimestampUs assembled
    ((assembly.held_suffix epochIndex).length_le.trans (few epochIndex))
  have budgetNow : assembly.assembler.deadlineBudgetUs = 100 := by
    rw [run, deadlineBudget_after, budget]
  have late := FixedEpochAssembler.releasedLate_eq admitted budgetNow past
  obtain ⟨-, finish, ended⟩ := FixedEpochAssembler.admits_times admitted
  have checked : record.EpochChecked := by
    constructor
    · rw [carries]
      rfl
    · rw [carries, UInt64.le_iff_toNat_le]
      exact finish.le.trans ended
    · rw [carries, rate]
      rfl
    · rw [carries]
      exact counts.consistent
    · exact flags_agree counts late carries (carries ▸ applied)
  apply checked.errors
  · rw [carries]
    intro slot _ present
    obtain ⟨sample, added, same, placed⟩ := sample_of_present run sound admitted present
    rw [same]
    exact ⟨placed, (sound sample added).diagnostic⟩
  · rw [carries]
    exact presentSamples_ordered run sound ordered admitted

/-- One sample in an epoch that begins at 1 ms, with this generation -/
def sampleOf (generation : UInt64) : RawEncoderSample where
  generation
  scheduledTimestampUs := 1500
  captureTimestampUs := 1500
  valid := true

/-- The record of its epoch -/
def recordOf (generation : UInt64) : LogRecord where
  command := { commandApplyTimestampUs := 1 }
  encoder :=
    (after {} (.zeroRate .hz1000 1000) [.add (sampleOf generation)]).assembler.block 0 2000

theorem released_agrees_first : validateRecordStrict (recordOf 1) &&& epochErrors = 0 := by
  have few : ∀ epochIndex,
      ((after {} (.zeroRate .hz1000 1000) [.add (sampleOf 1)]).accepted epochIndex).length ≤ 255 := by
    intro epochIndex
    have start : (after {} (.zeroRate .hz1000 1000) [.add (sampleOf 1)]).accepted epochIndex =
        acceptedAfter _ epochIndex [] (.added (sampleOf 1)
          ((FixedEpochAssembler.resetBy {} (.zeroRate .hz1000 1000)).add (sampleOf 1)).1) := rfl
    rw [start, show ((FixedEpochAssembler.resetBy {} (.zeroRate .hz1000 1000)).add
      (sampleOf 1)).1 = .accepted from by decide +kernel, acceptedAfter]
    split <;> simp
  have sound : ∀ sample ∈ samplesAdded [.add (sampleOf 1)], SampleSound sample := by
    intro sample within
    rw [List.mem_singleton.mp within]
    constructor <;> decide
  exact released_agrees rfl rfl few sound (List.pairwise_singleton _ _) (by decide)
    (FixedEpochAssembler.release_returns (by decide +kernel) (by decide +kernel)) rfl rfl
    (by decide)

/-- The first sample may have generation 0 and still be followed by greater ones; then its record is
refused. -/
theorem released_refused_unnumbered :
    ((after {} (.zeroRate .hz1000 1000)
          [.add (sampleOf 0)]).assembler.release 0 2000).1 = some (recordOf 0).encoder ∧
      validateRecordStrict (recordOf 0) &&& epochErrors = SampleOutsideEpoch := by
  decide +kernel

end Assembly

end MissionBoard.Characterization
