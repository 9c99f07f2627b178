import MissionBoard.Characterization.RecordRoundTrip

/-!
Owns `validateCapture` of `characterization/log_format_v5.cpp`, and what a capture is that it
accepts: header, records and footer decode, the records follow each other, and the footer
agrees with what the records add up to.

The totals of the scan are what the records seen so far add up to, so that the loop is a
statement about the list of records.
-/

namespace MissionBoard.Characterization

open ByteLayout

/-! ### The scan -/

/-- `CaptureSummary` of a capture that is accepted -/
structure CaptureSummary where
  records : UInt64 := 0
  firstSequence : UInt64 := 0
  lastSequence : UInt64 := 0
deriving DecidableEq

/-- What the loop keeps of the raw samples: `previous_raw_generation`, `previous_raw_scheduled`,
`previous_raw_capture`, `raw_transport_errors` and `raw_status_errors` -/
structure RawScan where
  previousGeneration : UInt64 := 0
  previousScheduled : UInt64 := 0
  previousCapture : UInt64 := 0
  transportErrors : UInt64 := 0
  statusErrors : UInt64 := 0

/-- One sample; nothing when it was not taken after the one before -/
def RawScan.takeSample (scan : RawScan) (sample : RawEncoderSample) : Option RawScan :=
  if scan.previousGeneration ≠ 0 ∧
      (sample.generation ≤ scan.previousGeneration ∨
        sample.scheduledTimestampUs ≤ scan.previousScheduled ∨
        sample.captureTimestampUs ≤ scan.previousCapture) then
    none
  else
    some
      { previousGeneration := sample.generation
        previousScheduled := sample.scheduledTimestampUs
        previousCapture := sample.captureTimestampUs
        transportErrors := scan.transportErrors + if sample.readResultCode ≠ 0 then 1 else 0
        statusErrors :=
          scan.statusErrors + if sample.diagnosticFlags &&& 0x0038 ≠ 0 then 1 else 0 }

/-- The slots of a record -/
def RawScan.takeSamples (scan : RawScan) (block : EncoderEpochBlock) : Option RawScan :=
  (List.finRange 5).foldlM (fun scan slot =>
    if block.presentAt slot then scan.takeSample (block.sampleAt slot) else some scan) scan

/-- Where the loop over the records stands. `previous_sequence` and `previous_epoch` are those
of `previousRecord`. -/
structure CaptureScan where
  raw : RawScan := {}
  previousRecord : LogRecord := {}
  repeatedTotal : UInt64 := 0
  skippedTotal : UInt64 := 0
  invalidTotal : UInt64 := 0
  lateFlagTotal : UInt64 := 0
  startupTotal : UInt64 := 0
  steadyIncompleteTotal : UInt64 := 0
  deadlineTotal : UInt64 := 0
  vbusInvalidTotal : UInt64 := 0
  aggregateValidTotal : UInt32 := 0
  recordFirstError : Int32 := 0
  phasesSeen : ProfilePhase → Bool := fun _ => false
  recordErrorPresent : Bool := false
  firstSequence : UInt64 := 0

/-- `stable_command` -/
def stableCommand (previous current : CommandEvidence) : Bool :=
  current.requestedCommandPermille == previous.requestedCommandPermille &&
    current.requestedMotorMode == previous.requestedMotorMode &&
    current.appliedCommandPermille == previous.appliedCommandPermille &&
    current.appliedMotorMode == previous.appliedMotorMode &&
    current.applyResultCode == previous.applyResultCode &&
    current.commandApplyTimestampUs == previous.commandApplyTimestampUs

/-- `flag ? 1U : 0U` -/
def countIf (flag : Bool) : UInt64 := if flag then 1 else 0

/-- An epoch that is incomplete though it is not the startup -/
def EncoderEpochBlock.steadyIncomplete (block : EncoderEpochBlock) : Bool :=
  hasFlag block.flags EpochIncomplete && !hasFlag block.flags EpochStartup

/-- The record tells of an error. -/
def LogRecord.reportsError (record : LogRecord) : Bool :=
  record.abortReason != .none || record.firstError != 0 || record.command.applyResultCode != 0

/-- The totals after a record that passed the checks -/
def CaptureScan.addRecord (scan : CaptureScan) (index : ℕ) (record : LogRecord) (raw : RawScan) :
    CaptureScan where
  raw := raw
  previousRecord := record
  repeatedTotal := scan.repeatedTotal + record.encoder.repeatedSampleCount.toUInt64
  skippedTotal := scan.skippedTotal + record.encoder.skippedSampleCount.toUInt64
  invalidTotal := scan.invalidTotal + record.encoder.invalidSampleCount.toUInt64
  lateFlagTotal := scan.lateFlagTotal + countIf (hasFlag record.encoder.flags EpochLate)
  startupTotal := scan.startupTotal + countIf (hasFlag record.encoder.flags EpochStartup)
  steadyIncompleteTotal := scan.steadyIncompleteTotal + countIf record.encoder.steadyIncomplete
  deadlineTotal := scan.deadlineTotal + countIf (hasFlag record.encoder.flags EpochDeadline)
  vbusInvalidTotal := scan.vbusInvalidTotal + countIf (!record.power.valid)
  aggregateValidTotal :=
    scan.aggregateValidTotal + if hasFlag record.encoder.flags EpochAggregateValid then 1 else 0
  recordFirstError :=
    if record.firstError ≠ 0 ∧ scan.recordFirstError = 0 then record.firstError
    else scan.recordFirstError
  phasesSeen phase := if phase = record.profilePhase then true else scan.phasesSeen phase
  recordErrorPresent := scan.recordErrorPresent || record.reportsError
  firstSequence := if index = 0 then record.sequence else scan.firstSequence

/-- The checks of one record -/
def CaptureScan.takeRecord (header : LogHeader) (index : ℕ) (scan : CaptureScan)
    (record : LogRecord) : Except DecodeError CaptureScan :=
  let previous := scan.previousRecord
  if record.stage ≠ header.stage ∨ record.encoderRate ≠ header.encoderRate ∨
      record.runKind ≠ header.runKind ∨
      record.encoder.epochStartTimestampUs ≠
        header.epochZeroTimestampUs + record.encoder.epochIndex * kEpochDurationUs ∨
      (index ≠ 0 ∧
        (record.sequence ≠ previous.sequence + 1 ∨
          record.encoder.epochIndex ≠ previous.encoder.epochIndex + 1 ∨
          record.command.commandGeneration < previous.command.commandGeneration)) then
    .error .sequence
  else if header.runKind = .rateCheck ∧
      (record.profilePhase ≠ .stationaryBaseline ∨ record.episodeIndex ≠ 1 ∨
        record.approachBranch ≠ .none) then
    .error .invariant
  else if record.firstError ≠ 0 ∧ scan.recordFirstError ≠ 0 ∧
      scan.recordFirstError ≠ record.firstError then
    .error .invariant
  else if index ≠ 0 ∧
      record.command.commandGeneration = previous.command.commandGeneration ∧
      stableCommand previous.command record.command = false then
    .error .invariant
  else if index ≠ 0 ∧
      record.command.commandGeneration > previous.command.commandGeneration ∧
      (record.command.commandApplyTimestampUs ≤ previous.command.commandApplyTimestampUs ∨
        record.command.commandApplyTimestampUs < record.encoder.epochStartTimestampUs) then
    .error .invariant
  else
    match scan.raw.takeSamples record.encoder with
    | none => .error .sequence
    | some raw => .ok (scan.addRecord index record raw)

/-- The bytes of the record with this index -/
def recordChunk (data : List UInt8) (index : ℕ) : List UInt8 :=
  (data.drop (kHeaderBytes + index * kRecordBytes)).take kRecordBytes

/-- One turn of the loop -/
def CaptureScan.step (data : List UInt8) (header : LogHeader) (scan : CaptureScan) (index : ℕ) :
    Except DecodeError CaptureScan :=
  match decodeRecord (recordChunk data index) with
  | .error error => .error error
  | .ok record => scan.takeRecord header index record

/-! ### The closing checks -/

/-- `footer_consistent` -/
def footerConsistent (header : LogHeader) (footer : LogFooter) (recordCount : UInt64)
    (scan : CaptureScan) : Bool :=
  let statistics := footer.statistics
  let rateCheck := header.runKind == .rateCheck
  shutdownPrefix footer.shutdownStepMask &&
    (!footer.completion.finished || footer.shutdownStepMask == 0x3F) &&
    (footer.completion != .unsupported || rateCheck) &&
    (footer.completion != .unsupported || hasUnsupportedEvidence footer) &&
    (footer.completion != .unsupported || statistics.vbusInvalidSamples == 0) &&
    statistics.repeatedSamples == scan.repeatedTotal &&
    statistics.skippedSamples == scan.skippedTotal &&
    statistics.invalidSamples == scan.invalidTotal &&
    statistics.lateAfterRelease ≥ scan.lateFlagTotal &&
    statistics.startupIncompleteEpochs == scan.startupTotal &&
    statistics.steadyStateIncompleteEpochs == scan.steadyIncompleteTotal &&
    statistics.consumerDeadlineMisses ≥ scan.deadlineTotal &&
    statistics.vbusInvalidSamples ≥ scan.vbusInvalidTotal &&
    statistics.encoderTransportErrors ≥ scan.raw.transportErrors &&
    statistics.encoderStatusFaults ≥ scan.raw.statusErrors &&
    ((rateCheck && footer.qualificationTotalEpochs.toUInt64 == recordCount &&
        footer.qualificationValidEpochs == scan.aggregateValidTotal) ||
      (!rateCheck && footer.qualificationTotalEpochs == 0 &&
        footer.qualificationValidEpochs == 0))

/-- `fatal` of a run that ended normally -/
def normalFatal (footer : LogFooter) (recordCount : UInt64) (scan : CaptureScan) : Bool :=
  let statistics := footer.statistics
  recordCount == 0 || statistics.firstError != 0 || scan.recordErrorPresent ||
    statistics.rawQueueOverflows != 0 || statistics.writerQueueOverflows != 0 ||
    statistics.encoderTransportErrors != 0 || statistics.encoderStatusFaults != 0 ||
    statistics.vbusInvalidSamples != 0 || statistics.steadyStateIncompleteEpochs != 0 ||
    statistics.consumerDeadlineMisses != 0

/-- The phases 1 to 14, which a full run that ended normally must show -/
def requiredPhases : List ProfilePhase :=
  [.stationaryBaseline, .zeroApproach, .polarityCheck, .breakawaySweep, .sustainedMotionSweep,
    .boundedPulseGrid, .coast, .shortBrake, .positiveToNegative, .negativeToPositive, .boundedPrbs,
    .bandLimitedNoise, .chirp, .recenter]

/-- `summary.last_sequence` -/
def CaptureScan.lastSequence (scan : CaptureScan) (recordCount : UInt64) : UInt64 :=
  if recordCount = 0 then 0 else scan.previousRecord.sequence

/-- What `validateCapture` does once the footer is decoded. `beforeFooter` is what the file
checksum covers. -/
def closeCapture (header : LogHeader) (footer : LogFooter) (recordCount : UInt64)
    (beforeFooter : List UInt8) (scan : CaptureScan) : Except DecodeError CaptureSummary :=
  if footer.totalRecords ≠ recordCount ∨
      (recordCount ≠ 0 ∧
        (footer.firstSequence ≠ scan.firstSequence ∨ footer.lastSequence ≠ scan.lastSequence recordCount)) then
    .error .sequence
  else if footerConsistent header footer recordCount scan = false then .error .invariant
  else if footer.completion = .normal ∧ normalFatal footer recordCount scan = true then
    .error .invariant
  else if footer.completion = .normal ∧ header.runKind ≠ .rateCheck ∧
      requiredPhases.all scan.phasesSeen = false then
    .error .invariant
  else if scan.recordFirstError ≠ 0 ∧
      footer.statistics.firstError ≠ scan.recordFirstError then
    .error .invariant
  else if footer.fileCrc32 ≠ crc32 beforeFooter 0 then .error .crc
  else
    .ok
      { records := recordCount
        firstSequence := scan.firstSequence
        lastSequence := scan.lastSequence recordCount }

/-- `validateCapture` -/
def validateCapture (data : List UInt8) : Except DecodeError CaptureSummary :=
  let payload := data.length - kHeaderBytes - kFooterBytes
  if data.length < kHeaderBytes + kFooterBytes then .error .truncated
  else if payload % kRecordBytes ≠ 0 then .error .trailingBytes
  else do
    let recordCount := payload / kRecordBytes
    let header ← decodeHeader (data.take kHeaderBytes)
    let scan ← (List.range recordCount).foldlM (CaptureScan.step data header) {}
    let footer ← decodeFooter ((data.drop (kHeaderBytes + payload)).take kFooterBytes)
    closeCapture header footer (UInt64.ofNat recordCount) (data.take (kHeaderBytes + payload)) scan

/-! ### What the scan adds up -/

variable {records : List LogRecord} {record : LogRecord}

/-- The samples of the records, in the order of the records -/
def rawSamples (records : List LogRecord) : List RawEncoderSample :=
  records.flatMap fun record => record.encoder.presentSamples

/-- What the loop has kept of these samples -/
def rawScanOf (samples : List RawEncoderSample) : RawScan where
  previousGeneration := (samples.getLastD {}).generation
  previousScheduled := (samples.getLastD {}).scheduledTimestampUs
  previousCapture := (samples.getLastD {}).captureTimestampUs
  transportErrors := UInt64.ofNat (samples.countP fun sample => sample.readResultCode ≠ 0)
  statusErrors :=
    UInt64.ofNat (samples.countP fun sample => sample.diagnosticFlags &&& 0x0038 ≠ 0)

/-- The first error that a record names, if one does -/
def firstErrorOf (records : List LogRecord) : Int32 :=
  ((records.map LogRecord.firstError).find? (· ≠ 0)).getD 0

/-- What the loop has kept of these records -/
def scanOf (records : List LogRecord) : CaptureScan where
  raw := rawScanOf (rawSamples records)
  previousRecord := records.getLastD {}
  repeatedTotal :=
    UInt64.ofNat (records.map fun record => record.encoder.repeatedSampleCount.toNat).sum
  skippedTotal :=
    UInt64.ofNat (records.map fun record => record.encoder.skippedSampleCount.toNat).sum
  invalidTotal :=
    UInt64.ofNat (records.map fun record => record.encoder.invalidSampleCount.toNat).sum
  lateFlagTotal :=
    UInt64.ofNat (records.countP fun record => hasFlag record.encoder.flags EpochLate)
  startupTotal :=
    UInt64.ofNat (records.countP fun record => hasFlag record.encoder.flags EpochStartup)
  steadyIncompleteTotal :=
    UInt64.ofNat (records.countP fun record => record.encoder.steadyIncomplete)
  deadlineTotal :=
    UInt64.ofNat (records.countP fun record => hasFlag record.encoder.flags EpochDeadline)
  vbusInvalidTotal := UInt64.ofNat (records.countP fun record => !record.power.valid)
  aggregateValidTotal :=
    UInt32.ofNat (records.countP fun record => hasFlag record.encoder.flags EpochAggregateValid)
  recordFirstError := firstErrorOf records
  phasesSeen phase := records.any fun record => phase = record.profilePhase
  recordErrorPresent := records.any LogRecord.reportsError
  firstSequence := (records.headD {}).sequence

theorem takeSample_rawScanOf {seen : List RawEncoderSample} {sample : RawEncoderSample}
    {next : RawScan} (generated : ∀ earlier ∈ seen, earlier.generation ≠ 0) :
    (rawScanOf seen).takeSample sample = some next ↔
      (∀ last ∈ seen.getLast?, TakenAfter last sample) ∧ rawScanOf (seen ++ [sample]) = next := by
  have counted : rawScanOf (seen ++ [sample]) =
      { previousGeneration := sample.generation
        previousScheduled := sample.scheduledTimestampUs
        previousCapture := sample.captureTimestampUs
        transportErrors :=
          (rawScanOf seen).transportErrors + if sample.readResultCode ≠ 0 then 1 else 0
        statusErrors :=
          (rawScanOf seen).statusErrors +
            if sample.diagnosticFlags &&& 0x0038 ≠ 0 then 1 else 0 } := by
    unfold rawScanOf
    simp only [List.countP_append, List.countP_singleton, UInt64.ofNat_add, List.getLastD_concat]
    congr 2
    · split_ifs <;> simp_all
    · split_ifs <;> simp_all
  unfold RawScan.takeSample
  rw [counted]
  cases seen using List.reverseRecOn with
  | nil => simp [rawScanOf]
  | append_singleton earlier last =>
      have lastGenerated : last.generation ≠ 0 := generated last (by simp)
      have kept : rawScanOf (earlier ++ [last]) =
          { rawScanOf (earlier ++ [last]) with
            previousGeneration := last.generation
            previousScheduled := last.scheduledTimestampUs
            previousCapture := last.captureTimestampUs } := by
        simp [rawScanOf]
      have after : (∀ previous ∈ (earlier ++ [last]).getLast?, TakenAfter previous sample) ↔
          ¬ (sample.generation ≤ last.generation ∨
            sample.scheduledTimestampUs ≤ last.scheduledTimestampUs ∨
            sample.captureTimestampUs ≤ last.captureTimestampUs) := by
        simp only [List.getLast?_append, List.getLast?_singleton, Option.mem_def,
          Option.some.injEq, forall_eq', not_or, UInt64.not_le, Option.some_or]
        exact ⟨fun after => ⟨after.generation, after.scheduled, after.capture⟩,
          fun ⟨generation, scheduled, capture⟩ => ⟨generation, scheduled, capture⟩⟩
      rw [after, kept]
      dsimp only
      by_cases behind : sample.generation ≤ last.generation ∨
          sample.scheduledTimestampUs ≤ last.scheduledTimestampUs ∨
          sample.captureTimestampUs ≤ last.captureTimestampUs
      · rw [if_pos ⟨lastGenerated, behind⟩]
        simp [behind]
      · rw [if_neg fun both => behind both.2, Option.some.injEq]
        simp only [behind, not_false_eq_true, true_and]

/-- Samples pass when each was taken after the one before. -/
theorem foldlM_takeSample_rawScanOf {samples seen : List RawEncoderSample} {next : RawScan}
    (generated : ∀ sample ∈ seen ++ samples, sample.generation ≠ 0) :
    samples.foldlM RawScan.takeSample (rawScanOf seen) = some next ↔
      ((∀ last ∈ seen.getLast?, ∀ first ∈ samples.head?, TakenAfter last first) ∧
        samples.IsChain TakenAfter) ∧ rawScanOf (seen ++ samples) = next := by
  induction samples generalizing seen with
  | nil => simp
  | cons sample rest inductionHypothesis =>
      have earlier : ∀ other ∈ seen, other.generation ≠ 0 :=
        fun other within => generated other (List.mem_append_left _ within)
      have grouped : seen ++ sample :: rest = seen ++ [sample] ++ rest := by simp
      rw [grouped] at generated
      rw [List.foldlM_cons, List.isChain_cons, grouped]
      constructor
      · intro passed
        obtain ⟨middle, taken, passed⟩ := Option.bind_eq_some_iff.mp passed
        obtain ⟨after, rfl⟩ := (takeSample_rawScanOf earlier).mp taken
        obtain ⟨⟨linked, chain⟩, total⟩ := (inductionHypothesis generated).mp passed
        refine ⟨⟨?_, ?_, chain⟩, total⟩
        · intro last within first head
          rw [← Option.some.inj head]
          exact after last within
        · exact linked sample (by simp)
      · rintro ⟨⟨linked, next, chain⟩, total⟩
        refine Option.bind_eq_some_iff.mpr ⟨rawScanOf (seen ++ [sample]),
          (takeSample_rawScanOf earlier).mpr ⟨fun last within => linked last within sample rfl, rfl⟩,
          (inductionHypothesis generated).mpr ⟨⟨?_, chain⟩, total⟩⟩
        intro last within first head
        rw [List.getLast?_append, List.getLast?_singleton, Option.some_or] at within
        rw [← Option.some.inj within]
        exact next first head

theorem takeSamples_eq_foldlM (scan : RawScan) (block : EncoderEpochBlock) :
    scan.takeSamples block = block.presentSamples.foldlM RawScan.takeSample scan := by
  unfold RawScan.takeSamples EncoderEpochBlock.presentSamples EncoderEpochBlock.samplesIn
  rw [List.foldlM_filterMap]
  congr 1
  funext scan slot
  split_ifs <;> rfl

/-! ### What the checks of a record say -/

/-- What a record must share with the header -/
structure RecordFits (header : LogHeader) (record : LogRecord) : Prop where
  stage : record.stage = header.stage
  rate : record.encoderRate = header.encoderRate
  run : record.runKind = header.runKind
  start : record.encoder.epochStartTimestampUs =
    header.epochZeroTimestampUs + record.encoder.epochIndex * kEpochDurationUs
  stationary : header.runKind = .rateCheck →
    record.profilePhase = .stationaryBaseline ∧ record.episodeIndex = 1 ∧
      record.approachBranch = .none

/-- What two records in a row must satisfy -/
structure Follows (previous record : LogRecord) : Prop where
  sequence : record.sequence = previous.sequence + 1
  epoch : record.encoder.epochIndex = previous.encoder.epochIndex + 1
  generation : previous.command.commandGeneration ≤ record.command.commandGeneration
  stable : record.command.commandGeneration = previous.command.commandGeneration →
    stableCommand previous.command record.command = true
  renewed : previous.command.commandGeneration < record.command.commandGeneration →
    previous.command.commandApplyTimestampUs < record.command.commandApplyTimestampUs ∧
      record.encoder.epochStartTimestampUs ≤ record.command.commandApplyTimestampUs

/-- A record that comes after others -/
structure Continues (header : LogHeader) (records : List LogRecord) (record : LogRecord) :
    Prop where
  fits : RecordFits header record
  follows : ∀ last ∈ records.getLast?, Follows last record
  linked : ∀ last ∈ (rawSamples records).getLast?,
    ∀ first ∈ record.encoder.presentSamples.head?, TakenAfter last first
  samples : record.encoder.presentSamples.IsChain TakenAfter
  firstError : record.firstError ≠ 0 → firstErrorOf records ≠ 0 →
    firstErrorOf records = record.firstError

theorem firstErrorOf_append (records : List LogRecord) (record : LogRecord) :
    firstErrorOf (records ++ [record]) =
      if record.firstError ≠ 0 ∧ firstErrorOf records = 0 then record.firstError
      else firstErrorOf records := by
  unfold firstErrorOf
  rw [List.map_append, List.find?_append]
  cases found : (records.map LogRecord.firstError).find? (· ≠ 0) with
  | some error =>
      have isError := List.find?_some found
      have nonzero : error ≠ 0 := by simpa using isError
      simp [nonzero]
  | none =>
      by_cases clean : record.firstError = 0
      · simp [clean]
      · simp [clean]

theorem ofNat_countP_append {α : Type*} (holds : α → Bool) (items : List α) (item : α) :
    UInt64.ofNat ((items ++ [item]).countP holds) =
      UInt64.ofNat (items.countP holds) + countIf (holds item) := by
  rw [List.countP_append, UInt64.ofNat_add, List.countP_singleton]
  unfold countIf
  split_ifs <;> rfl

theorem ofNat_sum_append {α : Type*} (value : α → UInt8) (items : List α) (item : α) :
    UInt64.ofNat ((items ++ [item]).map fun item => (value item).toNat).sum =
      UInt64.ofNat (items.map fun item => (value item).toNat).sum + (value item).toUInt64 := by
  rw [List.map_append, List.sum_append, UInt64.ofNat_add, List.map_singleton, List.sum_singleton,
    UInt64.ofNat_uInt8ToNat]

theorem addRecord_scanOf (records : List LogRecord) (record : LogRecord) :
    (scanOf records).addRecord records.length record
        (rawScanOf (rawSamples records ++ record.encoder.presentSamples)) =
      scanOf (records ++ [record]) := by
  have raw : rawSamples (records ++ [record]) =
      rawSamples records ++ record.encoder.presentSamples := by
    simp [rawSamples]
  have aggregate : UInt32.ofNat ((records ++ [record]).countP fun record =>
        hasFlag record.encoder.flags EpochAggregateValid) =
      UInt32.ofNat (records.countP fun record =>
        hasFlag record.encoder.flags EpochAggregateValid) +
        if hasFlag record.encoder.flags EpochAggregateValid then 1 else 0 := by
    rw [List.countP_append, UInt32.ofNat_add, List.countP_singleton]
    split_ifs <;> rfl
  have phases : (fun phase => (records ++ [record]).any fun record => phase = record.profilePhase) =
      fun phase => if phase = record.profilePhase then true
        else records.any fun record => phase = record.profilePhase := by
    funext phase
    by_cases here : phase = record.profilePhase
    · simp [here]
    · simp [here]
  have sequence : ((records ++ [record]).headD {}).sequence =
      if records.length = 0 then record.sequence else (records.headD {}).sequence := by
    cases records <;> simp
  unfold CaptureScan.addRecord scanOf
  rw [raw, aggregate, phases, sequence, firstErrorOf_append, ofNat_countP_append,
    ofNat_countP_append, ofNat_countP_append, ofNat_countP_append, ofNat_countP_append,
    ofNat_sum_append, ofNat_sum_append, ofNat_sum_append, List.any_append, List.getLastD_concat]
  simp

theorem follows_getLast_iff :
    (∀ last ∈ records.getLast?, Follows last record) ↔
      (records.length ≠ 0 → Follows (records.getLastD {}) record) := by
  cases records using List.reverseRecOn with
  | nil => simp
  | append_singleton earlier last => simp

/-- A record passes its checks when it continues the records before it. -/
theorem takeRecord_scanOf {header : LogHeader} {next : CaptureScan}
    (generated : ∀ sample ∈ rawSamples records ++ record.encoder.presentSamples,
      sample.generation ≠ 0) :
    (scanOf records).takeRecord header records.length record = .ok next ↔
      Continues header records record ∧ scanOf (records ++ [record]) = next := by
  have previous : (scanOf records).previousRecord = records.getLastD {} := rfl
  have firstError : (scanOf records).recordFirstError = firstErrorOf records := rfl
  have raw : (scanOf records).raw = rawScanOf (rawSamples records) := rfl
  unfold CaptureScan.takeRecord
  dsimp only
  rw [previous, firstError, raw, takeSamples_eq_foldlM]
  constructor
  · intro passed
    split_ifs at passed with identity stationary error unstable early
    simp only [not_or, not_not, not_and, UInt64.not_lt] at identity
    obtain ⟨stage, rate, run, start, sequence⟩ := identity
    cases samples : record.encoder.presentSamples.foldlM RawScan.takeSample
        (rawScanOf (rawSamples records)) with
    | none =>
        rw [samples] at passed
        cases passed
    | some scan =>
        rw [samples] at passed
        obtain ⟨⟨linked, chain⟩, rfl⟩ := (foldlM_takeSample_rawScanOf generated).mp samples
        rw [← addRecord_scanOf]
        refine ⟨⟨⟨stage, rate, run, start, ?_⟩, follows_getLast_iff.mpr ?_, linked, chain, ?_⟩,
          Except.ok.inj passed⟩
        · intro check
          simpa [check, and_assoc] using stationary
        · intro started
          have inOrder := sequence started
          refine ⟨inOrder.1, inOrder.2.1, inOrder.2.2, ?_, ?_⟩
          · intro same
            simpa [started, same] using unstable
          · intro newer
            simp only [not_and, not_or, UInt64.not_le, UInt64.not_lt] at early
            exact early started newer
        · intro reported seen
          by_contra other
          exact error ⟨reported, seen, other⟩
  · rintro ⟨continues, rfl⟩
    have follows := follows_getLast_iff.mp continues.follows
    have fits := continues.fits
    have samples := (foldlM_takeSample_rawScanOf generated).mpr
      ⟨⟨continues.linked, continues.samples⟩, rfl⟩
    rw [if_neg, if_neg, if_neg, if_neg, if_neg, samples]
    · dsimp only
      rw [addRecord_scanOf]
    · rintro ⟨started, newer, early⟩
      have renewed := (follows started).renewed newer
      rcases early with before | outside
      · exact absurd renewed.1 (UInt64.not_lt.mpr before)
      · exact absurd renewed.2 (UInt64.not_le.mpr outside)
    · rintro ⟨started, same, unstable⟩
      rw [(follows started).stable same] at unstable
      cases unstable
    · rintro ⟨reported, seen, other⟩
      exact other (continues.firstError reported seen)
    · rintro ⟨check, moved⟩
      simp [fits.stationary check] at moved
    · simp only [not_or, not_not, not_and, UInt64.not_lt]
      exact ⟨fits.stage, fits.rate, fits.run, fits.start, fun started =>
        ⟨(follows started).sequence, (follows started).epoch, (follows started).generation⟩⟩

/-! ### The loop -/

/-- The records that stand in the payload, one after another -/
def Decodes (data : List UInt8) (records : List LogRecord) : Prop :=
  (List.range records.length).map (fun index => decodeRecord (recordChunk data index)) =
    records.map Except.ok

theorem decodes_append_iff {data : List UInt8} :
    Decodes data (records ++ [record]) ↔
      Decodes data records ∧ decodeRecord (recordChunk data records.length) = .ok record := by
  unfold Decodes
  rw [List.length_append, List.length_singleton, List.range_succ, List.map_append, List.map_append,
    List.map_singleton, List.map_singleton]
  constructor
  · intro same
    obtain ⟨before, last⟩ := List.append_inj same (by simp)
    exact ⟨before, List.singleton_inj.mp last⟩
  · rintro ⟨before, last⟩
    rw [before, last]

theorem exists_chunk_of_decodes {data : List UInt8} (decodes : Decodes data records)
    (within : record ∈ records) :
    ∃ index < records.length, decodeRecord (recordChunk data index) = .ok record := by
  have image : Except.ok record ∈ records.map (@Except.ok DecodeError LogRecord) :=
    List.mem_map_of_mem within
  rw [← decodes] at image
  obtain ⟨index, inside, decoded⟩ := List.mem_map.mp image
  exact ⟨index, List.mem_range.mp inside, decoded⟩

theorem valid_of_decodeRecord {data : List UInt8} (decoded : decodeRecord data = .ok record) :
    validateRecordStrict record = 0 := by
  obtain ⟨encoderRate, _, sound, rfl⟩ := decodeRecord_eq_ok_iff.mp decoded
  exact sound.valid

theorem generated_of_valid (valid : validateRecordStrict record = 0) :
    ∀ sample ∈ record.encoder.presentSamples, sample.generation ≠ 0 := by
  intro sample within
  obtain ⟨_, sound, _, _⟩ := (validateRecordStrict_eq_zero_iff record).mp valid
  obtain ⟨slot, inside, found⟩ := List.mem_filterMap.mp within
  split_ifs at found with present
  rw [← Option.some.inj found]
  exact (sound slot inside present).1.generated

theorem generated_of_decodes {data : List UInt8} (decodes : Decodes data records) :
    ∀ sample ∈ rawSamples records, sample.generation ≠ 0 := by
  intro sample within
  obtain ⟨record, inside, present⟩ := List.mem_flatMap.mp within
  obtain ⟨_, _, decoded⟩ := exists_chunk_of_decodes decodes inside
  exact generated_of_valid (valid_of_decodeRecord decoded) sample present

/-- Records that fit the header and each other -/
structure RecordsFit (header : LogHeader) (records : List LogRecord) : Prop where
  fits : ∀ record ∈ records, RecordFits header record
  chain : records.IsChain Follows
  samples : (rawSamples records).IsChain TakenAfter
  firstError : ∀ record ∈ records, record.firstError ≠ 0 → record.firstError = firstErrorOf records

theorem firstErrorOf_eq_zero_iff :
    firstErrorOf records = 0 ↔ ∀ record ∈ records, record.firstError = 0 := by
  induction records using List.reverseRecOn with
  | nil => simp [firstErrorOf]
  | append_singleton earlier record inductionHypothesis =>
      rw [firstErrorOf_append, List.forall_mem_append, List.forall_mem_singleton,
        ← inductionHypothesis]
      by_cases clean : record.firstError = 0
      · simp [clean]
      · by_cases before : firstErrorOf earlier = 0
        · simp [clean, before]
        · simp [before]

/-- One first error for all records, when there was one for those before -/
theorem firstError_append_iff :
    (∀ other ∈ records ++ [record], other.firstError ≠ 0 →
        other.firstError = firstErrorOf (records ++ [record])) ↔
      (∀ other ∈ records, other.firstError ≠ 0 → other.firstError = firstErrorOf records) ∧
        (record.firstError ≠ 0 → firstErrorOf records ≠ 0 →
          firstErrorOf records = record.firstError) := by
  rw [firstErrorOf_append, List.forall_mem_append, List.forall_mem_singleton]
  by_cases before : firstErrorOf records = 0
  · have clean := firstErrorOf_eq_zero_iff.mp before
    by_cases reported : record.firstError = 0
    · simp [before, reported]
    · rw [if_pos ⟨reported, before⟩, before]
      have vacuous : ∀ (error : Int32), ∀ other ∈ records, other.firstError ≠ 0 →
          other.firstError = error :=
        fun _ other within named => absurd (clean other within) named
      exact ⟨fun _ => ⟨vacuous 0, fun _ seen => absurd rfl seen⟩,
        fun _ => ⟨vacuous record.firstError, fun _ => rfl⟩⟩
  · rw [if_neg fun both => before both.2]
    exact and_congr_right fun _ =>
      ⟨fun same reported _ => (same reported).symm, fun same reported => (same reported before).symm⟩

theorem recordsFit_append_iff {header : LogHeader} :
    RecordsFit header (records ++ [record]) ↔
      RecordsFit header records ∧ Continues header records record := by
  have raw : rawSamples (records ++ [record]) =
      rawSamples records ++ record.encoder.presentSamples := by
    simp [rawSamples]
  constructor
  · intro whole
    have fits := whole.fits
    have chain := whole.chain
    have samples := whole.samples
    have firstError := firstError_append_iff.mp whole.firstError
    rw [List.forall_mem_append, List.forall_mem_singleton] at fits
    rw [List.isChain_append] at chain
    rw [raw, List.isChain_append] at samples
    exact ⟨⟨fits.1, chain.1, samples.1, firstError.1⟩,
      ⟨fits.2, fun last within => chain.2.2 last within record rfl, samples.2.2, samples.2.1,
        firstError.2⟩⟩
  · rintro ⟨before, continues⟩
    refine ⟨?_, ?_, ?_, firstError_append_iff.mpr ⟨before.firstError, continues.firstError⟩⟩
    · rw [List.forall_mem_append, List.forall_mem_singleton]
      exact ⟨before.fits, continues.fits⟩
    · refine List.isChain_append.mpr ⟨before.chain, List.isChain_singleton record, ?_⟩
      intro last within first head
      rw [← Option.some.inj head]
      exact continues.follows last within
    · rw [raw]
      exact List.isChain_append.mpr ⟨before.samples, continues.samples, continues.linked⟩

/-- The loop passes when the records decode and fit. -/
theorem foldlM_step_eq_ok_iff {data : List UInt8} {header : LogHeader} (count : ℕ)
    {scan : CaptureScan} :
    (List.range count).foldlM (CaptureScan.step data header) {} = .ok scan ↔
      ∃ records, records.length = count ∧ Decodes data records ∧ RecordsFit header records ∧
        scanOf records = scan := by
  induction count generalizing scan with
  | zero =>
      constructor
      · intro passed
        exact ⟨[], rfl, rfl, ⟨by simp, List.isChain_nil, List.isChain_nil, by simp⟩,
          Except.ok.inj passed⟩
      · rintro ⟨records, none, _, _, rfl⟩
        rw [List.length_eq_zero_iff.mp none]
        rfl
  | succ count inductionHypothesis =>
      rw [List.range_succ, List.foldlM_append]
      constructor
      · intro passed
        cases before : (List.range count).foldlM (CaptureScan.step data header) {} with
        | error error =>
            rw [before] at passed
            cases passed
        | ok middle =>
            rw [before] at passed
            obtain ⟨records, rfl, decodes, fit, rfl⟩ := inductionHypothesis.mp before
            simp only [List.foldlM_cons, List.foldlM_nil, bind_pure] at passed
            change CaptureScan.step data header (scanOf records) records.length = .ok scan at passed
            unfold CaptureScan.step at passed
            split at passed
            · cases passed
            · rename_i record decoded
              have generated : ∀ sample ∈ rawSamples records ++ record.encoder.presentSamples,
                  sample.generation ≠ 0 := by
                intro sample within
                rcases List.mem_append.mp within with earlier | here
                · exact generated_of_decodes decodes sample earlier
                · exact generated_of_valid (valid_of_decodeRecord decoded) sample here
              obtain ⟨continues, rfl⟩ := (takeRecord_scanOf generated).mp passed
              exact ⟨records ++ [record], by simp, decodes_append_iff.mpr ⟨decodes, decoded⟩,
                recordsFit_append_iff.mpr ⟨fit, continues⟩, rfl⟩
      · rintro ⟨records, long, decodes, fit, rfl⟩
        cases records using List.reverseRecOn with
        | nil => cases long
        | append_singleton earlier record =>
            rw [List.length_append, List.length_singleton] at long
            obtain rfl : earlier.length = count := by omega
            obtain ⟨before, decoded⟩ := decodes_append_iff.mp decodes
            obtain ⟨fitBefore, continues⟩ := recordsFit_append_iff.mp fit
            have generated : ∀ sample ∈ rawSamples earlier ++ record.encoder.presentSamples,
                sample.generation ≠ 0 := by
              intro sample within
              rcases List.mem_append.mp within with previous | here
              · exact generated_of_decodes before sample previous
              · exact generated_of_valid (valid_of_decodeRecord decoded) sample here
            rw [inductionHypothesis.mpr ⟨earlier, rfl, before, fitBefore, rfl⟩]
            have taken := (takeRecord_scanOf generated).mpr ⟨continues, rfl⟩
            have stepped : CaptureScan.step data header (scanOf earlier) earlier.length =
                .ok (scanOf (earlier ++ [record])) := by
              unfold CaptureScan.step
              rw [decoded]
              exact taken
            simp [List.foldlM_cons, stepped, bind, Except.bind, pure, Except.pure]

/-! ### The whole capture -/

/-- What `validateCapture` asks of the footer -/
structure Closes (header : LogHeader) (footer : LogFooter) (recordCount : UInt64)
    (beforeFooter : List UInt8) (scan : CaptureScan) : Prop where
  total : footer.totalRecords = recordCount
  bounds : recordCount ≠ 0 → footer.firstSequence = scan.firstSequence ∧
    footer.lastSequence = scan.lastSequence recordCount
  consistent : footerConsistent header footer recordCount scan = true
  normal : footer.completion = .normal → normalFatal footer recordCount scan = false
  phases : footer.completion = .normal → header.runKind ≠ .rateCheck →
    requiredPhases.all scan.phasesSeen = true
  firstError : scan.recordFirstError ≠ 0 → footer.statistics.firstError = scan.recordFirstError
  checked : footer.fileCrc32 = crc32 beforeFooter 0

theorem closeCapture_isOk_iff {header : LogHeader} {footer : LogFooter} {recordCount : UInt64}
    {beforeFooter : List UInt8} {scan : CaptureScan} :
    (∃ summary, closeCapture header footer recordCount beforeFooter scan = .ok summary) ↔
      Closes header footer recordCount beforeFooter scan := by
  unfold closeCapture
  constructor
  · rintro ⟨summary, closed⟩
    split_ifs at closed with counts counted fatal phases error checked
    simp only [not_or, not_and, not_not, Bool.not_eq_true, Bool.not_eq_false] at counts fatal phases
    simp only [not_and, not_not, Bool.not_eq_false] at counted error checked
    exact
      { total := counts.1
        bounds := counts.2
        consistent := counted
        normal := fatal
        phases := phases
        firstError := error
        checked := checked }
  · intro closes
    apply Exists.intro
    rw [if_neg, if_neg, if_neg, if_neg, if_neg, if_neg]
    · simp [closes.checked]
    · rintro ⟨reported, other⟩
      exact other (closes.firstError reported)
    · rintro ⟨normal, full, missing⟩
      simp [closes.phases normal full] at missing
    · rintro ⟨normal, fatal⟩
      simp [closes.normal normal] at fatal
    · simp [closes.consistent]
    · simp only [not_or, not_and, not_not]
      exact ⟨closes.total, closes.bounds⟩

/-- The parts of a capture as they decode -/
structure Parses (data : List UInt8) (header : LogHeader) (records : List LogRecord)
    (footer : LogFooter) : Prop where
  long : data.length = kHeaderBytes + records.length * kRecordBytes + kFooterBytes
  headerDecodes : decodeHeader (data.take kHeaderBytes) = .ok header
  recordsDecode : Decodes data records
  footerDecodes :
    decodeFooter (data.drop (kHeaderBytes + records.length * kRecordBytes)) = .ok footer

/-- A capture is accepted when it parses, its records fit and its footer closes them. -/
theorem validateCapture_isOk_iff {data : List UInt8} :
    (∃ summary, validateCapture data = .ok summary) ↔
      ∃ header records footer, Parses data header records footer ∧ RecordsFit header records ∧
        Closes header footer (UInt64.ofNat records.length)
          (data.take (kHeaderBytes + records.length * kRecordBytes)) (scanOf records) := by
  unfold validateCapture
  dsimp only
  constructor
  · rintro ⟨summary, accepted⟩
    split_ifs at accepted with short torn
    rw [not_not] at torn
    unfold kHeaderBytes kFooterBytes at short
    unfold kHeaderBytes kFooterBytes kRecordBytes at torn
    cases headerDecodes : decodeHeader (data.take kHeaderBytes) with
    | error error => simp [headerDecodes, bind, Except.bind] at accepted
    | ok header =>
      cases scanned : (List.range ((data.length - kHeaderBytes - kFooterBytes) / kRecordBytes)).foldlM
          (CaptureScan.step data header) {} with
      | error error => simp [headerDecodes, scanned, bind, Except.bind] at accepted
      | ok scan =>
        obtain ⟨records, count, recordsDecode, fit, rfl⟩ :=
          (foldlM_step_eq_ok_iff _).mp scanned
        have payload : data.length - kHeaderBytes - kFooterBytes =
            records.length * kRecordBytes := by
          unfold kHeaderBytes kFooterBytes kRecordBytes at count ⊢
          omega
        have long : data.length = kHeaderBytes + records.length * kRecordBytes + kFooterBytes := by
          unfold kHeaderBytes kFooterBytes kRecordBytes at payload ⊢
          omega
        have whole : (data.drop (kHeaderBytes + records.length * kRecordBytes)).take kFooterBytes =
            data.drop (kHeaderBytes + records.length * kRecordBytes) := by
          apply List.take_of_length_le
          rw [List.length_drop, long]
          omega
        rw [← count] at scanned accepted
        rw [payload, whole] at accepted
        cases footerDecodes : decodeFooter
            (data.drop (kHeaderBytes + records.length * kRecordBytes)) with
        | error error => simp [headerDecodes, scanned, footerDecodes, bind, Except.bind] at accepted
        | ok footer =>
            simp only [headerDecodes, scanned, footerDecodes, bind, Except.bind] at accepted
            exact ⟨header, records, footer, ⟨long, headerDecodes, recordsDecode, footerDecodes⟩, fit,
              closeCapture_isOk_iff.mp ⟨summary, accepted⟩⟩
  · rintro ⟨header, records, footer, parses, fit, closes⟩
    obtain ⟨summary, closed⟩ := closeCapture_isOk_iff.mpr closes
    have payload : data.length - kHeaderBytes - kFooterBytes = records.length * kRecordBytes := by
      rw [parses.long]
      omega
    have count : (data.length - kHeaderBytes - kFooterBytes) / kRecordBytes = records.length := by
      rw [payload]
      exact Nat.mul_div_cancel _ (by decide)
    have whole : (data.drop (kHeaderBytes + records.length * kRecordBytes)).take kFooterBytes =
        data.drop (kHeaderBytes + records.length * kRecordBytes) := by
      apply List.take_of_length_le
      rw [List.length_drop, parses.long]
      omega
    have scanned := (foldlM_step_eq_ok_iff records.length).mpr
      ⟨records, rfl, parses.recordsDecode, fit, rfl⟩
    refine ⟨summary, ?_⟩
    rw [if_neg (by rw [parses.long]; omega),
      if_neg (by rw [payload, Nat.mul_mod_left, not_not]), count, payload, whole]
    simp only [parses.headerDecodes, scanned, parses.footerDecodes, bind, Except.bind]
    exact closed

end MissionBoard.Characterization
