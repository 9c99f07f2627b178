import MissionBoard.Library.WireFormat
import MissionBoard.Numeric.Binary32

/-!
Owns the types of `characterization/characterization_types.hpp` that a V5 capture is made of:
the enumerations with the byte of each enumerator, the record of an epoch with its command,
power and encoder evidence, the header, and the footer with its statistics.

A value of an enumeration is one of its enumerators. A `float` is its bits.
-/

namespace MissionBoard.Characterization

/-- `AssemblyStage` -/
inductive AssemblyStage where
  | none
  | fv
  | fhPositive
  | fhNegative
  | m0
deriving DecidableEq

/-- `EncoderRate` -/
inductive EncoderRate where
  | hz1000
  | hz2000
  | hz5000
deriving DecidableEq

/-- `MotorMode` -/
inductive MotorMode where
  | coast
  | driveIn1
  | driveIn2
  | brake
deriving DecidableEq

/-- `ProfilePhase` -/
inductive ProfilePhase where
  | idle
  | stationaryBaseline
  | zeroApproach
  | polarityCheck
  | breakawaySweep
  | sustainedMotionSweep
  | boundedPulseGrid
  | coast
  | shortBrake
  | positiveToNegative
  | negativeToPositive
  | boundedPrbs
  | bandLimitedNoise
  | chirp
  | recenter
deriving DecidableEq

/-- `ApproachBranch` -/
inductive ApproachBranch where
  | none
  | fromPositive
  | fromNegative
deriving DecidableEq

/-- `GuardState` -/
inductive GuardState where
  | allow
  | coast
  | abort
deriving DecidableEq

/-- `AbortReason` -/
inductive AbortReason where
  | none
  | stopRequested
  | encoderInvalid
  | positionGuard
  | overshoot
  | timeout
  | deadline
  | queueFull
  | writerError
  | motorApplyError
  | vbusInvalid
  | samplerError
  | validationError
  | stageError
deriving DecidableEq

/-- `RunKind` -/
inductive RunKind where
  | none
  | rateCheck
  | full
deriving DecidableEq

/-- `CompletionCode` -/
inductive CompletionCode where
  | normal
  | aborted
  | unsupported
deriving DecidableEq

/-- `UnsupportedReason` -/
inductive UnsupportedReason where
  | none
  | triggerCoalesced
  | incompleteEpoch
  | invalidRead
  | deadlineMiss
  | queueOverflow
  | writerFailure
  | sensorHealth
  | operatorMarkedUnsupported
deriving DecidableEq

/-- `ZeroReferenceKind` -/
inductive ZeroReferenceKind where
  | common
  | m0
deriving DecidableEq

/-! ### The bytes of the enumerators -/

instance : ByteEnum AssemblyStage where
  toByte
    | .none => 0
    | .fv => 1
    | .fhPositive => 2
    | .fhNegative => 3
    | .m0 => 4
  ofByte byte :=
    [AssemblyStage.none, .fv, .fhPositive, .fhNegative, .m0].getD byte.toNat .m0
  valid byte := byte ≤ 4
  ofByte_toByte member := by cases member <;> rfl
  valid_toByte member := by cases member <;> rfl
  toByte_ofByte := ByteEnum.forall_byte (by decide +kernel)

instance : ByteEnum MotorMode where
  toByte
    | .coast => 0
    | .driveIn1 => 1
    | .driveIn2 => 2
    | .brake => 3
  ofByte byte :=
    [MotorMode.coast, .driveIn1, .driveIn2, .brake].getD byte.toNat .brake
  valid byte := byte ≤ 3
  ofByte_toByte member := by cases member <;> rfl
  valid_toByte member := by cases member <;> rfl
  toByte_ofByte := ByteEnum.forall_byte (by decide +kernel)

instance : ByteEnum ProfilePhase where
  toByte
    | .idle => 0
    | .stationaryBaseline => 1
    | .zeroApproach => 2
    | .polarityCheck => 3
    | .breakawaySweep => 4
    | .sustainedMotionSweep => 5
    | .boundedPulseGrid => 6
    | .coast => 7
    | .shortBrake => 8
    | .positiveToNegative => 9
    | .negativeToPositive => 10
    | .boundedPrbs => 11
    | .bandLimitedNoise => 12
    | .chirp => 13
    | .recenter => 14
  ofByte byte :=
    [ProfilePhase.idle, .stationaryBaseline, .zeroApproach, .polarityCheck, .breakawaySweep,
      .sustainedMotionSweep, .boundedPulseGrid, .coast, .shortBrake, .positiveToNegative,
      .negativeToPositive, .boundedPrbs, .bandLimitedNoise, .chirp,
      .recenter].getD byte.toNat .recenter
  valid byte := byte ≤ 14
  ofByte_toByte member := by cases member <;> rfl
  valid_toByte member := by cases member <;> rfl
  toByte_ofByte := ByteEnum.forall_byte (by decide +kernel)

instance : ByteEnum ApproachBranch where
  toByte
    | .none => 0
    | .fromPositive => 1
    | .fromNegative => 2
  ofByte byte :=
    [ApproachBranch.none, .fromPositive, .fromNegative].getD byte.toNat .fromNegative
  valid byte := byte ≤ 2
  ofByte_toByte member := by cases member <;> rfl
  valid_toByte member := by cases member <;> rfl
  toByte_ofByte := ByteEnum.forall_byte (by decide +kernel)

instance : ByteEnum GuardState where
  toByte
    | .allow => 0
    | .coast => 1
    | .abort => 2
  ofByte byte :=
    [GuardState.allow, .coast, .abort].getD byte.toNat .abort
  valid byte := byte ≤ 2
  ofByte_toByte member := by cases member <;> rfl
  valid_toByte member := by cases member <;> rfl
  toByte_ofByte := ByteEnum.forall_byte (by decide +kernel)

instance : ByteEnum RunKind where
  toByte
    | .none => 0
    | .rateCheck => 1
    | .full => 2
  ofByte byte :=
    [RunKind.none, .rateCheck, .full].getD byte.toNat .full
  valid byte := byte ≤ 2
  ofByte_toByte member := by cases member <;> rfl
  valid_toByte member := by cases member <;> rfl
  toByte_ofByte := ByteEnum.forall_byte (by decide +kernel)

/-- Its members are also those that `knownCompletion` accepts. -/
instance : ByteEnum CompletionCode where
  toByte
    | .normal => 1
    | .aborted => 2
    | .unsupported => 3
  ofByte byte :=
    [CompletionCode.normal, .aborted, .unsupported].getD (byte.toNat - 1) .unsupported
  valid byte := 1 ≤ byte ∧ byte ≤ 3
  ofByte_toByte member := by cases member <;> rfl
  valid_toByte member := by cases member <;> rfl
  toByte_ofByte := ByteEnum.forall_byte (by decide +kernel)

/-- Its members are also those that `knownUnsupported` accepts. -/
instance : ByteEnum UnsupportedReason where
  toByte
    | .none => 0
    | .triggerCoalesced => 1
    | .incompleteEpoch => 2
    | .invalidRead => 3
    | .deadlineMiss => 4
    | .queueOverflow => 5
    | .writerFailure => 6
    | .sensorHealth => 7
    | .operatorMarkedUnsupported => 8
  ofByte byte :=
    [UnsupportedReason.none, .triggerCoalesced, .incompleteEpoch, .invalidRead, .deadlineMiss,
      .queueOverflow, .writerFailure, .sensorHealth,
      .operatorMarkedUnsupported].getD byte.toNat .operatorMarkedUnsupported
  valid byte := byte ≤ 8
  ofByte_toByte member := by cases member <;> rfl
  valid_toByte member := by cases member <;> rfl
  toByte_ofByte := ByteEnum.forall_byte (by decide +kernel)

instance : ByteEnum ZeroReferenceKind where
  toByte
    | .common => 0
    | .m0 => 1
  ofByte byte :=
    [ZeroReferenceKind.common, .m0].getD byte.toNat .m0
  valid byte := byte ≤ 1
  ofByte_toByte member := by cases member <;> rfl
  valid_toByte member := by cases member <;> rfl
  toByte_ofByte := ByteEnum.forall_byte (by decide +kernel)

/-- The one enumeration of these that travels in two bytes, with the high one zero -/
instance : ByteEnum AbortReason where
  toByte
    | .none => 0
    | .stopRequested => 1
    | .encoderInvalid => 2
    | .positionGuard => 3
    | .overshoot => 4
    | .timeout => 5
    | .deadline => 6
    | .queueFull => 7
    | .writerError => 8
    | .motorApplyError => 9
    | .vbusInvalid => 10
    | .samplerError => 11
    | .validationError => 12
    | .stageError => 13
  ofByte byte :=
    [AbortReason.none, .stopRequested, .encoderInvalid, .positionGuard, .overshoot, .timeout,
      .deadline, .queueFull, .writerError, .motorApplyError, .vbusInvalid, .samplerError,
      .validationError, .stageError].getD byte.toNat .stageError
  valid byte := byte ≤ 13
  ofByte_toByte member := by cases member <;> rfl
  valid_toByte member := by cases member <;> rfl
  toByte_ofByte := ByteEnum.forall_byte (by decide +kernel)

/-- `static_cast<uint16_t>(reason)` -/
def AbortReason.toWord (reason : AbortReason) : UInt16 := (ByteEnum.toByte reason).toUInt16

/-- `static_cast<AbortReason>(word)`, for the words that name an enumerator -/
def AbortReason.ofWord (word : UInt16) : AbortReason := ByteEnum.ofByte word.toUInt8

@[simp] theorem AbortReason.ofWord_toWord (reason : AbortReason) :
    AbortReason.ofWord reason.toWord = reason := by
  cases reason <;> rfl

theorem AbortReason.toWord_le (reason : AbortReason) : reason.toWord ≤ 13 := by
  cases reason <;> decide

theorem AbortReason.toWord_ofWord {word : UInt16} (known : word ≤ 13) :
    (AbortReason.ofWord word).toWord = word := by
  have below : word.toNat < 14 := Nat.lt_succ_of_le (UInt16.le_iff_toNat_le.mp known)
  have each : ∀ value < 14,
      (AbortReason.ofWord (UInt16.ofNat value)).toWord = UInt16.ofNat value := by
    decide
  have holds := each word.toNat below
  rwa [UInt16.ofNat_toNat] at holds

/-- `static_cast<uint32_t>(rate)` -/
def EncoderRate.toWord : EncoderRate → UInt32
  | .hz1000 => 1000
  | .hz2000 => 2000
  | .hz5000 => 5000

/-- `static_cast<EncoderRate>(word)`, where `isSupportedEncoderRate` accepts the result -/
def EncoderRate.ofWord (word : UInt32) : Option EncoderRate :=
  if word = 1000 then some .hz1000
  else if word = 2000 then some .hz2000
  else if word = 5000 then some .hz5000
  else none

@[simp] theorem EncoderRate.ofWord_toWord (rate : EncoderRate) :
    EncoderRate.ofWord rate.toWord = some rate := by
  cases rate <;> rfl

theorem EncoderRate.toWord_of_ofWord {word : UInt32} {rate : EncoderRate}
    (read : EncoderRate.ofWord word = some rate) : rate.toWord = word := by
  unfold EncoderRate.ofWord at read
  split_ifs at read with first second third
  · rw [← Option.some.inj read, first]
    rfl
  · rw [← Option.some.inj read, second]
    rfl
  · rw [← Option.some.inj read, third]
    rfl

/-! ### Constants -/

/-- `kSchemaVersion` -/
def kSchemaVersion : UInt16 := 5

/-- `kProfileContractVersion` -/
def kProfileContractVersion : UInt32 := 1

/-- `kConsumerRateHz` -/
def kConsumerRateHz : UInt16 := 1000

/-- `kEpochDurationUs` -/
def kEpochDurationUs : UInt64 := 1000

/-- `kConsumerDeadlineBudgetUs` -/
def kConsumerDeadlineBudgetUs : UInt64 := 100

/-- `kMaximumEncoderSamplesPerEpoch` -/
def kMaximumEncoderSamplesPerEpoch : ℕ := 5

/-- `kRawDiagnosticMask` -/
def kRawDiagnosticMask : UInt16 := 0x007F

/-- `kMaximumCommandPermille` -/
def kMaximumCommandPermille : Int16 := 350

/-! ### `EpochFlags` -/

def EpochIncomplete : UInt16 := 1
def EpochRepeated : UInt16 := 2
def EpochSkipped : UInt16 := 4
def EpochInvalid : UInt16 := 8
def EpochLate : UInt16 := 16
def EpochDeadline : UInt16 := 32
def EpochAggregateValid : UInt16 := 64
def EpochStartup : UInt16 := 128

/-! ### Evidence -/

/-- `ImmutableCommandEvidence` -/
structure CommandEvidence where
  commandGeneration : UInt64 := 0
  requestedCommandPermille : Int16 := 0
  requestedMotorMode : MotorMode := .coast
  appliedCommandPermille : Int16 := 0
  appliedMotorMode : MotorMode := .coast
  applyResultCode : Int32 := 0
  commandApplyTimestampUs : UInt64 := 0
  loggerSnapshotTimestampUs : UInt64 := 0
deriving DecidableEq

/-- `RawEncoderSample` -/
structure RawEncoderSample where
  generation : UInt64 := 0
  scheduledTimestampUs : UInt64 := 0
  captureTimestampUs : UInt64 := 0
  angleRaw : UInt16 := 0
  diagnosticFlags : UInt16 := 0
  readResultCode : Int32 := 0
  valid : Bool := false
  slot : UInt8 := 0
deriving DecidableEq

/-- `EncoderEpochBlock` -/
structure EncoderEpochBlock where
  epochIndex : UInt64 := 0
  epochStartTimestampUs : UInt64 := 0
  epochEndTimestampUs : UInt64 := 0
  releaseTimestampUs : UInt64 := 0
  consumerLatenessUs : Int32 := 0
  expectedSampleCount : UInt8 := 0
  observedSampleCount : UInt8 := 0
  actualSampleCount : UInt8 := 0
  selectedSampleCount : UInt8 := 0
  validSampleCount : UInt8 := 0
  repeatedSampleCount : UInt8 := 0
  skippedSampleCount : UInt8 := 0
  invalidSampleCount : UInt8 := 0
  flags : UInt16 := 0
  meanUnwrappedCountsQ16 : Int64 := 0
  samples : Vector RawEncoderSample 5 := Vector.replicate 5 {}
  samplePresent : Vector Bool 5 := Vector.replicate 5 false
deriving DecidableEq

/-- `sample_present[slot]` -/
def EncoderEpochBlock.presentAt (block : EncoderEpochBlock) (slot : Fin 5) : Bool :=
  block.samplePresent[slot]

/-- `samples[slot]` -/
def EncoderEpochBlock.sampleAt (block : EncoderEpochBlock) (slot : Fin 5) : RawEncoderSample :=
  block.samples[slot]

/-- `PowerEvidence` -/
structure PowerEvidence where
  captureTimestampUs : UInt64 := 0
  motorMillivolts : UInt16 := 0
  readResult : Int32 := 0
  valid : Bool := false
deriving DecidableEq

/-- `ImmutableLogRecord` -/
structure LogRecord where
  sequence : UInt64 := 0
  stage : AssemblyStage := .none
  encoderRate : EncoderRate := .hz1000
  profilePhase : ProfilePhase := .idle
  approachBranch : ApproachBranch := .none
  zeroReferenceKind : ZeroReferenceKind := .common
  runKind : RunKind := .none
  qualification : UInt8 := 0
  episodeIndex : UInt32 := 0
  targetFinAngleMillideg : Int32 := 0
  finAngleMillideg : Int32 := 0
  finRateMillidegS : Int32 := 0
  guardState : GuardState := .allow
  abortReason : AbortReason := .none
  firstError : Int32 := 0
  command : CommandEvidence := {}
  power : PowerEvidence := {}
  encoder : EncoderEpochBlock := {}
deriving DecidableEq

/-- `LogHeaderV5` -/
structure LogHeader where
  stage : AssemblyStage := .none
  encoderRate : EncoderRate := .hz1000
  runKind : RunKind := .none
  profileSeed : UInt32 := 0
  pwmFrequencyHz : UInt32 := 0
  resetReason : UInt32 := 0
  totalReduction : Binary32
  physicalLimitDeg : Binary32
  routineGuardDeg : Binary32
  hardAbortDeg : Binary32
  backlashFullWidthDeg : Binary32
  epochZeroTimestampUs : UInt64 := 0
  sessionId : Vector UInt8 32 := Vector.replicate 32 0
  firmwareSha : Vector UInt8 40 := Vector.replicate 40 0
  aviEspLibsSha : Vector UInt8 40 := Vector.replicate 40 0
  boardBuildId : Vector UInt8 64 := Vector.replicate 64 0
deriving DecidableEq

/-- `SamplerStatistics` -/
structure SamplerStatistics where
  releasedEpochs : UInt64 := 0
  incompleteEpochs : UInt64 := 0
  bucketCollisions : UInt64 := 0
  triggerCoalescedOrMissed : UInt64 := 0
  preEpochSamples : UInt64 := 0
  repeatedSamples : UInt64 := 0
  skippedSamples : UInt64 := 0
  invalidSamples : UInt64 := 0
  lateAfterRelease : UInt64 := 0
  startupIncompleteEpochs : UInt64 := 0
  steadyStateIncompleteEpochs : UInt64 := 0
  consumerDeadlineMisses : UInt64 := 0
  rawQueueOverflows : UInt64 := 0
  writerQueueOverflows : UInt64 := 0
  encoderTransportErrors : UInt64 := 0
  encoderStatusFaults : UInt64 := 0
  vbusInvalidSamples : UInt64 := 0
  firstError : Int32 := 0
deriving DecidableEq

/-- `LogFooterV5` -/
structure LogFooter where
  completion : CompletionCode := .aborted
  rateSupported : Bool := false
  unsupportedReason : UnsupportedReason := .none
  totalRecords : UInt64 := 0
  firstSequence : UInt64 := 0
  lastSequence : UInt64 := 0
  statistics : SamplerStatistics := {}
  qualificationValidEpochs : UInt32 := 0
  qualificationTotalEpochs : UInt32 := 0
  shutdownStepMask : UInt32 := 0
  fileCrc32 : UInt32 := 0
deriving DecidableEq

/-! ### Predicates of the types -/

/-- `expectedSamplesPerEpoch` -/
def expectedSamplesPerEpoch : EncoderRate → UInt8
  | .hz1000 => 1
  | .hz2000 => 2
  | .hz5000 => 5

/-- `motorModeMatchesCommand` -/
def motorModeMatchesCommand (commandPermille : Int16) : MotorMode → Bool
  | .driveIn1 => commandPermille < 0
  | .driveIn2 => commandPermille > 0
  | .coast => commandPermille == 0
  | .brake => commandPermille == 0

/-- `isKnownStage` -/
def isKnownStage : AssemblyStage → Bool
  | .none => false
  | .fv => true
  | .fhPositive => true
  | .fhNegative => true
  | .m0 => true

end MissionBoard.Characterization
