import MissionBoard.Characterization.LogFormatV5
import MissionBoard.Characterization.RecordValidation

/-!
Owns the record of `characterization/log_format_v5.cpp`: the bytes that `encodeRecord` writes,
with the samples that are present in their slots, and what `decodeRecord` reads and in which
order it refuses.
-/

namespace MissionBoard.Characterization

open ByteLayout

/-! ### Writing -/

/-- Where the sample of a slot stands -/
def slotBase (slot : Fin 5) : ℕ := 136 + slot.val * 36

/-- The sample of a slot -/
def sampleFields (base : ℕ) (sample : RawEncoderSample) (slot : UInt8) : List Field :=
  [⟨base, .word64 sample.generation⟩, ⟨base + 8, .word64 sample.scheduledTimestampUs⟩,
    ⟨base + 16, .word64 sample.captureTimestampUs⟩, ⟨base + 24, .word16 sample.angleRaw⟩,
    ⟨base + 26, .word16 sample.diagnosticFlags⟩,
    ⟨base + 28, .word32 sample.readResultCode.toUInt32⟩,
    ⟨base + 32, .byte (flagByte sample.valid)⟩, ⟨base + 33, .byte slot⟩]

/-- Nothing is written where no sample is present. -/
def slotFields (block : EncoderEpochBlock) (slot : Fin 5) : List Field :=
  if block.presentAt slot then
    sampleFields (slotBase slot) (block.sampleAt slot) (UInt8.ofNat slot.val)
  else []

/-- What `encodeRecord` writes before the samples -/
def epochFields (record : LogRecord) : List Field :=
  [⟨0, .text kRecordMagic⟩, ⟨4, .word64 record.sequence⟩, ⟨12, .word64 record.encoder.epochIndex⟩,
    ⟨20, .word64 record.encoder.epochStartTimestampUs⟩,
    ⟨28, .word64 record.encoder.epochEndTimestampUs⟩,
    ⟨36, .word64 record.encoder.releaseTimestampUs⟩,
    ⟨44, .word64 record.command.commandApplyTimestampUs⟩,
    ⟨52, .word64 record.command.loggerSnapshotTimestampUs⟩,
    ⟨60, .word64 record.power.captureTimestampUs⟩, ⟨68, .word64 record.command.commandGeneration⟩,
    ⟨76, .word32 record.episodeIndex⟩, ⟨80, .word32 record.targetFinAngleMillideg.toUInt32⟩,
    ⟨84, .word32 record.finAngleMillideg.toUInt32⟩, ⟨88, .word32 record.finRateMillidegS.toUInt32⟩,
    ⟨92, .word32 record.encoder.consumerLatenessUs.toUInt32⟩,
    ⟨96, .word32 record.command.applyResultCode.toUInt32⟩,
    ⟨100, .word32 record.power.readResult.toUInt32⟩,
    ⟨104, .word16 record.command.requestedCommandPermille.toUInt16⟩,
    ⟨106, .word16 record.command.appliedCommandPermille.toUInt16⟩,
    ⟨108, .word16 record.power.motorMillivolts⟩, ⟨110, .word16 record.abortReason.toWord⟩,
    ⟨112, .byte (ByteEnum.toByte record.stage)⟩, ⟨113, .byte (ByteEnum.toByte record.profilePhase)⟩,
    ⟨114, .byte (ByteEnum.toByte record.approachBranch)⟩,
    ⟨115, .byte (ByteEnum.toByte record.command.requestedMotorMode)⟩,
    ⟨116, .byte (ByteEnum.toByte record.command.appliedMotorMode)⟩,
    ⟨117, .byte (ByteEnum.toByte record.guardState)⟩, ⟨118, .byte (flagByte record.power.valid)⟩,
    ⟨120, .byte record.encoder.expectedSampleCount⟩, ⟨121, .byte record.encoder.actualSampleCount⟩,
    ⟨122, .byte record.encoder.validSampleCount⟩, ⟨123, .byte record.encoder.repeatedSampleCount⟩,
    ⟨124, .byte record.encoder.skippedSampleCount⟩, ⟨125, .byte record.encoder.invalidSampleCount⟩,
    ⟨126, .word16 record.encoder.flags⟩, ⟨128, .byte (ByteEnum.toByte record.zeroReferenceKind)⟩,
    ⟨129, .byte (ByteEnum.toByte record.runKind)⟩, ⟨130, .byte record.qualification⟩,
    ⟨132, .word32 record.firstError.toUInt32⟩]

/-- What `encodeRecord` writes before the checksum -/
def recordFields (record : LogRecord) : List Field :=
  epochFields record ++ (List.finRange 5).flatMap (slotFields record.encoder)

/-- `encodeRecord` -/
def encodeRecord (record : LogRecord) : Option RecordBytes :=
  if hasError (validateRecordStrict record) then none
  else some (Image.sealBytes ownCrc (recordFields record) 316)

/-! ### Reading -/

/-- The sample that stands at an address -/
def readSample (image : Image) (base : ℕ) : RawEncoderSample where
  generation := image.getU64 base
  scheduledTimestampUs := image.getU64 (base + 8)
  captureTimestampUs := image.getU64 (base + 16)
  angleRaw := image.getU16 (base + 24)
  diagnosticFlags := image.getU16 (base + 26)
  readResultCode := (image.getU32 (base + 28)).toInt32
  valid := image (base + 32) == 1
  slot := image (base + 33)

/-- A slot that is not all zero holds a sample. -/
def slotOccupied (image : Image) (slot : Fin 5) : Bool :=
  !allZero (image.slice (slotBase slot) 36)

/-- What `decodeRecord` refuses in a slot -/
def slotError (image : Image) (slot : Fin 5) : Option DecodeError :=
  if allZero (image.slice (slotBase slot + 34) 2) = false then some .reserved
  else if slotOccupied image slot = false then none
  else if 1 < image (slotBase slot + 32) ∨ image (slotBase slot + 33) ≠ UInt8.ofNat slot.val then
    some .invariant
  else none

/-- The rate whose epochs have that many samples -/
def rateOfSamples (expected : UInt8) : Option EncoderRate :=
  if expected = 1 then some .hz1000
  else if expected = 2 then some .hz2000
  else if expected = 5 then some .hz5000
  else none

/-- The command evidence that stands in an image -/
def readCommand (image : Image) : CommandEvidence where
  commandGeneration := image.getU64 68
  requestedCommandPermille := (image.getU16 104).toInt16
  requestedMotorMode := ByteEnum.ofByte (image 115)
  appliedCommandPermille := (image.getU16 106).toInt16
  appliedMotorMode := ByteEnum.ofByte (image 116)
  applyResultCode := (image.getU32 96).toInt32
  commandApplyTimestampUs := image.getU64 44
  loggerSnapshotTimestampUs := image.getU64 52

/-- The power evidence that stands in an image -/
def readPower (image : Image) : PowerEvidence where
  captureTimestampUs := image.getU64 60
  motorMillivolts := image.getU16 108
  readResult := (image.getU32 100).toInt32
  valid := image 118 == 1

/-- The encoder evidence that stands in an image -/
def readEpoch (image : Image) : EncoderEpochBlock where
  epochIndex := image.getU64 12
  epochStartTimestampUs := image.getU64 20
  epochEndTimestampUs := image.getU64 28
  releaseTimestampUs := image.getU64 36
  consumerLatenessUs := (image.getU32 92).toInt32
  expectedSampleCount := image 120
  observedSampleCount := image 121
  actualSampleCount := image 121
  selectedSampleCount := image 122 + image 125
  validSampleCount := image 122
  repeatedSampleCount := image 123
  skippedSampleCount := image 124
  invalidSampleCount := image 125
  flags := image.getU16 126
  samples := Vector.ofFn fun slot =>
    if slotOccupied image slot then readSample image (slotBase slot) else {}
  samplePresent := Vector.ofFn (slotOccupied image)

/-- The record that stands in an image, given the rate that its sample count names -/
def readRecord (image : Image) (encoderRate : EncoderRate) : LogRecord where
  sequence := image.getU64 4
  stage := ByteEnum.ofByte (image 112)
  encoderRate := encoderRate
  profilePhase := ByteEnum.ofByte (image 113)
  approachBranch := ByteEnum.ofByte (image 114)
  zeroReferenceKind := ByteEnum.ofByte (image 128)
  runKind := ByteEnum.ofByte (image 129)
  qualification := image 130
  episodeIndex := image.getU32 76
  targetFinAngleMillideg := (image.getU32 80).toInt32
  finAngleMillideg := (image.getU32 84).toInt32
  finRateMillidegS := (image.getU32 88).toInt32
  guardState := ByteEnum.ofByte (image 117)
  abortReason := AbortReason.ofWord (image.getU16 110)
  firstError := (image.getU32 132).toInt32
  command := readCommand image
  power := readPower image
  encoder := readEpoch image

/-- The bytes in which an enumerator stands name one, as `decodeRecord` asks. -/
def recordEnumsValid (image : Image) : Bool :=
  (ByteEnum.valid AssemblyStage (image 112) && isKnownStage (ByteEnum.ofByte (image 112))) &&
    ByteEnum.valid ProfilePhase (image 113) && ByteEnum.valid ApproachBranch (image 114) &&
    ByteEnum.valid MotorMode (image 115) && ByteEnum.valid MotorMode (image 116) &&
    ByteEnum.valid GuardState (image 117) && image.getU16 110 ≤ 13 && image 130 ≤ 2 &&
    (ByteEnum.valid RunKind (image 129) && knownRun (ByteEnum.ofByte (image 129)))

/-- What is left of `decodeRecord` when rate and slots have been read -/
def acceptRecord (image : Image) (encoderRate : EncoderRate) : Except DecodeError LogRecord :=
  if ByteEnum.valid ZeroReferenceKind (image 128) = false then .error .enum
  else if recordEnumsValid image = false then .error .enum
  else if hasError (validateRecordStrict (readRecord image encoderRate)) then .error .invariant
  else .ok (readRecord image encoderRate)

/-- `decodeRecord` -/
def decodeRecord (data : List UInt8) : Except DecodeError LogRecord :=
  let image := Image.ofBytes data
  if data.length < kRecordBytes then .error .truncated
  else if kRecordBytes < data.length then .error .trailingBytes
  else if image.slice 0 4 ≠ kRecordMagic then .error .magic
  else if image.getU32 316 ≠ ownCrc (image.slice 0 316) then .error .crc
  else if image 119 ≠ 0 ∨ image 131 ≠ 0 then .error .reserved
  else if 1 < image 118 then .error .enum
  else
    match rateOfSamples (image 120) with
    | none => .error .invariant
    | some encoderRate =>
        match (List.finRange 5).findSome? (slotError image) with
        | some error => .error error
        | none => acceptRecord image encoderRate

end MissionBoard.Characterization
