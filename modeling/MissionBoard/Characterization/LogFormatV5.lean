import MissionBoard.Characterization.CharacterizationTypes
import MissionBoard.Library.ByteLayout

/-!
Owns the header and the footer of `characterization/log_format_v5.cpp`: what the encoders
accept and the bytes they write, and what the decoders read and in which order they refuse.

A pointer and a size are the list of the bytes. What a decoder leaves in its result when it
refuses is not modelled.
-/

namespace MissionBoard.Characterization

open ByteLayout

/-! ### The checksum -/

/-- `crc32TableEntry` -/
def crc32TableEntry (value : UInt32) : UInt32 :=
  (List.range 8).foldl (fun value _ => (value >>> 1) ^^^ (0xEDB88320 &&& (0 - (value &&& 1)))) value

/-- One byte of `crc32`; the table's entry is computed where it is looked up. -/
def crc32Step (crc : UInt32) (byte : UInt8) : UInt32 :=
  (crc >>> 8) ^^^ crc32TableEntry (crc ^^^ byte.toUInt32).toUInt8.toUInt32

/-- `crc32` -/
def crc32 (bytes : List UInt8) (previousCrc : UInt32) : UInt32 :=
  bytes.foldl crc32Step (previousCrc ^^^ 0xFFFFFFFF) ^^^ 0xFFFFFFFF

/-- The checksum that a header, a record or a footer carries of itself -/
def ownCrc (bytes : List UInt8) : UInt32 := crc32 bytes 0

/-! ### The common part -/

/-- `DecodeError`, but for `None` -/
inductive DecodeError where
  | truncated
  | trailingBytes
  | magic
  | schema
  | size
  | crc
  | enum
  | reserved
  | sequence
  | invariant
deriving DecidableEq

/-- `kHeaderMagic` -/
def kHeaderMagic : List UInt8 := [0x39, 0x39, 0x4C, 0x4D, 0x43, 0x56, 0x35, 0]

/-- `kRecordMagic` -/
def kRecordMagic : List UInt8 := [0x45, 0x50, 0x56, 0x35]

/-- `kFooterMagic` -/
def kFooterMagic : List UInt8 := [0x39, 0x39, 0x4C, 0x45, 0x4E, 0x44, 0x35, 0]

/-- `kHeaderBytes` -/
def kHeaderBytes : ℕ := 256

/-- `kRecordBytes` -/
def kRecordBytes : ℕ := 320

/-- `kFooterBytes` -/
def kFooterBytes : ℕ := 192

abbrev HeaderBytes := Vector UInt8 256
abbrev RecordBytes := Vector UInt8 320
abbrev FooterBytes := Vector UInt8 192

/-- `allZero` -/
def allZero (bytes : List UInt8) : Bool := bytes.all (· == 0)

theorem allZero_slice_iff (image : Image) (offset count : ℕ) :
    allZero (image.slice offset count) = true ↔
      ∀ address, offset ≤ address → address < offset + count → image address = 0 := by
  simp only [allZero, Image.slice, List.all_map, List.all_eq_true, List.mem_range,
    Function.comp_apply, beq_iff_eq]
  constructor
  · intro zeros address from_offset below
    have here := zeros (address - offset) (by omega)
    rwa [Nat.add_sub_cancel' from_offset] at here
  · intro zeros index inside
    exact zeros (offset + index) (by omega) (by omega)

/-- `cond ? 1U : 0U` -/
def flagByte (flag : Bool) : UInt8 := if flag then 1 else 0

theorem flagByte_le (flag : Bool) : flagByte flag ≤ 1 := by
  cases flag <;> decide

@[simp] theorem flagByte_beq (flag : Bool) : (flagByte flag == 1) = flag := by
  cases flag <;> rfl

theorem flagByte_of_le {byte : UInt8} (flag : byte ≤ 1) : flagByte (byte == 1) = byte := by
  revert byte
  exact fun {byte} => @ByteEnum.forall_byte (fun byte => byte ≤ 1 → flagByte (byte == 1) = byte)
    (by decide +kernel) byte

/-! ### The header -/

/-- `knownRun` -/
def knownRun (kind : RunKind) : Bool := kind == .rateCheck || kind == .full

/-- `physicalMetadataValid` -/
def physicalMetadataValid (header : LogHeader) : Bool :=
  header.totalReduction.isFinite && header.physicalLimitDeg.isFinite &&
    header.routineGuardDeg.isFinite && header.hardAbortDeg.isFinite &&
    header.backlashFullWidthDeg.isFinite && Binary32.lt 0 header.totalReduction &&
    Binary32.lt 0 header.physicalLimitDeg && Binary32.lt 0 header.routineGuardDeg &&
    Binary32.lt 0 header.hardAbortDeg && Binary32.lt 0 header.backlashFullWidthDeg &&
    header.routineGuardDeg.lt header.hardAbortDeg && header.hardAbortDeg.lt header.physicalLimitDeg

/-- `sha40Valid` -/
def sha40Valid (value : Vector UInt8 40) : Bool :=
  value.toList.all fun character =>
    (0x30 ≤ character && character ≤ 0x39) || (0x61 ≤ character && character ≤ 0x66) ||
      (0x41 ≤ character && character ≤ 0x46)

/-- Where the loop of `fixedTextValid` stands: whether text and terminator were seen -/
structure TextScan where
  haveText : Bool := false
  terminated : Bool := false

/-- One character of `fixedTextValid`; nothing once it has returned false -/
def TextScan.step (minimum : UInt8) (scan : Option TextScan) (character : UInt8) :
    Option TextScan :=
  scan.bind fun scan =>
    if character = 0 then some { scan with terminated := true }
    else if scan.terminated then none
    else if character < minimum || 0x7E < character then none
    else some { scan with haveText := true }

/-- `fixedTextValid` -/
def fixedTextValid (value : List UInt8) (minimum : UInt8) : Bool :=
  match value.foldl (TextScan.step minimum) (some {}) with
  | none => false
  | some scan => scan.haveText && scan.terminated

/-- `kSessionIdMaximumPrintableBytes` -/
def kSessionIdMaximumPrintableBytes : ℕ := 31

/-- Where the loop of `validSessionId` stands -/
structure SessionScan where
  terminated : Bool := false
  length : ℕ := 0

/-- One character of `validSessionId`; nothing once it has returned false -/
def SessionScan.step (scan : Option SessionScan) (value : UInt8) : Option SessionScan :=
  scan.bind fun scan =>
    if value = 0 then some { scan with terminated := true }
    else if scan.terminated then none
    else if value < 0x21 || 0x7E < value then none
    else some { scan with length := scan.length + 1 }

/-- `CampaignStateMachine::validSessionId` -/
def validSessionId (sessionId : Vector UInt8 32) : Bool :=
  match sessionId.toList.foldl SessionScan.step (some {}) with
  | none => false
  | some scan =>
      scan.terminated && scan.length != 0 && scan.length ≤ kSessionIdMaximumPrintableBytes

/-- What `encodeHeader` and `decodeHeader` ask of a header -/
def headerValid (header : LogHeader) : Bool :=
  isKnownStage header.stage && knownRun header.runKind && validSessionId header.sessionId &&
    sha40Valid header.firmwareSha && sha40Valid header.aviEspLibsSha &&
    fixedTextValid header.boardBuildId.toList 0x21 && header.profileSeed != 0 &&
    header.pwmFrequencyHz != 0 && header.epochZeroTimestampUs != 0 && physicalMetadataValid header

/-- The run flags of the header -/
def runFlags (kind : RunKind) : UInt32 := if kind = .rateCheck then 1 else 2

/-- What `encodeHeader` writes before the checksum -/
def headerFields (header : LogHeader) : List Field :=
  [⟨0, .text kHeaderMagic⟩, ⟨8, .word16 kSchemaVersion⟩, ⟨10, .word16 256⟩, ⟨12, .word16 320⟩,
    ⟨14, .word16 192⟩, ⟨16, .byte (ByteEnum.toByte header.stage)⟩, ⟨18, .word16 kConsumerRateHz⟩,
    ⟨20, .word32 header.encoderRate.toWord⟩, ⟨24, .word32 kProfileContractVersion⟩,
    ⟨28, .word32 header.profileSeed⟩, ⟨32, .word32 header.pwmFrequencyHz⟩,
    ⟨36, .word32 header.resetReason⟩, ⟨40, .word32 header.totalReduction⟩,
    ⟨44, .word32 header.physicalLimitDeg⟩, ⟨48, .word32 header.routineGuardDeg⟩,
    ⟨52, .word32 header.hardAbortDeg⟩, ⟨56, .word32 header.backlashFullWidthDeg⟩,
    ⟨64, .word64 header.epochZeroTimestampUs⟩, ⟨72, .text header.sessionId.toList⟩,
    ⟨104, .text header.firmwareSha.toList⟩, ⟨144, .text header.aviEspLibsSha.toList⟩,
    ⟨184, .text header.boardBuildId.toList⟩, ⟨248, .word32 (runFlags header.runKind)⟩]

/-- `encodeHeader` -/
def encodeHeader (header : LogHeader) : Option HeaderBytes :=
  if headerValid header then some (Image.sealBytes ownCrc (headerFields header) 252) else none

/-- The run kind that the flags of a header name -/
def runOfFlags (flags : UInt32) : Option RunKind :=
  if flags = 1 then some .rateCheck else if flags = 2 then some .full else none

/-- The header that stands in an image, given what its rate and its flags name -/
def readHeader (image : Image) (encoderRate : EncoderRate) (runKind : RunKind) : LogHeader where
  stage := ByteEnum.ofByte (image 16)
  encoderRate := encoderRate
  runKind := runKind
  profileSeed := image.getU32 28
  pwmFrequencyHz := image.getU32 32
  resetReason := image.getU32 36
  totalReduction := image.getU32 40
  physicalLimitDeg := image.getU32 44
  routineGuardDeg := image.getU32 48
  hardAbortDeg := image.getU32 52
  backlashFullWidthDeg := image.getU32 56
  epochZeroTimestampUs := image.getU64 64
  sessionId := image.getVector 72 32
  firmwareSha := image.getVector 104 40
  aviEspLibsSha := image.getVector 144 40
  boardBuildId := image.getVector 184 64

/-- `decodeHeader` -/
def decodeHeader (data : List UInt8) : Except DecodeError LogHeader :=
  let image := Image.ofBytes data
  if data.length < kHeaderBytes then .error .truncated
  else if kHeaderBytes < data.length then .error .trailingBytes
  else if image.slice 0 8 ≠ kHeaderMagic then .error .magic
  else if image.getU16 8 ≠ kSchemaVersion then .error .schema
  else if image.getU16 10 ≠ 256 ∨ image.getU16 12 ≠ 320 ∨ image.getU16 14 ≠ 192 ∨
      image.getU16 18 ≠ kConsumerRateHz ∨ image.getU32 24 ≠ kProfileContractVersion then
    .error .size
  else if image.getU32 252 ≠ ownCrc (image.slice 0 252) then .error .crc
  else if image 17 ≠ 0 ∨ allZero (image.slice 60 4) = false then .error .reserved
  else
    match runOfFlags (image.getU32 248) with
    | none => .error .enum
    | some runKind =>
        -- a stage or a rate that names no enumerator fails `isKnownStage` and
        -- `isSupportedEncoderRate`
        match EncoderRate.ofWord (image.getU32 20) with
        | none => .error .invariant
        | some encoderRate =>
            if ByteEnum.valid AssemblyStage (image 16) = false ∨
                headerValid (readHeader image encoderRate runKind) = false then
              .error .invariant
            else .ok (readHeader image encoderRate runKind)

/-! ### The footer -/

/-- `validFooterState` -/
def validFooterState (completion : CompletionCode) (rateSupported : Bool)
    (reason : UnsupportedReason) : Bool :=
  match completion with
  | .normal => rateSupported && reason == .none
  | .unsupported => !rateSupported && reason != .none
  | .aborted => reason == .none

/-- `shutdownPrefix` -/
def shutdownPrefix (mask : UInt32) : Bool := mask ≤ 0x3F && mask &&& (mask + 1) == 0

/-- `fatalAcquisitionCountersAreZero` -/
def fatalAcquisitionCountersAreZero (statistics : SamplerStatistics) : Bool :=
  statistics.triggerCoalescedOrMissed == 0 && statistics.preEpochSamples == 0 &&
    statistics.invalidSamples == 0 && statistics.lateAfterRelease == 0 &&
    statistics.steadyStateIncompleteEpochs == 0 && statistics.consumerDeadlineMisses == 0 &&
    statistics.rawQueueOverflows == 0 && statistics.writerQueueOverflows == 0 &&
    statistics.encoderTransportErrors == 0 && statistics.encoderStatusFaults == 0 &&
    statistics.vbusInvalidSamples == 0

/-- The runs that ended as they were meant to -/
def CompletionCode.finished : CompletionCode → Bool
  | .normal => true
  | .unsupported => true
  | .aborted => false

/-- `footerFieldsValid` -/
def footerFieldsValid (footer : LogFooter) : Bool :=
  let hasRecords := footer.totalRecords != 0
  let sequenceValid :=
    if hasRecords then
      footer.lastSequence ≥ footer.firstSequence &&
        footer.lastSequence - footer.firstSequence + 1 == footer.totalRecords
    else footer.firstSequence == 0 && footer.lastSequence == 0
  let normalValid := footer.completion != .normal ||
    (hasRecords && footer.statistics.firstError == 0 &&
      fatalAcquisitionCountersAreZero footer.statistics)
  sequenceValid && footer.qualificationValidEpochs ≤ footer.qualificationTotalEpochs &&
    shutdownPrefix footer.shutdownStepMask &&
    (!footer.completion.finished || footer.shutdownStepMask == 0x3F) && normalValid

/-- `hasUnsupportedEvidence` -/
def hasUnsupportedEvidence (footer : LogFooter) : Bool :=
  let statistics := footer.statistics
  match footer.unsupportedReason with
  | .none => false
  | .triggerCoalesced => statistics.triggerCoalescedOrMissed != 0
  | .incompleteEpoch =>
      statistics.preEpochSamples != 0 || statistics.repeatedSamples != 0 ||
        statistics.lateAfterRelease != 0 || statistics.steadyStateIncompleteEpochs != 0
  | .invalidRead => statistics.invalidSamples != 0 || statistics.encoderTransportErrors != 0
  | .deadlineMiss => statistics.consumerDeadlineMisses != 0
  | .queueOverflow =>
      statistics.bucketCollisions != 0 || statistics.rawQueueOverflows != 0 ||
        statistics.writerQueueOverflows != 0
  | .writerFailure => statistics.firstError != 0
  | .sensorHealth => statistics.encoderStatusFaults != 0
  | .operatorMarkedUnsupported => true

/-- What `encodeFooter` and `decodeFooter` ask of a footer -/
def footerValid (footer : LogFooter) : Bool :=
  validFooterState footer.completion footer.rateSupported footer.unsupportedReason &&
    footerFieldsValid footer &&
    (footer.completion != .unsupported || hasUnsupportedEvidence footer)

/-- What `encodeFooter` writes before the checksum -/
def footerFields (footer : LogFooter) : List Field :=
  [⟨0, .text kFooterMagic⟩, ⟨8, .word16 kSchemaVersion⟩, ⟨10, .word16 192⟩,
    ⟨12, .byte (ByteEnum.toByte footer.completion)⟩, ⟨13, .byte (flagByte footer.rateSupported)⟩,
    ⟨14, .byte (ByteEnum.toByte footer.unsupportedReason)⟩, ⟨16, .word64 footer.totalRecords⟩,
    ⟨24, .word64 footer.firstSequence⟩, ⟨32, .word64 footer.lastSequence⟩,
    ⟨40, .word64 footer.statistics.triggerCoalescedOrMissed⟩,
    ⟨48, .word64 footer.statistics.preEpochSamples⟩,
    ⟨56, .word64 footer.statistics.repeatedSamples⟩,
    ⟨64, .word64 footer.statistics.skippedSamples⟩,
    ⟨72, .word64 footer.statistics.invalidSamples⟩,
    ⟨80, .word64 footer.statistics.lateAfterRelease⟩,
    ⟨88, .word64 footer.statistics.startupIncompleteEpochs⟩,
    ⟨96, .word64 footer.statistics.steadyStateIncompleteEpochs⟩,
    ⟨104, .word64 footer.statistics.consumerDeadlineMisses⟩,
    ⟨112, .word64 footer.statistics.rawQueueOverflows⟩,
    ⟨120, .word64 footer.statistics.writerQueueOverflows⟩,
    ⟨128, .word64 footer.statistics.encoderTransportErrors⟩,
    ⟨136, .word64 footer.statistics.encoderStatusFaults⟩,
    ⟨144, .word64 footer.statistics.vbusInvalidSamples⟩,
    ⟨152, .word32 footer.statistics.firstError.toUInt32⟩,
    ⟨156, .word32 footer.qualificationValidEpochs⟩, ⟨160, .word32 footer.qualificationTotalEpochs⟩,
    ⟨164, .word32 footer.shutdownStepMask⟩, ⟨168, .word32 footer.fileCrc32⟩]

/-- `encodeFooter` -/
def encodeFooter (footer : LogFooter) : Option FooterBytes :=
  if footerValid footer then some (Image.sealBytes ownCrc (footerFields footer) 188) else none

/-- The statistics that stand in an image -/
def readStatistics (image : Image) : SamplerStatistics where
  triggerCoalescedOrMissed := image.getU64 40
  preEpochSamples := image.getU64 48
  repeatedSamples := image.getU64 56
  skippedSamples := image.getU64 64
  invalidSamples := image.getU64 72
  lateAfterRelease := image.getU64 80
  startupIncompleteEpochs := image.getU64 88
  steadyStateIncompleteEpochs := image.getU64 96
  consumerDeadlineMisses := image.getU64 104
  rawQueueOverflows := image.getU64 112
  writerQueueOverflows := image.getU64 120
  encoderTransportErrors := image.getU64 128
  encoderStatusFaults := image.getU64 136
  vbusInvalidSamples := image.getU64 144
  firstError := (image.getU32 152).toInt32

/-- The footer that stands in an image -/
def readFooter (image : Image) : LogFooter where
  completion := ByteEnum.ofByte (image 12)
  rateSupported := image 13 == 1
  unsupportedReason := ByteEnum.ofByte (image 14)
  totalRecords := image.getU64 16
  firstSequence := image.getU64 24
  lastSequence := image.getU64 32
  statistics := readStatistics image
  qualificationValidEpochs := image.getU32 156
  qualificationTotalEpochs := image.getU32 160
  shutdownStepMask := image.getU32 164
  fileCrc32 := image.getU32 168

/-- `decodeFooter` -/
def decodeFooter (data : List UInt8) : Except DecodeError LogFooter :=
  let image := Image.ofBytes data
  if data.length < kFooterBytes then .error .truncated
  else if kFooterBytes < data.length then .error .trailingBytes
  else if image.slice 0 8 ≠ kFooterMagic then .error .magic
  else if image.getU16 8 ≠ kSchemaVersion then .error .schema
  else if image.getU16 10 ≠ 192 then .error .size
  else if image.getU32 188 ≠ ownCrc (image.slice 0 188) then .error .crc
  else if 1 < image 13 ∨ image 15 ≠ 0 ∨ allZero (image.slice 172 16) = false then .error .reserved
  -- `knownCompletion` and `knownUnsupported` on the bytes, then the rules for the footer
  else if ByteEnum.valid CompletionCode (image 12) = false ∨
      ByteEnum.valid UnsupportedReason (image 14) = false ∨
      footerValid (readFooter image) = false then
    .error .enum
  else .ok (readFooter image)

end MissionBoard.Characterization
