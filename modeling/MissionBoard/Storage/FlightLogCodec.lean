import MissionBoard.Library.ByteLayout
import MissionBoard.Library.Crc
import MissionBoard.Numeric.Binary32
import MissionBoard.Storage.FlightRecord

/-!
Owns `serialize` of `runtime/flight_log.cpp` with the sample and the metadata that it writes,
and what `validate` promises of a record: every record that was serialized passes, every
field stands where it was put, and no error burst of up to 32 bits goes unnoticed.

A float is written by its bits. `measured_bidirectional_span_rad` of the sample is not written;
the metadata has its own.
-/

namespace MissionBoard.Storage

open LittleEndian ByteLayout

/-- `FinZeroApproachDirection` -/
inductive FinZeroApproachDirection where
  | unknown
  | positive
  | negative
deriving DecidableEq

/-- `FinZeroCalibrationMethod` -/
inductive FinZeroCalibrationMethod where
  | unknown
  | currentPosition
  | positiveSingleApproach
  | negativeSingleApproach
  | bidirectionalMidpoint
deriving DecidableEq

/-- `FinZeroGroundVerificationStatus` -/
inductive FinZeroGroundVerificationStatus where
  | unverified
  | passed
  | failed
deriving DecidableEq

/-- `EncoderPipelineState` -/
inductive EncoderPipelineState where
  | uninitialized
  | warmingUp
  | ready
  | faulted
deriving DecidableEq

def FinZeroApproachDirection.toByte : FinZeroApproachDirection → UInt8
  | .unknown => 0
  | .positive => 1
  | .negative => 2

def FinZeroCalibrationMethod.toByte : FinZeroCalibrationMethod → UInt8
  | .unknown => 0
  | .currentPosition => 1
  | .positiveSingleApproach => 2
  | .negativeSingleApproach => 3
  | .bidirectionalMidpoint => 4

def FinZeroGroundVerificationStatus.toByte : FinZeroGroundVerificationStatus → UInt8
  | .unverified => 0
  | .passed => 1
  | .failed => 2

def EncoderPipelineState.toByte : EncoderPipelineState → UInt8
  | .uninitialized => 0
  | .warmingUp => 1
  | .ready => 2
  | .faulted => 3

/-- `kUnknownEncoderZeroCount` -/
def kUnknownEncoderZeroCount : UInt16 := 0xFFFF

/-- `std::numeric_limits<float>::quiet_NaN()` -/
def quietNaN : Binary32 := 0x7FC00000

/-- `FinZeroMetadata` -/
structure FinZeroMetadata where
  encoderZeroCount : UInt16 := 0xFFFF
  configuredTimestampUs : UInt64 := 0
  approachDirection : FinZeroApproachDirection := .unknown
  calibrationMethod : FinZeroCalibrationMethod := .unknown
  groundVerificationStatus : FinZeroGroundVerificationStatus := .unverified
  measuredBidirectionalSpanRad : Binary32 := quietNaN

/-- `EncoderTimingMetadata` -/
structure EncoderTimingMetadata where
  captureRequestedTimestampUs : UInt64 := 0
  spiTransactionStartUs : UInt64 := 0
  spiTransactionCompleteUs : UInt64 := 0
  consumerTimestampUs : UInt64 := 0
  pipelineReadyTimestampUs : UInt64 := 0
  consumerDeadlineMissCount : UInt16 := 0
  repeatedBlockCount : UInt16 := 0
  coalescedNotificationCount : UInt16 := 0
  rawCaptureMissedTickCount : UInt16 := 0
  timestampOffsetSaturationCount : UInt16 := 0
  pipelineState : EncoderPipelineState := .uninitialized

/-- `flight_runtime_metadata::Snapshot` -/
structure MetadataSnapshot where
  finZero : FinZeroMetadata := {}
  encoder : EncoderTimingMetadata := {}

/-- `Sample`, as far as it is serialized -/
structure Sample where
  monotonicUs : UInt64 := 0
  flightElapsedUs : UInt64 := 0
  flightEpoch : UInt32 := 0
  sdDropCount : UInt32 := 0
  flashDropCount : UInt32 := 0
  flightStatus : UInt16 := 0
  state : UInt8 := 0
  configFlags : UInt8 := 0
  finMode : UInt8 := 0
  paraMode : UInt8 := 0
  lpsTemperatureRaw : UInt8 := 0
  airspeedRaw : UInt8 := 0
  finAngleRaw : UInt8 := 0
  lpsPressureRaw : UInt16 := 0
  rollRaw : UInt16 := 0
  rollRateRaw : UInt16 := 0
  finRateRaw : UInt16 := 0
  requestedTorqueRaw : UInt16 := 0
  controlRollReferenceRaw : UInt16 := 0
  rollDeviationRaw : UInt16 := 0
  controlRollFlags : UInt8 := 0
  referenceCaptureEventSequence : UInt8 := 0
  gainClampFlags : UInt8 := 0
  lpsValid : Bool := false
  airspeedValid : Bool := false
  deploymentPowerCutoff : Bool := false
  controlReferenceValid : Bool := false
  finZeroConfigured : Bool := false
  encoderZeroCount : UInt16 := kUnknownEncoderZeroCount
  referenceCaptureTick : UInt64 := 0
  referenceEstimatorTimestampUs : UInt64 := 0
  rollEstimateRad : Binary32 := 0
  controlReferenceRad : Binary32 := 0
  rollDeviationRad : Binary32 := 0
  staticPressurePa : Binary32 := 0
  sscTemperatureCelsius : Binary32 := 0
  airspeedMps : Binary32 := 0
  pitotCoefficientAssumed : Binary32 := 0
  pitotCoefficientDiagnosticMin : Binary32 := 0
  pitotCoefficientDiagnosticMax : Binary32 := 0

/-- The validity bits of byte 7 -/
def Sample.validity (sample : Sample) : UInt8 :=
  (if sample.lpsValid then 1 else 0) ||| (if sample.airspeedValid then 2 else 0) |||
    (if sample.deploymentPowerCutoff then 4 else 0) |||
    (if sample.controlReferenceValid then 8 else 0) ||| (if sample.finZeroConfigured then 16 else 0)

/-- What `serialize` writes before the checksum, in its order -/
def recordFields (sample : Sample) (metadata : MetadataSnapshot) : List Field :=
  [⟨0, .text kMagic⟩, ⟨4, .byte kSchemaVersion⟩, ⟨5, .byte 192⟩, ⟨6, .byte sample.state⟩,
    ⟨7, .byte sample.validity⟩, ⟨8, .word64 sample.monotonicUs⟩,
    ⟨16, .word64 sample.flightElapsedUs⟩, ⟨24, .word32 sample.flightEpoch⟩,
    ⟨28, .word32 sample.sdDropCount⟩, ⟨32, .word32 sample.flashDropCount⟩,
    ⟨36, .word16 sample.flightStatus⟩, ⟨38, .byte sample.configFlags⟩, ⟨39, .byte sample.finMode⟩,
    ⟨40, .byte sample.paraMode⟩, ⟨41, .byte sample.lpsTemperatureRaw⟩,
    ⟨42, .byte sample.airspeedRaw⟩, ⟨43, .byte sample.finAngleRaw⟩,
    ⟨44, .word16 sample.lpsPressureRaw⟩, ⟨46, .word16 sample.rollRaw⟩,
    ⟨48, .word16 sample.rollRateRaw⟩, ⟨50, .word16 sample.finRateRaw⟩,
    ⟨52, .word16 sample.requestedTorqueRaw⟩, ⟨54, .word16 sample.controlRollReferenceRaw⟩,
    ⟨56, .word16 sample.rollDeviationRaw⟩, ⟨58, .byte sample.controlRollFlags⟩,
    ⟨59, .byte sample.referenceCaptureEventSequence⟩, ⟨60, .byte sample.gainClampFlags⟩,
    ⟨61, .byte (if sample.finZeroConfigured then 1 else 0)⟩,
    ⟨62, .word16 (if metadata.finZero.encoderZeroCount ≠ kUnknownEncoderZeroCount then
      metadata.finZero.encoderZeroCount else sample.encoderZeroCount)⟩,
    ⟨64, .word64 sample.referenceCaptureTick⟩, ⟨72, .word64 sample.referenceEstimatorTimestampUs⟩,
    ⟨80, .word32 sample.rollEstimateRad⟩, ⟨84, .word32 sample.controlReferenceRad⟩,
    ⟨88, .word32 sample.rollDeviationRad⟩, ⟨92, .word32 sample.staticPressurePa⟩,
    ⟨96, .word32 sample.sscTemperatureCelsius⟩, ⟨100, .word32 sample.airspeedMps⟩,
    ⟨104, .word32 sample.pitotCoefficientAssumed⟩,
    ⟨108, .word32 sample.pitotCoefficientDiagnosticMin⟩,
    ⟨112, .word32 sample.pitotCoefficientDiagnosticMax⟩,
    ⟨116, .word32 metadata.finZero.measuredBidirectionalSpanRad⟩,
    ⟨120, .word64 metadata.finZero.configuredTimestampUs⟩,
    ⟨128, .word32 (if sample.finZeroConfigured then sample.flightEpoch else 0)⟩,
    ⟨132, .word64 metadata.encoder.captureRequestedTimestampUs⟩,
    ⟨140, .word64 metadata.encoder.spiTransactionStartUs⟩,
    ⟨148, .word64 metadata.encoder.spiTransactionCompleteUs⟩,
    ⟨156, .word64 metadata.encoder.consumerTimestampUs⟩,
    ⟨164, .word64 metadata.encoder.pipelineReadyTimestampUs⟩,
    ⟨172, .word16 metadata.encoder.consumerDeadlineMissCount⟩,
    ⟨174, .word16 metadata.encoder.repeatedBlockCount⟩,
    ⟨176, .word16 metadata.encoder.coalescedNotificationCount⟩,
    ⟨178, .word16 metadata.encoder.rawCaptureMissedTickCount⟩,
    ⟨180, .word16 metadata.encoder.timestampOffsetSaturationCount⟩,
    ⟨182, .byte metadata.finZero.approachDirection.toByte⟩,
    ⟨183, .byte metadata.finZero.calibrationMethod.toByte⟩,
    ⟨184, .byte metadata.finZero.groundVerificationStatus.toByte⟩,
    ⟨185, .byte metadata.encoder.pipelineState.toByte⟩, ⟨186, .word16 0⟩]

/-- The checksum over what was written before it -/
def checksumField (sample : Sample) (metadata : MetadataSnapshot) : Field :=
  ⟨188, .word32 (crc32 ((Image.ofFields (recordFields sample metadata)).slice 0 188))⟩

/-- All that `serialize` writes -/
def serializedFields (sample : Sample) (metadata : MetadataSnapshot) : List Field :=
  recordFields sample metadata ++ [checksumField sample metadata]

/-- `serialize` -/
def serialize (sample : Sample) (metadata : MetadataSnapshot) : SerializedRecord :=
  Vector.ofFn fun index => Image.ofFields (serializedFields sample metadata) index.val

/-- The bytes of a record by their addresses -/
def recordImage (record : SerializedRecord) : Image := fun address => record.toList.getD address 0

/-! ### The layout -/

/-- Where the fields of a record begin and end -/
def serializedExtents : List (ℕ × ℕ) :=
  [(0, 4), (4, 5), (5, 6), (6, 7), (7, 8), (8, 16), (16, 24), (24, 28), (28, 32), (32, 36),
    (36, 38), (38, 39), (39, 40), (40, 41), (41, 42), (42, 43), (43, 44), (44, 46), (46, 48),
    (48, 50), (50, 52), (52, 54), (54, 56), (56, 58), (58, 59), (59, 60), (60, 61), (61, 62),
    (62, 64), (64, 72), (72, 80), (80, 84), (84, 88), (88, 92), (92, 96), (96, 100), (100, 104),
    (104, 108), (108, 112), (112, 116), (116, 120), (120, 128), (128, 132), (132, 140), (140, 148),
    (148, 156), (156, 164), (164, 172), (172, 174), (174, 176), (176, 178), (178, 180), (180, 182),
    (182, 183), (183, 184), (184, 185), (185, 186), (186, 188), (188, 192)]

variable {sample : Sample} {metadata : MetadataSnapshot}

theorem map_extent_serializedFields :
    (serializedFields sample metadata).map (fun field => (field.offset, field.stop)) =
      serializedExtents := rfl

theorem pairwise_apart_serializedFields : (serializedFields sample metadata).Pairwise Image.Apart :=
  Image.pairwise_apart_of_extents serializedExtents map_extent_serializedFields (by decide)

theorem stop_le_of_mem_serializedFields {field : Field}
    (written : field ∈ serializedFields sample metadata) : field.stop ≤ 192 := by
  have extent : (field.offset, field.stop) ∈ serializedExtents := by
    rw [← @map_extent_serializedFields sample metadata]
    exact List.mem_map_of_mem written
  have all : ∀ extent ∈ serializedExtents, extent.2 ≤ 192 := by decide
  exact all _ extent

theorem recordImage_serialize {address : ℕ} (within : address < 192) :
    recordImage (serialize sample metadata) address =
      Image.ofFields (serializedFields sample metadata) address := by
  simp [recordImage, serialize, within]

theorem slice_recordImage {offset count : ℕ} (within : offset + count ≤ 192) :
    (recordImage (serialize sample metadata)).slice offset count =
      (Image.ofFields (serializedFields sample metadata)).slice offset count := by
  unfold Image.slice
  apply List.map_congr_left
  intro index inside
  rw [List.mem_range] at inside
  exact recordImage_serialize (by omega)

/-- Each field is read back from the record as it was written. -/
theorem readLike_serialize {field : Field} (written : field ∈ serializedFields sample metadata) :
    (recordImage (serialize sample metadata)).readLike field.offset field.value = field.value := by
  apply Image.readLike_of_slice
  rw [slice_recordImage (stop_le_of_mem_serializedFields written)]
  exact Image.slice_ofFields pairwise_apart_serializedFields written

/-! ### A serialized record is valid -/

theorem slice_recordImage_zero (record : SerializedRecord) {count : ℕ} (within : count ≤ 192) :
    (recordImage record).slice 0 count = record.toList.take count := by
  apply List.ext_getElem
  · simp [within]
  · intro index _ inside
    simp only [List.length_take, Vector.length_toList] at inside
    simp [Image.slice, recordImage, show index < 192 by omega]

theorem getElem_eq_recordImage (record : SerializedRecord) {address : ℕ} (within : address < 192) :
    record[address] = recordImage record address := by
  simp [recordImage, within]

theorem recordU32_eq_getU32 (record : SerializedRecord) (offset : ℕ) (within : offset + 3 < 192) :
    recordU32 record offset within = (recordImage record).getU32 offset := by
  unfold recordU32 Image.getU32
  rw [getElem_eq_recordImage record (by omega), getElem_eq_recordImage record (by omega),
    getElem_eq_recordImage record (by omega), getElem_eq_recordImage record (by omega)]

/-- The checksum is written behind everything that it covers. -/
theorem slice_checksummed :
    (Image.ofFields (serializedFields sample metadata)).slice 0 188 =
      (Image.ofFields (recordFields sample metadata)).slice 0 188 := by
  apply Image.slice_ofFields_append
  intro field checked
  rw [List.mem_singleton.mp checked]
  exact le_rfl

theorem validate_serialize (sample : Sample) (metadata : MetadataSnapshot) :
    validate (serialize sample metadata) = true := by
  have magic : (serialize sample metadata).toList.take 4 = kMagic := by
    have stands := @readLike_serialize sample metadata ⟨0, .text kMagic⟩
      (by simp [serializedFields, recordFields])
    rw [← slice_recordImage_zero _ (by decide)]
    exact Value.text.inj stands
  have version : (serialize sample metadata)[4] = kSchemaVersion := by
    have stands := @readLike_serialize sample metadata ⟨4, .byte kSchemaVersion⟩
      (by simp [serializedFields, recordFields])
    rw [getElem_eq_recordImage _ (by decide)]
    exact Value.byte.inj stands
  have size : (serialize sample metadata)[5] = 192 := by
    have stands := @readLike_serialize sample metadata ⟨5, .byte 192⟩
      (by simp [serializedFields, recordFields])
    rw [getElem_eq_recordImage _ (by decide)]
    exact Value.byte.inj stands
  have checksum : recordU32 (serialize sample metadata) 188 =
      crc32 ((serialize sample metadata).toList.take 188) := by
    have stands := @readLike_serialize sample metadata (checksumField sample metadata)
      (by simp [serializedFields])
    rw [recordU32_eq_getU32, ← slice_recordImage_zero _ (by decide), slice_recordImage (by decide),
      slice_checksummed]
    exact Value.word32.inj stands
  unfold validate
  rw [if_neg (by simp [magic, version, size]), checksum, beq_self_eq_true]

/-! ### Error bursts -/

/-- The reflected polynomial of `crc32` -/
def crcPolynomial : BitVec 32 := 0xEDB88320#32

/-- The bits of a few bytes, the lowest of each first -/
def messageBits (bytes : List UInt8) : List Bool :=
  (bytes.map UInt8.toBitVec).flatMap Crc.byteBits

/-- The record with the bits of the error flipped -/
def corrupt (record : SerializedRecord) (error : ℕ → Bool) : SerializedRecord :=
  Vector.ofFn fun index =>
    record[index] ^^^
      UInt8.ofBitVec (Crc.ofBits ((List.range 8).map fun bit => error (8 * index + bit)))

theorem crc32Step_toBitVec (crc : UInt32) :
    ((crc >>> 1) ^^^ (if crc &&& 1 ≠ 0 then 0xEDB88320 else 0)).toBitVec =
      Crc.shift crcPolynomial crc.toBitVec := by
  have lowBit : (crc &&& 1 ≠ 0) ↔ crc.toBitVec.getLsbD 0 = true := by
    rw [Ne, ← UInt32.toNat_inj, UInt32.toNat_and, BitVec.getLsbD, Nat.testBit_zero]
    show ¬ (crc.toNat &&& 1 = 0) ↔ _
    rw [Nat.and_one_is_mod]
    simp
  unfold Crc.shift
  rw [UInt32.toBitVec_xor]
  by_cases set : crc.toBitVec.getLsbD 0 = true
  · rw [if_pos set, if_pos (lowBit.mpr set)]
    rfl
  · rw [if_neg set, if_neg (mt lowBit.mp set)]
    rfl

theorem crc32Byte_toBitVec (crc : UInt32) (byte : UInt8) :
    (crc32Byte crc byte).toBitVec =
      Crc.feed crcPolynomial crc.toBitVec (Crc.byteBits byte.toBitVec) := by
  rw [Crc.feed_byteBits (by decide)]
  unfold crc32Byte
  rw [List.foldl_const, List.length_range]
  have steps : Function.Semiconj UInt32.toBitVec
      (fun crc => (crc >>> 1) ^^^ (if crc &&& 1 ≠ 0 then 0xEDB88320 else 0))
      (Crc.shift crcPolynomial) := crc32Step_toBitVec
  rw [(steps.iterate_right 8).eq]
  rfl

theorem foldl_crc32Byte_toBitVec (bytes : List UInt8) (crc : UInt32) :
    (bytes.foldl crc32Byte crc).toBitVec =
      Crc.feed crcPolynomial crc.toBitVec (messageBits bytes) := by
  induction bytes generalizing crc with
  | nil => rfl
  | cons byte rest inductionHypothesis =>
      rw [List.foldl_cons, inductionHypothesis, crc32Byte_toBitVec, ← Crc.feed_append]
      rfl

theorem messageBits_append (first second : List UInt8) :
    messageBits (first ++ second) = messageBits first ++ messageBits second := by
  unfold messageBits
  rw [List.map_append, List.flatMap_append]

theorem ofBits_messageBits_four (b0 b1 b2 b3 : UInt8) :
    (Crc.ofBits (messageBits [b0, b1, b2, b3]) : BitVec 32) = (join32 b0 b1 b2 b3).toBitVec := by
  apply BitVec.eq_of_toNat_eq
  have whole := toNat_join32 b0 b1 b2 b3
  have bound0 := b0.toNat_lt
  have bound1 := b1.toNat_lt
  have bound2 := b2.toNat_lt
  have bound3 := b3.toNat_lt
  unfold messageBits
  rw [Crc.ofBits_flatMap, BitVec.toNat_ofNat, UInt32.toNat_toBitVec, whole]
  simp only [List.map_cons, List.map_nil, Crc.littleEndian, UInt8.toNat_toBitVec]
  omega

/-- Behind what it covers, a checksum leaves the same register whatever was covered. -/
theorem feed_checksum {register : UInt32} {b0 b1 b2 b3 : UInt8}
    (stored : join32 b0 b1 b2 b3 = ~~~ register) :
    Crc.feed crcPolynomial register.toBitVec (messageBits [b0, b1, b2, b3]) =
      (Crc.shift crcPolynomial)^[32] (BitVec.allOnes 32) := by
  have count : (messageBits [b0, b1, b2, b3]).length = 32 := rfl
  rw [Crc.feed_eq_iterate count.le, count, ofBits_messageBits_four, stored, UInt32.toBitVec_not,
    ← BitVec.xor_allOnes, ← BitVec.xor_assoc, BitVec.xor_self, BitVec.zero_xor]

/-- The register that a valid record leaves, its own checksum included -/
theorem feed_of_validate {record : SerializedRecord} (valid : validate record = true) :
    Crc.feed crcPolynomial (BitVec.allOnes 32) (messageBits record.toList) =
      (Crc.shift crcPolynomial)^[32] (BitVec.allOnes 32) := by
  unfold validate at valid
  split at valid
  · cases valid
  · have stored : join32 record[188] record[189] record[190] record[191] =
        ~~~ (record.toList.take 188).foldl crc32Byte 0xFFFFFFFF := eq_of_beq valid
    have tail : record.toList.drop 188 = [record[188], record[189], record[190], record[191]] := by
      apply List.ext_getElem
      · simp
      · intro index inside _
        simp only [List.length_drop, Vector.length_toList] at inside
        obtain rfl | rfl | rfl | rfl : index = 0 ∨ index = 1 ∨ index = 2 ∨ index = 3 := by omega
        all_goals simp
    have bits := messageBits_append (record.toList.take 188) (record.toList.drop 188)
    rw [List.take_append_drop, tail] at bits
    have start : BitVec.allOnes 32 = (0xFFFFFFFF : UInt32).toBitVec := by decide
    have covered := foldl_crc32Byte_toBitVec (record.toList.take 188) 0xFFFFFFFF
    rw [← start] at covered
    rw [bits, Crc.feed_append, ← covered]
    exact feed_checksum stored

theorem length_messageBits (bytes : List UInt8) : (messageBits bytes).length = 8 * bytes.length := by
  unfold messageBits
  rw [Crc.length_flatMap_byteBits, List.length_map]

theorem getElem_messageBits (bytes : List UInt8) {index : ℕ}
    (within : index < (messageBits bytes).length) :
    (messageBits bytes)[index] = (bytes.getD (index / 8) 0).toBitVec.getLsbD (index % 8) := by
  rw [← List.getD_eq_getElem _ false within]
  unfold messageBits
  rw [Crc.getD_flatMap_byteBits]
  congr 1
  exact @List.getD_map _ _ bytes 0 (index / 8) UInt8.toBitVec

/-- The error flips the bits of the message. -/
theorem messageBits_corrupt (record : SerializedRecord) (error : ℕ → Bool) :
    messageBits (corrupt record error).toList =
      List.zipWith xor (messageBits record.toList) ((List.range 1536).map error) := by
  apply List.ext_getElem
  · simp [length_messageBits]
  · intro index inside _
    rw [length_messageBits, Vector.length_toList] at inside
    rw [getElem_messageBits, List.getElem_zipWith, getElem_messageBits]
    have byte : index / 8 < 192 := by omega
    have bit : index % 8 < 8 := Nat.mod_lt _ (by decide)
    have whole : 8 * (index / 8) + index % 8 = index := Nat.div_add_mod index 8
    have error_bit := @Crc.getLsbD_ofBits 8
      ((List.range 8).map fun bit => error (8 * (index / 8) + bit)) _ bit
    rw [List.getD_eq_getElem _ _ (by simpa using bit)] at error_bit
    simp only [List.getElem_map, List.getElem_range, whole] at error_bit
    simp [corrupt, byte, error_bit]

/-- No error burst within 32 consecutive bits leaves a valid record valid. -/
theorem validate_corrupt {record : SerializedRecord} {error : ℕ → Bool} {start : ℕ}
    (valid : validate record = true) (flips : ∃ index < 1536, error index = true)
    (burst : ∀ index < 1536, error index = true → start ≤ index ∧ index < start + 32) :
    validate (corrupt record error) = false := by
  by_contra passes
  rw [Bool.not_eq_false] at passes
  have before := feed_of_validate valid
  have after := feed_of_validate passes
  have same : (messageBits record.toList).length = ((List.range 1536).map error).length := by
    simp [length_messageBits]
  have difference := @Crc.feed_xor 32 crcPolynomial (BitVec.allOnes 32) 0#32 _ _ same
  rw [BitVec.xor_zero, ← messageBits_corrupt, before, after] at difference
  have vanished : Crc.feed crcPolynomial 0#32 ((List.range 1536).map error) = 0#32 := by
    have cancelled := congrArg
      (fun register => (Crc.shift crcPolynomial)^[32] (BitVec.allOnes 32) ^^^ register) difference
    simp only [BitVec.xor_self, ← BitVec.xor_assoc, BitVec.zero_xor] at cancelled
    exact cancelled.symm
  refine @Crc.feed_window_ne 32 crcPolynomial _ (by decide) start ?_ ?_ vanished
  · intro index set
    by_cases within : index < 1536
    · rw [List.getD_eq_getElem _ _ (by simpa using within)] at set
      simp only [List.getElem_map, List.getElem_range] at set
      exact burst index within set
    · rw [List.getD_eq_default _ _ (by simpa using within)] at set
      cases set
  · obtain ⟨index, within, set⟩ := flips
    exact List.mem_map.mpr ⟨index, List.mem_range.mpr within, set⟩

/-- What `serialize` writes is valid and read back field by field, `validate` misses no error
burst of up to 32 bits, and it takes no erased record. -/
theorem codec_detects :
    (∀ sample metadata, validate (serialize sample metadata) = true) ∧
    (∀ sample metadata, (serializedFields sample metadata).Pairwise Image.Apart ∧
      ∀ field ∈ serializedFields sample metadata, field.stop ≤ kSerializedRecordBytes ∧
        (recordImage (serialize sample metadata)).readLike field.offset field.value =
          field.value) ∧
    (∀ record error start, validate record = true → (∃ index < 1536, error index = true) →
      (∀ index < 1536, error index = true → start ≤ index ∧ index < start + 32) →
      validate (corrupt record error) = false) ∧
    ∀ record, erased record = true → validate record = false := by
  refine ⟨validate_serialize, ?_, ?_, ?_⟩
  · intro sample metadata
    exact ⟨pairwise_apart_serializedFields, fun field written =>
      ⟨stop_le_of_mem_serializedFields written, readLike_serialize written⟩⟩
  · intro record error start valid flips burst
    exact validate_corrupt valid flips burst
  · intro record isErased
    by_contra valid
    rw [Bool.not_eq_false] at valid
    rw [erased_of_validate valid] at isErased
    cases isErased

/-- One flipped bit of a record is noticed, and all bits set is no record. -/
theorem codec_detects_empty :
    validate (corrupt emptyRecord fun index => index == 100) = false ∧
      validate (Vector.replicate 192 0xFF) = false :=
  ⟨codec_detects.2.2.1 emptyRecord (fun index => index == 100) 100 validate_emptyRecord
      ⟨100, by decide, by decide⟩ (by
        intro index _ set
        obtain rfl := eq_of_beq set
        omega),
    codec_detects.2.2.2 _ (by decide)⟩

end MissionBoard.Storage
