import MissionBoard.Characterization.EncoderSampler
import MissionBoard.Library.ByteLayout

/-!
Owns `StreamPayload` of `bringup/stream_protocol.hpp` and the records that the bring-up commands put
into one: the samples of the encoder, the IMU, the ADC and the motor, and the attempts at a calibration.

A float is its bits. Fields of a sample that no record carries are left out.
-/

namespace MissionBoard.Bringup

open LittleEndian

/-- `StreamPayload::kCapacity` -/
def kCapacity : ℕ := 96

/-- `StreamPayload` -/
structure StreamPayload where
  bytes : List UInt8 := []
  bounded : bytes.length ≤ kCapacity := by decide

namespace StreamPayload

/-- `append` -/
def append (value : UInt8) (payload : StreamPayload) : Bool × StreamPayload :=
  if room : payload.bytes.length < kCapacity then
    (true, ⟨payload.bytes ++ [value], by rw [List.length_append]; exact room⟩)
  else (false, payload)

/-- `&&`: what stands second is done when the first has succeeded. -/
def both (first second : StreamPayload → Bool × StreamPayload) (payload : StreamPayload) :
    Bool × StreamPayload :=
  match first payload with
  | (true, next) => second next
  | (false, next) => (false, next)

/-- `u8` -/
def u8 (value : UInt8) : StreamPayload → Bool × StreamPayload := append value

/-- `u16` -/
def u16 (value : UInt16) : StreamPayload → Bool × StreamPayload :=
  both (append value.toUInt8) (append (value >>> 8).toUInt8)

/-- `i16` -/
def i16 (value : Int16) : StreamPayload → Bool × StreamPayload := u16 value.toUInt16

/-- `u32` -/
def u32 (value : UInt32) : StreamPayload → Bool × StreamPayload :=
  both (u16 value.toUInt16) (u16 (value >>> 16).toUInt16)

/-- `i32` -/
def i32 (value : Int32) : StreamPayload → Bool × StreamPayload := u32 value.toUInt32

/-- `u64` -/
def u64 (value : UInt64) : StreamPayload → Bool × StreamPayload :=
  both (u32 value.toUInt32) (u32 (value >>> 32).toUInt32)

/-- `f32` -/
def f32 (bits : UInt32) : StreamPayload → Bool × StreamPayload := u32 bits

/-- It appends these bytes, or as many of them as there is room for and says that there was not. -/
def Writes (write : StreamPayload → Bool × StreamPayload) (bytes : List UInt8) : Prop :=
  ∀ payload : StreamPayload, ((write payload).1 = true ↔
      payload.bytes.length + bytes.length ≤ kCapacity) ∧
    ((write payload).1 = true → (write payload).2.bytes = payload.bytes ++ bytes)

theorem writes_append (value : UInt8) : Writes (append value) [value] := by
  intro payload
  unfold append
  split
  · rename_i room
    exact ⟨⟨fun _ => room, fun _ => rfl⟩, fun _ => rfl⟩
  · rename_i full
    refine ⟨⟨fun failed => absurd failed Bool.false_ne_true, fun fits => absurd fits full⟩, ?_⟩
    exact fun failed => absurd failed Bool.false_ne_true

theorem Writes.both {first second : StreamPayload → Bool × StreamPayload}
    {front back : List UInt8} (before : Writes first front) (after : Writes second back) :
    Writes (both first second) (front ++ back) := by
  intro payload
  obtain ⟨fits, appended⟩ := before payload
  have total : (front ++ back).length = front.length + back.length := List.length_append
  unfold StreamPayload.both
  generalize first payload = written at fits appended ⊢
  obtain ⟨ok, next⟩ := written
  cases ok with
  | true =>
      have bytes : next.bytes = payload.bytes ++ front := appended rfl
      have length : next.bytes.length = payload.bytes.length + front.length := by
        rw [bytes, List.length_append]
      obtain ⟨fitsNext, appendedNext⟩ := after next
      refine ⟨?_, fun done => ?_⟩
      · rw [fitsNext, length, total, Nat.add_assoc]
      · rw [appendedNext done, bytes, List.append_assoc]
  | false =>
      have full : ¬payload.bytes.length + front.length ≤ kCapacity := by
        intro room
        exact Bool.false_ne_true (fits.mpr room)
      refine ⟨⟨fun failed => absurd failed Bool.false_ne_true, fun room => ?_⟩,
        fun failed => absurd failed Bool.false_ne_true⟩
      omega

theorem writes_u16 (value : UInt16) : Writes (u16 value) (bytes16 value) :=
  (writes_append _).both (writes_append _)

theorem bytes32_eq (value : UInt32) :
    bytes32 value = bytes16 value.toUInt16 ++ bytes16 (value >>> 16).toUInt16 := by
  simp only [bytes32, bytes16, List.cons_append, List.nil_append, List.cons.injEq, and_true,
    ← UInt8.toNat_inj, UInt32.toNat_toUInt8, UInt16.toNat_toUInt8, UInt32.toNat_toUInt16,
    UInt16.toNat_shiftRight, UInt32.toNat_shiftRight, Nat.shiftRight_eq_div_pow,
    UInt16.reduceToNat, UInt32.reduceToNat, Nat.reduceMod, Nat.reducePow]
  omega

theorem writes_u32 (value : UInt32) : Writes (u32 value) (bytes32 value) := by
  rw [bytes32_eq]
  exact (writes_u16 _).both (writes_u16 _)

theorem bytes64_eq (value : UInt64) :
    bytes64 value = bytes32 value.toUInt32 ++ bytes32 (value >>> 32).toUInt32 := by
  simp only [bytes32, bytes64, List.cons_append, List.nil_append, List.cons.injEq, and_true,
    ← UInt8.toNat_inj, UInt32.toNat_toUInt8, UInt64.toNat_toUInt8, UInt64.toNat_toUInt32,
    UInt64.toNat_shiftRight, UInt32.toNat_shiftRight, Nat.shiftRight_eq_div_pow,
    UInt64.reduceToNat, UInt32.reduceToNat, Nat.reduceMod, Nat.reducePow]
  omega

theorem writes_u64 (value : UInt64) : Writes (u64 value) (bytes64 value) := by
  rw [bytes64_eq]
  exact (writes_u32 _).both (writes_u32 _)

end StreamPayload

open StreamPayload

/-! ### Records -/

/-- A value that is written with one of the operations of the payload -/
inductive Word where
  | u8 (value : UInt8)
  | i16 (value : Int16)
  | u16 (value : UInt16)
  | i32 (value : Int32)
  | u32 (value : UInt32)
  | u64 (value : UInt64)
  | f32 (bits : UInt32)

namespace Word

def write : Word → StreamPayload → Bool × StreamPayload
  | .u8 value => StreamPayload.u8 value
  | .i16 value => StreamPayload.i16 value
  | .u16 value => StreamPayload.u16 value
  | .i32 value => StreamPayload.i32 value
  | .u32 value => StreamPayload.u32 value
  | .u64 value => StreamPayload.u64 value
  | .f32 bits => StreamPayload.f32 bits

def bytes : Word → List UInt8
  | .u8 value => [value]
  | .i16 value => bytes16 value.toUInt16
  | .u16 value => bytes16 value
  | .i32 value => bytes32 value.toUInt32
  | .u32 value => bytes32 value
  | .u64 value => bytes64 value
  | .f32 bits => bytes32 bits

theorem writes_write (word : Word) : Writes word.write word.bytes := by
  cases word with
  | u8 value => exact writes_append value
  | i16 value => exact writes_u16 value.toUInt16
  | u16 value => exact writes_u16 value
  | i32 value => exact writes_u32 value.toUInt32
  | u32 value => exact writes_u32 value
  | u64 value => exact writes_u64 value
  | f32 bits => exact writes_u32 bits

end Word

/-- A conjunction of writes -/
def appendAll : List Word → StreamPayload → Bool × StreamPayload
  | [], payload => (true, payload)
  | word :: rest, payload => both word.write (appendAll rest) payload

theorem writes_appendAll (words : List Word) :
    Writes (appendAll words) (words.flatMap Word.bytes) := by
  induction words with
  | nil =>
      intro payload
      refine ⟨⟨fun _ => payload.bounded, fun _ => rfl⟩, fun _ => ?_⟩
      exact (List.append_nil payload.bytes).symm
  | cons word rest inductionHypothesis =>
      rw [List.flatMap_cons]
      exact (Word.writes_write word).both inductionHypothesis

/-- `EncoderSample` -/
structure EncoderSample where
  hostTimestampUs : UInt64 := 0
  angleRaw : UInt16 := 0
  angleDegrees : UInt32 := 0
  angleRadians : UInt32 := 0
  readLatencyUs : UInt32 := 0
  valid : Bool := false

/-- `appendSample` of the encoder -/
def EncoderSample.words (sample : EncoderSample) : List Word :=
  [.u64 sample.hostTimestampUs, .u16 sample.angleRaw, .f32 sample.angleDegrees,
    .f32 sample.angleRadians, .u32 sample.readLatencyUs, .u8 (if sample.valid then 0x01 else 0x00)]

/-- `ImuSample` -/
structure ImuSample where
  hostTimestampUs : UInt64 := 0
  sensorTimestampUs : UInt64 := 0
  timestampTicks : UInt16 := 0
  accelerationRaw : Vector Int16 3 := .replicate 3 0
  angularVelocityRaw : Vector Int16 3 := .replicate 3 0
  temperatureRaw : Int16 := 0
  accelerationG : Vector UInt32 3 := .replicate 3 0
  angularVelocityDps : Vector UInt32 3 := .replicate 3 0
  temperatureCelsius : UInt32 := 0
  readLatencyUs : UInt32 := 0
  accelerationValid : Bool := false
  angularVelocityValid : Bool := false
  temperatureValid : Bool := false
  accelOdrChanged : Bool := false
  gyroOdrChanged : Bool := false

/-- `ICM42688::FifoStatus` -/
structure FifoStatus where
  recordsAvailable : UInt16 := 0
  lostPackets : UInt16 := 0
  threshold : Bool := false
  full : Bool := false
  faulted : Bool := false

/-- A flag that is set on a condition -/
def flag (condition : Bool) (value : UInt8) : UInt8 := if condition then value else 0

def flag16 (condition : Bool) (value : UInt16) : UInt16 := if condition then value else 0

/-- `sampleFlags` -/
def sampleFlags (sample : ImuSample) (status : FifoStatus) : UInt8 :=
  flag sample.accelerationValid 0x01 ||| flag sample.angularVelocityValid 0x02 |||
    flag sample.temperatureValid 0x04 ||| flag sample.accelOdrChanged 0x08 |||
    flag sample.gyroOdrChanged 0x10 ||| flag status.threshold 0x20 ||| flag status.full 0x40 |||
    flag status.faulted 0x80

/-- `appendSample` of the IMU -/
def ImuSample.words (sample : ImuSample) (status : FifoStatus) : List Word :=
  [.u64 sample.hostTimestampUs, .u64 sample.sensorTimestampUs, .u16 sample.timestampTicks] ++
    sample.accelerationRaw.toList.map .i16 ++ sample.angularVelocityRaw.toList.map .i16 ++
    [.i16 sample.temperatureRaw] ++ sample.accelerationG.toList.map .f32 ++
    sample.angularVelocityDps.toList.map .f32 ++
    [.f32 sample.temperatureCelsius, .u32 sample.readLatencyUs, .u16 status.recordsAvailable,
      .u16 status.lostPackets, .u8 (sampleFlags sample status)]

/-- `AdcReading` -/
structure AdcReading where
  raw : Int32 := Int32.minValue
  pinVoltageV : UInt32
  sourceVoltageV : UInt32
  status : Int32 := 0x103
  rawValid : Bool := false
  calibratedValid : Bool := false

/-- The flags of `encodeAndSend` -/
def adcFlags (logic motor : AdcReading) : UInt8 :=
  flag logic.rawValid 0x01 ||| flag logic.calibratedValid 0x02 ||| flag motor.rawValid 0x04 |||
    flag motor.calibratedValid 0x08

/-- The payload of `encodeAndSend` -/
def adcWords (timestampUs : Int64) (logic motor : AdcReading) : List Word :=
  [.u64 timestampUs.toUInt64, .u8 (adcFlags logic motor), .i32 logic.raw, .f32 logic.pinVoltageV,
    .f32 logic.sourceVoltageV, .i32 logic.status, .i32 motor.raw, .f32 motor.pinVoltageV,
    .f32 motor.sourceVoltageV, .i32 motor.status]

/-- `DriveMode` -/
inductive DriveMode where
  | coast
  | in1
  | in2
  | brake

def DriveMode.code : DriveMode → UInt8
  | .coast => 0
  | .in1 => 1
  | .in2 => 2
  | .brake => 3

open Characterization in
/-- The arguments of `appendAndSendMotor` -/
structure MotorRecord where
  hostUs : UInt64
  index : UInt32
  duty : UInt32
  mode : DriveMode
  motor : AdcReading
  encoderSample : EncoderSample
  unwrappedRad : UInt32
  speedRadS : UInt32
  encoderStatus : EncoderStatus
  encoderStatusValid : Bool
  imuSample : ImuSample
  fifoStatus : FifoStatus
  adcResult : Int32
  encoderResult : Int32
  imuResult : Int32

namespace MotorRecord

variable (record : MotorRecord)

/-- `encoderStatusFlags` -/
def encoderStatusFlags : UInt16 :=
  flag16 record.encoderStatus.magneticTooLow 0x0001 |||
    flag16 record.encoderStatus.magneticTooHigh 0x0002 |||
    flag16 record.encoderStatus.cordicOverflow 0x0004 |||
    flag16 record.encoderStatus.offsetCompensationFinished 0x0008 |||
    flag16 record.encoderStatusValid 0x4000 ||| flag16 record.encoderSample.valid 0x8000

/-- `imuFlags` -/
def imuFlags : UInt8 :=
  flag record.imuSample.accelerationValid 0x01 ||| flag record.imuSample.angularVelocityValid 0x02 |||
    flag record.imuSample.temperatureValid 0x04 ||| flag record.imuSample.accelOdrChanged 0x08 |||
    flag record.imuSample.gyroOdrChanged 0x10

/-- `fifoFlags` -/
def fifoFlags : UInt8 :=
  flag record.fifoStatus.threshold 0x01 ||| flag record.fifoStatus.full 0x02 |||
    flag record.fifoStatus.faulted 0x04

/-- The payload of `appendAndSendMotor` -/
def words : List Word :=
  [.u64 record.hostUs, .u32 record.index, .f32 record.duty, .u8 record.mode.code,
    .i32 record.motor.raw, .f32 record.motor.sourceVoltageV, .u16 record.encoderSample.angleRaw,
    .f32 record.unwrappedRad, .f32 record.speedRadS, .u16 record.encoderStatusFlags,
    .u8 record.encoderStatus.agc, .u16 record.encoderStatus.magnitude] ++
    record.imuSample.accelerationRaw.toList.map .i16 ++
    record.imuSample.angularVelocityRaw.toList.map .i16 ++
    [.u16 record.imuSample.timestampTicks, .u64 record.imuSample.sensorTimestampUs,
      .u8 record.imuFlags, .u16 record.fifoStatus.lostPackets, .u8 record.fifoFlags,
      .i32 record.adcResult, .i32 record.encoderResult, .i32 record.imuResult]

end MotorRecord

/-- `CalibrationAttempt` -/
structure CalibrationAttempt where
  id : UInt32 := 0
  completedAtUs : UInt64 := 0
  imuSamples : UInt32 := 0
  errorCount : UInt32 := 0
  gyroBiasDps : Vector UInt32 3
  gravitySensorG : Vector UInt32 3
  accelerationNormG : UInt32
  launcherTiltDeg : UInt32
  sscZeroPa : UInt32
  gyroValid : Bool := false
  gravityValid : Bool := false
  launcherTiltValid : Bool := false
  sscValid : Bool := false

namespace CalibrationAttempt

variable (attempt : CalibrationAttempt)

/-- `validFlags` -/
def validFlags : UInt8 :=
  flag attempt.gyroValid 0x01 ||| flag attempt.gravityValid 0x02 |||
    flag attempt.launcherTiltValid 0x04 ||| flag attempt.sscValid 0x08

/-- The payload of `sendAttempt` -/
def words : List Word :=
  [.u64 attempt.completedAtUs, .u32 attempt.id, .u8 attempt.validFlags, .u32 attempt.imuSamples] ++
    attempt.gyroBiasDps.toList.map .f32 ++ attempt.gravitySensorG.toList.map .f32 ++
    [.f32 attempt.accelerationNormG, .f32 attempt.launcherTiltDeg, .f32 attempt.sscZeroPa,
      .u32 attempt.errorCount]

end CalibrationAttempt

/-- `StreamRecordType` -/
inductive StreamRecordType where
  | encoder
  | imu
  | adc
  | motor
  | calibration

def StreamRecordType.code : StreamRecordType → UInt8
  | .encoder => 1
  | .imu => 2
  | .adc => 3
  | .motor => 4
  | .calibration => 5

/-- What the bring-up commands send -/
inductive StreamRecord where
  | encoder (sample : EncoderSample)
  | imu (sample : ImuSample) (status : FifoStatus)
  | adc (timestampUs : Int64) (logic motor : AdcReading)
  | motor (record : MotorRecord)
  | calibration (attempt : CalibrationAttempt)

namespace StreamRecord

def type : StreamRecord → StreamRecordType
  | .encoder _ => .encoder
  | .imu _ _ => .imu
  | .adc _ _ _ => .adc
  | .motor _ => .motor
  | .calibration _ => .calibration

def words : StreamRecord → List Word
  | .encoder sample => sample.words
  | .imu sample status => sample.words status
  | .adc timestampUs logicReading motorReading => adcWords timestampUs logicReading motorReading
  | .motor record => record.words
  | .calibration attempt => attempt.words

end StreamRecord

end MissionBoard.Bringup
