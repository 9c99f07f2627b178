import MissionBoard.Bringup.StreamPayload

/-!
Owns the record schemas of `tools/capture_bringup.py`: the layouts that the host unpacks, the names of the
fields and the columns that it derives from their flags. What the firmware puts into a payload is what
the host reads in it.
-/

namespace MissionBoard.Bringup

open LittleEndian

/-! ### `struct.Struct` -/

/-- A format character of a layout -/
inductive Code where
  | B
  | h
  | H
  | i
  | I
  | Q
  | f

def Code.ofChar : Char → Option Code
  | 'B' => some .B
  | 'h' => some .h
  | 'H' => some .H
  | 'i' => some .i
  | 'I' => some .I
  | 'Q' => some .Q
  | 'f' => some .f
  | _ => none

def Code.size : Code → ℕ
  | .B => 1
  | .h => 2
  | .H => 2
  | .i => 4
  | .I => 4
  | .Q => 8
  | .f => 4

/-- The format characters, each as often as the number before it says -/
def codesFrom : Option ℕ → List Char → Option (List Code)
  | none, [] => some []
  | some _, [] => none
  | count, char :: rest =>
      if char.isDigit then codesFrom (some (count.getD 0 * 10 + (char.toNat - '0'.toNat))) rest
      else do
        let code ← Code.ofChar char
        let codes ← codesFrom none rest
        pure (List.replicate (count.getD 1) code ++ codes)

/-- The layout of a format that begins with the sign for little-endian bytes without padding -/
def layoutOf (format : List Char) : Option (List Code) :=
  match format with
  | '<' :: rest => codesFrom none rest
  | _ => none

/-- A value of a row. A float is its bits. -/
inductive Value where
  | int (value : ℤ)
  | float (bits : ℕ)
  | bool (value : Bool)
  | text (value : String)
deriving DecidableEq

/-- The number that the bytes make, the lowest first -/
def numberOf (bytes : List UInt8) : ℕ := bytes.foldr (fun byte rest => byte.toNat + 256 * rest) 0

/-- The number that they make in two's complement -/
def signedOf (bytes : List UInt8) : ℤ :=
  if 2 * numberOf bytes < 256 ^ bytes.length then numberOf bytes
  else numberOf bytes - 256 ^ bytes.length

def Code.read (code : Code) (bytes : List UInt8) : Value :=
  match code with
  | .B => .int (numberOf bytes)
  | .h => .int (signedOf bytes)
  | .H => .int (numberOf bytes)
  | .i => .int (signedOf bytes)
  | .I => .int (numberOf bytes)
  | .Q => .int (numberOf bytes)
  | .f => .float (numberOf bytes)

/-- `layout.size` -/
def layoutSize (codes : List Code) : ℕ := (codes.map Code.size).sum

/-- `layout.unpack` -/
def unpack : List Code → List UInt8 → List Value
  | [], _ => []
  | code :: rest, bytes => code.read (bytes.take code.size) :: unpack rest (bytes.drop code.size)

namespace Word

def code : Word → Code
  | .u8 _ => .B
  | .i16 _ => .h
  | .u16 _ => .H
  | .i32 _ => .i
  | .u32 _ => .I
  | .u64 _ => .Q
  | .f32 _ => .f

/-- What the word says -/
def value : Word → Value
  | .u8 value => .int value.toNat
  | .i16 value => .int value.toInt
  | .u16 value => .int value.toNat
  | .i32 value => .int value.toInt
  | .u32 value => .int value.toNat
  | .u64 value => .int value.toNat
  | .f32 bits => .float bits.toNat

theorem length_bytes (word : Word) : word.bytes.length = word.code.size := by
  cases word <;> rfl

end Word

@[simp] theorem numberOf_nil : numberOf [] = 0 := rfl

@[simp] theorem numberOf_cons (byte : UInt8) (rest : List UInt8) :
    numberOf (byte :: rest) = byte.toNat + 256 * numberOf rest := rfl

theorem numberOf_bytes16 (value : UInt16) : numberOf (bytes16 value) = value.toNat := by
  have bound := value.toNat_lt
  simp only [bytes16, numberOf_cons, numberOf_nil, UInt16.toNat_toUInt8, UInt16.toNat_shiftRight,
    Nat.shiftRight_eq_div_pow, UInt16.reduceToNat, Nat.reduceMod, Nat.reducePow]
  omega

theorem numberOf_bytes32 (value : UInt32) : numberOf (bytes32 value) = value.toNat := by
  have bound := value.toNat_lt
  simp only [bytes32, numberOf_cons, numberOf_nil, UInt32.toNat_toUInt8, UInt32.toNat_shiftRight,
    Nat.shiftRight_eq_div_pow, UInt32.reduceToNat, Nat.reduceMod, Nat.reducePow]
  omega

theorem numberOf_bytes64 (value : UInt64) : numberOf (bytes64 value) = value.toNat := by
  have bound := value.toNat_lt
  simp only [bytes64, numberOf_cons, numberOf_nil, UInt64.toNat_toUInt8, UInt64.toNat_shiftRight,
    Nat.shiftRight_eq_div_pow, UInt64.reduceToNat, Nat.reduceMod, Nat.reducePow]
  omega

theorem signedOf_bytes16 (value : Int16) : signedOf (bytes16 value.toUInt16) = value.toInt := by
  have signed : value.toInt = if 2 * value.toUInt16.toNat < 2 ^ 16 then (value.toUInt16.toNat : ℤ)
      else value.toUInt16.toNat - 2 ^ 16 := BitVec.toInt_eq_toNat_cond value.toBitVec
  have length : (bytes16 value.toUInt16).length = 2 := rfl
  rw [signed, signedOf, numberOf_bytes16, length]
  norm_num

theorem signedOf_bytes32 (value : Int32) : signedOf (bytes32 value.toUInt32) = value.toInt := by
  have signed : value.toInt = if 2 * value.toUInt32.toNat < 2 ^ 32 then (value.toUInt32.toNat : ℤ)
      else value.toUInt32.toNat - 2 ^ 32 := BitVec.toInt_eq_toNat_cond value.toBitVec
  have length : (bytes32 value.toUInt32).length = 4 := rfl
  rw [signed, signedOf, numberOf_bytes32, length]
  norm_num

theorem Word.read_bytes (word : Word) : word.code.read word.bytes = word.value := by
  cases word with
  | u8 value => exact congrArg (fun number : ℕ => Value.int number) (by simp [Word.bytes])
  | i16 value => exact congrArg Value.int (signedOf_bytes16 value)
  | u16 value => exact congrArg (fun number : ℕ => Value.int number) (numberOf_bytes16 value)
  | i32 value => exact congrArg Value.int (signedOf_bytes32 value)
  | u32 value => exact congrArg (fun number : ℕ => Value.int number) (numberOf_bytes32 value)
  | u64 value => exact congrArg (fun number : ℕ => Value.int number) (numberOf_bytes64 value)
  | f32 bits => exact congrArg Value.float (numberOf_bytes32 bits)

/-- Unpacking with the codes of the words gives their values. -/
theorem unpack_words (words : List Word) :
    unpack (words.map Word.code) (words.flatMap Word.bytes) = words.map Word.value := by
  induction words with
  | nil => rfl
  | cons word rest inductionHypothesis =>
      have front : (word.bytes ++ rest.flatMap Word.bytes).take word.code.size = word.bytes := by
        rw [← word.length_bytes, List.take_left]
      have back : (word.bytes ++ rest.flatMap Word.bytes).drop word.code.size =
          rest.flatMap Word.bytes := by
        rw [← word.length_bytes, List.drop_left]
      rw [List.flatMap_cons, List.map_cons, List.map_cons, unpack, front, back, word.read_bytes,
        inductionHypothesis]

theorem length_words (words : List Word) :
    (words.flatMap Word.bytes).length = layoutSize (words.map Word.code) := by
  induction words with
  | nil => rfl
  | cons word rest inductionHypothesis =>
      rw [List.flatMap_cons, List.length_append, word.length_bytes, inductionHypothesis]
      rfl

/-! ### Schemas -/

abbrev Row := List (String × Value)

/-- `int(row[name])` of flags -/
def Row.flags (row : Row) (name : String) : ℕ :=
  match row.lookup name with
  | some (.int flags) => flags.toNat
  | _ => 0

/-- Columns that each tell a bit of the flags -/
def columns (flags : ℕ) (names : List (String × ℕ)) : Row :=
  names.map fun (name, bit) => (name, .bool (flags.testBit bit))

/-- `_decorate_adc` -/
def decorateAdc (row : Row) : Row :=
  row ++ columns (Row.flags row "valid_flags") [("logic_raw_valid", 0), ("logic_calibrated_valid", 1),
    ("motor_raw_valid", 2), ("motor_calibrated_valid", 3)]

/-- `_decorate_encoder` -/
def decorateEncoder (row : Row) : Row := row ++ columns (Row.flags row "flags") [("valid", 0)]

/-- `_decorate_imu` -/
def decorateImu (row : Row) : Row :=
  row ++ columns (Row.flags row "flags") [("acceleration_valid", 0), ("angular_velocity_valid", 1),
    ("temperature_valid", 2), ("accel_odr_changed", 3), ("gyro_odr_changed", 4),
    ("fifo_threshold", 5), ("fifo_full", 6), ("fifo_fault", 7)]

def driveModeName : ℕ → String
  | 0 => "coast"
  | 1 => "in1"
  | 2 => "in2"
  | 3 => "brake"
  | _ => "unknown"

/-- `_decorate_motor` -/
def decorateMotor (row : Row) : Row :=
  row ++ [("drive_mode_name", .text (driveModeName (Row.flags row "drive_mode")))] ++
    columns (Row.flags row "encoder_status_flags") [("encoder_magnetic_too_low", 0),
      ("encoder_magnetic_too_high", 1), ("encoder_cordic_overflow", 2),
      ("encoder_offset_compensation_finished", 3), ("encoder_status_snapshot_valid", 14),
      ("encoder_valid", 15)] ++
    columns (Row.flags row "imu_flags") [("imu_acceleration_valid", 0),
      ("imu_angular_velocity_valid", 1), ("imu_temperature_valid", 2), ("imu_accel_odr_changed", 3),
      ("imu_gyro_odr_changed", 4)] ++
    columns (Row.flags row "fifo_flags") [("fifo_threshold", 0), ("fifo_full", 1), ("fifo_fault", 2)]

/-- `_decorate_calibration` -/
def decorateCalibration (row : Row) : Row :=
  row ++ columns (Row.flags row "valid_flags") [("gyro_valid", 0), ("gravity_valid", 1),
    ("launcher_tilt_valid", 2), ("ssc_valid", 3)]

/-- `RecordSchema` -/
structure RecordSchema where
  name : String
  layout : String
  fields : List String
  decorate : Row → Row

/-- `decode` -/
def RecordSchema.decode (schema : RecordSchema) (payload : List UInt8) : Option Row := do
  let codes ← layoutOf schema.layout.toList
  if payload.length ≠ layoutSize codes then none
  else pure (schema.decorate (schema.fields.zip (unpack codes payload)))

def encoderSchema : RecordSchema where
  name := "encoder"
  layout := "<QHffIB"
  fields := ["host_timestamp_us", "angle_raw", "angle_degrees", "angle_radians", "read_latency_us",
    "flags"]
  decorate := decorateEncoder

def imuSchema : RecordSchema where
  name := "imu"
  layout := "<QQH7h7fIHHB"
  fields := ["host_timestamp_us", "sensor_timestamp_us", "timestamp_ticks", "accel_raw_x",
    "accel_raw_y", "accel_raw_z", "gyro_raw_x", "gyro_raw_y", "gyro_raw_z", "temperature_raw",
    "accel_g_x", "accel_g_y", "accel_g_z", "gyro_dps_x", "gyro_dps_y", "gyro_dps_z",
    "temperature_celsius", "read_latency_us", "fifo_records_available", "fifo_lost_packets",
    "flags"]
  decorate := decorateImu

def adcSchema : RecordSchema where
  name := "adc"
  layout := "<QBiffiiffi"
  fields := ["timestamp_us", "valid_flags", "logic_raw", "logic_pin_voltage_v",
    "logic_source_voltage_v", "logic_status", "motor_raw", "motor_pin_voltage_v",
    "motor_source_voltage_v", "motor_status"]
  decorate := decorateAdc

def motorSchema : RecordSchema where
  name := "motor"
  layout := "<QIfBifHffHBH3h3hHQBHBiii"
  fields := ["host_timestamp_us", "sample_index", "command_duty", "drive_mode", "motor_adc_raw",
    "motor_bus_voltage_v", "encoder_raw", "encoder_unwrapped_rad", "encoder_speed_rad_s",
    "encoder_status_flags", "encoder_agc", "encoder_magnitude", "accel_raw_x", "accel_raw_y",
    "accel_raw_z", "gyro_raw_x", "gyro_raw_y", "gyro_raw_z", "imu_timestamp_ticks",
    "imu_sensor_timestamp_us", "imu_flags", "imu_lost_packets", "fifo_flags", "adc_result",
    "encoder_result", "imu_result"]
  decorate := decorateMotor

def calibrationSchema : RecordSchema where
  name := "calibration"
  layout := "<QIBI3f3ffffI"
  fields := ["completed_at_us", "attempt_id", "valid_flags", "imu_samples", "gyro_bias_dps_x",
    "gyro_bias_dps_y", "gyro_bias_dps_z", "gravity_sensor_g_x", "gravity_sensor_g_y",
    "gravity_sensor_g_z", "acceleration_norm_g", "launcher_tilt_deg", "ssc_zero_pa", "error_count"]
  decorate := decorateCalibration

/-- `SCHEMAS` -/
def schemas : ℕ → Option RecordSchema
  | 1 => some encoderSchema
  | 2 => some imuSchema
  | 3 => some adcSchema
  | 4 => some motorSchema
  | 5 => some calibrationSchema
  | _ => none

/-- A schema with the layout of the words reads their values. -/
theorem decode_words {schema : RecordSchema} {words : List Word}
    (layout : layoutOf schema.layout.toList = some (words.map Word.code)) :
    schema.decode (words.flatMap Word.bytes) =
      some (schema.decorate (schema.fields.zip (words.map Word.value))) := by
  unfold RecordSchema.decode
  rw [layout]
  show (if (words.flatMap Word.bytes).length ≠ layoutSize (words.map Word.code) then none
    else some _) = _
  rw [if_neg (Decidable.not_not.mpr (length_words words)), unpack_words]

/-! ### What a record says -/

def int8 (value : UInt8) : Value := .int value.toNat
def int16 (value : UInt16) : Value := .int value.toNat
def int32 (value : UInt32) : Value := .int value.toNat
def int64 (value : UInt64) : Value := .int value.toNat
def float32 (bits : UInt32) : Value := .float bits.toNat

def EncoderSample.row (sample : EncoderSample) : Row :=
  [("host_timestamp_us", int64 sample.hostTimestampUs), ("angle_raw", int16 sample.angleRaw),
    ("angle_degrees", float32 sample.angleDegrees), ("angle_radians", float32 sample.angleRadians),
    ("read_latency_us", int32 sample.readLatencyUs), ("flags", int8 (if sample.valid then 1 else 0)),
    ("valid", .bool sample.valid)]

def ImuSample.row (sample : ImuSample) (status : FifoStatus) : Row :=
  [("host_timestamp_us", int64 sample.hostTimestampUs),
    ("sensor_timestamp_us", int64 sample.sensorTimestampUs),
    ("timestamp_ticks", int16 sample.timestampTicks),
    ("accel_raw_x", .int sample.accelerationRaw[0].toInt),
    ("accel_raw_y", .int sample.accelerationRaw[1].toInt),
    ("accel_raw_z", .int sample.accelerationRaw[2].toInt),
    ("gyro_raw_x", .int sample.angularVelocityRaw[0].toInt),
    ("gyro_raw_y", .int sample.angularVelocityRaw[1].toInt),
    ("gyro_raw_z", .int sample.angularVelocityRaw[2].toInt),
    ("temperature_raw", .int sample.temperatureRaw.toInt),
    ("accel_g_x", float32 sample.accelerationG[0]), ("accel_g_y", float32 sample.accelerationG[1]),
    ("accel_g_z", float32 sample.accelerationG[2]),
    ("gyro_dps_x", float32 sample.angularVelocityDps[0]),
    ("gyro_dps_y", float32 sample.angularVelocityDps[1]),
    ("gyro_dps_z", float32 sample.angularVelocityDps[2]),
    ("temperature_celsius", float32 sample.temperatureCelsius),
    ("read_latency_us", int32 sample.readLatencyUs),
    ("fifo_records_available", int16 status.recordsAvailable),
    ("fifo_lost_packets", int16 status.lostPackets), ("flags", int8 (sampleFlags sample status)),
    ("acceleration_valid", .bool sample.accelerationValid),
    ("angular_velocity_valid", .bool sample.angularVelocityValid),
    ("temperature_valid", .bool sample.temperatureValid),
    ("accel_odr_changed", .bool sample.accelOdrChanged),
    ("gyro_odr_changed", .bool sample.gyroOdrChanged), ("fifo_threshold", .bool status.threshold),
    ("fifo_full", .bool status.full), ("fifo_fault", .bool status.faulted)]

def adcRow (timestampUs : Int64) (logic motor : AdcReading) : Row :=
  [("timestamp_us", int64 timestampUs.toUInt64), ("valid_flags", int8 (adcFlags logic motor)),
    ("logic_raw", .int logic.raw.toInt), ("logic_pin_voltage_v", float32 logic.pinVoltageV),
    ("logic_source_voltage_v", float32 logic.sourceVoltageV),
    ("logic_status", .int logic.status.toInt), ("motor_raw", .int motor.raw.toInt),
    ("motor_pin_voltage_v", float32 motor.pinVoltageV),
    ("motor_source_voltage_v", float32 motor.sourceVoltageV),
    ("motor_status", .int motor.status.toInt), ("logic_raw_valid", .bool logic.rawValid),
    ("logic_calibrated_valid", .bool logic.calibratedValid),
    ("motor_raw_valid", .bool motor.rawValid),
    ("motor_calibrated_valid", .bool motor.calibratedValid)]

def DriveMode.name : DriveMode → String
  | .coast => "coast"
  | .in1 => "in1"
  | .in2 => "in2"
  | .brake => "brake"

def MotorRecord.row (record : MotorRecord) : Row :=
  [("host_timestamp_us", int64 record.hostUs), ("sample_index", int32 record.index),
    ("command_duty", float32 record.duty), ("drive_mode", int8 record.mode.code),
    ("motor_adc_raw", .int record.motor.raw.toInt),
    ("motor_bus_voltage_v", float32 record.motor.sourceVoltageV),
    ("encoder_raw", int16 record.encoderSample.angleRaw),
    ("encoder_unwrapped_rad", float32 record.unwrappedRad),
    ("encoder_speed_rad_s", float32 record.speedRadS),
    ("encoder_status_flags", int16 record.encoderStatusFlags),
    ("encoder_agc", int8 record.encoderStatus.agc),
    ("encoder_magnitude", int16 record.encoderStatus.magnitude),
    ("accel_raw_x", .int record.imuSample.accelerationRaw[0].toInt),
    ("accel_raw_y", .int record.imuSample.accelerationRaw[1].toInt),
    ("accel_raw_z", .int record.imuSample.accelerationRaw[2].toInt),
    ("gyro_raw_x", .int record.imuSample.angularVelocityRaw[0].toInt),
    ("gyro_raw_y", .int record.imuSample.angularVelocityRaw[1].toInt),
    ("gyro_raw_z", .int record.imuSample.angularVelocityRaw[2].toInt),
    ("imu_timestamp_ticks", int16 record.imuSample.timestampTicks),
    ("imu_sensor_timestamp_us", int64 record.imuSample.sensorTimestampUs),
    ("imu_flags", int8 record.imuFlags), ("imu_lost_packets", int16 record.fifoStatus.lostPackets),
    ("fifo_flags", int8 record.fifoFlags), ("adc_result", .int record.adcResult.toInt),
    ("encoder_result", .int record.encoderResult.toInt), ("imu_result", .int record.imuResult.toInt),
    ("drive_mode_name", .text record.mode.name),
    ("encoder_magnetic_too_low", .bool record.encoderStatus.magneticTooLow),
    ("encoder_magnetic_too_high", .bool record.encoderStatus.magneticTooHigh),
    ("encoder_cordic_overflow", .bool record.encoderStatus.cordicOverflow),
    ("encoder_offset_compensation_finished",
      .bool record.encoderStatus.offsetCompensationFinished),
    ("encoder_status_snapshot_valid", .bool record.encoderStatusValid),
    ("encoder_valid", .bool record.encoderSample.valid),
    ("imu_acceleration_valid", .bool record.imuSample.accelerationValid),
    ("imu_angular_velocity_valid", .bool record.imuSample.angularVelocityValid),
    ("imu_temperature_valid", .bool record.imuSample.temperatureValid),
    ("imu_accel_odr_changed", .bool record.imuSample.accelOdrChanged),
    ("imu_gyro_odr_changed", .bool record.imuSample.gyroOdrChanged),
    ("fifo_threshold", .bool record.fifoStatus.threshold),
    ("fifo_full", .bool record.fifoStatus.full), ("fifo_fault", .bool record.fifoStatus.faulted)]

def CalibrationAttempt.row (attempt : CalibrationAttempt) : Row :=
  [("completed_at_us", int64 attempt.completedAtUs), ("attempt_id", int32 attempt.id),
    ("valid_flags", int8 attempt.validFlags), ("imu_samples", int32 attempt.imuSamples),
    ("gyro_bias_dps_x", float32 attempt.gyroBiasDps[0]),
    ("gyro_bias_dps_y", float32 attempt.gyroBiasDps[1]),
    ("gyro_bias_dps_z", float32 attempt.gyroBiasDps[2]),
    ("gravity_sensor_g_x", float32 attempt.gravitySensorG[0]),
    ("gravity_sensor_g_y", float32 attempt.gravitySensorG[1]),
    ("gravity_sensor_g_z", float32 attempt.gravitySensorG[2]),
    ("acceleration_norm_g", float32 attempt.accelerationNormG),
    ("launcher_tilt_deg", float32 attempt.launcherTiltDeg),
    ("ssc_zero_pa", float32 attempt.sscZeroPa), ("error_count", int32 attempt.errorCount),
    ("gyro_valid", .bool attempt.gyroValid), ("gravity_valid", .bool attempt.gravityValid),
    ("launcher_tilt_valid", .bool attempt.launcherTiltValid), ("ssc_valid", .bool attempt.sscValid)]

/-- The row that a record should become -/
def StreamRecord.row : StreamRecord → Row
  | .encoder sample => sample.row
  | .imu sample status => sample.row status
  | .adc timestampUs logicReading motorReading => adcRow timestampUs logicReading motorReading
  | .motor record => record.row
  | .calibration attempt => attempt.row

theorem toList_three {α : Type*} (vector : Vector α 3) :
    vector.toList = [vector[0], vector[1], vector[2]] := by
  apply List.ext_getElem
  · simp
  · intro index within _
    have few : index < 3 := by simpa using within
    obtain rfl | rfl | rfl : index = 0 ∨ index = 1 ∨ index = 2 := by omega
    · simp
    · simp
    · simp

/-- The layout of the type's schema is that of the words. -/
theorem layout_record (record : StreamRecord) :
    ∃ schema, schemas record.type.code.toNat = some schema ∧
      layoutOf schema.layout.toList = some (record.words.map Word.code) := by
  cases record with
  | encoder sample => exact ⟨encoderSchema, rfl, rfl⟩
  | imu sample status =>
      refine ⟨imuSchema, rfl, ?_⟩
      show _ = some ((sample.words status).map Word.code)
      unfold ImuSample.words
      simp only [toList_three]
      rfl
  | adc timestampUs first second => exact ⟨adcSchema, rfl, rfl⟩
  | motor record =>
      refine ⟨motorSchema, rfl, ?_⟩
      show _ = some (record.words.map Word.code)
      unfold MotorRecord.words
      simp only [toList_three]
      rfl
  | calibration attempt =>
      refine ⟨calibrationSchema, rfl, ?_⟩
      show _ = some (attempt.words.map Word.code)
      unfold CalibrationAttempt.words
      simp only [toList_three]
      rfl

/-- There is room for every layout. -/
theorem layoutSize_le {type : StreamRecordType} {schema : RecordSchema} {codes : List Code}
    (there : schemas type.code.toNat = some schema)
    (layout : layoutOf schema.layout.toList = some codes) : layoutSize codes ≤ kCapacity := by
  have sizes : ∀ size ∈ (layoutOf schema.layout.toList).map layoutSize, size ≤ 96 := by
    cases type with
    | encoder =>
        obtain rfl := Option.some.inj there
        decide
    | imu =>
        obtain rfl := Option.some.inj there
        decide
    | adc =>
        obtain rfl := Option.some.inj there
        decide
    | motor =>
        obtain rfl := Option.some.inj there
        decide
    | calibration =>
        obtain rfl := Option.some.inj there
        decide
  apply sizes
  rw [layout]
  rfl

theorem decorate_encoder (sample : EncoderSample) :
    decorateEncoder (encoderSchema.fields.zip (sample.words.map Word.value)) = sample.row := by
  cases valid : sample.valid <;>
    simp [encoderSchema, decorateEncoder, EncoderSample.words, EncoderSample.row, Row.flags, columns,
      List.lookup_cons, Word.value, int8, int16, int32, int64, float32, valid]

theorem bits_sampleFlags (sample : ImuSample) (status : FifoStatus) :
    (List.range 8).map (sampleFlags sample status).toNat.testBit =
      [sample.accelerationValid, sample.angularVelocityValid, sample.temperatureValid,
        sample.accelOdrChanged, sample.gyroOdrChanged, status.threshold, status.full,
        status.faulted] := by
  have every : ∀ a b c d e f g h : Bool, (List.range 8).map (sampleFlags
      { accelerationValid := a, angularVelocityValid := b, temperatureValid := c,
        accelOdrChanged := d, gyroOdrChanged := e }
      { threshold := f, full := g, faulted := h }).toNat.testBit = [a, b, c, d, e, f, g, h] := by
    decide +kernel
  exact every _ _ _ _ _ _ _ _

theorem decorate_imu (sample : ImuSample) (status : FifoStatus) :
    decorateImu (imuSchema.fields.zip ((sample.words status).map Word.value)) =
      sample.row status := by
  have bits := bits_sampleFlags sample status
  simp only [List.range_succ, List.range_zero, List.nil_append, List.map_cons, List.map_nil,
    List.cons_append, List.cons.injEq, and_true] at bits
  simp [imuSchema, decorateImu, ImuSample.words, ImuSample.row, Row.flags, columns, toList_three,
    List.lookup_cons, Word.value, int8, int16, int32, int64, float32, bits]

theorem bits_adcFlags (first second : AdcReading) :
    (List.range 4).map (adcFlags first second).toNat.testBit =
      [first.rawValid, first.calibratedValid, second.rawValid, second.calibratedValid] := by
  have every : ∀ a b c d : Bool, (List.range 4).map (adcFlags
      { pinVoltageV := 0, sourceVoltageV := 0, rawValid := a, calibratedValid := b }
      { pinVoltageV := 0, sourceVoltageV := 0, rawValid := c,
        calibratedValid := d }).toNat.testBit = [a, b, c, d] := by
    decide +kernel
  exact every _ _ _ _

theorem decorate_adc (timestampUs : Int64) (first second : AdcReading) :
    decorateAdc (adcSchema.fields.zip ((adcWords timestampUs first second).map Word.value)) =
      adcRow timestampUs first second := by
  have bits := bits_adcFlags first second
  simp only [List.range_succ, List.range_zero, List.nil_append, List.map_cons, List.map_nil,
    List.cons_append, List.cons.injEq, and_true] at bits
  simp [adcSchema, decorateAdc, adcWords, adcRow, Row.flags, columns, List.lookup_cons, Word.value, int8,
    int64, float32, bits]

theorem bits_encoderStatusFlags (record : MotorRecord) :
    [0, 1, 2, 3, 14, 15].map record.encoderStatusFlags.toNat.testBit =
      [record.encoderStatus.magneticTooLow, record.encoderStatus.magneticTooHigh,
        record.encoderStatus.cordicOverflow, record.encoderStatus.offsetCompensationFinished,
        record.encoderStatusValid, record.encoderSample.valid] := by
  have every : ∀ a b c d e f : Bool,
      [0, 1, 2, 3, 14, 15].map (flag16 a 0x0001 ||| flag16 b 0x0002 ||| flag16 c 0x0004 |||
        flag16 d 0x0008 ||| flag16 e 0x4000 ||| flag16 f 0x8000).toNat.testBit =
        [a, b, c, d, e, f] := by
    decide +kernel
  exact every _ _ _ _ _ _

theorem bits_imuFlags (record : MotorRecord) :
    (List.range 5).map record.imuFlags.toNat.testBit =
      [record.imuSample.accelerationValid, record.imuSample.angularVelocityValid,
        record.imuSample.temperatureValid, record.imuSample.accelOdrChanged,
        record.imuSample.gyroOdrChanged] := by
  have every : ∀ a b c d e : Bool,
      (List.range 5).map (flag a 0x01 ||| flag b 0x02 ||| flag c 0x04 ||| flag d 0x08 |||
        flag e 0x10).toNat.testBit = [a, b, c, d, e] := by
    decide +kernel
  exact every _ _ _ _ _

theorem bits_fifoFlags (record : MotorRecord) :
    (List.range 3).map record.fifoFlags.toNat.testBit =
      [record.fifoStatus.threshold, record.fifoStatus.full, record.fifoStatus.faulted] := by
  have every : ∀ a b c : Bool,
      (List.range 3).map (flag a 0x01 ||| flag b 0x02 ||| flag c 0x04).toNat.testBit =
        [a, b, c] := by
    decide +kernel
  exact every _ _ _

theorem decorate_motor (record : MotorRecord) :
    decorateMotor (motorSchema.fields.zip (record.words.map Word.value)) = record.row := by
  have mode : driveModeName record.mode.code.toNat = record.mode.name := by
    cases record.mode <;> rfl
  have encoder := bits_encoderStatusFlags record
  have imu := bits_imuFlags record
  have fifo := bits_fifoFlags record
  simp only [List.range_succ, List.range_zero, List.nil_append, List.map_cons, List.map_nil,
    List.cons_append, List.cons.injEq, and_true] at encoder imu fifo
  simp [motorSchema, decorateMotor, MotorRecord.words, MotorRecord.row, Row.flags, columns,
    toList_three, List.lookup_cons, Word.value, int8, int16, int32, int64, float32, mode, encoder, imu,
    fifo]

theorem bits_validFlags (attempt : CalibrationAttempt) :
    (List.range 4).map attempt.validFlags.toNat.testBit =
      [attempt.gyroValid, attempt.gravityValid, attempt.launcherTiltValid, attempt.sscValid] := by
  have every : ∀ a b c d : Bool,
      (List.range 4).map (flag a 0x01 ||| flag b 0x02 ||| flag c 0x04 |||
        flag d 0x08).toNat.testBit = [a, b, c, d] := by
    decide +kernel
  exact every _ _ _ _

theorem decorate_calibration (attempt : CalibrationAttempt) :
    decorateCalibration (calibrationSchema.fields.zip (attempt.words.map Word.value)) =
      attempt.row := by
  have bits := bits_validFlags attempt
  simp only [List.range_succ, List.range_zero, List.nil_append, List.map_cons, List.map_nil,
    List.cons_append, List.cons.injEq, and_true] at bits
  simp [calibrationSchema, decorateCalibration, CalibrationAttempt.words, CalibrationAttempt.row,
    Row.flags, columns, toList_three, List.lookup_cons, Word.value, int8, int32, int64, float32, bits]

/-- The columns that the host makes of the values are those of the record. -/
theorem decorate_record {record : StreamRecord} {schema : RecordSchema}
    (there : schemas record.type.code.toNat = some schema) :
    schema.decorate (schema.fields.zip (record.words.map Word.value)) = record.row := by
  cases record with
  | encoder sample =>
      obtain rfl := Option.some.inj there
      exact decorate_encoder sample
  | imu sample status =>
      obtain rfl := Option.some.inj there
      exact decorate_imu sample status
  | adc timestampUs first second =>
      obtain rfl := Option.some.inj there
      exact decorate_adc timestampUs first second
  | motor record =>
      obtain rfl := Option.some.inj there
      exact decorate_motor record
  | calibration attempt =>
      obtain rfl := Option.some.inj there
      exact decorate_calibration attempt

/-- Whatever record the firmware makes, there is room for it in the payload, and the schema that the host
has for its type reads in the payload what was in the record, its flags told one by one. -/
theorem record_decodes (record : StreamRecord) :
    (appendAll record.words {}).1 = true ∧
      ∃ schema, schemas record.type.code.toNat = some schema ∧
        schema.decode (appendAll record.words {}).2.bytes = some record.row := by
  obtain ⟨schema, there, layout⟩ := layout_record record
  obtain ⟨fits, appended⟩ := writes_appendAll record.words {}
  have written : (appendAll record.words {}).1 = true := by
    rw [fits, length_words]
    exact (Nat.zero_add _).trans_le (layoutSize_le there layout)
  have bytes : (appendAll record.words {}).2.bytes = record.words.flatMap Word.bytes :=
    appended written
  refine ⟨written, schema, there, ?_⟩
  rw [bytes, decode_words layout, decorate_record there]

end MissionBoard.Bringup
