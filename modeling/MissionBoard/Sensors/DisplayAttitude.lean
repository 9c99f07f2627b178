import MissionBoard.Library.Run
import MissionBoard.Mission.CommandExecutor
import MissionBoard.Numeric.Binary32
import MissionBoard.Protocol.CanCodec

/-!
Owns `sensors/display_attitude_runtime.cpp`: the attitude shown before a flight, the calibration
it starts from, and what `MissionRuntimeCan::write` does to both while frames pass through it.
Owns as well when a result that is written again changes neither.

The estimator and its arithmetic are a parameter. What `write` does to the frames themselves is
not looked at here.
-/

namespace MissionBoard.Sensors

open Protocol Mission

/-- `std::array<T, 3>` -/
structure Vector3 (α : Type) where
  x : α
  y : α
  z : α
deriving DecidableEq

/-- `ImuSample`, as far as the attitude looks at it -/
structure ImuSample where
  hostTimestampUs : UInt64 := 0
  sensorTimestampUs : UInt64 := 0
  accelerationG : Vector3 Binary32 := ⟨0, 0, 0⟩
  angularVelocityDps : Vector3 Binary32 := ⟨0, 0, 0⟩
  accelerationValid : Bool := false
  angularVelocityValid : Bool := false
  accelOdrChanged : Bool := false
  gyroOdrChanged : Bool := false
deriving DecidableEq

namespace ImuSample

/-- `gyro_valid` of `observe` -/
def gyroValid (sample : ImuSample) : Bool :=
  sample.angularVelocityValid && !sample.gyroOdrChanged &&
    Binary32.isFinite sample.angularVelocityDps.x &&
    Binary32.isFinite sample.angularVelocityDps.y && Binary32.isFinite sample.angularVelocityDps.z

/-- `accel_valid` of `observe` -/
def accelValid (sample : ImuSample) : Bool :=
  sample.accelerationValid && !sample.accelOdrChanged &&
    Binary32.isFinite sample.accelerationG.x && Binary32.isFinite sample.accelerationG.y &&
    Binary32.isFinite sample.accelerationG.z

/-- The time of the sensor, or of the host when the sensor has none -/
def timestamp (sample : ImuSample) : UInt64 :=
  if sample.sensorTimestampUs ≠ 0 then sample.sensorTimestampUs else sample.hostTimestampUs

end ImuSample

/-- `quantization::RollError`, as far as the attitude uses it -/
inductive RollError where
  | unavailable
  | notInitialized
  | stale
  | sampleInvalid
  | timestampInvalid
  | estimatorInvalid
  | resetInvalidated
deriving DecidableEq

def RollError.toWord : RollError → UInt16
  | .unavailable => 0x8000
  | .notInitialized => 0x8001
  | .stale => 0x8004
  | .sampleInvalid => 0x8008
  | .timestampInvalid => 0x800B
  | .estimatorInvalid => 0x800C
  | .resetInvalidated => 0x800D

/-- `DisplayAttitudeInvalidReason` -/
inductive InvalidReason where
  | none
  | notInitialized
  | calibrationInvalid
  | sampleInvalid
  | timestampInvalid
  | numericError
  | resetInvalidated
deriving DecidableEq

/-- `DisplayAttitudeState`, the angles as they are encoded for the wire -/
structure EstimatorState where
  tiltMagnitude : UInt8
  tiltDirection : UInt16
  roll : UInt16
  directionValid : Bool
  invalidReason : InvalidReason
  valid : Bool
deriving DecidableEq

/-- `DisplayAttitudeEstimator` over its own state, and the arithmetic of a calibration on
`double` -/
structure AttitudeNumerics (D E : Type) where
  zero : D
  /-- `sum += static_cast<double>(value) * kDegToRad` -/
  addRadians : D → Binary32 → D
  /-- `sum += static_cast<double>(value)` -/
  addGravity : D → Binary32 → D
  /-- `sum / static_cast<double>(samples)` -/
  mean : D → UInt32 → D
  /-- `finite3(bias)` with every component within five degrees a second -/
  biasValid : Vector3 D → Bool
  /-- `finite3(gravity)` with a finite norm between 0.8 and 1.2 -/
  gravityValid : Vector3 D → Bool
  /-- `initialize` with the launcher's tilt and azimuth -/
  initializeEstimator : E → UInt64 → Vector3 D → Vector3 D → Bool × E
  /-- `update` with the angular velocity in radians a second -/
  updateEstimator : E → UInt64 → Vector3 Binary32 → Bool × E
  invalidateForDataLoss : E → E
  invalidateForReset : E → E
  state : E → EstimatorState

/-- The values of `calibration_state` -/
inductive CalibrationState where
  | idle
  | active
  | finishSuccess
  | finishFailed
deriving DecidableEq

/-- `kMinimumCalibrationSamples` -/
def kMinimumCalibrationSamples : UInt32 := 1500

/-- `kStaleUs` -/
def kStaleUs : UInt64 := 3000

/-- The state of `display_attitude_runtime` -/
structure DisplayAttitude (D E : Type) where
  calibrationTransaction : UInt8 := 0
  calibrationState : CalibrationState := .idle
  magnitudeRaw : UInt8 := 122
  directionRaw : UInt16 := 511
  rollRaw : UInt16 := RollError.notInitialized.toWord
  lastHostTimestampUs : UInt64 := 0
  estimator : E
  gyroSamples : UInt32 := 0
  accelSamples : UInt32 := 0
  gyroSum : Vector3 D
  accelSum : Vector3 D
  lastSensorTimestampUs : UInt64 := 0
deriving DecidableEq

/-- What reaches the attitude: a sample, or a frame on its way to the bus -/
inductive AttitudeEvent where
  | sample (sample : ImuSample)
  | write (frame : CanFrame)
deriving DecidableEq

/-- `data[index]` -/
def dataByte (frame : CanFrame) (index : ℕ) : UInt8 := frame.data.toList.getD index 0

namespace DisplayAttitude

variable {D E : Type} (numerics : AttitudeNumerics D E)

/-- After boot, with the estimator as it is constructed -/
def boot (estimator : E) : DisplayAttitude D E where
  estimator
  gyroSum := ⟨numerics.zero, numerics.zero, numerics.zero⟩
  accelSum := ⟨numerics.zero, numerics.zero, numerics.zero⟩

/-- `publishInvalid` -/
def publishInvalid (attitude : DisplayAttitude D E) (tiltRaw : UInt8) (rollError : RollError) :
    DisplayAttitude D E :=
  { attitude with magnitudeRaw := tiltRaw, directionRaw := 511, rollRaw := rollError.toWord }

/-- `resetCalibrationAccumulators` -/
def resetCalibrationAccumulators (attitude : DisplayAttitude D E) : DisplayAttitude D E :=
  { attitude with
    gyroSamples := 0
    accelSamples := 0
    gyroSum := ⟨numerics.zero, numerics.zero, numerics.zero⟩
    accelSum := ⟨numerics.zero, numerics.zero, numerics.zero⟩ }

/-- `publishEstimatorState` -/
def publishEstimatorState (attitude : DisplayAttitude D E) : DisplayAttitude D E :=
  let state := numerics.state attitude.estimator
  if !state.valid then
    match state.invalidReason with
    | .notInitialized => attitude.publishInvalid 122 .notInitialized
    | .resetInvalidated => attitude.publishInvalid 125 .resetInvalidated
    | .sampleInvalid => attitude.publishInvalid 124 .sampleInvalid
    | .timestampInvalid => attitude.publishInvalid 124 .timestampInvalid
    | .none => attitude.publishInvalid 121 .unavailable
    | .calibrationInvalid | .numericError => attitude.publishInvalid 124 .estimatorInvalid
  else
    { attitude with
      magnitudeRaw := state.tiltMagnitude
      directionRaw :=
        if state.tiltMagnitude ≠ 0 ∧ state.tiltMagnitude ≤ 120 ∧ state.directionValid then
          state.tiltDirection
        else 511
      rollRaw := state.roll }

/-- `finishCalibration` -/
def finishCalibration (attitude : DisplayAttitude D E) (sample : ImuSample) :
    DisplayAttitude D E :=
  if attitude.gyroSamples < kMinimumCalibrationSamples ∨
      attitude.accelSamples < kMinimumCalibrationSamples then
    ({ attitude with
        estimator := numerics.invalidateForDataLoss attitude.estimator }.publishInvalid 124
      .estimatorInvalid).resetCalibrationAccumulators numerics
  else
    let bias : Vector3 D :=
      ⟨numerics.mean attitude.gyroSum.x attitude.gyroSamples,
        numerics.mean attitude.gyroSum.y attitude.gyroSamples,
        numerics.mean attitude.gyroSum.z attitude.gyroSamples⟩
    let gravity : Vector3 D :=
      ⟨numerics.mean attitude.accelSum.x attitude.accelSamples,
        numerics.mean attitude.accelSum.y attitude.accelSamples,
        numerics.mean attitude.accelSum.z attitude.accelSamples⟩
    if !numerics.biasValid bias || !numerics.gravityValid gravity || sample.timestamp == 0 then
      (attitude.publishInvalid 124 .estimatorInvalid).resetCalibrationAccumulators numerics
    else
      let (initialized, estimator) :=
        numerics.initializeEstimator attitude.estimator sample.timestamp bias gravity
      let attitude := { attitude with estimator }
      if !initialized then
        (attitude.publishInvalid 124 .estimatorInvalid).resetCalibrationAccumulators numerics
      else
        ({ attitude with lastSensorTimestampUs := sample.timestamp }.publishEstimatorState
          numerics).resetCalibrationAccumulators numerics

/-- `invalidateForDataLoss` -/
def invalidateForDataLoss (attitude : DisplayAttitude D E) : DisplayAttitude D E :=
  { attitude with
    estimator := numerics.invalidateForDataLoss attitude.estimator }.publishInvalid 124
    .estimatorInvalid

/-- `invalidateForReset` -/
def invalidateForReset (attitude : DisplayAttitude D E) : DisplayAttitude D E :=
  { attitude with
    estimator := numerics.invalidateForReset attitude.estimator }.publishInvalid 125
    .resetInvalidated

/-- The sums of `observe` with the sample -/
def accumulate (attitude : DisplayAttitude D E) (sample : ImuSample) : DisplayAttitude D E :=
  let attitude :=
    if sample.gyroValid then
      { attitude with
        gyroSum :=
          ⟨numerics.addRadians attitude.gyroSum.x sample.angularVelocityDps.x,
            numerics.addRadians attitude.gyroSum.y sample.angularVelocityDps.y,
            numerics.addRadians attitude.gyroSum.z sample.angularVelocityDps.z⟩
        gyroSamples := attitude.gyroSamples + 1 }
    else attitude
  if sample.accelValid then
    { attitude with
      accelSum :=
        ⟨numerics.addGravity attitude.accelSum.x sample.accelerationG.x,
          numerics.addGravity attitude.accelSum.y sample.accelerationG.y,
          numerics.addGravity attitude.accelSum.z sample.accelerationG.z⟩
      accelSamples := attitude.accelSamples + 1 }
  else attitude

/-- `observe` outside a calibration -/
def follow (attitude : DisplayAttitude D E) (sample : ImuSample) : DisplayAttitude D E :=
  if !(numerics.state attitude.estimator).valid then attitude
  else if !sample.gyroValid || sample.timestamp == 0 ||
      sample.timestamp ≤ attitude.lastSensorTimestampUs then
    attitude.invalidateForDataLoss numerics
  else
    let (updated, estimator) :=
      numerics.updateEstimator attitude.estimator sample.timestamp sample.angularVelocityDps
    let attitude := { attitude with estimator }
    if !updated then attitude.invalidateForDataLoss numerics
    else
      { attitude with lastSensorTimestampUs := sample.timestamp }.publishEstimatorState numerics

/-- `observe` -/
def observe (attitude : DisplayAttitude D E) (sample : ImuSample) : DisplayAttitude D E :=
  let attitude :=
    if sample.hostTimestampUs ≠ 0 then
      { attitude with lastHostTimestampUs := sample.hostTimestampUs }
    else attitude
  match attitude.calibrationState with
  | .active => attitude.accumulate numerics sample
  | .finishSuccess =>
      { (attitude.accumulate numerics sample).finishCalibration numerics sample with
        calibrationState := .idle }
  | .finishFailed =>
      ({ attitude.resetCalibrationAccumulators numerics with
          calibrationState := .idle }.invalidateForDataLoss numerics).follow numerics sample
  | .idle => attitude.follow numerics sample

/-- `calibrationAccepted` -/
def calibrationAccepted (attitude : DisplayAttitude D E) (transactionId : UInt8) :
    DisplayAttitude D E :=
  if transactionId = 0 then attitude
  else
    { { attitude with calibrationTransaction := transactionId }.resetCalibrationAccumulators
        numerics with calibrationState := .active }.publishInvalid 122 .notInitialized

/-- `calibrationFinished` -/
def calibrationFinished (attitude : DisplayAttitude D E) (transactionId : UInt8)
    (success : Bool) : DisplayAttitude D E :=
  if transactionId = 0 ∨ attitude.calibrationTransaction ≠ transactionId then attitude
  else { attitude with calibrationState := if success then .finishSuccess else .finishFailed }

/-- `wireTelemetry`: magnitude, direction and roll -/
def wireTelemetry (attitude : DisplayAttitude D E) (nowUs : UInt64) : UInt8 × UInt16 × UInt16 :=
  let last := attitude.lastHostTimestampUs
  if attitude.magnitudeRaw ≤ 120 ∧ (last = 0 ∨ nowUs < last ∨ nowUs - last > kStaleUs) then
    (123, 511, RollError.stale.toWord)
  else (attitude.magnitudeRaw, attitude.directionRaw, attitude.rollRaw)

/-- What `MissionRuntimeCan::write` does to the attitude before it passes a frame on -/
def write (attitude : DisplayAttitude D E) (frame : CanFrame) : DisplayAttitude D E :=
  let attitude :=
    if frame.identifier = 0x011 ∧ frame.dataLength = 8 ∧ dataByte frame 1 = 0x30 then
      if dataByte frame 2 = 0 ∧ dataByte frame 3 = 0 then
        attitude.calibrationAccepted numerics (dataByte frame 0)
      else if dataByte frame 2 = 1 ∨ dataByte frame 2 = 2 ∨ dataByte frame 2 = 3 then
        attitude.calibrationFinished (dataByte frame 0)
          (dataByte frame 2 == 1 && dataByte frame 3 == 0)
      else attitude
    else attitude
  if frame.identifier = 0x102 ∧ frame.dataLength = 8 then
    let status := LittleEndian.join16 (dataByte frame 2) (dataByte frame 3)
    let attitude :=
      if status &&& ((1 : UInt16) <<< 9) ≠ 0 then attitude.invalidateForDataLoss numerics
      else attitude
    if status &&& ((1 : UInt16) <<< 14) ≠ 0 then attitude.invalidateForReset numerics else attitude
  else attitude

/-- One event of a history -/
def step (attitude : DisplayAttitude D E) : AttitudeEvent → DisplayAttitude D E
  | .sample sample => attitude.observe numerics sample
  | .write frame => attitude.write numerics frame

/-! ### What a result does to the attitude -/

variable {numerics} {attitude : DisplayAttitude D E}

/-- The frame of a result of `run_preflight_calibration` -/
def calibrationResult (transactionId : UInt8) (phase : CommandPhase) (reason : CommandReason)
    (detail : UInt32) : CanFrame :=
  commandResult.encode
    { transactionId, command := CommandCode.runPreflightCalibration.raw, phase, reason, detail }

/-- A result that says so has the attitude calibrated, any other that is not an acceptance ends
the calibration of its transaction. -/
theorem write_calibrationResult (transactionId : UInt8) (phase : CommandPhase)
    (reason : CommandReason) (detail : UInt32) :
    attitude.write numerics (calibrationResult transactionId phase reason detail) =
      if phase = .accepted then
        if reason = .none then attitude.calibrationAccepted numerics transactionId else attitude
      else
        attitude.calibrationFinished transactionId
          (decide (phase = .completed ∧ reason = .none)) := by
  have header : (calibrationResult transactionId phase reason detail).identifier = 0x011 ∧
      (calibrationResult transactionId phase reason detail).dataLength = 8 ∧
      dataByte (calibrationResult transactionId phase reason detail) 1 = 0x30 := ⟨rfl, rfl, rfl⟩
  have transaction : dataByte (calibrationResult transactionId phase reason detail) 0 =
      transactionId := rfl
  have phaseByte : dataByte (calibrationResult transactionId phase reason detail) 2 =
      ByteEnum.toByte phase := rfl
  have reasonByte : dataByte (calibrationResult transactionId phase reason detail) 3 =
      ByteEnum.toByte reason := rfl
  have plain : ByteEnum.toByte reason = 0 ↔ reason = .none := by
    cases reason <;> decide
  have plainTest : (ByteEnum.toByte reason == 0) = decide (reason = .none) := by
    rw [Bool.eq_iff_iff, beq_iff_eq, decide_eq_true_iff, plain]
  unfold write
  dsimp only
  rw [if_pos header, header.1, if_neg (by simp), transaction, phaseByte, reasonByte]
  simp only [plain, plainTest]
  cases phase with
  | accepted =>
      have byte : ByteEnum.toByte CommandPhase.accepted = 0 := rfl
      by_cases success : reason = .none <;> simp [byte, success]
  | completed =>
      have byte : ByteEnum.toByte CommandPhase.completed = 1 := rfl
      simp [byte]
  | rejected =>
      have byte : ByteEnum.toByte CommandPhase.rejected = 2 := rfl
      simp [byte]
  | failed =>
      have byte : ByteEnum.toByte CommandPhase.failed = 3 := rfl
      simp [byte]

/-- The calibration of the transaction has been accepted, and nothing has come of it yet. -/
structure FreshlyAccepted (numerics : AttitudeNumerics D E) (attitude : DisplayAttitude D E)
    (transactionId : UInt8) : Prop where
  transaction : attitude.calibrationTransaction = transactionId
  active : attitude.calibrationState = .active
  gyroSamples : attitude.gyroSamples = 0
  accelSamples : attitude.accelSamples = 0
  gyroSum : attitude.gyroSum = ⟨numerics.zero, numerics.zero, numerics.zero⟩
  accelSum : attitude.accelSum = ⟨numerics.zero, numerics.zero, numerics.zero⟩
  magnitude : attitude.magnitudeRaw = 122
  direction : attitude.directionRaw = 511
  roll : attitude.rollRaw = RollError.notInitialized.toWord

/-- A result that is written again finds its work done and not yet used: an acceptance before
any sample, finish or invalidation, an end before the sample that acts on it, or for a
transaction that is not the current one. -/
def Unused (numerics : AttitudeNumerics D E) (attitude : DisplayAttitude D E)
    (transactionId : UInt8) (phase : CommandPhase) (reason : CommandReason) : Prop :=
  transactionId ≠ 0 →
    if phase = .accepted then reason = .none → attitude.FreshlyAccepted numerics transactionId
    else attitude.calibrationTransaction = transactionId → attitude.calibrationState =
      if phase = .completed ∧ reason = .none then .finishSuccess else .finishFailed

theorem calibrationAccepted_eq_iff {transactionId : UInt8} (named : transactionId ≠ 0) :
    attitude.calibrationAccepted numerics transactionId = attitude ↔
      attitude.FreshlyAccepted numerics transactionId := by
  unfold calibrationAccepted
  rw [if_neg named]
  constructor
  · intro same
    rw [← same]
    exact ⟨rfl, rfl, rfl, rfl, rfl, rfl, rfl, rfl, rfl⟩
  · intro fresh
    cases attitude
    obtain ⟨rfl, rfl, rfl, rfl, rfl, rfl, rfl, rfl, rfl⟩ := fresh
    rfl

theorem calibrationFinished_eq_iff {transactionId : UInt8} {success : Bool}
    (named : transactionId ≠ 0) :
    attitude.calibrationFinished transactionId success = attitude ↔
      (attitude.calibrationTransaction = transactionId →
        attitude.calibrationState = if success then .finishSuccess else .finishFailed) := by
  unfold calibrationFinished
  by_cases current : attitude.calibrationTransaction = transactionId
  · rw [if_neg (by simp [named, current])]
    constructor
    · intro same _
      rw [← same]
    · intro awaits
      rw [← awaits current]
  · rw [if_pos (.inr current)]
    simp [current]

/-- An event that the current calibration does not notice: a sample with nothing valid in it, or
a frame that is neither a result of a calibration nor a status -/
def Inert : AttitudeEvent → Prop
  | .sample sample => sample.gyroValid = false ∧ sample.accelValid = false
  | .write frame => frame.identifier ≠ 0x011 ∧ frame.identifier ≠ 0x102

theorem FreshlyAccepted.step {transactionId : UInt8} {event : AttitudeEvent}
    (fresh : attitude.FreshlyAccepted numerics transactionId) (inert : Inert event) :
    (attitude.step numerics event).FreshlyAccepted numerics transactionId := by
  have active := fresh.active
  obtain ⟨transaction, _, gyroSamples, accelSamples, gyroSum, accelSum, magnitude, direction,
    roll⟩ := fresh
  cases event with
  | sample sample =>
      obtain ⟨noGyro, noAccel⟩ := inert
      unfold DisplayAttitude.step observe
      by_cases stamped : sample.hostTimestampUs = 0
      · simp only [stamped, ne_eq, not_true_eq_false, if_false, active]
        unfold accumulate
        rw [noGyro, noAccel]
        exact ⟨transaction, active, gyroSamples, accelSamples, gyroSum, accelSum, magnitude,
          direction, roll⟩
      · simp only [stamped, ne_eq, not_false_eq_true, if_true, active]
        unfold accumulate
        rw [noGyro, noAccel]
        exact ⟨transaction, rfl, gyroSamples, accelSamples, gyroSum, accelSum, magnitude,
          direction, roll⟩
  | write frame =>
      obtain ⟨noResult, noStatus⟩ := inert
      unfold DisplayAttitude.step write
      dsimp only
      rw [if_neg fun status => noStatus status.1, if_neg fun result => noResult result.1]
      exact ⟨transaction, active, gyroSamples, accelSamples, gyroSum, accelSum, magnitude,
        direction, roll⟩

/-- A retry of an acceptance changes nothing as long as only inert events come in between. -/
theorem retry_of_inert {transactionId : UInt8} {detail : UInt32} {between : List AttitudeEvent}
    (inert : ∀ event ∈ between, Inert event) :
    (Run.after (step numerics) (attitude.write numerics
        (calibrationResult transactionId .accepted .none detail)) between).write numerics
      (calibrationResult transactionId .accepted .none detail) =
    Run.after (step numerics) (attitude.write numerics
      (calibrationResult transactionId .accepted .none detail)) between := by
  simp only [write_calibrationResult, if_true]
  by_cases named : transactionId = 0
  · simp [named, calibrationAccepted]
  · rw [calibrationAccepted_eq_iff named]
    have start : (attitude.calibrationAccepted numerics transactionId).FreshlyAccepted numerics
        transactionId := by
      unfold calibrationAccepted
      rw [if_neg named]
      exact ⟨rfl, rfl, rfl, rfl, rfl, rfl, rfl, rfl, rfl⟩
    generalize attitude.calibrationAccepted numerics transactionId = accepted at start
    induction between generalizing accepted with
    | nil => exact start
    | cons event rest inductionHypothesis =>
        exact inductionHypothesis (fun later within => inert later (List.mem_cons_of_mem _ within))
          _ (start.step (inert event List.mem_cons_self))

/-! ### A retry behind a sample -/

/-- Sums of whole numbers, exact for samples whose components are 0 or 1; an estimator that is
valid once it has been started -/
def wholeNumerics : AttitudeNumerics ℤ Bool where
  zero := 0
  addRadians sum _ := sum
  addGravity sum value := if value = 0x3F800000 then sum + 1 else sum
  mean sum samples := sum / (samples.toNat : ℤ)
  biasValid _ := true
  gravityValid gravity := gravity.z == 1
  initializeEstimator _ _ _ _ := (true, true)
  updateEstimator started _ _ := (started, started)
  invalidateForDataLoss _ := false
  invalidateForReset _ := false
  state started := ⟨0, 511, 0, false, if started then .none else .sampleInvalid, started⟩

/-- A sample at rest: no rotation, 1 g along z -/
def sampleAtRest : ImuSample where
  hostTimestampUs := 1000
  sensorTimestampUs := 1000
  accelerationG := ⟨0, 0, 0x3F800000⟩
  accelerationValid := true
  angularVelocityValid := true

end DisplayAttitude

end MissionBoard.Sensors
