import MissionBoard.Mission.MissionState
import MissionBoard.Protocol.Quantization
import MissionBoard.Runtime.CommandPipeline
import MissionBoard.Sensors.AttitudeEstimator

/-!
Owns `RuntimeStatus`, as far as the telemetry frames read it, and what `missionRealtimeTask` writes
into it from its cached mission snapshot, the attitude, the fin, the air data and the atomics.

Which of its branches drove the motor is an input, with the torque request or the error it left.
-/

namespace MissionBoard.Runtime

open Protocol Protocol.Quantization Mission Sensors

/-- `RuntimeStatus` -/
structure RuntimeStatus where
  state : MissionState := .commandReceive
  flightStatus : UInt16 := 0
  configFlags : UInt8 := 0
  finMode : FinMode := .brake
  paraMode : ParaMode := .poweredOff
  lpsPressureRaw : UInt16 := LpsPressureError.unavailable.toWord
  lpsTemperatureRaw : UInt8 := LpsTemperatureError.unavailable.toByte
  airspeedRaw : UInt8 := AirspeedError.sscNotInitialized.toByte
  lpsSampleValid : Bool := false
  airspeedSampleValid : Bool := false
  deploymentPowerCutoff : Bool := false
  flightElapsedUs : UInt64 := 0
  rollRaw : UInt16 := RollError.unavailable.toWord
  rollRateRaw : UInt16 := RollError.unavailable.toWord
  finAngleRaw : UInt8 := FinAngleError.notInitialized.toByte
  finRateRaw : UInt16 := FinRateError.estimatorNotReady.toWord
  requestedTorqueRaw : UInt16 := TorqueError.unavailable.toWord
  controlRollReferenceUnwrappedRaw : UInt16 := RollError.unavailable.toWord
  rollDeviationUnwrappedRaw : UInt16 := RollError.unavailable.toWord
  controlRollFlags : UInt8 := 0
  controlRollReferenceCaptureEventSequence : UInt8 := 0
deriving DecidableEq

/-! ### Air data -/

/-- `AirDataSnapshot`, without what only the detectors read -/
structure AirDataSnapshot where
  lpsMonotonicUs : UInt64 := 0
  sscMonotonicUs : UInt64 := 0
  pressureRaw : UInt16 := LpsPressureError.unavailable.toWord
  temperatureRaw : UInt8 := LpsTemperatureError.unavailable.toByte
  airspeedRaw : UInt8 := AirspeedError.sscNotInitialized.toByte
  lpsValid : Bool := false
  sscValid : Bool := false
  sscZeroValid : Bool := false
  airspeedValid : Bool := false
deriving DecidableEq

/-- What `lps.read` returns -/
inductive LpsRead where
  | sample (pressurePa temperatureCelsius : Double)
  | timeout
  | failed
deriving DecidableEq

/-- What `ssc.read` returns, with the airspeed that is computed from it or the error that is found
instead, or with the error that `setInitialSscError` chooses -/
inductive SscRead where
  | sample (airspeed : Except AirspeedError Double) (zeroValid : Bool)
  | failed (error : AirspeedError)

/-- `FreshnessThresholds::lps_us` -/
def lpsUs : UInt64 := 120000

/-- `FreshnessThresholds::ssc_us` -/
def sscUs : UInt64 := 20000

/-- A sample of this time that is not older than the threshold -/
def fresh (sampleUs nowUs thresholdUs : UInt64) : Bool :=
  sampleUs ≠ 0 && sampleUs ≤ nowUs && nowUs - sampleUs ≤ thresholdUs

section

variable (unspecified : Double → ℤ)

namespace AirDataSnapshot

/-- A turn of `airDataTask` that reads the pressure sensor -/
def readLps (snapshot : AirDataSnapshot) (nowUs : UInt64) : LpsRead → AirDataSnapshot
  | .sample pressurePa temperatureCelsius =>
      { snapshot with
        lpsMonotonicUs := nowUs
        lpsValid := true
        pressureRaw := encodeLpsPressure unspecified (pressurePa.div (.finite 100)) .unknown
        temperatureRaw := encodeLpsTemperature unspecified temperatureCelsius .unknown }
  | .timeout =>
      if snapshot.lpsMonotonicUs ≠ 0 then snapshot
      else
        { snapshot with
          pressureRaw := LpsPressureError.i2cTimeout.toWord
          temperatureRaw := LpsTemperatureError.i2cTimeout.toByte }
  | .failed =>
      if snapshot.lpsMonotonicUs ≠ 0 then snapshot
      else
        { snapshot with
          pressureRaw := LpsPressureError.i2cBusError.toWord
          temperatureRaw := LpsTemperatureError.i2cBusError.toByte }

/-- A turn of `airDataTask` that reads the differential pressure sensor -/
def readSsc (snapshot : AirDataSnapshot) (nowUs : UInt64) : SscRead → AirDataSnapshot
  | .sample (.ok airspeed) zeroValid =>
      let airspeedRaw := encodeAirspeed unspecified airspeed .internalInvalid
      { snapshot with
        sscMonotonicUs := nowUs
        sscValid := true
        sscZeroValid := zeroValid
        airspeedRaw
        airspeedValid := airspeedRaw ≤ 245 }
  | .sample (.error error) zeroValid =>
      { snapshot with
        sscMonotonicUs := nowUs
        sscValid := true
        sscZeroValid := zeroValid
        airspeedRaw := error.toByte
        airspeedValid := false }
  | .failed error =>
      if snapshot.sscMonotonicUs ≠ 0 then snapshot
      else { snapshot with airspeedRaw := error.toByte }

/-- The mission is back in command reception, or a calibration starts. -/
def resetZero (snapshot : AirDataSnapshot) : AirDataSnapshot :=
  { snapshot with sscZeroValid := false, airspeedValid := false }

end AirDataSnapshot

/-! ### The status -/

/-- What an iteration of `missionRealtimeTask` writes the status from -/
structure StatusInput where
  missionSnapshot : MissionSnapshot := {}
  attitude : AttitudeState := {}
  monotonicUs : UInt64 := 0
  paraModeActual : ParaMode := .poweredOff
  commandFinMode : CommandFinMode := .free
  motorOutputCoasting : Bool := false
  motorOutputBraking : Bool := false
  /-- `torque_request.output_torque_nm` of a valid request, else `torque_error` -/
  torque : Except TorqueError Double := .error .unavailable
  motorSaturated : Bool := false
  encoderReady : Bool := false
  finZeroAvailable : Bool := false
  finSampleValid : Bool := false
  finAngleRad : Double := .zero
  finRateRadS : Double := .zero
  lpsReady : Bool := false
  sscReady : Bool := false
  imuReady : Bool := false
  stsReady : Bool := false
  canHealthy : Bool := false
  lpsLiftoffLatched : Bool := false
  imuLiftoffLatched : Bool := false
  imuDataLossLatched : Bool := false
  logicPowerPresent : Bool := false
  motorPowerPresent : Bool := false
  motorProfileValid : Bool := false
  finZeroConfigured : Bool := false

/-- `kRadiansToDegrees` -/
def kRadiansToDegrees : Double := .rounded (57.29577951308232)

/-- `ControlRollTelemetryV2::reference_valid` -/
def referenceValid : UInt8 := (1 : UInt8) <<< 0

/-- `ControlRollTelemetryV2::reference_captured_since_previous_frame` -/
def referenceCapturedSincePreviousFrame : UInt8 := (1 : UInt8) <<< 1

/-- `ControlRollTelemetryV2::control_active` -/
def controlActive : UInt8 := (1 : UInt8) <<< 2

namespace StatusInput

/-- `status.fin_mode` -/
def finMode (input : StatusInput) : FinMode :=
  if input.motorOutputCoasting then .free
  else if input.motorOutputBraking then .brake
  else
    match input.missionSnapshot.fin with
    | .zeroHold => commanded .zeroHold
    | .rollControl => commanded .rollControl
    | .free | .brake => commanded .brake
where
  /-- In command reception the mode of the last fin command goes before that of the mission. -/
  commanded (mode : FinMode) : FinMode :=
    if input.missionSnapshot.state = .commandReceive then
      match input.commandFinMode with
      | .zeroHold => .zeroHold
      | .positionHold => .positionHold
      | .relativeMove => .relativeMove
      | .free => mode
    else mode

/-- `status.roll_raw` and `status.roll_rate_raw` -/
def rolls (input : StatusInput) : UInt16 × UInt16 :=
  if input.attitude.valid then
    (encodeRoll unspecified
        (input.attitude.rollEstimateLiftoffRelativeUnwrappedRad.mul kRadiansToDegrees) .unknown,
      encodeRollRate unspecified (input.attitude.rollRateRadS.mul kRadiansToDegrees) .unknown)
  else
    let reason : RollError :=
      if input.missionSnapshot.resetInvalidated then .resetInvalidated else .estimatorInvalid
    (reason.toWord, reason.toWord)

/-- `status.fin_angle_raw` -/
def finAngleRaw (input : StatusInput) : UInt8 :=
  if input.encoderReady && input.finZeroAvailable then
    encodeFinAngle unspecified (input.finAngleRad.mul kRadiansToDegrees) .outOfMechanicalRange
  else if input.encoderReady then FinAngleError.zeroNotConfigured.toByte
  else FinAngleError.notInitialized.toByte

/-- `status.fin_rate_raw` -/
def finRateRaw (input : StatusInput) : UInt16 :=
  if input.finSampleValid then
    encodeFinRate unspecified (input.finRateRadS.mul kRadiansToDegrees) .estimatorNumericError
  else FinRateError.estimatorNotReady.toWord

/-- `status.requested_torque_raw` -/
def requestedTorqueRaw (input : StatusInput) : UInt16 :=
  match input.torque with
  | .ok outputTorqueNm =>
      encodeRequestedTorque unspecified outputTorqueNm .controllerNumericError
  | .error error => error.toWord

/-- `status.control_roll_reference_unwrapped_raw` and `status.roll_deviation_unwrapped_raw`. With the
reference valid and the attitude lost, the deviation keeps its default. -/
def controlRolls (input : StatusInput) : UInt16 × UInt16 :=
  let snapshot := input.missionSnapshot
  if snapshot.controlRollReferenceValid then
    (encodeRoll unspecified (snapshot.controlRollReferenceUnwrappedRad.mul kRadiansToDegrees)
        .unknown,
      if input.attitude.valid then
        encodeRoll unspecified
          ((input.attitude.rollEstimateLiftoffRelativeUnwrappedRad.sub
            snapshot.controlRollReferenceUnwrappedRad).mul kRadiansToDegrees) .unknown
      else RollError.unavailable.toWord)
  else
    let error : RollError := if snapshot.resetInvalidated then .resetInvalidated else .unavailable
    (error.toWord, error.toWord)

/-- `status.control_roll_flags` -/
def controlRollFlags (input : StatusInput) : UInt8 :=
  let rolls := input.controlRolls unspecified
  let flags : UInt8 :=
    if input.missionSnapshot.controlRollReferenceValid then referenceValid else 0
  let flags :=
    if input.missionSnapshot.state = .control then flags ||| controlActive else flags
  let flags :=
    if rolls.1 = RollError.outOfRange.toWord then flags ||| referenceOutOfRange else flags
  if rolls.2 = RollError.outOfRange.toWord then flags ||| deviationOutOfRange else flags

/-- A bit of the status words -/
private def statusBit (condition : Bool) (bit : UInt16) : UInt16 :=
  if condition then (1 : UInt16) <<< bit else 0

/-- `status.flight_status` -/
def flightStatus (input : StatusInput) (airDataError : Bool) : UInt16 :=
  statusBit input.lpsLiftoffLatched 0 ||| statusBit input.imuLiftoffLatched 1 |||
    statusBit input.imuReady 2 ||| statusBit input.stsReady 3 |||
    statusBit (input.missionSnapshot.state = .control) 4 |||
    statusBit input.logicPowerPresent 5 ||| statusBit input.motorPowerPresent 6 |||
    statusBit input.canHealthy 8 ||| statusBit input.imuDataLossLatched 9 |||
    statusBit (!input.encoderReady) 10 ||| statusBit airDataError 11 |||
    statusBit input.motorSaturated 12 ||| statusBit (input.finMode = .brake) 13 |||
    statusBit input.missionSnapshot.resetInvalidated 14 |||
    statusBit input.missionSnapshot.controlReentryInhibited 15

/-- `status.config_flags` -/
def configFlags (input : StatusInput) (air : AirDataSnapshot) : UInt8 :=
  (if input.motorProfileValid then (1 : UInt8) <<< 0 else 0) |||
    (if input.finZeroConfigured then (1 : UInt8) <<< 1 else 0) |||
    (if air.sscZeroValid then (1 : UInt8) <<< 3 else 0) ||| (1 : UInt8) <<< 7

end StatusInput

/-- The status of an iteration of `missionRealtimeTask` -/
def statusOf (input : StatusInput) (air : AirDataSnapshot) : RuntimeStatus :=
  let lpsFresh := fresh air.lpsMonotonicUs input.monotonicUs lpsUs
  let sscFresh := fresh air.sscMonotonicUs input.monotonicUs sscUs
  let airspeedRaw :=
    if sscFresh then air.airspeedRaw
    else if input.sscReady then AirspeedError.sscStale.toByte
    else AirspeedError.sscNotInitialized.toByte
  let lpsSampleValid := lpsFresh && air.lpsValid
  let airspeedSampleValid := sscFresh && air.sscValid && air.airspeedValid && airspeedRaw ≤ 245
  { state := input.missionSnapshot.state
    flightStatus := input.flightStatus (!lpsSampleValid || !airspeedSampleValid)
    configFlags := input.configFlags air
    finMode := input.finMode
    paraMode := input.paraModeActual
    lpsPressureRaw :=
      if lpsFresh then air.pressureRaw
      else if input.lpsReady then LpsPressureError.stale.toWord
      else LpsPressureError.notInitialized.toWord
    lpsTemperatureRaw :=
      if lpsFresh then air.temperatureRaw
      else if input.lpsReady then LpsTemperatureError.stale.toByte
      else LpsTemperatureError.notInitialized.toByte
    airspeedRaw
    lpsSampleValid
    airspeedSampleValid
    deploymentPowerCutoff := input.missionSnapshot.deploymentPowerCutoffLatched
    flightElapsedUs := input.missionSnapshot.elapsedUs
    rollRaw := (input.rolls unspecified).1
    rollRateRaw := (input.rolls unspecified).2
    finAngleRaw := input.finAngleRaw unspecified
    finRateRaw := input.finRateRaw unspecified
    requestedTorqueRaw := input.requestedTorqueRaw unspecified
    controlRollReferenceUnwrappedRaw := (input.controlRolls unspecified).1
    rollDeviationUnwrappedRaw := (input.controlRolls unspecified).2
    controlRollFlags := input.controlRollFlags unspecified
    controlRollReferenceCaptureEventSequence :=
      input.missionSnapshot.controlRollReferenceCaptureEventSequence }

end

end MissionBoard.Runtime
