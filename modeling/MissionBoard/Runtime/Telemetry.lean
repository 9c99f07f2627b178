import MissionBoard.Mission.Recovery
import MissionBoard.Protocol.CanExactness
import MissionBoard.Runtime.RuntimeStatus

/-!
Owns the telemetry of the mission board: the queue of the air data, the status queue, and the frames
`0x100` to `0x10A` that `canTask` packs from the status and the atomics.

A frame is kept as the message that was packed; its bytes are those of `encode`. Every frame that the
bus could receive is kept, whether or not `writeFrame` sends it.
-/

namespace MissionBoard.Runtime

open Protocol Protocol.Quantization Mission

/-! ### Frames -/

/-- A message that `canTask` packs -/
structure TelemetryFrame where
  type : CanMessageType
  message : type.Payload

namespace TelemetryFrame

/-- The frame -/
def frame (telemetry : TelemetryFrame) : CanFrame := telemetry.type.encode telemetry.message

/-- An identifier of telemetry -/
def isTelemetry (type : CanMessageType) : Bool :=
  0x100 ≤ type.layout.id.toWord && type.layout.id.toWord ≤ 0x10A

/-- The fields are in their wire ranges, and the identifier is one of telemetry. -/
structure InBand (telemetry : TelemetryFrame) : Prop where
  range : telemetry.type.InRange telemetry.message
  band : isTelemetry telemetry.type = true

end TelemetryFrame

/-- `sequenceIndex` -/
def sequenceIndex : CanId → Fin 11
  | .kinematicsTelemetry => 0
  | .controlTelemetry => 1
  | .missionStatusTelemetry => 2
  | .powerTimeTelemetry => 3
  | .descentCoreTelemetry => 4
  | .recoveryStatus => 5
  | .recoveryLogData => 6
  | .attitudeTiltTelemetry => 7
  | .lpsTelemetry => 8
  | .airspeedTelemetry => 9
  | .controlRollTelemetryV2 => 10
  | _ => 0

/-- `TelemetrySequences` -/
structure TelemetrySequences where
  counters : Vector UInt8 11 := .replicate 11 0

/-- `TelemetrySequences::next` -/
def TelemetrySequences.next (sequences : TelemetrySequences) (id : CanId) :
    UInt8 × TelemetrySequences :=
  let index := sequenceIndex id
  (sequences.counters.get index,
    { counters := sequences.counters.set index (sequences.counters.get index + 1) })

/-! ### `canTask` -/

/-- `controlRollQualityCode` -/
def controlRollQualityCode (raw : UInt16) : UInt8 :=
  if 0x8000 ≤ raw ∧ raw ≤ 0x800F then (raw &&& 0x000F).toUInt8 + 1 else 0

/-- `controlRollStatusSignature` -/
def controlRollStatusSignature (referenceRaw deviationRaw : UInt16) (flags : UInt8) : UInt32 :=
  (flags &&& (referenceValid ||| controlActive ||| referenceOutOfRange ||| deviationOutOfRange)).toUInt32
    ||| (controlRollQualityCode referenceRaw).toUInt32 <<< 8
    ||| (controlRollQualityCode deviationRaw).toUInt32 <<< 13

/-- `markerStoragePresent` -/
def markerStoragePresent (marker : RecoveryMarker) : Bool :=
  marker.magic ≠ 0 || marker.version ≠ 0 || marker.checksum ≠ 0 || marker.wakeSequence ≠ 0 ||
    marker.entryRtcTimeUs ≠ 0 || marker.recoveryRequested

/-- `recoveryTimeError` -/
def recoveryTimeError (error : TimeError) : UInt16 := 0xFFF0 ||| error.toByte.toUInt16

/-- What an iteration of `canTask` reads beside the status -/
structure CanInput where
  now : UInt32 := 0
  recoveryOnly : Bool := false
  recoveryRequested : Bool := false
  recoveryMarker : RecoveryMarker := {}
  wakeCauseValid : Bool := false
  rtcNowUs : UInt64 := 0
  parachuteDeploymentFailure : UInt8 := 0
  parachuteAngleRaw : UInt8 := 255
  logicVoltageRaw : UInt8 := 255
  motorVoltageRaw : UInt8 := 255
  sdLogReady : Bool := false
  sdLogFailed : Bool := false
  resultQueueOverflow : UInt32 := 0
  /-- The message that waits in `pending_recovery_status` -/
  recoveryStatus : Option RecoveryStatusMessage := none
  /-- The message that waits in `pending_recovery_log_data` -/
  recoveryLogData : Option RecoveryLogData := none
  /-- `writeFrame` sends the roll frame. -/
  sendsControlRoll : Bool := true

/-- `recoveryElapsedRaw` -/
def CanInput.recoveryElapsedRaw (input : CanInput) : UInt16 :=
  let entryUs := input.recoveryMarker.entryRtcTimeUs
  if validRecoveryMarker input.recoveryMarker then
    if entryUs = 0 then recoveryTimeError .rtcRecoveryFailed
    else if input.recoveryOnly && !input.wakeCauseValid then recoveryTimeError .rtcRecoveryFailed
    else if input.rtcNowUs < entryUs then recoveryTimeError .timeInconsistent
    else
      encodeRecoveryElapsed
        ((Double.ofInt (input.rtcNowUs - entryUs).toNat).div (.finite 1000000)) .internalError
  else if input.recoveryOnly then
    recoveryTimeError
      (if markerStoragePresent input.recoveryMarker then .checkpointInvalid else .checkpointMissing)
  else if input.recoveryRequested then recoveryTimeError .recoveryInProgress
  else recoveryTimeError .unavailable

/-- The variables of `canTask` -/
structure CanTask where
  latest : RuntimeStatus := {}
  sequences : TelemetrySequences := {}
  lastStatus : UInt32 := 0
  lastFast : UInt32 := 0
  lastControlRoll : UInt32 := 0
  lastLps : UInt32 := 0
  lastStatusState : MissionState := .unknown
  lastControlRollCaptureEventSequence : UInt8 := 0
  lastControlRollStatusSignature : UInt32 :=
    controlRollStatusSignature RollError.unavailable.toWord RollError.unavailable.toWord 0
  /-- The messages it has packed -/
  packed : List TelemetryFrame := []

namespace CanTask

/-- A message with the next sequence number of its identifier is packed. -/
def pack (task : CanTask) (id : CanId) (message : UInt8 → TelemetryFrame) : CanTask :=
  let (sequence, sequences) := task.sequences.next id
  { task with sequences, packed := task.packed ++ [message sequence] }

/-- `latest.flight_elapsed_us` in seconds -/
def elapsedSeconds (latest : RuntimeStatus) : Double :=
  (Double.ofInt latest.flightElapsedUs.toNat).div (.finite 1000000)

def packKinematics (task : CanTask) : CanTask :=
  task.pack .kinematicsTelemetry fun sequence =>
    ⟨.kinematicsTelemetry,
      { sequence
        rollRaw := task.latest.rollRaw
        rollRateRaw := task.latest.rollRateRaw
        finAngleRaw := task.latest.finAngleRaw
        finRateRaw := task.latest.finRateRaw : KinematicsTelemetry }⟩

def packControl (task : CanTask) : CanTask :=
  if task.latest.state ≠ .commandReceive ∧ task.latest.state ≠ .descent then
    task.pack .controlTelemetry fun sequence =>
      ⟨.controlTelemetry,
        { sequence
          requestedTorqueRaw := task.latest.requestedTorqueRaw
          flightElapsedRaw :=
            encodeFlightElapsed (elapsedSeconds task.latest) .unavailable : ControlTelemetry }⟩
  else task

def packDescent (task : CanTask) (input : CanInput) : CanTask :=
  if task.latest.state = .descent then
    task.pack .descentCoreTelemetry fun sequence =>
      ⟨.descentCoreTelemetry,
        { sequence
          descentStatus := (input.parachuteDeploymentFailure &&& 0x0F).toUInt16
          parachuteAngleRaw := input.parachuteAngleRaw : DescentCoreTelemetry }⟩
  else task

def packAirspeed (task : CanTask) : CanTask :=
  if !task.latest.deploymentPowerCutoff then
    task.pack .airspeedTelemetry fun sequence =>
      ⟨.airspeedTelemetry,
        { sequence, airspeedRaw := task.latest.airspeedRaw : AirspeedTelemetry }⟩
  else task

/-- The frames of every 10 ms -/
def sendFast (task : CanTask) (input : CanInput) : CanTask :=
  if !input.recoveryOnly ∧ 10 ≤ input.now - task.lastFast then
    ({ task with lastFast := input.now }.packKinematics.packControl.packDescent input).packAirspeed
  else task

/-- The frame of every 40 ms -/
def sendLps (task : CanTask) (input : CanInput) : CanTask :=
  if !input.recoveryOnly ∧ 40 ≤ input.now - task.lastLps then
    let task := { task with lastLps := input.now }
    if !task.latest.deploymentPowerCutoff then
      task.pack .lpsTelemetry fun sequence =>
        ⟨.lpsTelemetry,
          { sequence
            pressureRaw := task.latest.lpsPressureRaw
            temperatureRaw := task.latest.lpsTemperatureRaw : LpsTelemetry }⟩
    else task
  else task

/-- The signature of the roll fields of the status -/
def signature (latest : RuntimeStatus) : UInt32 :=
  controlRollStatusSignature latest.controlRollReferenceUnwrappedRaw
    latest.rollDeviationUnwrappedRaw latest.controlRollFlags

/-- The roll frame, sent on a change, on a new capture and every 100 ms -/
def sendControlRoll (task : CanTask) (input : CanInput) : CanTask :=
  let captured := decide (task.latest.controlRollReferenceCaptureEventSequence ≠
    task.lastControlRollCaptureEventSequence)
  if !input.recoveryOnly ∧
      (captured ∨ signature task.latest ≠ task.lastControlRollStatusSignature ∨
        100 ≤ input.now - task.lastControlRoll) then
    let flags :=
      if captured then task.latest.controlRollFlags ||| referenceCapturedSincePreviousFrame
      else task.latest.controlRollFlags
    let next :=
      { task with lastControlRoll := input.now }.pack .controlRollTelemetryV2 fun sequence =>
        ⟨.controlRollTelemetryV2,
          { sequence
            controlRollReferenceUnwrappedRaw := task.latest.controlRollReferenceUnwrappedRaw
            rollDeviationUnwrappedRaw := task.latest.rollDeviationUnwrappedRaw
            flags
            referenceCaptureEventSequence :=
              task.latest.controlRollReferenceCaptureEventSequence : ControlRollTelemetryV2 }⟩
    if input.sendsControlRoll then
      { next with
        lastControlRollCaptureEventSequence :=
          task.latest.controlRollReferenceCaptureEventSequence
        lastControlRollStatusSignature := signature task.latest }
    else next
  else task

def packMissionStatus (task : CanTask) (input : CanInput) : CanTask :=
  task.pack .missionStatusTelemetry fun sequence =>
    ⟨.missionStatusTelemetry,
      { sequence
        state := task.latest.state
        flightStatus := task.latest.flightStatus
        configFlags := task.latest.configFlags
        finMode := task.latest.finMode
        paraMode := task.latest.paraMode
        parachuteAngleRaw := input.parachuteAngleRaw : MissionStatusTelemetry }⟩

def packPowerTime (task : CanTask) (input : CanInput) : CanTask :=
  let elapsedValid := task.latest.state = .engineBurn ∨ task.latest.state = .control ∨
    task.latest.state = .descent
  task.pack .powerTimeTelemetry fun sequence =>
    ⟨.powerTimeTelemetry,
      { sequence
        logicVoltageRaw := input.logicVoltageRaw
        motorVoltageRaw := input.motorVoltageRaw
        descentElapsedRaw :=
          if elapsedValid then encodeDescentElapsed (elapsedSeconds task.latest) .unavailable
          else 0xFFF0 ||| TimeError.preLiftoff.toByte.toUInt16
        recoveryElapsedRaw := input.recoveryElapsedRaw
        persistenceFlags :=
          (if input.sdLogReady && !input.sdLogFailed then (1 : UInt8) <<< 3 else 0) |||
            if input.resultQueueOverflow ≠ 0 then (1 : UInt8) <<< 7
            else 0 : PowerTimeTelemetry }⟩

/-- No tilt is estimated: the frame carries the codes for that. -/
def packTilt (task : CanTask) (input : CanInput) : CanTask :=
  if !input.recoveryOnly then
    task.pack .attitudeTiltTelemetry fun sequence =>
      ⟨.attitudeTiltTelemetry,
        { sequence, magnitudeRaw := 121, directionRaw := 511 : AttitudeTiltTelemetry }⟩
  else task

/-- The frames of every 100 ms and of every change of state -/
def sendStatus (task : CanTask) (input : CanInput) : CanTask :=
  if task.latest.state ≠ task.lastStatusState ∨ 100 ≤ input.now - task.lastStatus then
    (({ task with lastStatus := input.now, lastStatusState := task.latest.state }.packMissionStatus
      input).packPowerTime input).packTilt input
  else task

/-- The messages of a recovery that wait to be sent -/
def sendRecovery (task : CanTask) (input : CanInput) : CanTask :=
  { task with
    packed := task.packed ++
      (input.recoveryStatus.map fun message => ⟨.recoveryStatus, message⟩).toList ++
      (input.recoveryLogData.map fun message => ⟨.recoveryLogData, message⟩).toList }

/-- An iteration of `canTask` that sees this status -/
def turn (task : CanTask) (status : RuntimeStatus) (input : CanInput) : CanTask :=
  ((({ task.sendRecovery input with latest := status }.sendFast input).sendLps
    input).sendControlRoll input).sendStatus input

end CanTask

/-! ### The tasks -/

/-- `airDataTask`, `missionRealtimeTask` and `canTask`, with the queues between them -/
structure TelemetryBoard where
  air : AirDataSnapshot := {}
  airDataQueue : Option AirDataSnapshot := none
  latestAirData : AirDataSnapshot := {}
  statusQueue : RuntimeStatus := {}
  can : CanTask := {}

/-- A turn of one of the tasks -/
inductive TelemetryLabel where
  | readLps (nowUs : UInt64) (read : LpsRead)
  | readSsc (nowUs : UInt64) (read : SscRead)
  | resetZero
  | realtime (input : StatusInput)
  | can (input : CanInput)

namespace TelemetryBoard

/-- The board when the tasks start: the status that `start` puts into the queue, and the ticks that
`canTask` reads first -/
def boot (recoveryOnly : Bool) (lastStatus lastFast lastControlRoll lastLps : UInt32) :
    TelemetryBoard where
  statusQueue :=
    if recoveryOnly then
      { state := .descent
        flightStatus := (1 : UInt16) <<< 14 ||| (1 : UInt16) <<< 13
        finMode := .brake
        paraMode := .poweredOff
        deploymentPowerCutoff := true }
    else {}
  can := { lastStatus, lastFast, lastControlRoll, lastLps }

/-- One turn -/
def step (unspecified : Double → ℤ) (board : TelemetryBoard) : TelemetryLabel → TelemetryBoard
  | .readLps nowUs read =>
      let air := board.air.readLps unspecified nowUs read
      { board with air, airDataQueue := some air }
  | .readSsc nowUs read =>
      let air := board.air.readSsc unspecified nowUs read
      { board with air, airDataQueue := some air }
  | .resetZero => { board with air := board.air.resetZero }
  | .realtime input =>
      let latestAirData := board.airDataQueue.getD board.latestAirData
      { board with
        airDataQueue := none
        latestAirData
        statusQueue := statusOf unspecified input latestAirData }
  | .can input => { board with can := board.can.turn board.statusQueue input }

end TelemetryBoard

end MissionBoard.Runtime
