import MissionBoard.Library.WireFormat
import MissionBoard.Protocol.Can

/-!
Owns the remaining CAN message types of `protocol/can_protocol.hpp`: the frame
identifiers, the enumerations, the bytes that name their members, and the message
structures.
-/

namespace MissionBoard.Protocol

/-- `protocol::CanId` -/
inductive CanId where
  | actuatorEmergencyStop
  | liftoffDetectionEmergencyStop
  | recoveryControl
  | genericCommandRequest
  | commandResult
  | timeRequest
  | timeResponse
  | recoveryModeCommand
  | missionEvent
  | kinematicsTelemetry
  | controlTelemetry
  | missionStatusTelemetry
  | powerTimeTelemetry
  | descentCoreTelemetry
  | recoveryStatus
  | recoveryLogData
  | attitudeTiltTelemetry
  | lpsTelemetry
  | airspeedTelemetry
  | controlRollTelemetryV2
deriving DecidableEq

/-- `static_cast<uint16_t>(id)` -/
def CanId.toWord : CanId → UInt16
  | .actuatorEmergencyStop => 0x001
  | .liftoffDetectionEmergencyStop => 0x002
  | .recoveryControl => 0x008
  | .genericCommandRequest => 0x010
  | .commandResult => 0x011
  | .timeRequest => 0x012
  | .timeResponse => 0x013
  | .recoveryModeCommand => 0x014
  | .missionEvent => 0x020
  | .kinematicsTelemetry => 0x100
  | .controlTelemetry => 0x101
  | .missionStatusTelemetry => 0x102
  | .powerTimeTelemetry => 0x103
  | .descentCoreTelemetry => 0x104
  | .recoveryStatus => 0x105
  | .recoveryLogData => 0x106
  | .attitudeTiltTelemetry => 0x107
  | .lpsTelemetry => 0x108
  | .airspeedTelemetry => 0x109
  | .controlRollTelemetryV2 => 0x10A

/-! ### Enumerations -/

/-- `protocol::TimeSource` -/
inductive TimeSource where
  | invalid
  | gnss
  | ground
deriving DecidableEq

/-- `protocol::RecoveryOpcode` -/
inductive RecoveryOpcode where
  | wake
  | startLogDump
  | stopLogDump
deriving DecidableEq

/-- `protocol::RecoveryMode` -/
inductive RecoveryMode where
  | enterRecoveryBeacon
deriving DecidableEq

/-- `protocol::RecoveryModeReason` -/
inductive RecoveryModeReason where
  | autoElapsed120
  | groundRequested
  | recoveryWakeRetry
  | resetRecovery
deriving DecidableEq

/-- `protocol::RecoverySource` -/
inductive RecoverySource where
  | internalFlash
  | missionSdLatestFlight
deriving DecidableEq

/-- `protocol::RecoveryStatusCode` -/
inductive RecoveryStatusCode where
  | ready
  | dumping
  | complete
  | busy
  | invalidState
  | invalidArgument
  | sourceUnavailable
  | ioError
  | aborted
  | internalError
deriving DecidableEq

/-- `protocol::FinMode` -/
inductive FinMode where
  | free
  | brake
  | positionHold
  | zeroHold
  | relativeMove
  | rollControl
  | unknown
deriving DecidableEq

/-- `protocol::ParaMode` -/
inductive ParaMode where
  | free
  | hold
  | relativeMove
  | openingOrRetrying
  | closing
  | poweredOff
  | unknown
deriving DecidableEq

/-- `protocol::MissionEventFlag` -/
inductive MissionEventFlag where
  | icmDataLossOrError
  | encoderError
  | airDataError
  | finMotorSaturation
  | resetOrRecovery
  | stateChanged
  | liftoffDetected
  | parachuteOpenStarted
  | deploymentPowerCutoff
  | persistenceError
  | missionSdError
  | canRecovery
  | liftoffEmergencyRollback
  | actuatorEmergencyStop
  | finControlDisabledByGround
  | parachuteDeploymentFailure
deriving DecidableEq

/-- `eventFlag` -/
def eventFlag : MissionEventFlag → UInt16
  | .icmDataLossOrError => 0x0001
  | .encoderError => 0x0002
  | .airDataError => 0x0004
  | .finMotorSaturation => 0x0008
  | .resetOrRecovery => 0x0010
  | .stateChanged => 0x0020
  | .liftoffDetected => 0x0040
  | .parachuteOpenStarted => 0x0080
  | .deploymentPowerCutoff => 0x0100
  | .persistenceError => 0x0200
  | .missionSdError => 0x0400
  | .canRecovery => 0x0800
  | .liftoffEmergencyRollback => 0x1000
  | .actuatorEmergencyStop => 0x2000
  | .finControlDisabledByGround => 0x4000
  | .parachuteDeploymentFailure => 0x8000

/-! ### Enumerations in one byte

The bytes that a decoder accepts are those that name a member. -/

/-- `validMissionState` -/
def validMissionState (byte : UInt8) : Bool := byte ≤ 4 || byte = 0xFF

/-- `validFinMode` -/
def validFinMode (byte : UInt8) : Bool := byte ≤ 5 || byte = 15

/-- `validParaMode` -/
def validParaMode (byte : UInt8) : Bool := byte ≤ 5 || byte = 15

instance : ByteEnum MissionState where
  toByte := MissionState.toByte
  ofByte := MissionState.ofByte
  valid := validMissionState
  ofByte_toByte := MissionState.ofByte_toByte
  valid_toByte member := by cases member <;> rfl
  toByte_ofByte := ByteEnum.forall_byte (by decide +kernel)

instance : ByteEnum TimeSource where
  toByte
    | .invalid => 0
    | .gnss => 1
    | .ground => 2
  ofByte byte :=
    match byte.toNat with
    | 0 => .invalid
    | 1 => .gnss
    | _ => .ground
  valid byte := byte ≤ 2
  ofByte_toByte member := by cases member <;> rfl
  valid_toByte member := by cases member <;> rfl
  toByte_ofByte := ByteEnum.forall_byte (by decide +kernel)

instance : ByteEnum RecoveryOpcode where
  toByte
    | .wake => 1
    | .startLogDump => 2
    | .stopLogDump => 3
  ofByte byte :=
    match byte.toNat with
    | 1 => .wake
    | 2 => .startLogDump
    | _ => .stopLogDump
  valid byte := 1 ≤ byte ∧ byte ≤ 3
  ofByte_toByte member := by cases member <;> rfl
  valid_toByte member := by cases member <;> rfl
  toByte_ofByte := ByteEnum.forall_byte (by decide +kernel)

instance : ByteEnum RecoveryMode where
  toByte
    | .enterRecoveryBeacon => 1
  ofByte _ := .enterRecoveryBeacon
  valid byte := byte = 1
  ofByte_toByte member := by cases member; rfl
  valid_toByte member := by cases member; rfl
  toByte_ofByte := ByteEnum.forall_byte (by decide +kernel)

instance : ByteEnum RecoveryModeReason where
  toByte
    | .autoElapsed120 => 0
    | .groundRequested => 1
    | .recoveryWakeRetry => 2
    | .resetRecovery => 3
  ofByte byte :=
    match byte.toNat with
    | 0 => .autoElapsed120
    | 1 => .groundRequested
    | 2 => .recoveryWakeRetry
    | _ => .resetRecovery
  valid byte := byte ≤ 3
  ofByte_toByte member := by cases member <;> rfl
  valid_toByte member := by cases member <;> rfl
  toByte_ofByte := ByteEnum.forall_byte (by decide +kernel)

instance : ByteEnum RecoverySource where
  toByte
    | .internalFlash => 0
    | .missionSdLatestFlight => 1
  ofByte byte :=
    match byte.toNat with
    | 0 => .internalFlash
    | _ => .missionSdLatestFlight
  valid byte := byte ≤ 1
  ofByte_toByte member := by cases member <;> rfl
  valid_toByte member := by cases member <;> rfl
  toByte_ofByte := ByteEnum.forall_byte (by decide +kernel)

instance : ByteEnum RecoveryStatusCode where
  toByte
    | .ready => 0
    | .dumping => 1
    | .complete => 2
    | .busy => 3
    | .invalidState => 4
    | .invalidArgument => 5
    | .sourceUnavailable => 6
    | .ioError => 7
    | .aborted => 8
    | .internalError => 9
  ofByte byte :=
    match byte.toNat with
    | 0 => .ready
    | 1 => .dumping
    | 2 => .complete
    | 3 => .busy
    | 4 => .invalidState
    | 5 => .invalidArgument
    | 6 => .sourceUnavailable
    | 7 => .ioError
    | 8 => .aborted
    | _ => .internalError
  valid byte := byte ≤ 9
  ofByte_toByte member := by cases member <;> rfl
  valid_toByte member := by cases member <;> rfl
  toByte_ofByte := ByteEnum.forall_byte (by decide +kernel)

instance : ByteEnum FinMode where
  toByte
    | .free => 0
    | .brake => 1
    | .positionHold => 2
    | .zeroHold => 3
    | .relativeMove => 4
    | .rollControl => 5
    | .unknown => 15
  ofByte byte :=
    match byte.toNat with
    | 0 => .free
    | 1 => .brake
    | 2 => .positionHold
    | 3 => .zeroHold
    | 4 => .relativeMove
    | 5 => .rollControl
    | _ => .unknown
  valid := validFinMode
  ofByte_toByte member := by cases member <;> rfl
  valid_toByte member := by cases member <;> rfl
  toByte_ofByte := ByteEnum.forall_byte (by decide +kernel)

instance : ByteEnum ParaMode where
  toByte
    | .free => 0
    | .hold => 1
    | .relativeMove => 2
    | .openingOrRetrying => 3
    | .closing => 4
    | .poweredOff => 5
    | .unknown => 15
  ofByte byte :=
    match byte.toNat with
    | 0 => .free
    | 1 => .hold
    | 2 => .relativeMove
    | 3 => .openingOrRetrying
    | 4 => .closing
    | 5 => .poweredOff
    | _ => .unknown
  valid := validParaMode
  ofByte_toByte member := by cases member <;> rfl
  valid_toByte member := by cases member <;> rfl
  toByte_ofByte := ByteEnum.forall_byte (by decide +kernel)

instance : ByteEnum CommandPhase where
  toByte
    | .accepted => 0
    | .completed => 1
    | .rejected => 2
    | .failed => 3
  ofByte byte :=
    match byte.toNat with
    | 0 => .accepted
    | 1 => .completed
    | 2 => .rejected
    | _ => .failed
  valid byte := byte ≤ 3
  ofByte_toByte member := by cases member <;> rfl
  valid_toByte member := by cases member <;> rfl
  toByte_ofByte := ByteEnum.forall_byte (by decide +kernel)

instance : ByteEnum CommandReason where
  toByte
    | .none => 0
    | .busy => 1
    | .invalidState => 2
    | .invalidArgument => 3
    | .notConfigured => 4
    | .deviceUnavailable => 5
    | .timeout => 6
    | .stall => 7
    | .protocolError => 8
    | .interruptedByEmergency => 9
    | .persistenceError => 10
    | .internalError => 11
    | .notSupported => 12
    | .safetyInterlock => 13
    | .alreadySatisfied => 14
  ofByte byte :=
    match byte.toNat with
    | 0 => .none
    | 1 => .busy
    | 2 => .invalidState
    | 3 => .invalidArgument
    | 4 => .notConfigured
    | 5 => .deviceUnavailable
    | 6 => .timeout
    | 7 => .stall
    | 8 => .protocolError
    | 9 => .interruptedByEmergency
    | 10 => .persistenceError
    | 11 => .internalError
    | 12 => .notSupported
    | 13 => .safetyInterlock
    | _ => .alreadySatisfied
  valid byte := byte ≤ 14
  ofByte_toByte member := by cases member <;> rfl
  valid_toByte member := by cases member <;> rfl
  toByte_ofByte := ByteEnum.forall_byte (by decide +kernel)

/-! ### Messages -/

/-- `protocol::EmergencyStop` -/
structure EmergencyStop where
  transactionId : UInt8 := 0
deriving DecidableEq

/-- `protocol::RecoveryControl` -/
structure RecoveryControl where
  opcode : RecoveryOpcode
  source : RecoverySource
  transferId : UInt8
  offset : UInt32
  length : UInt32
deriving DecidableEq

/-- `protocol::RecoveryModeCommand` -/
structure RecoveryModeCommand where
  sequence : UInt8 := 0
  mode : RecoveryMode := .enterRecoveryBeacon
  reason : RecoveryModeReason := .autoElapsed120
deriving DecidableEq

/-- `protocol::TimeRequest` -/
structure TimeRequest where
  requestId : UInt8 := 0
deriving DecidableEq

/-- `protocol::TimeResponse` -/
structure TimeResponse where
  requestId : UInt8 := 0
  source : TimeSource := .invalid
  unixSeconds : UInt32 := 0
  milliseconds : UInt16 := 0
deriving DecidableEq

/-- `protocol::MissionEvent` -/
structure MissionEvent where
  sequence : UInt8 := 0
  flags : UInt16 := 0
  state : MissionState := .commandReceive
  elapsedRaw : UInt16 := 0
  detail : UInt16 := 0
deriving DecidableEq

/-- `protocol::KinematicsTelemetry` -/
structure KinematicsTelemetry where
  sequence : UInt8 := 0
  rollRaw : UInt16 := 0
  rollRateRaw : UInt16 := 0
  finAngleRaw : UInt8 := 0
  finRateRaw : UInt16 := 0
deriving DecidableEq

/-- `protocol::ControlTelemetry` -/
structure ControlTelemetry where
  sequence : UInt8 := 0
  requestedTorqueRaw : UInt16 := 0
  flightElapsedRaw : UInt8 := 0
deriving DecidableEq

/-- `protocol::MissionStatusTelemetry` -/
structure MissionStatusTelemetry where
  sequence : UInt8 := 0
  state : MissionState := .commandReceive
  flightStatus : UInt16 := 0
  configFlags : UInt8 := 0
  finMode : FinMode := .free
  paraMode : ParaMode := .free
  parachuteAngleRaw : UInt8 := 0
deriving DecidableEq

/-- `protocol::PowerTimeTelemetry` -/
structure PowerTimeTelemetry where
  sequence : UInt8 := 0
  logicVoltageRaw : UInt8 := 0
  motorVoltageRaw : UInt8 := 0
  descentElapsedRaw : UInt16 := 0
  recoveryElapsedRaw : UInt16 := 0
  persistenceFlags : UInt8 := 0
deriving DecidableEq

/-- `protocol::DescentCoreTelemetry` -/
structure DescentCoreTelemetry where
  sequence : UInt8 := 0
  descentStatus : UInt16 := 0
  parachuteAngleRaw : UInt8 := 0
deriving DecidableEq

/-- `protocol::RecoveryStatusMessage` -/
structure RecoveryStatusMessage where
  opcode : RecoveryOpcode
  transferId : UInt8
  status : RecoveryStatusCode
  source : RecoverySource
  totalSize : UInt32
deriving DecidableEq

/-- `protocol::RecoveryLogData` -/
structure RecoveryLogData where
  transferId : UInt8 := 0
  sequence : UInt8 := 0
  data : Vector UInt8 6 := Vector.replicate 6 0
deriving DecidableEq

/-- `protocol::AttitudeTiltTelemetry` -/
structure AttitudeTiltTelemetry where
  sequence : UInt8 := 0
  magnitudeRaw : UInt8 := 0
  directionRaw : UInt16 := 0
deriving DecidableEq

/-- `protocol::LpsTelemetry` -/
structure LpsTelemetry where
  sequence : UInt8 := 0
  pressureRaw : UInt16 := 0
  temperatureRaw : UInt8 := 0
deriving DecidableEq

/-- `protocol::AirspeedTelemetry` -/
structure AirspeedTelemetry where
  sequence : UInt8 := 0
  airspeedRaw : UInt8 := 0
deriving DecidableEq

/-- `protocol::ControlRollTelemetryV2` -/
structure ControlRollTelemetryV2 where
  sequence : UInt8 := 0
  controlRollReferenceUnwrappedRaw : UInt16 := 0
  rollDeviationUnwrappedRaw : UInt16 := 0
  flags : UInt8 := 0
  referenceCaptureEventSequence : UInt8 := 0
deriving DecidableEq

end MissionBoard.Protocol
