import MissionBoard.Protocol.CanMessages
import Mathlib.Tactic.FinCases
import Mathlib.Tactic.IntervalCases

/-!
Owns the codecs of `protocol/can_protocol.cpp`. An encoder lays the fields of a message
out in the eight bytes of a frame; a decoder checks the frame, then its bytes, and
writes the message last. Every codec is one layout of bytes, so that what is common to
all of them is proved once.
-/

namespace MissionBoard.Protocol

/-- `std::array<uint8_t, 8>` of a frame -/
abbrev FrameData := Vector UInt8 8

/-- `protocol::CanFrame` -/
structure CanFrame where
  identifier : UInt16 := 0
  dataLength : UInt8 := 0
  data : FrameData := Vector.replicate 8 0
  extended : Bool := false
  remote : Bool := false
deriving DecidableEq

/-- `data[index]` -/
def CanFrame.byte (frame : CanFrame) (index : Fin 8) : UInt8 := frame.data.get index

/-- `data[index] = value` -/
def CanFrame.setByte (frame : CanFrame) (index : Fin 8) (value : UInt8) : CanFrame :=
  { frame with data := frame.data.set index value }

/-- `protocol::CodecError` -/
inductive CodecError where
  | none
  | wrongIdentifier
  | wrongLength
  | unsupportedFrame
  | reservedBits
  | invalidEnum
deriving DecidableEq

/-- `frame` -/
def frame (id : CanId) (length : UInt8) : CanFrame :=
  { identifier := id.toWord, dataLength := length }

/-- `putU16` -/
@[simp] def putU16 (data : FrameData) (offset : ℕ) (value : UInt16)
    (within : offset + 1 < 8 := by decide) : FrameData :=
  (data.set offset value.toUInt8).set (offset + 1) (value >>> 8).toUInt8

/-- `putU24` -/
@[simp] def putU24 (data : FrameData) (offset : ℕ) (value : UInt32)
    (within : offset + 2 < 8 := by decide) : FrameData :=
  ((data.set offset value.toUInt8).set (offset + 1) (value >>> 8).toUInt8).set
    (offset + 2) (value >>> 16).toUInt8

/-- `putU32` -/
@[simp] def putU32 (data : FrameData) (offset : ℕ) (value : UInt32)
    (within : offset + 3 < 8 := by decide) : FrameData :=
  (((data.set offset value.toUInt8).set (offset + 1) (value >>> 8).toUInt8).set
    (offset + 2) (value >>> 16).toUInt8).set (offset + 3) (value >>> 24).toUInt8

/-- `getU16` -/
@[simp] def getU16 (data : FrameData) (offset : ℕ) (within : offset + 1 < 8 := by decide) : UInt16 :=
  LittleEndian.join16 data[offset] data[offset + 1]

/-- `getU24` -/
@[simp] def getU24 (data : FrameData) (offset : ℕ) (within : offset + 2 < 8 := by decide) : UInt32 :=
  LittleEndian.join24 data[offset] data[offset + 1] data[offset + 2]

/-- `getU32` -/
@[simp] def getU32 (data : FrameData) (offset : ℕ) (within : offset + 3 < 8 := by decide) : UInt32 :=
  LittleEndian.join32 data[offset] data[offset + 1] data[offset + 2] data[offset + 3]

/-- `std::copy(bytes.begin(), bytes.end(), data.begin() + 2)` -/
def copyTail (data : FrameData) (bytes : Vector UInt8 6) : FrameData :=
  #v[data[0], data[1], bytes[0], bytes[1], bytes[2], bytes[3], bytes[4], bytes[5]]

/-- `std::copy_n(data.begin() + 2, 6, …)` -/
def tail (data : FrameData) : Vector UInt8 6 :=
  #v[data[2], data[3], data[4], data[5], data[6], data[7]]

@[simp] theorem copyTail_first (data : FrameData) (bytes : Vector UInt8 6) :
    (copyTail data bytes)[0] = data[0] := rfl

@[simp] theorem copyTail_second (data : FrameData) (bytes : Vector UInt8 6) :
    (copyTail data bytes)[1] = data[1] := rfl

@[simp] theorem tail_copyTail (data : FrameData) (bytes : Vector UInt8 6) :
    tail (copyTail data bytes) = bytes := by
  apply Vector.ext
  intro index within
  interval_cases index <;> rfl

/-- `validate` -/
def validate (input : CanFrame) (id : CanId) (length : UInt8) : CodecError :=
  if input.extended || input.remote then .unsupportedFrame
  else if input.identifier ≠ id.toWord then .wrongIdentifier
  else if input.dataLength = length then .none else .wrongLength

/-- Two frames agree in identifier, length and the bytes below that length. -/
structure SameWire (frame input : CanFrame) : Prop where
  identifier : frame.identifier = input.identifier
  dataLength : frame.dataLength = input.dataLength
  data : ∀ index : Fin 8, index.val < input.dataLength.toNat → frame.data[index] = input.data[index]

/-- What distinguishes one message type: its identifier and length, how an encoder
fills the zeroed bytes, what a decoder refuses in them, and the message it then writes
over its output argument. -/
structure Layout (α : Type) where
  id : CanId
  length : UInt8
  put : α → FrameData → FrameData
  check : FrameData → CodecError := fun _ => .none
  read : FrameData → α → α

namespace Layout

variable {α : Type}

/-- `encode` of a layout -/
def encode (layout : Layout α) (message : α) : CanFrame :=
  let result := frame layout.id layout.length
  { result with data := layout.put message result.data }

/-- `decode` of a layout: the error and the output argument -/
def decode (layout : Layout α) (input : CanFrame) (message : α) : CodecError × α :=
  let error := validate input layout.id layout.length
  if error ≠ .none then (error, message)
  else
    let error := layout.check input.data
    if error ≠ .none then (error, message)
    else (.none, layout.read input.data message)

/-- The bytes of a frame before its fields are put in -/
def blank : FrameData := Vector.replicate 8 0

/-- A layout is exact when a message in range is accepted and read back, and when the
bytes of a frame that it accepts are put back as they were. -/
structure Exact (layout : Layout α) (inRange : α → Prop) : Prop where
  accepts : ∀ message, inRange message → layout.check (layout.put message blank) = .none
  returns : ∀ message old, inRange message → layout.read (layout.put message blank) old = message
  reproduces : ∀ data old, layout.check data = .none → ∀ index : Fin 8,
    index.val < layout.length.toNat →
      (layout.put (layout.read data old) blank)[index] = data[index]

theorem validate_encode (layout : Layout α) (message : α) :
    validate (layout.encode message) layout.id layout.length = .none := by
  simp [validate, encode, frame]

/-- An accepted frame is a plain data frame of the type's identifier and length. -/
theorem of_validate {input : CanFrame} {id : CanId} {length : UInt8}
    (valid : validate input id length = .none) :
    input.identifier = id.toWord ∧ input.dataLength = length := by
  unfold validate at valid
  split at valid
  · cases valid
  · split at valid
    · cases valid
    · rename_i identified
      split at valid
      · rename_i sized
        exact ⟨not_not.mp identified, sized⟩
      · cases valid

/-- What a decoder accepts has passed both checks and is read. -/
theorem of_decode {layout : Layout α} {input : CanFrame} {old : α}
    (accepted : (layout.decode input old).1 = .none) :
    validate input layout.id layout.length = .none ∧ layout.check input.data = .none ∧
      (layout.decode input old).2 = layout.read input.data old := by
  by_cases valid : validate input layout.id layout.length = .none
  · by_cases passes : layout.check input.data = .none
    · simp [decode, valid, passes]
    · simp [decode, valid, passes] at accepted
  · simp [decode, valid] at accepted

/-- A decoder that reports an error has left its output argument alone. -/
theorem decode_of_error {layout : Layout α} {input : CanFrame} {old : α}
    (refused : (layout.decode input old).1 ≠ .none) : (layout.decode input old).2 = old := by
  by_cases valid : validate input layout.id layout.length = .none
  · by_cases passes : layout.check input.data = .none
    · simp [decode, valid, passes] at refused
    · simp [decode, valid, passes]
  · simp [decode, valid]

theorem Exact.decode_encode {layout : Layout α} {inRange : α → Prop}
    (exact : layout.Exact inRange) {message : α} (within : inRange message) (old : α) :
    layout.decode (layout.encode message) old = (.none, message) := by
  have passes : layout.check (layout.encode message).data = .none := exact.accepts message within
  have reads : layout.read (layout.encode message).data old = message :=
    exact.returns message old within
  simp [decode, validate_encode, passes, reads]

theorem Exact.encode_decode {layout : Layout α} {inRange : α → Prop}
    (exact : layout.Exact inRange) {input : CanFrame} {old : α}
    (accepted : (layout.decode input old).1 = .none) :
    SameWire (layout.encode (layout.decode input old).2) input := by
  obtain ⟨valid, passes, reads⟩ := of_decode accepted
  obtain ⟨identified, sized⟩ := of_validate valid
  rw [reads]
  refine ⟨identified.symm, sized.symm, ?_⟩
  intro index within
  rw [sized] at within
  exact exact.reproduces input.data old passes index within

end Layout

/-! ### The message types -/

/-- `EmergencyStop`, under the identifier that the caller names -/
def emergencyStop (id : CanId) : Layout EmergencyStop where
  id
  length := 1
  put message data := data.set 0 message.transactionId
  read data message := { message with transactionId := data[0] }

/-- `RecoveryControl` -/
def recoveryControl : Layout RecoveryControl where
  id := .recoveryControl
  length := 8
  put message data :=
    let data := data.set 0 (ByteEnum.toByte message.opcode ||| ByteEnum.toByte message.source <<< 4)
    let data := data.set 1 message.transferId
    let data := putU24 data 2 message.offset
    putU24 data 5 message.length
  check data :=
    if data[0] &&& 0xE0 ≠ 0 then .reservedBits
    else if !ByteEnum.valid RecoveryOpcode (data[0] &&& 0x0F) then .invalidEnum
    else .none
  read data _ :=
    { opcode := ByteEnum.ofByte (data[0] &&& 0x0F)
      source := ByteEnum.ofByte (data[0] >>> 4 &&& 0x01)
      transferId := data[1]
      offset := getU24 data 2
      length := getU24 data 5 }

/-- `RecoveryModeCommand` -/
def recoveryModeCommand : Layout RecoveryModeCommand where
  id := .recoveryModeCommand
  length := 3
  put message data :=
    let data := data.set 0 message.sequence
    let data := data.set 1 (ByteEnum.toByte message.mode)
    data.set 2 (ByteEnum.toByte message.reason)
  check data :=
    if !ByteEnum.valid RecoveryMode data[1] || !ByteEnum.valid RecoveryModeReason data[2] then
      .invalidEnum
    else .none
  read data _ :=
    { sequence := data[0]
      mode := ByteEnum.ofByte data[1]
      reason := ByteEnum.ofByte data[2] }

/-- `GenericCommandRequest` -/
def genericCommandRequest : Layout GenericCommandRequest where
  id := .genericCommandRequest
  length := 8
  put message data :=
    let data := data.set 0 message.transactionId
    let data := data.set 1 message.command
    copyTail data message.arguments
  read data message :=
    { message with transactionId := data[0], command := data[1], arguments := tail data }

/-- `CommandResult` -/
def commandResult : Layout CommandResult where
  id := .commandResult
  length := 8
  put message data :=
    let data := data.set 0 message.transactionId
    let data := data.set 1 message.command
    let data := data.set 2 (ByteEnum.toByte message.phase)
    let data := data.set 3 (ByteEnum.toByte message.reason)
    putU32 data 4 message.detail
  check data :=
    if !ByteEnum.valid CommandPhase data[2] || !ByteEnum.valid CommandReason data[3] then
      .invalidEnum
    else .none
  read data _ :=
    { transactionId := data[0]
      command := data[1]
      phase := ByteEnum.ofByte data[2]
      reason := ByteEnum.ofByte data[3]
      detail := getU32 data 4 }

/-- `TimeRequest` -/
def timeRequest : Layout TimeRequest where
  id := .timeRequest
  length := 1
  put message data := data.set 0 message.requestId
  read data message := { message with requestId := data[0] }

/-- `TimeResponse` -/
def timeResponse : Layout TimeResponse where
  id := .timeResponse
  length := 8
  put message data :=
    let data := data.set 0 message.requestId
    let data := data.set 1 (ByteEnum.toByte message.source)
    let data := putU32 data 2 message.unixSeconds
    putU16 data 6 message.milliseconds
  check data :=
    if !ByteEnum.valid TimeSource data[1] || getU16 data 6 > 999 then .invalidEnum else .none
  read data _ :=
    { requestId := data[0]
      source := ByteEnum.ofByte data[1]
      unixSeconds := getU32 data 2
      milliseconds := getU16 data 6 }

/-- `MissionEvent` -/
def missionEvent : Layout MissionEvent where
  id := .missionEvent
  length := 8
  put message data :=
    let data := data.set 0 message.sequence
    let data := putU16 data 1 message.flags
    let data := data.set 3 (ByteEnum.toByte message.state)
    let data := putU16 data 4 message.elapsedRaw
    putU16 data 6 message.detail
  check data := if !ByteEnum.valid MissionState data[3] then .invalidEnum else .none
  read data _ :=
    { sequence := data[0]
      flags := getU16 data 1
      state := ByteEnum.ofByte data[3]
      elapsedRaw := getU16 data 4
      detail := getU16 data 6 }

/-- `KinematicsTelemetry` -/
def kinematicsTelemetry : Layout KinematicsTelemetry where
  id := .kinematicsTelemetry
  length := 8
  put message data :=
    let data := data.set 0 message.sequence
    let data := putU16 data 1 message.rollRaw
    let data := putU16 data 3 message.rollRateRaw
    let data := data.set 5 message.finAngleRaw
    putU16 data 6 message.finRateRaw
  read data _ :=
    { sequence := data[0]
      rollRaw := getU16 data 1
      rollRateRaw := getU16 data 3
      finAngleRaw := data[5]
      finRateRaw := getU16 data 6 }

/-- `ControlTelemetry` -/
def controlTelemetry : Layout ControlTelemetry where
  id := .controlTelemetry
  length := 4
  put message data :=
    let data := data.set 0 message.sequence
    let data := putU16 data 1 (message.requestedTorqueRaw &&& 0x0FFF)
    data.set 3 message.flightElapsedRaw
  check data := if getU16 data 1 &&& 0xF000 ≠ 0 then .reservedBits else .none
  read data _ :=
    { sequence := data[0]
      requestedTorqueRaw := getU16 data 1
      flightElapsedRaw := data[3] }

/-- `MissionStatusTelemetry` -/
def missionStatusTelemetry : Layout MissionStatusTelemetry where
  id := .missionStatusTelemetry
  length := 8
  put message data :=
    let data := data.set 0 message.sequence
    let data := data.set 1 (ByteEnum.toByte message.state)
    let data := putU16 data 2 message.flightStatus
    let data := data.set 4 message.configFlags
    let data := data.set 5 (ByteEnum.toByte message.finMode)
    let data := data.set 6 (ByteEnum.toByte message.paraMode)
    data.set 7 message.parachuteAngleRaw
  check data :=
    if !ByteEnum.valid MissionState data[1] || !ByteEnum.valid FinMode data[5] ||
        !ByteEnum.valid ParaMode data[6] then
      .invalidEnum
    else .none
  read data _ :=
    { sequence := data[0]
      state := ByteEnum.ofByte data[1]
      flightStatus := getU16 data 2
      configFlags := data[4]
      finMode := ByteEnum.ofByte data[5]
      paraMode := ByteEnum.ofByte data[6]
      parachuteAngleRaw := data[7] }

/-- `PowerTimeTelemetry` -/
def powerTimeTelemetry : Layout PowerTimeTelemetry where
  id := .powerTimeTelemetry
  length := 8
  put message data :=
    let data := data.set 0 message.sequence
    let data := data.set 1 message.logicVoltageRaw
    let data := data.set 2 message.motorVoltageRaw
    let data := putU16 data 3 message.descentElapsedRaw
    let data := putU16 data 5 message.recoveryElapsedRaw
    data.set 7 (message.persistenceFlags &&& 0x8F)
  check data := if data[7] &&& 0x70 ≠ 0 then .reservedBits else .none
  read data _ :=
    { sequence := data[0]
      logicVoltageRaw := data[1]
      motorVoltageRaw := data[2]
      descentElapsedRaw := getU16 data 3
      recoveryElapsedRaw := getU16 data 5
      persistenceFlags := data[7] }

/-- `DescentCoreTelemetry` -/
def descentCoreTelemetry : Layout DescentCoreTelemetry where
  id := .descentCoreTelemetry
  length := 4
  put message data :=
    let data := data.set 0 message.sequence
    let data := putU16 data 1 (message.descentStatus &&& 0x001F)
    data.set 3 message.parachuteAngleRaw
  check data := if getU16 data 1 &&& 0xFFE0 ≠ 0 then .reservedBits else .none
  read data _ :=
    { sequence := data[0]
      descentStatus := getU16 data 1
      parachuteAngleRaw := data[3] }

/-- `RecoveryStatusMessage` -/
def recoveryStatusMessage : Layout RecoveryStatusMessage where
  id := .recoveryStatus
  length := 8
  put message data :=
    let data := data.set 0 (ByteEnum.toByte message.opcode)
    let data := data.set 1 message.transferId
    let data := data.set 2 (ByteEnum.toByte message.status)
    let data := data.set 3 (ByteEnum.toByte message.source)
    putU32 data 4 message.totalSize
  check data :=
    if !ByteEnum.valid RecoveryOpcode data[0] || !ByteEnum.valid RecoveryStatusCode data[2] ||
        !ByteEnum.valid RecoverySource data[3] then
      .invalidEnum
    else .none
  read data _ :=
    { opcode := ByteEnum.ofByte data[0]
      transferId := data[1]
      status := ByteEnum.ofByte data[2]
      source := ByteEnum.ofByte data[3]
      totalSize := getU32 data 4 }

/-- `RecoveryLogData` -/
def recoveryLogData : Layout RecoveryLogData where
  id := .recoveryLogData
  length := 8
  put message data :=
    let data := data.set 0 message.transferId
    let data := data.set 1 message.sequence
    copyTail data message.data
  read data message :=
    { message with transferId := data[0], sequence := data[1], data := tail data }

/-- `AttitudeTiltTelemetry` -/
def attitudeTiltTelemetry : Layout AttitudeTiltTelemetry where
  id := .attitudeTiltTelemetry
  length := 3
  put message data :=
    let data := data.set 0 message.sequence
    let packed := (message.magnitudeRaw &&& 0x7F).toUInt16 |||
      (message.directionRaw &&& 0x01FF) <<< 7
    putU16 data 1 packed
  read data _ :=
    { sequence := data[0]
      magnitudeRaw := (getU16 data 1 &&& 0x7F).toUInt8
      directionRaw := getU16 data 1 >>> 7 }

/-- `LpsTelemetry` -/
def lpsTelemetry : Layout LpsTelemetry where
  id := .lpsTelemetry
  length := 4
  put message data :=
    let data := data.set 0 message.sequence
    let data := putU16 data 1 (message.pressureRaw &&& 0x07FF)
    data.set 3 message.temperatureRaw
  check data := if getU16 data 1 &&& 0xF800 ≠ 0 then .reservedBits else .none
  read data _ :=
    { sequence := data[0]
      pressureRaw := getU16 data 1
      temperatureRaw := data[3] }

/-- `AirspeedTelemetry` -/
def airspeedTelemetry : Layout AirspeedTelemetry where
  id := .airspeedTelemetry
  length := 2
  put message data :=
    let data := data.set 0 message.sequence
    data.set 1 message.airspeedRaw
  read data _ := { sequence := data[0], airspeedRaw := data[1] }

/-- `ControlRollTelemetryV2::schema_version` -/
def schemaVersion : UInt8 := 2

/-- `ControlRollTelemetryV2::reference_out_of_range` -/
def referenceOutOfRange : UInt8 := (1 : UInt8) <<< 3

/-- `ControlRollTelemetryV2::deviation_out_of_range` -/
def deviationOutOfRange : UInt8 := (1 : UInt8) <<< 4

/-- `quantization::RollError::out_of_range` -/
def rollOutOfRange : UInt16 := 0x800A

/-- `ControlRollTelemetryV2` -/
def controlRollTelemetryV2 : Layout ControlRollTelemetryV2 where
  id := .controlRollTelemetryV2
  length := 8
  put message data :=
    let data := data.set 0 message.sequence
    let data := data.set 1 schemaVersion
    let data := putU16 data 2 message.controlRollReferenceUnwrappedRaw
    let data := putU16 data 4 message.rollDeviationUnwrappedRaw
    let data := data.set 6 (message.flags &&& 0x1F)
    data.set 7 message.referenceCaptureEventSequence
  check data :=
    if data[1] ≠ schemaVersion then .invalidEnum
    else if data[6] &&& 0xE0 ≠ 0 then .reservedBits
    else if decide (getU16 data 2 = rollOutOfRange) ≠
          decide (data[6] &&& referenceOutOfRange ≠ 0) ∨
        decide (getU16 data 4 = rollOutOfRange) ≠
          decide (data[6] &&& deviationOutOfRange ≠ 0) then
      .invalidEnum
    else .none
  read data _ :=
    { sequence := data[0]
      controlRollReferenceUnwrappedRaw := getU16 data 2
      rollDeviationUnwrappedRaw := getU16 data 4
      flags := data[6]
      referenceCaptureEventSequence := data[7] }

end MissionBoard.Protocol
