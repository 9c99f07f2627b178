import MissionBoard.Protocol.CanCodec

/-!
Owns the exactness of the CAN codecs: each layout is exact on the wire ranges of its
fields, and with it every encoder and decoder pair round-trips in both directions.
-/

namespace MissionBoard.Protocol

open LittleEndian

section Layouts

theorem emergencyStop_exact (id : CanId) : (emergencyStop id).Exact fun _ => True where
  accepts message _ := rfl
  returns message old _ := by simp [emergencyStop]
  reproduces data old _ index := by
    fin_cases index <;> simp [emergencyStop]

theorem genericCommandRequest_exact : genericCommandRequest.Exact fun _ => True where
  accepts message _ := rfl
  returns message old _ := by simp [genericCommandRequest]
  reproduces data old _ index := by
    fin_cases index <;> simp [genericCommandRequest, copyTail, tail]

theorem timeRequest_exact : timeRequest.Exact fun _ => True where
  accepts message _ := rfl
  returns message old _ := by simp [timeRequest]
  reproduces data old _ index := by
    fin_cases index <;> simp [timeRequest]

theorem kinematicsTelemetry_exact : kinematicsTelemetry.Exact fun _ => True where
  accepts message _ := rfl
  returns message old _ := by simp [kinematicsTelemetry]
  reproduces data old _ index := by
    fin_cases index <;> simp [kinematicsTelemetry]

theorem recoveryLogData_exact : recoveryLogData.Exact fun _ => True where
  accepts message _ := rfl
  returns message old _ := by simp [recoveryLogData]
  reproduces data old _ index := by
    fin_cases index <;> simp [recoveryLogData, copyTail, tail]

theorem airspeedTelemetry_exact : airspeedTelemetry.Exact fun _ => True where
  accepts message _ := rfl
  returns message old _ := by simp [airspeedTelemetry]
  reproduces data old _ index := by
    fin_cases index <;> simp [airspeedTelemetry]

/-! ### Enumerations -/

theorem recoveryModeCommand_exact : recoveryModeCommand.Exact fun _ => True where
  accepts message _ := by simp [recoveryModeCommand]
  returns message old _ := by simp [recoveryModeCommand]
  reproduces data old accepted index := by
    simp [recoveryModeCommand] at accepted
    fin_cases index <;> simp [recoveryModeCommand, ByteEnum.toByte_ofByte, accepted]

theorem commandResult_exact : commandResult.Exact fun _ => True where
  accepts message _ := by simp [commandResult]
  returns message old _ := by simp [commandResult]
  reproduces data old accepted index := by
    simp [commandResult] at accepted
    fin_cases index <;> simp [commandResult, ByteEnum.toByte_ofByte, accepted]

theorem missionEvent_exact : missionEvent.Exact fun _ => True where
  accepts message _ := by simp [missionEvent]
  returns message old _ := by simp [missionEvent]
  reproduces data old accepted index := by
    simp [missionEvent] at accepted
    fin_cases index <;> simp [missionEvent, ByteEnum.toByte_ofByte, accepted]

theorem missionStatusTelemetry_exact : missionStatusTelemetry.Exact fun _ => True where
  accepts message _ := by simp [missionStatusTelemetry]
  returns message old _ := by simp [missionStatusTelemetry]
  reproduces data old accepted index := by
    simp [missionStatusTelemetry] at accepted
    fin_cases index <;> simp [missionStatusTelemetry, ByteEnum.toByte_ofByte, accepted]

theorem recoveryStatusMessage_exact : recoveryStatusMessage.Exact fun _ => True where
  accepts message _ := by simp [recoveryStatusMessage]
  returns message old _ := by simp [recoveryStatusMessage]
  reproduces data old accepted index := by
    simp [recoveryStatusMessage] at accepted
    fin_cases index <;> simp [recoveryStatusMessage, ByteEnum.toByte_ofByte, accepted]

theorem timeResponse_exact :
    timeResponse.Exact fun message => message.milliseconds ≤ 999 where
  accepts message within := by simp [timeResponse, within]
  returns message old _ := by simp [timeResponse]
  reproduces data old accepted index := by
    simp [timeResponse] at accepted
    fin_cases index <;> simp [timeResponse, ByteEnum.toByte_ofByte, accepted]

/-! ### Packed fields -/

private theorem requestedTorqueRaw_packed : PackedField 0x0FFF 0xF000 12 where
  low := rfl
  apart := by decide
  cover := by decide

theorem controlTelemetry_exact :
    controlTelemetry.Exact fun message => message.requestedTorqueRaw.toNat < 2 ^ 12 where
  accepts message within := by
    have masked := requestedTorqueRaw_packed.masked within
    have clear := requestedTorqueRaw_packed.clear within
    simp [-UInt16.toUInt8_and, controlTelemetry, masked, clear]
  returns message old within := by
    have masked := requestedTorqueRaw_packed.masked within
    simp [-UInt16.toUInt8_and, controlTelemetry, masked]
  reproduces data old accepted index := by
    have unreserved : join16 data[1] data[2] &&& 0xF000 = 0 := by
      by_contra reserved
      simp [controlTelemetry, reserved] at accepted
    have masked := requestedTorqueRaw_packed.masked_of_clear unreserved
    fin_cases index <;> simp [-UInt16.toUInt8_and, controlTelemetry, masked]

private theorem descentStatus_packed : PackedField 0x001F 0xFFE0 5 where
  low := rfl
  apart := by decide
  cover := by decide

theorem descentCoreTelemetry_exact :
    descentCoreTelemetry.Exact fun message => message.descentStatus.toNat < 2 ^ 5 where
  accepts message within := by
    have masked := descentStatus_packed.masked within
    have clear := descentStatus_packed.clear within
    simp [-UInt16.toUInt8_and, descentCoreTelemetry, masked, clear]
  returns message old within := by
    have masked := descentStatus_packed.masked within
    simp [-UInt16.toUInt8_and, descentCoreTelemetry, masked]
  reproduces data old accepted index := by
    have unreserved : join16 data[1] data[2] &&& 0xFFE0 = 0 := by
      by_contra reserved
      simp [descentCoreTelemetry, reserved] at accepted
    have masked := descentStatus_packed.masked_of_clear unreserved
    fin_cases index <;> simp [-UInt16.toUInt8_and, descentCoreTelemetry, masked]

private theorem pressureRaw_packed : PackedField 0x07FF 0xF800 11 where
  low := rfl
  apart := by decide
  cover := by decide

theorem lpsTelemetry_exact :
    lpsTelemetry.Exact fun message => message.pressureRaw.toNat < 2 ^ 11 where
  accepts message within := by
    have masked := pressureRaw_packed.masked within
    have clear := pressureRaw_packed.clear within
    simp [-UInt16.toUInt8_and, lpsTelemetry, masked, clear]
  returns message old within := by
    have masked := pressureRaw_packed.masked within
    simp [-UInt16.toUInt8_and, lpsTelemetry, masked]
  reproduces data old accepted index := by
    have unreserved : join16 data[1] data[2] &&& 0xF800 = 0 := by
      by_contra reserved
      simp [lpsTelemetry, reserved] at accepted
    have masked := pressureRaw_packed.masked_of_clear unreserved
    fin_cases index <;> simp [-UInt16.toUInt8_and, lpsTelemetry, masked]

/-- The persistence bits in use -/
private theorem persistence_masked :
    ∀ byte : UInt8, byte &&& 0x70 = 0 → byte &&& 0x8F = byte :=
  ByteEnum.forall_byte (by decide +kernel)

private theorem persistence_clear :
    ∀ byte : UInt8, byte &&& 0x8F &&& 0x70 = 0 :=
  ByteEnum.forall_byte (by decide +kernel)

theorem powerTimeTelemetry_exact :
    powerTimeTelemetry.Exact fun message =>
      message.persistenceFlags &&& 0x8F = message.persistenceFlags where
  accepts message within := by
    have clear := persistence_clear message.persistenceFlags
    simp [powerTimeTelemetry, clear]
  returns message old within := by simp [powerTimeTelemetry, within]
  reproduces data old accepted index := by
    have unreserved : data[7] &&& 0x70 = 0 := by
      by_contra reserved
      simp [powerTimeTelemetry, reserved] at accepted
    have masked := persistence_masked data[7] unreserved
    fin_cases index <;> simp [powerTimeTelemetry, masked]

/-! ### Two fields in one byte or word -/

private theorem controlByte_clear (opcode : RecoveryOpcode) (source : RecoverySource) :
    (ByteEnum.toByte opcode ||| ByteEnum.toByte source <<< 4) &&& 0xE0 = 0 := by
  cases opcode <;> cases source <;> decide

private theorem controlByte_opcode (opcode : RecoveryOpcode) (source : RecoverySource) :
    (ByteEnum.toByte opcode ||| ByteEnum.toByte source <<< 4) &&& 0x0F =
      ByteEnum.toByte opcode := by
  cases opcode <;> cases source <;> decide

private theorem controlByte_source (opcode : RecoveryOpcode) (source : RecoverySource) :
    (ByteEnum.toByte opcode ||| ByteEnum.toByte source <<< 4) >>> 4 &&& 0x01 =
      ByteEnum.toByte source := by
  cases opcode <;> cases source <;> decide

private theorem controlByte_split :
    ∀ byte : UInt8, byte &&& 0xE0 = 0 → ByteEnum.valid RecoveryOpcode (byte &&& 0x0F) = true →
      ByteEnum.toByte (ByteEnum.ofByte (byte &&& 0x0F) : RecoveryOpcode) |||
        ByteEnum.toByte (ByteEnum.ofByte (byte >>> 4 &&& 0x01) : RecoverySource) <<< 4 = byte :=
  ByteEnum.forall_byte (by decide +kernel)

theorem recoveryControl_exact :
    recoveryControl.Exact fun message =>
      message.offset.toNat < 2 ^ 24 ∧ message.length.toNat < 2 ^ 24 where
  accepts message _ := by
    simp [recoveryControl, controlByte_clear, controlByte_opcode]
  returns message old within := by
    simp [recoveryControl, controlByte_opcode, controlByte_source, join24_split within.1,
      join24_split within.2]
  reproduces data old accepted index := by
    have unreserved : data[0] &&& 0xE0 = 0 := by
      by_contra reserved
      simp [recoveryControl, reserved] at accepted
    have member : ByteEnum.valid RecoveryOpcode (data[0] &&& 0x0F) = true := by
      by_contra foreign
      simp [recoveryControl, unreserved, foreign] at accepted
    have split := controlByte_split data[0] unreserved member
    fin_cases index <;> simp [recoveryControl, split]

/-- The packed tilt word as a number -/
private theorem tilt_toNat (magnitude : UInt8) (direction : UInt16) :
    ((magnitude &&& 0x7F).toUInt16 ||| (direction &&& 0x01FF) <<< 7).toNat =
      magnitude.toNat % 128 + 128 * (direction.toNat % 512) := by
  have low : magnitude.toNat &&& 127 = magnitude.toNat % 128 :=
    Nat.and_two_pow_sub_one_eq_mod _ 7
  have high : direction.toNat &&& 511 = direction.toNat % 512 :=
    Nat.and_two_pow_sub_one_eq_mod _ 9
  have small : magnitude.toNat % 128 < 2 ^ 7 := Nat.mod_lt _ (by decide)
  have shifted : (direction.toNat % 512) <<< 7 % 2 ^ 16 = (direction.toNat % 512) <<< 7 := by
    rw [Nat.shiftLeft_eq]
    omega
  simp only [UInt16.toNat_or, UInt16.toNat_shiftLeft, UInt8.toNat_toUInt16, UInt8.toNat_and,
    UInt16.toNat_and, UInt8.reduceToNat, UInt16.reduceToNat, Nat.reduceMod, low, high, shifted]
  rw [lor_shiftLeft small]
  omega

private theorem tiltMagnitude_toNat (word : UInt16) :
    (word &&& 0x7F).toUInt8.toNat = word.toNat % 128 := by
  have low : word.toNat &&& 127 = word.toNat % 128 := Nat.and_two_pow_sub_one_eq_mod _ 7
  simp only [UInt16.toNat_toUInt8, UInt16.toNat_and, UInt16.reduceToNat, low]
  omega

private theorem tiltDirection_toNat (word : UInt16) : (word >>> 7).toNat = word.toNat / 128 := by
  simp only [UInt16.toNat_shiftRight, UInt16.reduceToNat, Nat.reduceMod,
    Nat.shiftRight_eq_div_pow]

private theorem tilt_magnitude {magnitude : UInt8} {direction : UInt16}
    (small : magnitude.toNat < 2 ^ 7) :
    (((magnitude &&& 0x7F).toUInt16 ||| (direction &&& 0x01FF) <<< 7) &&& 0x7F).toUInt8 =
      magnitude := by
  rw [← UInt8.toNat_inj, tiltMagnitude_toNat, tilt_toNat]
  omega

private theorem tilt_direction {magnitude : UInt8} {direction : UInt16}
    (narrow : direction.toNat < 2 ^ 9) :
    ((magnitude &&& 0x7F).toUInt16 ||| (direction &&& 0x01FF) <<< 7) >>> 7 = direction := by
  rw [← UInt16.toNat_inj, tiltDirection_toNat, tilt_toNat]
  omega

/-- The tilt word is packed again from its two fields. -/
private theorem tilt_split (word : UInt16) :
    ((word &&& 0x7F).toUInt8 &&& 0x7F).toUInt16 ||| (word >>> 7 &&& 0x01FF) <<< 7 = word := by
  have bound := word.toNat_lt
  rw [← UInt16.toNat_inj, tilt_toNat, tiltMagnitude_toNat, tiltDirection_toNat]
  omega

theorem attitudeTiltTelemetry_exact :
    attitudeTiltTelemetry.Exact fun message =>
      message.magnitudeRaw.toNat < 2 ^ 7 ∧ message.directionRaw.toNat < 2 ^ 9 where
  accepts message _ := rfl
  returns message old within := by
    have packed (data : FrameData) (word : UInt16) : getU16 (putU16 data 1 word) 1 = word := by
      simp
    unfold attitudeTiltTelemetry
    simp only [packed, tilt_magnitude within.1, tilt_direction within.2]
    simp
  reproduces data old accepted index := by
    have packed := tilt_split (getU16 data 1)
    unfold attitudeTiltTelemetry
    simp only [packed]
    fin_cases index <;> simp

/-- The flags say of both angles whether they are out of range. -/
def ControlRollTelemetryV2.Consistent (message : ControlRollTelemetryV2) : Prop :=
  (message.controlRollReferenceUnwrappedRaw = rollOutOfRange ↔
      message.flags &&& referenceOutOfRange ≠ 0) ∧
    (message.rollDeviationUnwrappedRaw = rollOutOfRange ↔
      message.flags &&& deviationOutOfRange ≠ 0)

private theorem rollFlags_masked :
    ∀ byte : UInt8, byte &&& 0xE0 = 0 → byte &&& 0x1F = byte :=
  ByteEnum.forall_byte (by decide +kernel)

private theorem rollFlags_narrow :
    ∀ byte : UInt8, byte.toNat < 2 ^ 5 → byte &&& 0x1F = byte ∧ byte &&& 0xE0 = 0 :=
  ByteEnum.forall_byte (by decide +kernel)

theorem controlRollTelemetryV2_exact :
    controlRollTelemetryV2.Exact fun message =>
      message.flags.toNat < 2 ^ 5 ∧ message.Consistent where
  accepts message within := by
    obtain ⟨masked, clear⟩ := rollFlags_narrow message.flags within.1
    obtain ⟨reference, deviation⟩ := within.2
    simp [controlRollTelemetryV2, masked, clear, reference, deviation]
  returns message old within := by
    obtain ⟨masked, -⟩ := rollFlags_narrow message.flags within.1
    simp [controlRollTelemetryV2, masked]
  reproduces data old accepted index := by
    have schema : data[1] = schemaVersion := by
      by_contra other
      simp [controlRollTelemetryV2, other] at accepted
    have unreserved : data[6] &&& 0xE0 = 0 := by
      by_contra reserved
      simp [controlRollTelemetryV2, schema, reserved] at accepted
    have masked := rollFlags_masked data[6] unreserved
    fin_cases index <;> simp [controlRollTelemetryV2, schema, masked]

end Layouts

/-! ### Every message type -/

/-- The message types of `can_protocol`. An emergency stop is encoded and decoded under
the identifier that the caller names. -/
inductive CanMessageType where
  | emergencyStop (id : CanId)
  | recoveryControl
  | genericCommandRequest
  | commandResult
  | timeRequest
  | timeResponse
  | recoveryModeCommand
  | missionEvent
  | kinematicsTelemetry
  | controlTelemetry
  | missionStatusTelemetry
  | powerTimeTelemetry
  | descentCoreTelemetry
  | recoveryStatus
  | recoveryLogData
  | attitudeTiltTelemetry
  | lpsTelemetry
  | airspeedTelemetry
  | controlRollTelemetryV2

namespace CanMessageType

/-- The message structure of a type -/
def Payload : CanMessageType → Type
  | .emergencyStop _ => EmergencyStop
  | .recoveryControl => RecoveryControl
  | .genericCommandRequest => GenericCommandRequest
  | .commandResult => CommandResult
  | .timeRequest => TimeRequest
  | .timeResponse => TimeResponse
  | .recoveryModeCommand => RecoveryModeCommand
  | .missionEvent => MissionEvent
  | .kinematicsTelemetry => KinematicsTelemetry
  | .controlTelemetry => ControlTelemetry
  | .missionStatusTelemetry => MissionStatusTelemetry
  | .powerTimeTelemetry => PowerTimeTelemetry
  | .descentCoreTelemetry => DescentCoreTelemetry
  | .recoveryStatus => RecoveryStatusMessage
  | .recoveryLogData => RecoveryLogData
  | .attitudeTiltTelemetry => AttitudeTiltTelemetry
  | .lpsTelemetry => LpsTelemetry
  | .airspeedTelemetry => AirspeedTelemetry
  | .controlRollTelemetryV2 => ControlRollTelemetryV2

/-- The layout of a type -/
def layout : (type : CanMessageType) → Layout type.Payload
  | .emergencyStop id => Protocol.emergencyStop id
  | .recoveryControl => Protocol.recoveryControl
  | .genericCommandRequest => Protocol.genericCommandRequest
  | .commandResult => Protocol.commandResult
  | .timeRequest => Protocol.timeRequest
  | .timeResponse => Protocol.timeResponse
  | .recoveryModeCommand => Protocol.recoveryModeCommand
  | .missionEvent => Protocol.missionEvent
  | .kinematicsTelemetry => Protocol.kinematicsTelemetry
  | .controlTelemetry => Protocol.controlTelemetry
  | .missionStatusTelemetry => Protocol.missionStatusTelemetry
  | .powerTimeTelemetry => Protocol.powerTimeTelemetry
  | .descentCoreTelemetry => Protocol.descentCoreTelemetry
  | .recoveryStatus => Protocol.recoveryStatusMessage
  | .recoveryLogData => Protocol.recoveryLogData
  | .attitudeTiltTelemetry => Protocol.attitudeTiltTelemetry
  | .lpsTelemetry => Protocol.lpsTelemetry
  | .airspeedTelemetry => Protocol.airspeedTelemetry
  | .controlRollTelemetryV2 => Protocol.controlRollTelemetryV2

/-- The `encode` overload of a type -/
def encode (type : CanMessageType) (message : type.Payload) : CanFrame :=
  type.layout.encode message

/-- The `decode` overload of a type. The one for emergency stops refuses first every
identifier but the two of an emergency stop. -/
def decode (type : CanMessageType) (input : CanFrame) (message : type.Payload) :
    CodecError × type.Payload :=
  match type with
  | .emergencyStop id =>
      if id ≠ .actuatorEmergencyStop ∧ id ≠ .liftoffDetectionEmergencyStop then
        (.wrongIdentifier, message)
      else (Protocol.emergencyStop id).decode input message
  | other => other.layout.decode input message

/-- The fields of a message are in their wire ranges. Fields not named fill their bytes
or are enumerations. -/
def InRange : (type : CanMessageType) → type.Payload → Prop
  | .emergencyStop id => fun _ => id = .actuatorEmergencyStop ∨ id = .liftoffDetectionEmergencyStop
  | .recoveryControl => fun (message : RecoveryControl) =>
      message.offset.toNat < 2 ^ 24 ∧ message.length.toNat < 2 ^ 24
  | .genericCommandRequest => fun _ => True
  | .commandResult => fun _ => True
  | .timeRequest => fun _ => True
  | .timeResponse => fun (message : TimeResponse) =>
      message.milliseconds ≤ 999
  | .recoveryModeCommand => fun _ => True
  | .missionEvent => fun _ => True
  | .kinematicsTelemetry => fun _ => True
  | .controlTelemetry => fun (message : ControlTelemetry) =>
      message.requestedTorqueRaw.toNat < 2 ^ 12
  | .missionStatusTelemetry => fun _ => True
  | .powerTimeTelemetry => fun (message : PowerTimeTelemetry) =>
      message.persistenceFlags &&& 0x8F = message.persistenceFlags
  | .descentCoreTelemetry => fun (message : DescentCoreTelemetry) =>
      message.descentStatus.toNat < 2 ^ 5
  | .recoveryStatus => fun _ => True
  | .recoveryLogData => fun _ => True
  | .attitudeTiltTelemetry => fun (message : AttitudeTiltTelemetry) =>
      message.magnitudeRaw.toNat < 2 ^ 7 ∧ message.directionRaw.toNat < 2 ^ 9
  | .lpsTelemetry => fun (message : LpsTelemetry) =>
      message.pressureRaw.toNat < 2 ^ 11
  | .airspeedTelemetry => fun _ => True
  | .controlRollTelemetryV2 => fun (message : ControlRollTelemetryV2) =>
      message.flags.toNat < 2 ^ 5 ∧ message.Consistent

/-- Every layout is exact on the wire ranges of its type. -/
theorem layout_exact (type : CanMessageType) : type.layout.Exact type.InRange := by
  cases type with
  | emergencyStop id =>
      have exact := emergencyStop_exact id
      exact ⟨fun message _ => exact.accepts message trivial,
        fun message old _ => exact.returns message old trivial, exact.reproduces⟩
  | recoveryControl => exact recoveryControl_exact
  | genericCommandRequest => exact genericCommandRequest_exact
  | commandResult => exact commandResult_exact
  | timeRequest => exact timeRequest_exact
  | timeResponse => exact timeResponse_exact
  | recoveryModeCommand => exact recoveryModeCommand_exact
  | missionEvent => exact missionEvent_exact
  | kinematicsTelemetry => exact kinematicsTelemetry_exact
  | controlTelemetry => exact controlTelemetry_exact
  | missionStatusTelemetry => exact missionStatusTelemetry_exact
  | powerTimeTelemetry => exact powerTimeTelemetry_exact
  | descentCoreTelemetry => exact descentCoreTelemetry_exact
  | recoveryStatus => exact recoveryStatusMessage_exact
  | recoveryLogData => exact recoveryLogData_exact
  | attitudeTiltTelemetry => exact attitudeTiltTelemetry_exact
  | lpsTelemetry => exact lpsTelemetry_exact
  | airspeedTelemetry => exact airspeedTelemetry_exact
  | controlRollTelemetryV2 => exact controlRollTelemetryV2_exact

/-- Decoding an emergency stop under one of its two identifiers is the layout's decoding,
and so is decoding any other type. -/
theorem decode_eq_layout {type : CanMessageType} {input : CanFrame} {old : type.Payload}
    (supported : ∀ identifier, type = .emergencyStop identifier →
      identifier = .actuatorEmergencyStop ∨ identifier = .liftoffDetectionEmergencyStop) :
    type.decode input old = type.layout.decode input old := by
  cases type with
  | emergencyStop identifier =>
      have named := supported identifier rfl
      have passes : ¬ (identifier ≠ .actuatorEmergencyStop ∧
          identifier ≠ .liftoffDetectionEmergencyStop) := by tauto
      exact if_neg passes
  | _ => rfl

/-- An emergency stop under any other identifier is refused. -/
theorem decode_of_unsupported {identifier : CanId} {input : CanFrame}
    {old : (emergencyStop identifier).Payload}
    (unsupported : ¬ (identifier = .actuatorEmergencyStop ∨
      identifier = .liftoffDetectionEmergencyStop)) :
    decode (.emergencyStop identifier) input old = (.wrongIdentifier, old) :=
  if_pos (not_or.mp unsupported)

/-- **The codecs are exact.** Every message type, on the wire ranges of its fields, is
decoded to what was encoded; a frame that is decoded is encoded again with the same
identifier, length and bytes; and a decoder that reports an error leaves its output
argument alone. -/
theorem codec_exact (type : CanMessageType) :
    (∀ message old, type.InRange message →
      type.decode (type.encode message) old = (.none, message)) ∧
    (∀ input old, (type.decode input old).1 = .none →
      SameWire (type.encode (type.decode input old).2) input) ∧
    ∀ input old, (type.decode input old).1 ≠ .none → (type.decode input old).2 = old := by
  by_cases supported : ∀ identifier, type = .emergencyStop identifier →
      identifier = .actuatorEmergencyStop ∨ identifier = .liftoffDetectionEmergencyStop
  · refine ⟨fun message old within => ?_, fun input old accepted => ?_, fun input old refused => ?_⟩
    · rw [decode_eq_layout supported]
      exact type.layout_exact.decode_encode within old
    · rw [decode_eq_layout supported] at accepted ⊢
      exact type.layout_exact.encode_decode accepted
    · rw [decode_eq_layout supported] at refused ⊢
      exact Layout.decode_of_error refused
  · push Not at supported
    obtain ⟨identifier, rfl, actuator, liftoff⟩ := supported
    have unsupported := not_or.mpr ⟨actuator, liftoff⟩
    refine ⟨fun message old within => absurd within unsupported, fun input old accepted => ?_,
      fun input old _ => ?_⟩
    · rw [decode_of_unsupported unsupported] at accepted
      cases accepted
    · rw [decode_of_unsupported unsupported]

/-- A time response of 1000 milliseconds is encoded and not decoded. -/
theorem timeResponse_of_full_second_refused :
    (decode .timeResponse (encode .timeResponse ⟨7, .ground, 0x12345678, 1000⟩)
      ⟨0, .invalid, 0, 0⟩).1 = .invalidEnum := by
  decide +kernel

/-- The codec of mission events round-trips on an event with every flag set. -/
theorem codec_exact_missionEvent :
    decode .missionEvent (encode .missionEvent ⟨7, 0xFFFF, .unknown, 0x1234, 5⟩)
      ⟨0, 0, .commandReceive, 0, 0⟩ = (.none, ⟨7, 0xFFFF, .unknown, 0x1234, 5⟩) :=
  (codec_exact .missionEvent).1 _ _ trivial

end CanMessageType

end MissionBoard.Protocol
