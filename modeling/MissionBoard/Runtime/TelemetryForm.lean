import MissionBoard.Library.Run
import MissionBoard.Runtime.Telemetry

/-!
Owns the form of the telemetry: every frame that `canTask` packs is decoded to the message that was
packed, and its roll flags agree with its roll angles.
-/

namespace MissionBoard.Runtime

open Protocol Protocol.Quantization Mission

/-! ### The status -/

/-- What the frames need of a status: the packed fields fit their bits, and the flags say of both roll
angles whether they are out of range. -/
structure StatusSound (status : RuntimeStatus) : Prop where
  torque : status.requestedTorqueRaw.toNat < 2 ^ 12
  pressure : status.lpsPressureRaw.toNat < 2 ^ 11
  flags : status.controlRollFlags.toNat < 2 ^ 5
  reference : status.controlRollReferenceUnwrappedRaw = rollOutOfRange ↔
    status.controlRollFlags &&& referenceOutOfRange ≠ 0
  deviation : status.rollDeviationUnwrappedRaw = rollOutOfRange ↔
    status.controlRollFlags &&& deviationOutOfRange ≠ 0

variable {unspecified : Double → ℤ}

theorem StatusInput.requestedTorqueRaw_lt (input : StatusInput) :
    (input.requestedTorqueRaw unspecified).toNat < 2 ^ 12 := by
  unfold requestedTorqueRaw
  split
  · exact encodeRequestedTorque_lt _ _
  · exact TorqueError.toWord_lt _

variable (unspecified) in
/-- Whatever the branches chose for the two angles, the flags follow them. -/
theorem StatusInput.controlRollFlags_sound (input : StatusInput) :
    (input.controlRollFlags unspecified).toNat < 2 ^ 5 ∧
      ((input.controlRolls unspecified).1 = rollOutOfRange ↔
        input.controlRollFlags unspecified &&& referenceOutOfRange ≠ 0) ∧
      ((input.controlRolls unspecified).2 = rollOutOfRange ↔
        input.controlRollFlags unspecified &&& deviationOutOfRange ≠ 0) := by
  have code : RollError.outOfRange.toWord = rollOutOfRange := rfl
  unfold controlRollFlags
  dsimp only
  rw [code]
  split_ifs with valid control reference deviation <;> simp [*] <;> decide

variable (unspecified) in
theorem pressureRaw_readLps_lt {air : AirDataSnapshot} (fits : air.pressureRaw.toNat < 2 ^ 11)
    (nowUs : UInt64) (read : LpsRead) :
    (air.readLps unspecified nowUs read).pressureRaw.toNat < 2 ^ 11 := by
  unfold AirDataSnapshot.readLps
  split
  · exact encodeLpsPressure_lt _ _
  · split
    · exact fits
    · exact LpsPressureError.toWord_lt _
  · split
    · exact fits
    · exact LpsPressureError.toWord_lt _

variable (unspecified) in
theorem pressureRaw_readSsc (air : AirDataSnapshot) (nowUs : UInt64) (read : SscRead) :
    (air.readSsc unspecified nowUs read).pressureRaw = air.pressureRaw := by
  unfold AirDataSnapshot.readSsc
  split
  · rfl
  · rfl
  · split <;> rfl

theorem statusSound_statusOf (input : StatusInput) {air : AirDataSnapshot}
    (fits : air.pressureRaw.toNat < 2 ^ 11) : StatusSound (statusOf unspecified input air) := by
  obtain ⟨flags, reference, deviation⟩ := input.controlRollFlags_sound unspecified
  constructor
  · exact input.requestedTorqueRaw_lt
  · unfold statusOf
    dsimp only
    split_ifs
    · exact fits
    · exact LpsPressureError.toWord_lt _
    · exact LpsPressureError.toWord_lt _
  · exact flags
  · exact reference
  · exact deviation

/-! ### `canTask` -/

/-- A task that packs frames in band from a sound status -/
structure CanSound (task : CanTask) : Prop where
  latest : StatusSound task.latest
  packed : ∀ telemetry ∈ task.packed, telemetry.InBand

namespace CanSound

variable {task : CanTask}

theorem pack (sound : CanSound task) (id : CanId) (message : UInt8 → TelemetryFrame)
    (inBand : ∀ sequence, (message sequence).InBand) : CanSound (task.pack id message) := by
  constructor
  · exact sound.latest
  · intro telemetry within
    rcases List.mem_append.mp within with earlier | last
    · exact sound.packed telemetry earlier
    · rw [List.mem_singleton.mp last]
      exact inBand _

/-- A task that keeps its status and its messages -/
theorem of_eq {next : CanTask} (sound : CanSound task) (latest : next.latest = task.latest)
    (packed : next.packed = task.packed) : CanSound next where
  latest := latest ▸ sound.latest
  packed := packed ▸ sound.packed

theorem packKinematics (sound : CanSound task) : CanSound task.packKinematics :=
  sound.pack _ _ fun _ => ⟨trivial, rfl⟩

theorem packControl (sound : CanSound task) : CanSound task.packControl := by
  unfold CanTask.packControl
  split
  · exact sound.pack _ _ fun _ => ⟨sound.latest.torque, rfl⟩
  · exact sound

private theorem failure_narrow : ∀ byte : UInt8, (byte &&& 0x0F).toUInt16.toNat < 2 ^ 5 :=
  ByteEnum.forall_byte (by decide +kernel)

theorem packDescent (sound : CanSound task) (input : CanInput) :
    CanSound (task.packDescent input) := by
  unfold CanTask.packDescent
  split
  · exact sound.pack _ _ fun _ => ⟨failure_narrow _, rfl⟩
  · exact sound

theorem packAirspeed (sound : CanSound task) : CanSound task.packAirspeed := by
  unfold CanTask.packAirspeed
  split
  · exact sound.pack _ _ fun _ => ⟨trivial, rfl⟩
  · exact sound

theorem sendFast (sound : CanSound task) (input : CanInput) : CanSound (task.sendFast input) := by
  unfold CanTask.sendFast
  split
  · apply packAirspeed
    apply packDescent
    apply packControl
    apply packKinematics
    exact sound.of_eq rfl rfl
  · exact sound

theorem sendLps (sound : CanSound task) (input : CanInput) : CanSound (task.sendLps input) := by
  unfold CanTask.sendLps
  split
  · have timed : CanSound { task with lastLps := input.now } := sound.of_eq rfl rfl
    dsimp only
    split
    · exact timed.pack _ _ fun _ => ⟨sound.latest.pressure, rfl⟩
    · exact timed
  · exact sound

private theorem flags_captured : ∀ byte : UInt8, byte.toNat < 2 ^ 5 →
    (byte ||| referenceCapturedSincePreviousFrame).toNat < 2 ^ 5 ∧
      (byte ||| referenceCapturedSincePreviousFrame) &&& referenceOutOfRange =
        byte &&& referenceOutOfRange ∧
      (byte ||| referenceCapturedSincePreviousFrame) &&& deviationOutOfRange =
        byte &&& deviationOutOfRange :=
  ByteEnum.forall_byte (by decide +kernel)

/-- The capture bit, which `canTask` adds, is none of the bits that the decoder judges. -/
theorem sendControlRoll (sound : CanSound task) (input : CanInput) :
    CanSound (task.sendControlRoll input) := by
  obtain ⟨flags, reference, deviation⟩ := flags_captured _ sound.latest.flags
  unfold CanTask.sendControlRoll
  dsimp only
  split
  · have timed : CanSound { task with lastControlRoll := input.now } := sound.of_eq rfl rfl
    have packed := timed.pack .controlRollTelemetryV2 (fun sequence =>
      ⟨.controlRollTelemetryV2,
        { sequence
          controlRollReferenceUnwrappedRaw := task.latest.controlRollReferenceUnwrappedRaw
          rollDeviationUnwrappedRaw := task.latest.rollDeviationUnwrappedRaw
          flags :=
            if decide (task.latest.controlRollReferenceCaptureEventSequence ≠
                task.lastControlRollCaptureEventSequence) then
              task.latest.controlRollFlags ||| referenceCapturedSincePreviousFrame
            else task.latest.controlRollFlags
          referenceCaptureEventSequence :=
            task.latest.controlRollReferenceCaptureEventSequence : ControlRollTelemetryV2 }⟩) (by
        intro sequence
        refine ⟨?_, rfl⟩
        show (ite _ _ _ : UInt8).toNat < 2 ^ 5 ∧ (_ ↔ (ite _ _ _ : UInt8) &&& _ ≠ 0) ∧
          (_ ↔ (ite _ _ _ : UInt8) &&& _ ≠ 0)
        split
        · rw [reference, deviation]
          exact ⟨flags, sound.latest.reference, sound.latest.deviation⟩
        · exact ⟨sound.latest.flags, sound.latest.reference, sound.latest.deviation⟩)
    split
    · exact packed.of_eq rfl rfl
    · exact packed
  · exact sound

theorem packMissionStatus (sound : CanSound task) (input : CanInput) :
    CanSound (task.packMissionStatus input) :=
  sound.pack _ _ fun _ => ⟨trivial, rfl⟩

theorem packPowerTime (sound : CanSound task) (input : CanInput) :
    CanSound (task.packPowerTime input) := by
  unfold CanTask.packPowerTime
  dsimp only
  apply sound.pack
  intro sequence
  refine ⟨?_, rfl⟩
  show ((ite _ _ _ : UInt8) ||| (ite _ _ _ : UInt8)) &&& 0x8F =
    ((ite _ _ _ : UInt8) ||| (ite _ _ _ : UInt8))
  split_ifs <;> decide

theorem packTilt (sound : CanSound task) (input : CanInput) : CanSound (task.packTilt input) := by
  unfold CanTask.packTilt
  split
  · have magnitude : (121 : UInt8).toNat < 2 ^ 7 := by decide
    have direction : (511 : UInt16).toNat < 2 ^ 9 := by decide
    exact sound.pack _ _ fun _ => ⟨⟨magnitude, direction⟩, rfl⟩
  · exact sound

theorem sendStatus (sound : CanSound task) (input : CanInput) :
    CanSound (task.sendStatus input) := by
  unfold CanTask.sendStatus
  split
  · apply packTilt
    apply packPowerTime
    apply packMissionStatus
    exact sound.of_eq rfl rfl
  · exact sound

theorem sendRecovery (sound : CanSound task) (input : CanInput) :
    CanSound (task.sendRecovery input) := by
  constructor
  · exact sound.latest
  · intro telemetry within
    rcases List.mem_append.mp within with earlier | data
    · rcases List.mem_append.mp earlier with packed | status
      · exact sound.packed telemetry packed
      · obtain ⟨message, -, rfl⟩ := Option.mem_map.mp (Option.mem_toList.mp status)
        exact ⟨trivial, rfl⟩
    · obtain ⟨message, -, rfl⟩ := Option.mem_map.mp (Option.mem_toList.mp data)
      exact ⟨trivial, rfl⟩

theorem turn (sound : CanSound task) {status : RuntimeStatus} (seen : StatusSound status)
    (input : CanInput) : CanSound (task.turn status input) := by
  apply sendStatus
  apply sendControlRoll
  apply sendLps
  apply sendFast
  exact ⟨seen, (sound.sendRecovery input).packed⟩

end CanSound

/-! ### Runs -/

/-- What holds of the tasks in every run -/
structure TelemetrySound (board : TelemetryBoard) : Prop where
  air : board.air.pressureRaw.toNat < 2 ^ 11
  queued : ∀ air, board.airDataQueue = some air → air.pressureRaw.toNat < 2 ^ 11
  received : board.latestAirData.pressureRaw.toNat < 2 ^ 11
  status : StatusSound board.statusQueue
  can : CanSound board.can

theorem TelemetrySound.step {board : TelemetryBoard} (sound : TelemetrySound board)
    (label : TelemetryLabel) : TelemetrySound (board.step unspecified label) := by
  cases label with
  | readLps nowUs read =>
      have fits := pressureRaw_readLps_lt unspecified sound.air nowUs read
      exact ⟨fits, fun air same => Option.some.inj same ▸ fits, sound.received, sound.status,
        sound.can⟩
  | readSsc nowUs read =>
      have same := pressureRaw_readSsc unspecified board.air nowUs read
      have fits := sound.air
      rw [← same] at fits
      exact ⟨fits, fun air same => Option.some.inj same ▸ fits, sound.received, sound.status,
        sound.can⟩
  | resetZero => exact ⟨sound.air, sound.queued, sound.received, sound.status, sound.can⟩
  | realtime input =>
      have fits : (board.airDataQueue.getD board.latestAirData).pressureRaw.toNat < 2 ^ 11 := by
        cases queued : board.airDataQueue with
        | none => exact sound.received
        | some air => exact sound.queued air queued
      exact ⟨sound.air, nofun, fits, statusSound_statusOf input fits, sound.can⟩
  | can input =>
      exact ⟨sound.air, sound.queued, sound.received, sound.status,
        sound.can.turn sound.status input⟩

theorem telemetrySound_boot (recoveryOnly : Bool)
    (lastStatus lastFast lastControlRoll lastLps : UInt32) :
    TelemetrySound (.boot recoveryOnly lastStatus lastFast lastControlRoll lastLps) := by
  have status : StatusSound {} := ⟨by decide, by decide, by decide, by decide, by decide⟩
  have air : ({} : AirDataSnapshot).pressureRaw.toNat < 2 ^ 11 := by decide
  have queued : StatusSound
      (TelemetryBoard.boot recoveryOnly lastStatus lastFast lastControlRoll lastLps).statusQueue := by
    cases recoveryOnly with
    | false => exact status
    | true =>
        exact ⟨status.torque, status.pressure, status.flags, status.reference, status.deviation⟩
  exact ⟨air, nofun, air, queued, status, nofun⟩

/-- Every frame of telemetry that the tasks pack, in whatever order they take their turns and whatever
they read, has an identifier of telemetry and is decoded to the message that was packed; and the
flags of a roll frame say of both angles whether they are out of range. -/
theorem telemetry_well_formed (unspecified : Double → ℤ) (recoveryOnly : Bool)
    (lastStatus lastFast lastControlRoll lastLps : UInt32) (labels : List TelemetryLabel) :
    ∀ telemetry ∈ (Run.after (TelemetryBoard.step unspecified)
        (.boot recoveryOnly lastStatus lastFast lastControlRoll lastLps) labels).can.packed,
      0x100 ≤ telemetry.frame.identifier ∧ telemetry.frame.identifier ≤ 0x10A ∧
        (∀ old, telemetry.type.decode telemetry.frame old = (.none, telemetry.message)) ∧
        ∀ message, telemetry = ⟨.controlRollTelemetryV2, message⟩ →
          ControlRollTelemetryV2.Consistent message := by
  have preserved : ∀ (board : TelemetryBoard) (label : TelemetryLabel), TelemetrySound board →
      True → TelemetrySound (board.step unspecified label) :=
    fun _ label sound _ => sound.step label
  have sound := Run.invariant_after preserved
    (telemetrySound_boot recoveryOnly lastStatus lastFast lastControlRoll lastLps)
    (Run.along_of_forall (fun _ _ => trivial) _ labels)
  intro telemetry packed
  obtain ⟨range, band⟩ := sound.can.packed telemetry packed
  obtain ⟨least, greatest⟩ := Bool.and_eq_true_iff.mp band
  refine ⟨of_decide_eq_true least, of_decide_eq_true greatest, fun old => ?_, fun message same => ?_⟩
  · obtain ⟨type, message⟩ := telemetry
    have supported : ∀ identifier, type = .emergencyStop identifier →
        identifier = .actuatorEmergencyStop ∨ identifier = .liftoffDetectionEmergencyStop := by
      intro identifier same
      subst same
      exact range
    rw [CanMessageType.decode_eq_layout supported]
    exact type.layout_exact.decode_encode range old
  · subst same
    exact range.2

/-- The frames of the first turn of `canTask`, 100 ms after the start -/
def firstTurn : List TelemetryFrame :=
  (Run.after (TelemetryBoard.step fun _ => 0) (.boot false 0 0 0 0) [.can { now := 100 }]).can.packed

theorem telemetry_well_formed_firstTurn :
    ∃ telemetry ∈ firstTurn,
      0x100 ≤ telemetry.frame.identifier ∧ telemetry.frame.identifier ≤ 0x10A ∧
        (∀ old, telemetry.type.decode telemetry.frame old = (.none, telemetry.message)) ∧
        ∀ message, telemetry = ⟨.controlRollTelemetryV2, message⟩ →
          ControlRollTelemetryV2.Consistent message :=
  have packed : firstTurn ≠ [] := by decide
  have within := firstTurn.head_mem packed
  ⟨_, within, telemetry_well_formed _ false 0 0 0 0 [.can { now := 100 }] _ within⟩

end MissionBoard.Runtime
