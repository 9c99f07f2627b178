import MissionBoard.Mission.Invariant

/-!
Owns the flight checkpoint of `runtime/recovery_boot.cpp`: the record kept in RTC
memory, its checksum and plausibility test, and the pair that stores a snapshot
and loads it back after a reset.

RTC memory, the RTC clock and the reset reason are arguments here. A load either
returns a checkpoint or leaves the caller with the invalid one.
-/

namespace MissionBoard.Runtime

open Protocol Mission

/-- `esp_reset_reason()`, as far as the checkpoint distinguishes it. -/
inductive ResetReason where
  | powerOn
  | deepSleep
  | other
deriving DecidableEq

/-- `resetPreservesRtcMemory` -/
def resetPreservesRtcMemory (reason : ResetReason) : Bool :=
  reason != .powerOn && reason != .deepSleep

def kFlightCheckpointMagic : UInt32 := 0x39394C43
def kFlightCheckpointVersion : UInt16 := 2

/-- `FlightCheckpointRecord` -/
structure FlightCheckpointRecord where
  magic : UInt32 := 0
  version : UInt16 := 0
  checksum : UInt16 := 0
  flightEpoch : UInt32 := 0
  elapsedUs : UInt64 := 0
  rtcTimeUs : UInt64 := 0
  preflightCapturedAtUs : UInt64 := 0
  preflightGeneration : UInt32 := 0
  state : UInt8 := 0
  preflightReadyMask : UInt8 := 0
  preflightMissingMask : UInt8 := 0
  elapsedValid : Bool := false
  deploymentStarted : Bool := false
  powerCutoffLatched : Bool := false
  forcedStart : Bool := false
deriving DecidableEq

/-- `checkpointChecksum`: the fields folded to sixteen bits. The checksum field
itself takes no part. -/
def checkpointChecksum (record : FlightCheckpointRecord) : UInt16 :=
  let value : UInt64 :=
    (record.magic ^^^ (record.version.toUInt32 <<< 16) ^^^ record.flightEpoch).toUInt64 ^^^
      record.elapsedUs ^^^ (record.elapsedUs >>> 32) ^^^
      record.rtcTimeUs ^^^ (record.rtcTimeUs >>> 32) ^^^
      record.preflightCapturedAtUs ^^^ (record.preflightCapturedAtUs >>> 32) ^^^
      record.preflightGeneration.toUInt64 ^^^
      (record.state.toUInt32 <<< 24).toUInt64 ^^^
      (record.preflightReadyMask.toUInt32 <<< 8).toUInt64 ^^^
      record.preflightMissingMask.toUInt64 ^^^
      (if record.elapsedValid then 0xA55A else 0) ^^^
      (if record.deploymentStarted then 0x5AA5 else 0) ^^^
      (if record.powerCutoffLatched then 0x9696 else 0) ^^^
      (if record.forcedStart then 0xC33C else 0)
  let value := value ^^^ (value >>> 32)
  let value := value ^^^ (value >>> 16)
  value.toUInt16

/-- The record with its checksum filled in. -/
def FlightCheckpointRecord.sealed (record : FlightCheckpointRecord) : FlightCheckpointRecord :=
  { record with checksum := checkpointChecksum record }

/-- `validFlightCheckpoint` -/
def validFlightCheckpoint (record : FlightCheckpointRecord) : Bool :=
  let state := MissionState.ofByte record.state
  let stateValid := state == .liftoffDetection || state == .engineBurn || state == .control ||
    state == .descent
  let elapsedContract :=
    if state = .liftoffDetection then !record.elapsedValid else record.elapsedValid
  let masks :=
    (record.preflightReadyMask ||| record.preflightMissingMask) &&& kPreflightReadinessMask
  let masksDisjoint := record.preflightReadyMask &&& record.preflightMissingMask == 0
  record.magic == kFlightCheckpointMagic && record.version == kFlightCheckpointVersion &&
    record.flightEpoch != 0 && stateValid && elapsedContract &&
    masks == kPreflightReadinessMask && masksDisjoint &&
    record.checksum == checkpointChecksum record

/-- The checkpoint `loadFlightCheckpoint` fills in from a record. -/
def FlightCheckpointRecord.toCheckpoint (record : FlightCheckpointRecord) (elapsedUs : UInt64) :
    ResetCheckpoint where
  valid := true
  state := MissionState.ofByte record.state
  flightEpoch := record.flightEpoch
  elapsedValid := record.elapsedValid
  elapsedUs := elapsedUs
  deploymentStarted := record.deploymentStarted
  powerCutoffLatched := record.powerCutoffLatched
  forcedStart := record.forcedStart
  preflightGeneration := record.preflightGeneration
  preflightCapturedAtUs := record.preflightCapturedAtUs
  preflightReadyMask := record.preflightReadyMask
  preflightMissingMask := record.preflightMissingMask

/-- `loadFlightCheckpoint`: the time the reset took is added to the elapsed time,
and a time that would overflow is refused. -/
def loadFlightCheckpoint (record : FlightCheckpointRecord) (reason : ResetReason)
    (rtcNowUs : UInt64) : Option ResetCheckpoint :=
  if !resetPreservesRtcMemory reason || !validFlightCheckpoint record then none
  else if record.elapsedValid then
    if rtcNowUs < record.rtcTimeUs then none
    else
      let resetElapsedUs := rtcNowUs - record.rtcTimeUs
      if 0xFFFFFFFFFFFFFFFF - record.elapsedUs < resetElapsedUs then none
      else some (record.toCheckpoint (record.elapsedUs + resetElapsedUs))
  else some (record.toCheckpoint record.elapsedUs)

/-- The record of a snapshot, before its checksum is filled in. -/
def checkpointRecord (snapshot : MissionSnapshot) (rtcNowUs : UInt64) : FlightCheckpointRecord :=
  let preLiftoff := decide (snapshot.state = .liftoffDetection)
  { magic := kFlightCheckpointMagic
    version := kFlightCheckpointVersion
    flightEpoch := snapshot.flightEpoch
    elapsedUs := if preLiftoff then 0 else snapshot.elapsedUs
    rtcTimeUs := rtcNowUs
    preflightCapturedAtUs := snapshot.preflightCapturedAtUs
    preflightGeneration := snapshot.preflightGeneration
    state := snapshot.state.toByte
    preflightReadyMask := snapshot.preflightReadyMask
    preflightMissingMask := snapshot.preflightMissingMask
    elapsedValid := !preLiftoff
    deploymentStarted := snapshot.deploymentStarted
    powerCutoffLatched := snapshot.deploymentPowerCutoffLatched
    forcedStart := snapshot.forcedStart }

/-- `storeFlightCheckpoint`: the record RTC memory holds afterwards; the cleared
record when the snapshot carries nothing to restore. -/
def storeFlightCheckpoint (snapshot : MissionSnapshot) (rtcNowUs : UInt64) :
    FlightCheckpointRecord :=
  if snapshot.flightEpoch = 0 ∨ snapshot.state = .commandReceive then {}
  else if snapshot.state ≠ .liftoffDetection ∧ snapshot.liftoffTimeValid = false then {}
  else (checkpointRecord snapshot rtcNowUs).sealed

/-! ### Storing and loading -/

/-- A sealed record passes its own checksum. -/
@[simp] theorem checksum_sealed (record : FlightCheckpointRecord) :
    record.sealed.checksum = checkpointChecksum record.sealed := rfl

/-- The cleared record never loads. -/
theorem loadFlightCheckpoint_cleared (reason : ResetReason) (rtcNowUs : UInt64) :
    loadFlightCheckpoint {} reason rtcNowUs = none := by
  have invalid : validFlightCheckpoint {} = false := by decide
  simp [loadFlightCheckpoint, invalid]

/-- What loads from a record is plausible and carries the record's fields. -/
theorem toCheckpoint_of_load {record : FlightCheckpointRecord} {reason : ResetReason}
    {rtcNowUs : UInt64} {checkpoint : ResetCheckpoint}
    (loads : loadFlightCheckpoint record reason rtcNowUs = some checkpoint) :
    resetPreservesRtcMemory reason = true ∧ validFlightCheckpoint record = true ∧
      ∃ elapsedUs, checkpoint = record.toCheckpoint elapsedUs := by
  unfold loadFlightCheckpoint at loads
  split at loads
  · cases loads
  · next accepted =>
    simp only [Bool.or_eq_true, Bool.not_eq_true', not_or, Bool.not_eq_false] at accepted
    refine ⟨accepted.1, accepted.2, ?_⟩
    split at loads
    · split at loads
      · cases loads
      · dsimp only at loads
        split at loads
        · cases loads
        · exact ⟨_, (Option.some.inj loads).symm⟩
    · exact ⟨_, (Option.some.inj loads).symm⟩

/-- A stored record names the snapshot's epoch and deployment, unless it is cleared. -/
theorem storeFlightCheckpoint_deployment (snapshot : MissionSnapshot) (rtcNowUs : UInt64) :
    (storeFlightCheckpoint snapshot rtcNowUs).flightEpoch = 0 ∨
      (storeFlightCheckpoint snapshot rtcNowUs).flightEpoch = snapshot.flightEpoch ∧
        (storeFlightCheckpoint snapshot rtcNowUs).deploymentStarted =
          snapshot.deploymentStarted := by
  unfold storeFlightCheckpoint
  split
  · exact Or.inl rfl
  · split
    · exact Or.inl rfl
    · exact Or.inr ⟨rfl, rfl⟩

/-- A snapshot that satisfies the invariant outside command receive is stored whole. -/
theorem storeFlightCheckpoint_of_core {machine : MissionStateMachine} (core : Core machine)
    (sequencing : machine.snapshot.state ≠ .commandReceive) (rtcNowUs : UInt64) :
    storeFlightCheckpoint machine.snapshot rtcNowUs =
      (checkpointRecord machine.snapshot rtcNowUs).sealed := by
  unfold storeFlightCheckpoint
  have live := core.epoch sequencing
  rw [if_neg (by simp [live, sequencing])]
  rw [if_neg]
  rintro ⟨lifted, unlifted⟩
  have grounded : ¬ inFlight machine.snapshot.state := by
    rw [← core.liftoff, unlifted]
    decide
  have known := core.known
  cases state : machine.snapshot.state <;> simp_all [inFlight]

/-- The plausibility test accepts every record that such a snapshot leaves. -/
theorem validFlightCheckpoint_store {machine : MissionStateMachine} (core : Core machine)
    (sequencing : machine.snapshot.state ≠ .commandReceive) (rtcNowUs : UInt64) :
    validFlightCheckpoint (storeFlightCheckpoint machine.snapshot rtcNowUs) = true := by
  rw [storeFlightCheckpoint_of_core core sequencing]
  have live := core.epoch sequencing
  have known := core.known
  obtain ⟨disjoint, full⟩ := core.masks sequencing
  have masked : (machine.snapshot.preflightReadyMask ||| machine.snapshot.preflightMissingMask) &&&
      kPreflightReadinessMask = kPreflightReadinessMask := by
    rw [full]
    decide
  unfold validFlightCheckpoint
  rw [checksum_sealed, beq_self_eq_true]
  cases state : machine.snapshot.state <;>
    simp_all [FlightCheckpointRecord.sealed, checkpointRecord]

/-- The elapsed time a checkpoint of `snapshot` carries when it is loaded `delta`
after it was stored. -/
def checkpointElapsed (snapshot : MissionSnapshot) (delta : UInt64) : UInt64 :=
  if snapshot.state = .liftoffDetection then 0 else snapshot.elapsedUs + delta

/-- The checkpoint a snapshot comes back as. -/
def checkpointOf (snapshot : MissionSnapshot) (delta : UInt64) : ResetCheckpoint where
  valid := true
  state := snapshot.state
  flightEpoch := snapshot.flightEpoch
  elapsedValid := decide (snapshot.state ≠ .liftoffDetection)
  elapsedUs := checkpointElapsed snapshot delta
  deploymentStarted := snapshot.deploymentStarted
  powerCutoffLatched := snapshot.deploymentPowerCutoffLatched
  forcedStart := snapshot.forcedStart
  preflightGeneration := snapshot.preflightGeneration
  preflightCapturedAtUs := snapshot.preflightCapturedAtUs
  preflightReadyMask := snapshot.preflightReadyMask
  preflightMissingMask := snapshot.preflightMissingMask

/-- A reset that keeps RTC memory, whose clock did not run backwards and whose
elapsed time does not overflow. -/
structure ResetSurvivable (snapshot : MissionSnapshot) (reason : ResetReason)
    (storedUs rtcNowUs : UInt64) : Prop where
  preserves : resetPreservesRtcMemory reason = true
  forward : storedUs ≤ rtcNowUs
  fits : snapshot.elapsedUs.toNat + (rtcNowUs.toNat - storedUs.toNat) < 2 ^ 64

/-- Storing and loading a snapshot across a survivable reset gives its checkpoint. -/
theorem load_store {machine : MissionStateMachine} (core : Core machine)
    (sequencing : machine.snapshot.state ≠ .commandReceive) {reason : ResetReason}
    {storedUs rtcNowUs : UInt64}
    (survivable : ResetSurvivable machine.snapshot reason storedUs rtcNowUs) :
    loadFlightCheckpoint (storeFlightCheckpoint machine.snapshot storedUs) reason rtcNowUs =
      some (checkpointOf machine.snapshot (rtcNowUs - storedUs)) := by
  obtain ⟨preserves, forward, fits⟩ := survivable
  have valid := validFlightCheckpoint_store core sequencing storedUs
  have forwardNat := UInt64.le_iff_toNat_le.mp forward
  unfold loadFlightCheckpoint
  rw [preserves, valid, storeFlightCheckpoint_of_core core sequencing]
  by_cases armed : machine.snapshot.state = .liftoffDetection
  · simp [FlightCheckpointRecord.sealed, checkpointRecord, checkpointOf, checkpointElapsed, armed,
      FlightCheckpointRecord.toCheckpoint]
  · have noOverflow : ¬ 0xFFFFFFFFFFFFFFFF - machine.snapshot.elapsedUs < rtcNowUs - storedUs := by
      rw [UInt64.lt_iff_toNat_lt, UInt64.toNat_sub_of_le _ _ forward, UInt64.toNat_sub]
      have bound := machine.snapshot.elapsedUs.toNat_lt
      have top : (0xFFFFFFFFFFFFFFFF : UInt64).toNat = 2 ^ 64 - 1 := rfl
      omega
    have notBackwards : ¬ rtcNowUs < storedUs := UInt64.not_lt.mpr forward
    simp [FlightCheckpointRecord.sealed, checkpointRecord, checkpointOf, checkpointElapsed, armed,
      noOverflow, notBackwards, FlightCheckpointRecord.toCheckpoint]

/-- Whatever loads from a stored snapshot is that snapshot's checkpoint. -/
theorem checkpoint_of_load {machine : MissionStateMachine} (core : Core machine)
    {reason : ResetReason} {storedUs rtcNowUs : UInt64} {checkpoint : ResetCheckpoint}
    (loads : loadFlightCheckpoint (storeFlightCheckpoint machine.snapshot storedUs) reason
      rtcNowUs = some checkpoint) :
    machine.snapshot.state ≠ .commandReceive ∧
      checkpoint = checkpointOf machine.snapshot (rtcNowUs - storedUs) := by
  by_cases receiving : machine.snapshot.state = .commandReceive
  · have cleared : storeFlightCheckpoint machine.snapshot storedUs = {} :=
      if_pos (Or.inr receiving)
    rw [cleared, loadFlightCheckpoint_cleared] at loads
    contradiction
  · refine ⟨receiving, ?_⟩
    rw [storeFlightCheckpoint_of_core core receiving] at loads
    unfold loadFlightCheckpoint at loads
    split at loads
    · contradiction
    · by_cases armed : machine.snapshot.state = .liftoffDetection
      · simp [FlightCheckpointRecord.sealed, checkpointRecord, armed,
          FlightCheckpointRecord.toCheckpoint] at loads
        rw [← loads]
        simp [checkpointOf, checkpointElapsed, armed]
      · simp only [FlightCheckpointRecord.sealed, checkpointRecord, armed,
          FlightCheckpointRecord.toCheckpoint, decide_false, Bool.not_false, if_true,
          Bool.false_eq_true, if_false, MissionState.ofByte_toByte] at loads
        split at loads
        · cases loads
        · split at loads
          · cases loads
          · rw [← Option.some.inj loads]
            simp [checkpointOf, checkpointElapsed, armed]

/-- A checkpoint of a snapshot that satisfies the invariant is faithful. -/
theorem checkpointOf_faithful {machine : MissionStateMachine} (core : Core machine)
    (sequencing : machine.snapshot.state ≠ .commandReceive) (delta : UInt64) :
    CheckpointFaithful (checkpointOf machine.snapshot delta) :=
  ⟨core.deployment.mpr, core.masks sequencing⟩

end MissionBoard.Runtime
