import MissionBoard.Library.FoldedChecksum
import MissionBoard.Mission.Recovery
import MissionBoard.Runtime.RecoveryBoot

/-!
Owns the third record that `runtime/recovery_boot.cpp` keeps in RTC memory, the audit of the
start readiness, and what the checksums of all three records notice of the flip of a bit.

A 64-bit field enters a checksum whole and once more shifted by 32. The fold then meets each
bit of its upper half twice.
-/

namespace MissionBoard.Runtime

open Protocol Mission FoldedChecksum

def kStartReadinessAuditMagic : UInt32 := 0x39395341
def kStartReadinessAuditVersion : UInt8 := 1

/-- `StartReadinessAuditRecord` -/
structure StartReadinessAuditRecord where
  magic : UInt32 := 0
  version : UInt8 := 0
  readyMask : UInt8 := 0
  missingMask : UInt8 := 0
  forced : Bool := false
  generation : UInt32 := 0
  capturedAtUs : UInt64 := 0
  checksum : UInt16 := 0
deriving DecidableEq

/-- `startReadinessAuditChecksum` -/
def startReadinessAuditChecksum (record : StartReadinessAuditRecord) : UInt16 :=
  let value : UInt64 :=
    (record.magic ^^^ (record.version.toUInt32 <<< 24) ^^^ (record.readyMask.toUInt32 <<< 16) ^^^
      (record.missingMask.toUInt32 <<< 8) ^^^ record.generation).toUInt64 ^^^
      record.capturedAtUs ^^^ (record.capturedAtUs >>> 32) ^^^
      (if record.forced then 0x5AA5 else 0xA55A)
  let value := value ^^^ (value >>> 32)
  let value := value ^^^ (value >>> 16)
  value.toUInt16

/-- `validStartReadinessAudit` -/
def validStartReadinessAudit (record : StartReadinessAuditRecord) : Bool :=
  let masks := (record.readyMask ||| record.missingMask) &&& kPreflightReadinessMask
  record.magic == kStartReadinessAuditMagic && record.version == kStartReadinessAuditVersion &&
    record.generation != 0 && masks == kPreflightReadinessMask &&
    record.readyMask &&& record.missingMask == 0 &&
    record.checksum == startReadinessAuditChecksum record

/-! ### The bits of the records -/

/-- A bit of a `StartReadinessAuditRecord` -/
inductive AuditBit where
  | magic (position : Fin 32)
  | version (position : Fin 8)
  | readyMask (position : Fin 8)
  | missingMask (position : Fin 8)
  | forced
  | generation (position : Fin 32)
  | capturedAtUs (position : Fin 64)
  | checksum (position : Fin 16)

def StartReadinessAuditRecord.flip (record : StartReadinessAuditRecord) :
    AuditBit → StartReadinessAuditRecord
  | .magic position => { record with magic := record.magic ^^^ bit32 position }
  | .version position => { record with version := record.version ^^^ bit8 position }
  | .readyMask position => { record with readyMask := record.readyMask ^^^ bit8 position }
  | .missingMask position => { record with missingMask := record.missingMask ^^^ bit8 position }
  | .forced => { record with forced := !record.forced }
  | .generation position => { record with generation := record.generation ^^^ bit32 position }
  | .capturedAtUs position =>
      { record with capturedAtUs := record.capturedAtUs ^^^ bit64 position }
  | .checksum position => { record with checksum := record.checksum ^^^ bit16 position }

/-- A bit of a `FlightCheckpointRecord` -/
inductive CheckpointBit where
  | magic (position : Fin 32)
  | version (position : Fin 16)
  | checksum (position : Fin 16)
  | flightEpoch (position : Fin 32)
  | elapsedUs (position : Fin 64)
  | rtcTimeUs (position : Fin 64)
  | preflightCapturedAtUs (position : Fin 64)
  | preflightGeneration (position : Fin 32)
  | state (position : Fin 8)
  | preflightReadyMask (position : Fin 8)
  | preflightMissingMask (position : Fin 8)
  | elapsedValid
  | deploymentStarted
  | powerCutoffLatched
  | forcedStart

def FlightCheckpointRecord.flip (record : FlightCheckpointRecord) :
    CheckpointBit → FlightCheckpointRecord
  | .magic position => { record with magic := record.magic ^^^ bit32 position }
  | .version position => { record with version := record.version ^^^ bit16 position }
  | .checksum position => { record with checksum := record.checksum ^^^ bit16 position }
  | .flightEpoch position => { record with flightEpoch := record.flightEpoch ^^^ bit32 position }
  | .elapsedUs position => { record with elapsedUs := record.elapsedUs ^^^ bit64 position }
  | .rtcTimeUs position => { record with rtcTimeUs := record.rtcTimeUs ^^^ bit64 position }
  | .preflightCapturedAtUs position =>
      { record with preflightCapturedAtUs := record.preflightCapturedAtUs ^^^ bit64 position }
  | .preflightGeneration position =>
      { record with preflightGeneration := record.preflightGeneration ^^^ bit32 position }
  | .state position => { record with state := record.state ^^^ bit8 position }
  | .preflightReadyMask position =>
      { record with preflightReadyMask := record.preflightReadyMask ^^^ bit8 position }
  | .preflightMissingMask position =>
      { record with preflightMissingMask := record.preflightMissingMask ^^^ bit8 position }
  | .elapsedValid => { record with elapsedValid := !record.elapsedValid }
  | .deploymentStarted => { record with deploymentStarted := !record.deploymentStarted }
  | .powerCutoffLatched => { record with powerCutoffLatched := !record.powerCutoffLatched }
  | .forcedStart => { record with forcedStart := !record.forcedStart }

/-- A bit of a `RecoveryMarker` -/
inductive MarkerBit where
  | magic (position : Fin 32)
  | version (position : Fin 16)
  | checksum (position : Fin 16)
  | wakeSequence (position : Fin 32)
  | entryRtcTimeUs (position : Fin 64)
  | recoveryRequested

/-- The marker with one bit flipped -/
def flipMarker (marker : RecoveryMarker) : MarkerBit → RecoveryMarker
  | .magic position => { marker with magic := marker.magic ^^^ bit32 position }
  | .version position => { marker with version := marker.version ^^^ bit16 position }
  | .checksum position => { marker with checksum := marker.checksum ^^^ bit16 position }
  | .wakeSequence position =>
      { marker with wakeSequence := marker.wakeSequence ^^^ bit32 position }
  | .entryRtcTimeUs position =>
      { marker with entryRtcTimeUs := marker.entryRtcTimeUs ^^^ bit64 position }
  | .recoveryRequested => { marker with recoveryRequested := !marker.recoveryRequested }

/-- The bit is in the upper half of a 64-bit field. -/
def AuditBit.InUpperHalf : AuditBit → Prop
  | .capturedAtUs position => 32 ≤ position.val
  | _ => False

def CheckpointBit.InUpperHalf : CheckpointBit → Prop
  | .elapsedUs position | .rtcTimeUs position | .preflightCapturedAtUs position =>
      32 ≤ position.val
  | _ => False

def MarkerBit.InUpperHalf : MarkerBit → Prop
  | .entryRtcTimeUs position => 32 ≤ position.val
  | _ => False

/-! ### The readiness audit -/

/-- What the fields contribute to the word that `startReadinessAuditChecksum` folds -/
def StartReadinessAuditRecord.contributions (record : StartReadinessAuditRecord) : List UInt64 :=
  [record.magic.toUInt64, (record.version.toUInt32 <<< 24).toUInt64,
    (record.readyMask.toUInt32 <<< 16).toUInt64, (record.missingMask.toUInt32 <<< 8).toUInt64,
    record.generation.toUInt64, halves record.capturedAtUs,
    flagged record.forced 0x5AA5 0xA55A]

def StartReadinessAuditRecord.sum (record : StartReadinessAuditRecord) : UInt64 :=
  total record.contributions

theorem startReadinessAuditChecksum_eq (record : StartReadinessAuditRecord) :
    startReadinessAuditChecksum record = fold record.sum := by
  show fold _ = fold _
  simp only [StartReadinessAuditRecord.sum, StartReadinessAuditRecord.contributions, total, halves,
    flagged, UInt32.toUInt64_xor, UInt64.xor_assoc, UInt64.xor_zero]

/-- What a flip changes in the word -/
def AuditBit.change : AuditBit → UInt64
  | .magic position | .generation position => (bit32 position).toUInt64
  | .version position => ((bit8 position).toUInt32 <<< 24).toUInt64
  | .readyMask position => ((bit8 position).toUInt32 <<< 16).toUInt64
  | .missingMask position => ((bit8 position).toUInt32 <<< 8).toUInt64
  | .forced => 0x5AA5 ^^^ 0xA55A
  | .capturedAtUs position => halves (bit64 position)
  | .checksum _ => 0

/-- Where the field of the bit stands among the contributions -/
def AuditBit.index : AuditBit → ℕ
  | .magic _ | .checksum _ => 0
  | .version _ => 1
  | .readyMask _ => 2
  | .missingMask _ => 3
  | .generation _ => 4
  | .capturedAtUs _ => 5
  | .forced => 6

theorem StartReadinessAuditRecord.contributions_flip (record : StartReadinessAuditRecord)
    (bit : AuditBit) : (record.flip bit).contributions =
      record.contributions.modify bit.index (· ^^^ bit.change) := by
  cases bit <;>
    simp only [flip, contributions, AuditBit.change, AuditBit.index, List.modify_zero_cons,
      List.modify_succ_cons, halves_xor, flagged_not, UInt8.toUInt32_xor, UInt32.shiftLeft_xor,
      UInt32.toUInt64_xor, UInt64.xor_zero]

theorem StartReadinessAuditRecord.sum_flip (record : StartReadinessAuditRecord) (bit : AuditBit) :
    (record.flip bit).sum = record.sum ^^^ bit.change := by
  unfold sum
  rw [contributions_flip]
  refine total_modify _ ?_
  cases bit <;> simp [contributions, AuditBit.index]

theorem audit_sealed : Sealed validStartReadinessAudit StartReadinessAuditRecord.sum
    StartReadinessAuditRecord.checksum := by
  intro record valid
  simp only [validStartReadinessAudit, Bool.and_eq_true, beq_iff_eq] at valid
  exact valid.2.trans (startReadinessAuditChecksum_eq record)

/-- Only the checksum looks at the timestamp. -/
theorem audit_valid_of_captured {record : StartReadinessAuditRecord} {capturedAtUs : UInt64}
    (valid : validStartReadinessAudit record = true)
    (same : fold { record with capturedAtUs }.sum = fold record.sum) :
    validStartReadinessAudit { record with capturedAtUs } = true := by
  simp only [validStartReadinessAudit, startReadinessAuditChecksum_eq, same] at valid ⊢
  exact valid

/-- A flip of an audit is missed exactly in the upper half of its timestamp. -/
theorem StartReadinessAuditRecord.valid_flip_iff {record : StartReadinessAuditRecord}
    (valid : validStartReadinessAudit record = true) (bit : AuditBit) :
    validStartReadinessAudit (record.flip bit) = true ↔ bit.InUpperHalf := by
  have word := record.sum_flip bit
  cases bit with
  | magic position | generation position =>
      exact iff_of_false (audit_sealed.rejects valid word rfl (fold_bit32_ne position)) id
  | version position =>
      exact iff_of_false
        (audit_sealed.rejects valid word rfl (fold_bit8_shifted_ne position).2.2.2) id
  | readyMask position =>
      exact iff_of_false
        (audit_sealed.rejects valid word rfl (fold_bit8_shifted_ne position).2.2.1) id
  | missingMask position =>
      exact iff_of_false
        (audit_sealed.rejects valid word rfl (fold_bit8_shifted_ne position).2.1) id
  | forced => exact iff_of_false (audit_sealed.rejects valid word rfl (by decide)) id
  | capturedAtUs position =>
      have missed := fold_halves_bit64_eq_zero_iff position
      constructor
      · intro accepted
        by_contra lower
        exact audit_sealed.rejects valid word rfl (fun gone => lower (missed.mp gone)) accepted
      · intro upper
        refine audit_valid_of_captured valid ?_
        exact (congrArg fold word).trans ((fold_xor_eq_iff _ _).mpr (missed.mpr upper))
  | checksum position =>
      rw [show (AuditBit.checksum position).change = 0 from rfl, UInt64.xor_zero] at word
      exact iff_of_false (audit_sealed.rejects_stored valid word rfl (bit16_ne position)) id

/-! ### The flight checkpoint -/

/-- What the fields contribute to the word that `checkpointChecksum` folds -/
def FlightCheckpointRecord.contributions (record : FlightCheckpointRecord) : List UInt64 :=
  [record.magic.toUInt64, (record.version.toUInt32 <<< 16).toUInt64, record.flightEpoch.toUInt64,
    halves record.elapsedUs, halves record.rtcTimeUs, halves record.preflightCapturedAtUs,
    record.preflightGeneration.toUInt64, (record.state.toUInt32 <<< 24).toUInt64,
    (record.preflightReadyMask.toUInt32 <<< 8).toUInt64, record.preflightMissingMask.toUInt64,
    flagged record.elapsedValid 0xA55A 0, flagged record.deploymentStarted 0x5AA5 0,
    flagged record.powerCutoffLatched 0x9696 0, flagged record.forcedStart 0xC33C 0]

def FlightCheckpointRecord.sum (record : FlightCheckpointRecord) : UInt64 :=
  total record.contributions

theorem checkpointChecksum_eq (record : FlightCheckpointRecord) :
    checkpointChecksum record = fold record.sum := by
  show fold _ = fold _
  simp only [FlightCheckpointRecord.sum, FlightCheckpointRecord.contributions, total, halves,
    flagged, UInt32.toUInt64_xor, UInt64.xor_assoc, UInt64.xor_zero]

/-- What a flip changes in the word -/
def CheckpointBit.change : CheckpointBit → UInt64
  | .magic position | .flightEpoch position | .preflightGeneration position =>
      (bit32 position).toUInt64
  | .version position => ((bit16 position).toUInt32 <<< 16).toUInt64
  | .checksum _ => 0
  | .elapsedUs position | .rtcTimeUs position | .preflightCapturedAtUs position =>
      halves (bit64 position)
  | .state position => ((bit8 position).toUInt32 <<< 24).toUInt64
  | .preflightReadyMask position => ((bit8 position).toUInt32 <<< 8).toUInt64
  | .preflightMissingMask position => (bit8 position).toUInt64
  | .elapsedValid => 0xA55A ^^^ 0
  | .deploymentStarted => 0x5AA5 ^^^ 0
  | .powerCutoffLatched => 0x9696 ^^^ 0
  | .forcedStart => 0xC33C ^^^ 0

/-- Where the field of the bit stands among the contributions -/
def CheckpointBit.index : CheckpointBit → ℕ
  | .magic _ | .checksum _ => 0
  | .version _ => 1
  | .flightEpoch _ => 2
  | .elapsedUs _ => 3
  | .rtcTimeUs _ => 4
  | .preflightCapturedAtUs _ => 5
  | .preflightGeneration _ => 6
  | .state _ => 7
  | .preflightReadyMask _ => 8
  | .preflightMissingMask _ => 9
  | .elapsedValid => 10
  | .deploymentStarted => 11
  | .powerCutoffLatched => 12
  | .forcedStart => 13

theorem FlightCheckpointRecord.contributions_flip (record : FlightCheckpointRecord)
    (bit : CheckpointBit) : (record.flip bit).contributions =
      record.contributions.modify bit.index (· ^^^ bit.change) := by
  cases bit <;>
    simp only [flip, contributions, CheckpointBit.change, CheckpointBit.index,
      List.modify_zero_cons, List.modify_succ_cons, halves_xor, flagged_not, UInt8.toUInt32_xor,
      UInt8.toUInt64_xor, UInt16.toUInt32_xor, UInt32.shiftLeft_xor, UInt32.toUInt64_xor,
      UInt64.xor_zero]

theorem FlightCheckpointRecord.sum_flip (record : FlightCheckpointRecord) (bit : CheckpointBit) :
    (record.flip bit).sum = record.sum ^^^ bit.change := by
  unfold sum
  rw [contributions_flip]
  refine total_modify _ ?_
  cases bit <;> simp [contributions, CheckpointBit.index]

theorem checkpoint_sealed : Sealed validFlightCheckpoint FlightCheckpointRecord.sum
    FlightCheckpointRecord.checksum := by
  intro record valid
  simp only [validFlightCheckpoint, Bool.and_eq_true, beq_iff_eq] at valid
  exact valid.2.trans (checkpointChecksum_eq record)

/-- Only the checksum looks at the timestamps. -/
theorem checkpoint_valid_of_times {record : FlightCheckpointRecord}
    {elapsedUs rtcTimeUs preflightCapturedAtUs : UInt64}
    (valid : validFlightCheckpoint record = true)
    (same : fold { record with elapsedUs, rtcTimeUs, preflightCapturedAtUs }.sum =
      fold record.sum) :
    validFlightCheckpoint { record with elapsedUs, rtcTimeUs, preflightCapturedAtUs } = true := by
  simp only [validFlightCheckpoint, checkpointChecksum_eq, same] at valid ⊢
  exact valid

/-- A flip of a checkpoint is missed exactly in the upper halves of its timestamps. -/
theorem FlightCheckpointRecord.valid_flip_iff {record : FlightCheckpointRecord}
    (valid : validFlightCheckpoint record = true) (bit : CheckpointBit) :
    validFlightCheckpoint (record.flip bit) = true ↔ bit.InUpperHalf := by
  have word := record.sum_flip bit
  cases bit with
  | magic position | flightEpoch position | preflightGeneration position =>
      exact iff_of_false (checkpoint_sealed.rejects valid word rfl (fold_bit32_ne position)) id
  | version position =>
      exact iff_of_false
        (checkpoint_sealed.rejects valid word rfl (fold_bit16_shifted_ne position)) id
  | checksum position =>
      rw [show (CheckpointBit.checksum position).change = 0 from rfl, UInt64.xor_zero] at word
      exact iff_of_false (checkpoint_sealed.rejects_stored valid word rfl (bit16_ne position)) id
  | elapsedUs position | rtcTimeUs position | preflightCapturedAtUs position =>
      have missed := fold_halves_bit64_eq_zero_iff position
      constructor
      · intro accepted
        by_contra lower
        exact checkpoint_sealed.rejects valid word rfl (fun gone => lower (missed.mp gone)) accepted
      · intro upper
        refine checkpoint_valid_of_times valid ?_
        exact (congrArg fold word).trans ((fold_xor_eq_iff _ _).mpr (missed.mpr upper))
  | state position =>
      exact iff_of_false
        (checkpoint_sealed.rejects valid word rfl (fold_bit8_shifted_ne position).2.2.2) id
  | preflightReadyMask position =>
      exact iff_of_false
        (checkpoint_sealed.rejects valid word rfl (fold_bit8_shifted_ne position).2.1) id
  | preflightMissingMask position =>
      exact iff_of_false
        (checkpoint_sealed.rejects valid word rfl (fold_bit8_shifted_ne position).1) id
  | elapsedValid | deploymentStarted | powerCutoffLatched | forcedStart =>
      exact iff_of_false (checkpoint_sealed.rejects valid word rfl (by decide)) id

/-! ### The recovery marker -/

/-- What the fields contribute to the word that `recoveryMarkerChecksum` folds -/
def markerContributions (marker : RecoveryMarker) : List UInt64 :=
  [marker.magic.toUInt64, (marker.version.toUInt32 <<< 16).toUInt64, marker.wakeSequence.toUInt64,
    halves marker.entryRtcTimeUs, flagged marker.recoveryRequested 0xA55AA55A 0]

def markerSum (marker : RecoveryMarker) : UInt64 := total (markerContributions marker)

theorem recoveryMarkerChecksum_eq (marker : RecoveryMarker) :
    recoveryMarkerChecksum marker = fold (markerSum marker) := by
  show fold _ = fold _
  simp only [markerSum, markerContributions, total, halves, flagged, UInt32.toUInt64_xor,
    UInt64.xor_assoc, UInt64.xor_zero]

/-- What a flip changes in the word -/
def MarkerBit.change : MarkerBit → UInt64
  | .magic position | .wakeSequence position => (bit32 position).toUInt64
  | .version position => ((bit16 position).toUInt32 <<< 16).toUInt64
  | .checksum _ => 0
  | .entryRtcTimeUs position => halves (bit64 position)
  | .recoveryRequested => 0xA55AA55A ^^^ 0

/-- Where the field of the bit stands among the contributions -/
def MarkerBit.index : MarkerBit → ℕ
  | .magic _ | .checksum _ => 0
  | .version _ => 1
  | .wakeSequence _ => 2
  | .entryRtcTimeUs _ => 3
  | .recoveryRequested => 4

theorem markerContributions_flip (marker : RecoveryMarker) (bit : MarkerBit) :
    markerContributions (flipMarker marker bit) =
      (markerContributions marker).modify bit.index (· ^^^ bit.change) := by
  cases bit <;>
    simp only [flipMarker, markerContributions, MarkerBit.change, MarkerBit.index,
      List.modify_zero_cons, List.modify_succ_cons, halves_xor, flagged_not, UInt16.toUInt32_xor,
      UInt32.shiftLeft_xor, UInt32.toUInt64_xor, UInt64.xor_zero]

theorem markerSum_flip (marker : RecoveryMarker) (bit : MarkerBit) :
    markerSum (flipMarker marker bit) = markerSum marker ^^^ bit.change := by
  unfold markerSum
  rw [markerContributions_flip]
  refine total_modify _ ?_
  cases bit <;> simp [markerContributions, MarkerBit.index]

theorem marker_sealed : Sealed validRecoveryMarker markerSum RecoveryMarker.checksum := by
  intro marker valid
  simp only [validRecoveryMarker, Bool.and_eq_true, beq_iff_eq] at valid
  exact valid.2.trans (recoveryMarkerChecksum_eq marker)

/-- Only the checksum looks at the time of entry. -/
theorem marker_valid_of_entry {marker : RecoveryMarker} {entryRtcTimeUs : UInt64}
    (valid : validRecoveryMarker marker = true)
    (same : fold (markerSum { marker with entryRtcTimeUs }) = fold (markerSum marker)) :
    validRecoveryMarker { marker with entryRtcTimeUs } = true := by
  simp only [validRecoveryMarker, recoveryMarkerChecksum_eq, same] at valid ⊢
  exact valid

/-- A flip of a marker is missed exactly in the upper half of its time of entry. -/
theorem valid_flipMarker_iff {marker : RecoveryMarker} (valid : validRecoveryMarker marker = true)
    (bit : MarkerBit) : validRecoveryMarker (flipMarker marker bit) = true ↔ bit.InUpperHalf := by
  have word := markerSum_flip marker bit
  cases bit with
  | magic position | wakeSequence position =>
      exact iff_of_false (marker_sealed.rejects valid word rfl (fold_bit32_ne position)) id
  | version position =>
      exact iff_of_false (marker_sealed.rejects valid word rfl (fold_bit16_shifted_ne position)) id
  | checksum position =>
      rw [show (MarkerBit.checksum position).change = 0 from rfl, UInt64.xor_zero] at word
      exact iff_of_false (marker_sealed.rejects_stored valid word rfl (bit16_ne position)) id
  | entryRtcTimeUs position =>
      have missed := fold_halves_bit64_eq_zero_iff position
      constructor
      · intro accepted
        by_contra lower
        exact marker_sealed.rejects valid word rfl (fun gone => lower (missed.mp gone)) accepted
      · intro upper
        refine marker_valid_of_entry valid ?_
        exact (congrArg fold word).trans ((fold_xor_eq_iff _ _).mpr (missed.mpr upper))
  | recoveryRequested =>
      -- the two halves of the flag's constant cancel; the flag itself is looked at
      refine iff_of_false ?_ id
      intro accepted
      simp only [validRecoveryMarker, Bool.and_eq_true] at valid accepted
      have requested : (!marker.recoveryRequested) = true := accepted.1.2
      rw [valid.1.2] at requested
      exact absurd requested (by decide)

/-! ### All three records -/

/-- The flip of one bit of a valid record makes it invalid exactly when the bit is not in the
upper half of a 64-bit field. -/
theorem flip_detected_iff {checkpoint : FlightCheckpointRecord} {audit : StartReadinessAuditRecord}
    {marker : RecoveryMarker} (checkpointValid : validFlightCheckpoint checkpoint = true)
    (auditValid : validStartReadinessAudit audit = true)
    (markerValid : validRecoveryMarker marker = true) :
    (∀ bit, validFlightCheckpoint (checkpoint.flip bit) = false ↔ ¬ bit.InUpperHalf) ∧
    (∀ bit, validStartReadinessAudit (audit.flip bit) = false ↔ ¬ bit.InUpperHalf) ∧
    (∀ bit, validRecoveryMarker (flipMarker marker bit) = false ↔ ¬ bit.InUpperHalf) := by
  refine ⟨fun bit => ?_, fun bit => ?_, fun bit => ?_⟩
  · rw [← Bool.not_eq_true, checkpoint.valid_flip_iff checkpointValid]
  · rw [← Bool.not_eq_true, audit.valid_flip_iff auditValid]
  · rw [← Bool.not_eq_true, valid_flipMarker_iff markerValid]

/-- A checkpoint of a flight in its control phase -/
def controlCheckpoint : FlightCheckpointRecord :=
  { magic := kFlightCheckpointMagic
    version := kFlightCheckpointVersion
    flightEpoch := 1
    elapsedUs := 4000000
    state := MissionState.control.toByte
    preflightReadyMask := kPreflightReadinessMask
    elapsedValid := true : FlightCheckpointRecord }.sealed

/-- An audit of a start with everything ready -/
def readyAudit : StartReadinessAuditRecord :=
  let record : StartReadinessAuditRecord :=
    { magic := kStartReadinessAuditMagic
      version := kStartReadinessAuditVersion
      readyMask := kPreflightReadinessMask
      generation := 1 }
  { record with checksum := startReadinessAuditChecksum record }

theorem flip_detected_iff_records :
    validFlightCheckpoint (controlCheckpoint.flip (.elapsedUs 31)) = false ∧
      validStartReadinessAudit (readyAudit.flip (.readyMask 2)) = false ∧
      validRecoveryMarker (flipMarker (makeRecoveryMarker 1 5) (.entryRtcTimeUs 0)) = false := by
  have marker := valid_makeRecoveryMarker 1 5
  obtain ⟨checkpoints, audits, markers⟩ := @flip_detected_iff controlCheckpoint readyAudit _
    (by decide) (by decide) marker
  exact ⟨(checkpoints (.elapsedUs 31)).mpr (by simp [CheckpointBit.InUpperHalf]),
    (audits (.readyMask 2)).mpr id,
    (markers (.entryRtcTimeUs 0)).mpr (by simp [MarkerBit.InUpperHalf])⟩

/-- Seventy-one minutes appear in the elapsed time, and the checkpoint stays valid. -/
theorem flip_missed_elapsed :
    validFlightCheckpoint controlCheckpoint = true ∧
      validFlightCheckpoint (controlCheckpoint.flip (.elapsedUs 32)) = true ∧
      (controlCheckpoint.flip (.elapsedUs 32)).elapsedUs ≠ controlCheckpoint.elapsedUs := by
  decide

end MissionBoard.Runtime
