/-!
Owns `mission/recovery.cpp` as far as the runtime uses it: the recovery marker that is
kept in RTC memory, with its checksum, and `RecoveryRuntime`, the states of a recovery
between its request and the deep sleep.

The NVS latch that `makeRecoveryMarker` sets first is not part of the marker; the steps
that make a marker set it.
-/

namespace MissionBoard.Mission

def kRecoveryMagic : UInt32 := 0x39394C52
def kRecoveryVersion : UInt16 := 2

/-- `RecoveryMarker` -/
structure RecoveryMarker where
  magic : UInt32 := 0
  version : UInt16 := 0
  checksum : UInt16 := 0
  wakeSequence : UInt32 := 0
  entryRtcTimeUs : UInt64 := 0
  recoveryRequested : Bool := false
deriving DecidableEq

/-- `recoveryMarkerChecksum`: the fields folded to sixteen bits. The checksum field
itself takes no part. -/
def recoveryMarkerChecksum (marker : RecoveryMarker) : UInt16 :=
  let value : UInt64 :=
    (marker.magic ^^^ (marker.version.toUInt32 <<< 16) ^^^ marker.wakeSequence).toUInt64 ^^^
      marker.entryRtcTimeUs ^^^ (marker.entryRtcTimeUs >>> 32) ^^^
      (if marker.recoveryRequested then 0xA55AA55A else 0)
  let value := value ^^^ (value >>> 32)
  let value := value ^^^ (value >>> 16)
  value.toUInt16

/-- `makeRecoveryMarker` -/
def makeRecoveryMarker (wakeSequence : UInt32) (entryRtcTimeUs : UInt64) : RecoveryMarker :=
  let marker : RecoveryMarker :=
    { magic := kRecoveryMagic
      version := kRecoveryVersion
      wakeSequence
      entryRtcTimeUs
      recoveryRequested := true }
  { marker with checksum := recoveryMarkerChecksum marker }

/-- `validRecoveryMarker` -/
def validRecoveryMarker (marker : RecoveryMarker) : Bool :=
  marker.magic == kRecoveryMagic && marker.version == kRecoveryVersion &&
    marker.recoveryRequested && marker.checksum == recoveryMarkerChecksum marker

/-- A marker that was made is valid. -/
@[simp] theorem valid_makeRecoveryMarker (wakeSequence : UInt32) (entryRtcTimeUs : UInt64) :
    validRecoveryMarker (makeRecoveryMarker wakeSequence entryRtcTimeUs) = true := by
  simp [validRecoveryMarker, makeRecoveryMarker, recoveryMarkerChecksum]

@[simp] theorem wakeSequence_makeRecoveryMarker (wakeSequence : UInt32)
    (entryRtcTimeUs : UInt64) :
    (makeRecoveryMarker wakeSequence entryRtcTimeUs).wakeSequence = wakeSequence := rfl

@[simp] theorem entryRtcTimeUs_makeRecoveryMarker (wakeSequence : UInt32)
    (entryRtcTimeUs : UInt64) :
    (makeRecoveryMarker wakeSequence entryRtcTimeUs).entryRtcTimeUs = entryRtcTimeUs := rfl

/-- The cleared marker is not valid. -/
theorem validRecoveryMarker_cleared : validRecoveryMarker {} = false := by decide

/-- `RecoveryRuntimeState` -/
inductive RecoveryRuntimeState where
  | inactive
  | flushingAndSafeing
  | readyForDeepSleep
  | wakeCommandWindow
  | transferInProgress
deriving DecidableEq

/-- `RecoveryRuntime` -/
structure RecoveryRuntime where
  state : RecoveryRuntimeState := .inactive
deriving DecidableEq

namespace RecoveryRuntime

/-- `requestEntry` -/
def requestEntry (recovery : RecoveryRuntime) : Bool × RecoveryRuntime :=
  if recovery.state ≠ .inactive then (false, recovery) else (true, ⟨.flushingAndSafeing⟩)

/-- `markResourcesSafeAndFlushed` -/
def markResourcesSafeAndFlushed (recovery : RecoveryRuntime) : Bool × RecoveryRuntime :=
  if recovery.state ≠ .flushingAndSafeing then (false, recovery)
  else (true, ⟨.readyForDeepSleep⟩)

/-- `wake` -/
def wake (recovery : RecoveryRuntime) (markerValid wakeCauseValid : Bool) :
    Bool × RecoveryRuntime :=
  if !markerValid || !wakeCauseValid then (false, recovery) else (true, ⟨.wakeCommandWindow⟩)

/-- `beginTransfer` -/
def beginTransfer (recovery : RecoveryRuntime) : Bool × RecoveryRuntime :=
  if recovery.state ≠ .wakeCommandWindow then (false, recovery)
  else (true, ⟨.transferInProgress⟩)

/-- `finishTransfer` -/
def finishTransfer (recovery : RecoveryRuntime) : RecoveryRuntime :=
  if recovery.state = .transferInProgress then ⟨.readyForDeepSleep⟩ else recovery

/-- `mayEnterDeepSleep` -/
def mayEnterDeepSleep (recovery : RecoveryRuntime) : Bool :=
  recovery.state == .readyForDeepSleep || recovery.state == .wakeCommandWindow

/-- A transfer that was begun keeps the board awake until it is finished. No task calls
either. -/
theorem beginTransfer_keeps_awake {recovery : RecoveryRuntime}
    (began : recovery.beginTransfer.1 = true) :
    recovery.beginTransfer.2.mayEnterDeepSleep = false ∧
      recovery.beginTransfer.2.finishTransfer.mayEnterDeepSleep = true := by
  unfold beginTransfer at began ⊢
  split at began
  · cases began
  · rename_i inWindow
    rw [if_neg inWindow]
    decide

end RecoveryRuntime

end MissionBoard.Mission
