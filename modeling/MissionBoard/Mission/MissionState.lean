import MissionBoard.Control.FinOvertravelGuard
import MissionBoard.Library.ElapsedClock
import MissionBoard.Protocol.Can

/-!
Owns the mission state machine of `mission/mission_state.{hpp,cpp}`: its snapshot,
its inputs and its operations. The overtravel latch is global in the source; here
an operation takes the guard it reads and returns the guard it leaves.

`tick` is cut into the blocks of the source's body, in the source's order.
-/

namespace MissionBoard.Mission

open Protocol Control

/-- `mission::FinDirective` -/
inductive FinDirective where
  | free
  | brake
  | zeroHold
  | rollControl
deriving DecidableEq

/-- `mission::ParaDirective` -/
inductive ParaDirective where
  | hold
  | open
  | poweredOff
deriving DecidableEq

/-- `mission::StartMode` -/
inductive StartMode where
  | normal
  | forced
deriving DecidableEq

/-- `mission::TransitionResult` -/
inductive TransitionResult where
  | completed
  | invalidState
  | notConfigured
  | runtimeUnavailable
deriving DecidableEq

/-- `mission::PreflightReadinessBit` -/
inductive PreflightReadinessBit where
  | finZeroConfigured
  | motorProfileValid
  | gyroBiasValid
  | gravityReferenceValid
  | sscZeroValid
deriving DecidableEq

/-- The `bit` helper: one shifted by the enumerator's value. -/
def PreflightReadinessBit.bit : PreflightReadinessBit → UInt8
  | .finZeroConfigured => (1 : UInt8) <<< 0
  | .motorProfileValid => (1 : UInt8) <<< 1
  | .gyroBiasValid => (1 : UInt8) <<< 2
  | .gravityReferenceValid => (1 : UInt8) <<< 3
  | .sscZeroValid => (1 : UInt8) <<< 4

def kPreflightReadinessMask : UInt8 := 0x1F

def kOneSecondUs : UInt64 := 1000000
def kControlGateUs : UInt64 := 8 * kOneSecondUs
def kPressureDeploymentGateUs : UInt64 := 10 * kOneSecondUs
def kDeploymentDeadlineUs : UInt64 := 17 * kOneSecondUs
def kPowerCutoffUs : UInt64 := 25 * kOneSecondUs

/-- The oldest estimate `captureControlRollReference` accepts, in microseconds. -/
def kRollEstimateFreshnessUs : UInt64 := 3000

/-- `nextEpoch`: zero is never an epoch. -/
def nextEpoch (current : UInt32) : UInt32 :=
  if current + 1 = 0 then 1 else current + 1

/-- `mission::PreflightReadinessSnapshot` -/
structure PreflightReadinessSnapshot where
  generation : UInt32 := 0
  capturedAtUs : UInt64 := 0
  finZeroConfigured : Bool := false
  motorProfileValid : Bool := false
  gyroBiasValid : Bool := false
  gravityReferenceValid : Bool := false
  sscZeroValid : Bool := false
  resourcesPreallocated : Bool := false
deriving DecidableEq

namespace PreflightReadinessSnapshot

def readyMask (readiness : PreflightReadinessSnapshot) : UInt8 :=
  (if readiness.finZeroConfigured then PreflightReadinessBit.finZeroConfigured.bit else 0) |||
    (if readiness.motorProfileValid then PreflightReadinessBit.motorProfileValid.bit else 0) |||
    (if readiness.gyroBiasValid then PreflightReadinessBit.gyroBiasValid.bit else 0) |||
    (if readiness.gravityReferenceValid then
      PreflightReadinessBit.gravityReferenceValid.bit else 0) |||
    (if readiness.sscZeroValid then PreflightReadinessBit.sscZeroValid.bit else 0)

def missingMask (readiness : PreflightReadinessSnapshot) : UInt8 :=
  ~~~readiness.readyMask &&& kPreflightReadinessMask

end PreflightReadinessSnapshot

/-- `mission::ControlAvailability` -/
structure ControlAvailability where
  finControlAvailable : Bool := false
  finZeroHoldValid : Bool := false
  attitudeValid : Bool := false
  airspeedAbove60 : Bool := false
  lpsAvailable : Bool := false
  sscAvailable : Bool := false
  gyroBiasValid : Bool := false
  sscZeroValid : Bool := false
  rollEstimateLiftoffRelativeUnwrappedRad : Double := .nan
  rollEstimatorTimestampUs : UInt64 := 0
  attitudeFresh : Bool := false
deriving DecidableEq

def ControlAvailability.ready (control : ControlAvailability) : Bool :=
  control.finControlAvailable && control.finZeroHoldValid && control.attitudeValid &&
    control.airspeedAbove60 && control.lpsAvailable && control.sscAvailable &&
    control.gyroBiasValid && control.sscZeroValid && control.attitudeFresh &&
    control.rollEstimateLiftoffRelativeUnwrappedRad.isFinite &&
    control.rollEstimatorTimestampUs != 0

/-- `mission::MissionTickInput` -/
structure MissionTickInput where
  monotonicUs : UInt64 := 0
  liftoffDetected : Bool := false
  deploymentPressureCondition : Bool := false
  control : ControlAvailability := {}
  controlTick : UInt64 := 0
deriving DecidableEq

/-- `mission::SafetyRequest` -/
structure SafetyRequest where
  flightEpoch : UInt32 := 0
  deploy : Bool := false
  absolutePowerCutoff : Bool := false
deriving DecidableEq

/-- `mission::MissionSnapshot` -/
structure MissionSnapshot where
  state : MissionState := .commandReceive
  flightEpoch : UInt32 := 0
  liftoffTimeValid : Bool := false
  liftoffTimeUs : UInt64 := 0
  elapsedUs : UInt64 := 0
  finControlDisabled : Bool := false
  controlReentryInhibited : Bool := false
  resetInvalidated : Bool := false
  deploymentStarted : Bool := false
  deploymentPowerCutoffLatched : Bool := false
  forcedStart : Bool := false
  preflightGeneration : UInt32 := 0
  preflightCapturedAtUs : UInt64 := 0
  preflightReadyMask : UInt8 := 0
  preflightMissingMask : UInt8 := 0
  controlRollReferenceUnwrappedRad : Double := .zero
  controlRollReferenceCaptureTick : UInt64 := 0
  controlRollReferenceEstimatorTimestampUs : UInt64 := 0
  controlRollReferenceCaptureEventSequence : UInt8 := 0
  controlRollReferenceValid : Bool := false
  fin : FinDirective := .brake
  parachute : ParaDirective := .hold
deriving DecidableEq

/-- `finFlightReadinessValid`: the fin-zero and motor-profile bits are both set. -/
def finFlightReadinessValid (snapshot : MissionSnapshot) : Bool :=
  let required :=
    PreflightReadinessBit.finZeroConfigured.bit ||| PreflightReadinessBit.motorProfileValid.bit
  snapshot.preflightReadyMask &&& required == required

/-- `mission::ResetCheckpoint` -/
structure ResetCheckpoint where
  valid : Bool := false
  state : MissionState := .commandReceive
  flightEpoch : UInt32 := 0
  elapsedValid : Bool := false
  elapsedUs : UInt64 := 0
  deploymentStarted : Bool := false
  powerCutoffLatched : Bool := false
  forcedStart : Bool := false
  preflightGeneration : UInt32 := 0
  preflightCapturedAtUs : UInt64 := 0
  preflightReadyMask : UInt8 := 0
  preflightMissingMask : UInt8 := 0
deriving DecidableEq

/-- `mission::MissionStateMachine` -/
structure MissionStateMachine where
  snapshot : MissionSnapshot := {}
  controlGateEvaluated : Bool := false
  finControlAvailable : Bool := false
  elapsedOffsetUs : UInt64 := 0
  controlRollReferenceCaptureEventSequence : UInt8 := 0
deriving DecidableEq

namespace MissionStateMachine

/-! ### Private helpers -/

def enterDescent (machine : MissionStateMachine) : MissionStateMachine :=
  { machine with
    snapshot := { machine.snapshot with
      state := .descent
      deploymentStarted := true
      parachute := .open } }

/-- The parachute half of `updateDirectives`. -/
def paraDirective (snapshot : MissionSnapshot) : ParaDirective :=
  if snapshot.deploymentPowerCutoffLatched then .poweredOff
  else if snapshot.deploymentStarted then .open
  else .hold

/-- The fin half of `updateDirectives`. -/
def finDirective (machine : MissionStateMachine) (nowUs : UInt64) : FinDirective :=
  let snapshot := machine.snapshot
  if snapshot.resetInvalidated ∨ snapshot.finControlDisabled then .brake
  else if snapshot.state = .control then
    if finFlightReadinessValid snapshot then .rollControl else .brake
  else if snapshot.state = .liftoffDetection ∨ snapshot.state = .engineBurn ∨
      snapshot.state = .descent then
    if snapshot.liftoffTimeValid ∧ snapshot.liftoffTimeUs + kPowerCutoffUs ≤ nowUs then .brake
    else if machine.finControlAvailable ∧ finFlightReadinessValid snapshot then .zeroHold
    else .brake
  else .brake

def updateDirectives (machine : MissionStateMachine) (nowUs : UInt64) : MissionStateMachine :=
  { machine with
    snapshot := { machine.snapshot with
      parachute := paraDirective machine.snapshot
      fin := machine.finDirective nowUs } }

def invalidateLiftoff (machine : MissionStateMachine) : MissionStateMachine :=
  { machine with
    snapshot := { machine.snapshot with
      liftoffTimeValid := false
      liftoffTimeUs := 0
      elapsedUs := 0 }
    elapsedOffsetUs := 0 }

def invalidateControlRollReference (machine : MissionStateMachine) : MissionStateMachine :=
  { machine with
    snapshot := { machine.snapshot with
      controlRollReferenceUnwrappedRad := .zero
      controlRollReferenceCaptureTick := 0
      controlRollReferenceEstimatorTimestampUs := 0
      controlRollReferenceCaptureEventSequence :=
        machine.controlRollReferenceCaptureEventSequence
      controlRollReferenceValid := false } }

def clearFlightAttemptMetadata (machine : MissionStateMachine) : MissionStateMachine :=
  { machine with
    snapshot := { machine.snapshot with
      forcedStart := false
      preflightGeneration := 0
      preflightCapturedAtUs := 0
      preflightReadyMask := 0
      preflightMissingMask := 0 } }

/-- The machine holding the reference of one accepted estimate. -/
def withControlRollReference (machine : MissionStateMachine) (input : MissionTickInput) :
    MissionStateMachine :=
  { machine with
    controlRollReferenceCaptureEventSequence :=
      machine.controlRollReferenceCaptureEventSequence + 1
    snapshot := { machine.snapshot with
      controlRollReferenceUnwrappedRad := input.control.rollEstimateLiftoffRelativeUnwrappedRad
      controlRollReferenceCaptureTick := input.controlTick
      controlRollReferenceEstimatorTimestampUs := input.control.rollEstimatorTimestampUs
      controlRollReferenceCaptureEventSequence :=
        machine.controlRollReferenceCaptureEventSequence + 1
      controlRollReferenceValid := true } }

/-- `captureControlRollReference`: whether a reference is held, and the machine left. -/
def captureControlRollReference (machine : MissionStateMachine) (input : MissionTickInput) :
    Bool × MissionStateMachine :=
  if machine.snapshot.controlRollReferenceValid then (true, machine)
  else if input.monotonicUs < input.control.rollEstimatorTimestampUs ∨
      kRollEstimateFreshnessUs < input.monotonicUs - input.control.rollEstimatorTimestampUs then
    (false, machine)
  else (true, machine.withControlRollReference input)

end MissionStateMachine

/-- What an operation returns and leaves behind. -/
structure Transition where
  result : TransitionResult
  machine : MissionStateMachine
  guard : FinOvertravelGuard
deriving DecidableEq

namespace MissionStateMachine

/-! ### Operations

Each operation is a test of the state it may run in and the assignments it then makes. -/

/-- The assignments of `startSequence`. -/
def started (machine : MissionStateMachine) (readiness : PreflightReadinessSnapshot)
    (mode : StartMode) : MissionStateMachine :=
  let next : MissionStateMachine :=
    { machine with
      snapshot := { machine.snapshot with
        flightEpoch := nextEpoch machine.snapshot.flightEpoch
        state := .liftoffDetection
        finControlDisabled := false
        controlReentryInhibited := false
        resetInvalidated := false
        deploymentStarted := false
        deploymentPowerCutoffLatched := false
        forcedStart := decide (mode = .forced)
        preflightGeneration := readiness.generation
        preflightCapturedAtUs := readiness.capturedAtUs
        preflightReadyMask := readiness.readyMask
        preflightMissingMask := readiness.missingMask
        parachute := .hold }
      controlGateEvaluated := false
      finControlAvailable := readiness.finZeroConfigured && readiness.motorProfileValid
      elapsedOffsetUs := 0 }
  next.invalidateControlRollReference.invalidateLiftoff.updateDirectives 0

def startSequence (machine : MissionStateMachine) (guard : FinOvertravelGuard)
    (readiness : PreflightReadinessSnapshot) (mode : StartMode) : Transition :=
  if machine.snapshot.state ≠ .commandReceive then ⟨.invalidState, machine, guard⟩
  else if guard.recovered.faultLatched then ⟨.runtimeUnavailable, machine, guard.recovered⟩
  else if !readiness.resourcesPreallocated then ⟨.runtimeUnavailable, machine, guard.recovered⟩
  else if mode = .normal ∧ readiness.missingMask ≠ 0 then
    ⟨.notConfigured, machine, guard.recovered⟩
  else ⟨.completed, machine.started readiness mode, guard.recovered⟩

/-- The assignments of `cancelSequence`. -/
def cancelled (machine : MissionStateMachine) : MissionStateMachine :=
  let next : MissionStateMachine :=
    { machine with
      snapshot := { machine.snapshot with
        state := .commandReceive
        finControlDisabled := false
        controlReentryInhibited := false
        deploymentStarted := false }
      controlGateEvaluated := false
      finControlAvailable := false
      elapsedOffsetUs := 0 }
  next.invalidateControlRollReference.invalidateLiftoff.clearFlightAttemptMetadata.updateDirectives
    0

def cancelSequence (machine : MissionStateMachine) : TransitionResult × MissionStateMachine :=
  if machine.snapshot.state ≠ .liftoffDetection then (.invalidState, machine)
  else (.completed, machine.cancelled)

/-- The assignments of `disableFinControl`. -/
def controlDisabled (machine : MissionStateMachine) : MissionStateMachine :=
  let disabled : MissionStateMachine :=
    { machine with
      snapshot := { machine.snapshot with
        finControlDisabled := true
        controlReentryInhibited := true } }
  let invalidated := disabled.invalidateControlRollReference
  let left : MissionStateMachine :=
    if invalidated.snapshot.state = .control then
      { invalidated with snapshot := { invalidated.snapshot with state := .engineBurn } }
    else invalidated
  left.updateDirectives 0

def disableFinControl (machine : MissionStateMachine) : TransitionResult × MissionStateMachine :=
  if machine.snapshot.state ≠ .liftoffDetection ∧ machine.snapshot.state ≠ .engineBurn ∧
      machine.snapshot.state ≠ .control then (.invalidState, machine)
  else (.completed, machine.controlDisabled)

/-- The assignments of `liftoffDetectionEmergencyStop`. The forced start and the
preflight data stay, as they belong to the same flight attempt. -/
def rolledBack (machine : MissionStateMachine) : MissionStateMachine :=
  let next : MissionStateMachine :=
    { machine with
      snapshot := { machine.snapshot with
        flightEpoch := nextEpoch machine.snapshot.flightEpoch
        state := .liftoffDetection
        controlReentryInhibited := machine.snapshot.finControlDisabled
        deploymentStarted := false }
      controlGateEvaluated := false
      elapsedOffsetUs := 0 }
  next.invalidateControlRollReference.invalidateLiftoff.updateDirectives 0

def liftoffDetectionEmergencyStop (machine : MissionStateMachine) :
    TransitionResult × MissionStateMachine :=
  if machine.snapshot.state ≠ .engineBurn then (.invalidState, machine)
  else (.completed, machine.rolledBack)

/-- The checkpoints `restoreAfterReset` refuses. -/
def refusesCheckpoint (checkpoint : ResetCheckpoint) : Bool :=
  !checkpoint.valid || checkpoint.flightEpoch == 0 ||
    (checkpoint.state == .liftoffDetection && checkpoint.elapsedValid) ||
    (checkpoint.state != .liftoffDetection &&
      (!checkpoint.elapsedValid ||
        (checkpoint.state != .engineBurn && checkpoint.state != .control &&
          checkpoint.state != .descent)))

/-- The assignments of `restoreAfterReset` for every accepted checkpoint. -/
def resetCleared (machine : MissionStateMachine) (checkpoint : ResetCheckpoint) :
    MissionStateMachine :=
  let cleared : MissionStateMachine :=
    { machine with
      snapshot :=
        { flightEpoch := checkpoint.flightEpoch
          forcedStart := checkpoint.forcedStart
          preflightGeneration := checkpoint.preflightGeneration
          preflightCapturedAtUs := checkpoint.preflightCapturedAtUs
          preflightReadyMask := checkpoint.preflightReadyMask
          preflightMissingMask := checkpoint.preflightMissingMask
          controlReentryInhibited := true
          resetInvalidated := true } }
  cleared.invalidateControlRollReference

/-- The rest of `restoreAfterReset` for a checkpoint taken before liftoff. -/
def restoredArmed (machine : MissionStateMachine) (nowUs : UInt64)
    (checkpoint : ResetCheckpoint) : MissionStateMachine :=
  let cleared := machine.resetCleared checkpoint
  let armed : MissionStateMachine :=
    { cleared with
      snapshot := { cleared.snapshot with
        state := .liftoffDetection
        parachute := .hold }
      controlGateEvaluated := false
      finControlAvailable := false
      elapsedOffsetUs := 0 }
  armed.invalidateLiftoff.updateDirectives nowUs

/-- The rest of `restoreAfterReset` for a checkpoint taken after liftoff. -/
def restoredFlying (machine : MissionStateMachine) (nowUs : UInt64)
    (checkpoint : ResetCheckpoint) : MissionStateMachine :=
  let cleared := machine.resetCleared checkpoint
  let flying : MissionStateMachine :=
    { cleared with
      snapshot := { cleared.snapshot with
        state :=
          if checkpoint.deploymentStarted ∨ checkpoint.state = .descent then .descent
          else .engineBurn
        liftoffTimeValid := true
        liftoffTimeUs := nowUs
        elapsedUs := checkpoint.elapsedUs
        deploymentStarted := checkpoint.deploymentStarted
        deploymentPowerCutoffLatched := checkpoint.powerCutoffLatched
        fin := .brake
        parachute :=
          if checkpoint.powerCutoffLatched then .poweredOff
          else if checkpoint.deploymentStarted then .open
          else .hold }
      controlGateEvaluated := true
      finControlAvailable := false
      elapsedOffsetUs := checkpoint.elapsedUs }
  flying.updateDirectives nowUs

def restoreAfterReset (machine : MissionStateMachine) (nowUs : UInt64)
    (checkpoint : ResetCheckpoint) : TransitionResult × MissionStateMachine :=
  if refusesCheckpoint checkpoint then (.notConfigured, machine)
  else if checkpoint.state = .liftoffDetection then
    (.completed, machine.restoredArmed nowUs checkpoint)
  else (.completed, machine.restoredFlying nowUs checkpoint)

/-! ### The blocks of `tick` -/

/-- The `current_safety` local of `tick`. -/
def currentSafety (machine : MissionStateMachine) (safety : SafetyRequest) : Bool :=
  safety.flightEpoch != 0 && safety.flightEpoch == machine.snapshot.flightEpoch

def latchSafetyCutoff (machine : MissionStateMachine) (safety : SafetyRequest) :
    MissionStateMachine :=
  if machine.currentSafety safety ∧ machine.snapshot.liftoffTimeValid ∧
      safety.absolutePowerCutoff then
    { machine with snapshot := { machine.snapshot with deploymentPowerCutoffLatched := true } }
  else machine

/-- The liftoff transition: liftoff is dated one second before its detection. -/
def detectLiftoff (machine : MissionStateMachine) (input : MissionTickInput) :
    MissionStateMachine :=
  if machine.snapshot.state = .liftoffDetection ∧ input.liftoffDetected then
    { machine with
      snapshot := { machine.snapshot with
        liftoffTimeValid := true
        liftoffTimeUs :=
          if kOneSecondUs ≤ input.monotonicUs then input.monotonicUs - kOneSecondUs else 0
        state := .engineBurn }
      controlGateEvaluated := false
      elapsedOffsetUs := 0 }
  else machine

/-- The `elapsed_us` local of `tick`. -/
def elapsedAt (machine : MissionStateMachine) (monotonicUs : UInt64) : UInt64 :=
  if machine.snapshot.liftoffTimeValid ∧ machine.snapshot.liftoffTimeUs ≤ monotonicUs then
    machine.elapsedOffsetUs + monotonicUs - machine.snapshot.liftoffTimeUs
  else 0

def recordElapsed (machine : MissionStateMachine) (input : MissionTickInput) (elapsedUs : UInt64) :
    MissionStateMachine :=
  { machine with
    snapshot := { machine.snapshot with elapsedUs := elapsedUs }
    finControlAvailable := input.control.finControlAvailable }

/-- The overtravel block outside command receive. -/
def blockOnOvertravel (machine : MissionStateMachine) (guard : FinOvertravelGuard) :
    MissionStateMachine :=
  if machine.snapshot.state ≠ .commandReceive ∧ guard.faultLatched then
    let inhibited : MissionStateMachine :=
      { machine with
        snapshot := { machine.snapshot with controlReentryInhibited := true }
        finControlAvailable := false }
    let invalidated := inhibited.invalidateControlRollReference
    if invalidated.snapshot.state = .control then
      { invalidated with snapshot := { invalidated.snapshot with state := .engineBurn } }
    else invalidated
  else machine

/-- The overtravel block in command receive, the only state a tick recovers in. -/
def guardAfterTick (machine : MissionStateMachine) (guard : FinOvertravelGuard) :
    FinOvertravelGuard :=
  if machine.snapshot.state = .commandReceive then guard.recovered else guard

def decideDeployment (machine : MissionStateMachine) (input : MissionTickInput)
    (safety : SafetyRequest) (currentSafety : Bool) (elapsedUs : UInt64) : MissionStateMachine :=
  if (machine.snapshot.state = .engineBurn ∨ machine.snapshot.state = .control) ∧
      ((currentSafety ∧ safety.deploy) ∨
        (input.deploymentPressureCondition ∧ machine.snapshot.liftoffTimeValid ∧
          kPressureDeploymentGateUs ≤ elapsedUs) ∨
        (machine.snapshot.liftoffTimeValid ∧ kDeploymentDeadlineUs ≤ elapsedUs)) then
    machine.enterDescent
  else machine

/-- `snapshot_.state = control` of the gate. -/
def enterControl (machine : MissionStateMachine) : MissionStateMachine :=
  { machine with snapshot := { machine.snapshot with state := .control } }

/-- The `else` of the gate. -/
def inhibitControl (machine : MissionStateMachine) : MissionStateMachine :=
  { machine with snapshot := { machine.snapshot with controlReentryInhibited := true } }

/-- The one-shot control gate. The capture is the last conjunct of the source's
condition, so it runs only when every earlier one holds. -/
def evaluateControlGate (machine : MissionStateMachine) (input : MissionTickInput)
    (elapsedUs : UInt64) : MissionStateMachine :=
  if machine.snapshot.state = .engineBurn ∧ machine.snapshot.liftoffTimeValid ∧
      kControlGateUs ≤ elapsedUs ∧ machine.controlGateEvaluated = false then
    let evaluated : MissionStateMachine := { machine with controlGateEvaluated := true }
    if machine.snapshot.finControlDisabled = false ∧
        machine.snapshot.controlReentryInhibited = false ∧
        finFlightReadinessValid machine.snapshot ∧ input.control.ready then
      let capture := evaluated.captureControlRollReference input
      if capture.1 then capture.2.enterControl else capture.2.inhibitControl
    else evaluated.inhibitControl
  else machine

def leaveControlUnlessReady (machine : MissionStateMachine) (input : MissionTickInput) :
    MissionStateMachine :=
  if machine.snapshot.state = .control ∧ input.control.ready = false then
    { machine with
      snapshot := { machine.snapshot with
        state := .engineBurn
        controlReentryInhibited := true } }
  else machine

def latchPowerCutoff (machine : MissionStateMachine) (elapsedUs : UInt64) :
    MissionStateMachine :=
  if machine.snapshot.liftoffTimeValid ∧ kPowerCutoffUs ≤ elapsedUs then
    { machine with snapshot := { machine.snapshot with deploymentPowerCutoffLatched := true } }
  else machine

/-- The machine after the first two blocks of `tick`: the safety latch and the
tick's own liftoff transition. -/
def lifted (machine : MissionStateMachine) (input : MissionTickInput) (safety : SafetyRequest) :
    MissionStateMachine :=
  (machine.latchSafetyCutoff safety).detectLiftoff input

/-- The machine when `tick` reaches the control gate. -/
def beforeGate (machine : MissionStateMachine) (guard : FinOvertravelGuard)
    (input : MissionTickInput) (safety : SafetyRequest) : MissionStateMachine :=
  let lifted := machine.lifted input safety
  let elapsedUs := lifted.elapsedAt input.monotonicUs
  ((lifted.recordElapsed input elapsedUs).blockOnOvertravel guard).decideDeployment input safety
    (machine.currentSafety safety) elapsedUs

/-- `tick`: the machine and the guard it leaves. It is irreducible, so that a
proof goes through `tick_machine` and the lemmas of the blocks. -/
@[irreducible] def tick (machine : MissionStateMachine) (guard : FinOvertravelGuard)
    (input : MissionTickInput) (safety : SafetyRequest) :
    MissionStateMachine × FinOvertravelGuard :=
  let elapsedUs := (machine.lifted input safety).elapsedAt input.monotonicUs
  let gated := (machine.beforeGate guard input safety).evaluateControlGate input elapsedUs
  (((gated.leaveControlUnlessReady input).latchPowerCutoff elapsedUs).updateDirectives
    input.monotonicUs, (machine.lifted input safety).guardAfterTick guard)

section Tick

variable (machine : MissionStateMachine) (guard : FinOvertravelGuard) (input : MissionTickInput)
  (safety : SafetyRequest)

theorem tick_machine :
    (machine.tick guard input safety).1 =
      ((((machine.beforeGate guard input safety).evaluateControlGate input
        ((machine.lifted input safety).elapsedAt input.monotonicUs)).leaveControlUnlessReady
          input).latchPowerCutoff
            ((machine.lifted input safety).elapsedAt input.monotonicUs)).updateDirectives
              input.monotonicUs := by
  unfold tick
  rfl

theorem tick_guard :
    (machine.tick guard input safety).2 = (machine.lifted input safety).guardAfterTick guard := by
  unfold tick
  rfl

end Tick

end MissionStateMachine

end MissionBoard.Mission
