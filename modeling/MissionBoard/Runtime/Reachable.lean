import MissionBoard.Runtime.RecoveryBoot

/-!
Owns the states the mission state machine can reach: from boot, by its operations
in any order, and by restoring a checkpoint that some reachable state stored. The
overtravel latch moves freely between two calls.

The main result is the invariant of the published snapshot.
-/

namespace MissionBoard.Runtime

open Protocol Mission Control

/-- A machine some history of operations and resets leaves. A reset may restore
the checkpoint of any state reached before, by this machine or by another. -/
inductive Reachable : MissionStateMachine → Prop where
  | boot : Reachable {}
  | call {machine : MissionStateMachine} (reached : Reachable machine) (call : Call)
      (ordinary : call.operation.isRestore = false) : Reachable (machine.step call)
  | reset {machine stored : MissionStateMachine} (reached : Reachable machine)
      (saved : Reachable stored) {reason : ResetReason} {storedUs rtcNowUs : UInt64}
      {checkpoint : ResetCheckpoint} (nowUs : UInt64)
      (loads : loadFlightCheckpoint (storeFlightCheckpoint stored.snapshot storedUs) reason
        rtcNowUs = some checkpoint) : Reachable (machine.restoreAfterReset nowUs checkpoint).2

/-- A run without restores reaches only reachable states. -/
theorem reachable_after {start : MissionStateMachine} (reached : Reachable start)
    {calls : List Call}
    (ordinary : Run.Along MissionStateMachine.step (fun _ call => call.operation.isRestore = false)
      start calls) : Reachable (Run.after MissionStateMachine.step start calls) :=
  Run.invariant_after (fun _ call reached ordinary => reached.call call ordinary) reached ordinary

theorem Reachable.core {machine : MissionStateMachine} (reached : Reachable machine) :
    Core machine := by
  induction reached with
  | boot => exact MissionStateMachine.core_initial
  | call _ call ordinary inductionHypothesis =>
      apply inductionHypothesis.step call
      intro nowUs checkpoint restores
      rw [restores] at ordinary
      contradiction
  | reset _ _ nowUs loads machineCore storedCore =>
      obtain ⟨sequencing, rfl⟩ := checkpoint_of_load storedCore loads
      apply machineCore.step ⟨{}, .restoreAfterReset nowUs _⟩
      rintro _ _ ⟨⟩
      exact checkpointOf_faithful storedCore sequencing _

theorem Reachable.directives {machine : MissionStateMachine} (reached : Reachable machine) :
    Directives machine.snapshot := by
  induction reached with
  | boot => exact ⟨rfl, by decide⟩
  | call _ call _ inductionHypothesis => exact inductionHypothesis.step call
  | reset _ _ nowUs _ machineDirectives _ =>
      exact machineDirectives.step ⟨{}, .restoreAfterReset nowUs _⟩

/-- The fin-zero and motor-profile bits are both in the ready mask. -/
private theorem bits_of_finFlightReadinessValid {snapshot : MissionSnapshot}
    (readiness : finFlightReadinessValid snapshot = true) :
    snapshot.preflightReadyMask &&& PreflightReadinessBit.finZeroConfigured.bit =
        PreflightReadinessBit.finZeroConfigured.bit ∧
      snapshot.preflightReadyMask &&& PreflightReadinessBit.motorProfileValid.bit =
        PreflightReadinessBit.motorProfileValid.bit := by
  have both : snapshot.preflightReadyMask &&&
      (PreflightReadinessBit.finZeroConfigured.bit |||
        PreflightReadinessBit.motorProfileValid.bit) =
      PreflightReadinessBit.finZeroConfigured.bit |||
        PreflightReadinessBit.motorProfileValid.bit := beq_iff_eq.mp readiness
  constructor
  · have masked := congrArg (· &&& PreflightReadinessBit.finZeroConfigured.bit) both
    simp only [UInt8.and_assoc] at masked
    exact masked
  · have masked := congrArg (· &&& PreflightReadinessBit.motorProfileValid.bit) both
    simp only [UInt8.and_assoc] at masked
    exact masked

/-- The published snapshot of every reachable state is consistent: liftoff time,
deployment, roll control, the fin directive and the preflight masks all agree
with the mission state. -/
theorem snapshot_consistent {machine : MissionStateMachine} (reached : Reachable machine) :
    (machine.snapshot.liftoffTimeValid = true ↔
      machine.snapshot.state = .engineBurn ∨ machine.snapshot.state = .control ∨
        machine.snapshot.state = .descent) ∧
    (machine.snapshot.deploymentStarted = true ↔ machine.snapshot.state = .descent) ∧
    (machine.snapshot.state = .control →
      machine.snapshot.controlRollReferenceValid = true ∧
      machine.snapshot.controlReentryInhibited = false ∧
      machine.snapshot.finControlDisabled = false ∧
      machine.snapshot.preflightReadyMask &&& PreflightReadinessBit.finZeroConfigured.bit =
        PreflightReadinessBit.finZeroConfigured.bit ∧
      machine.snapshot.preflightReadyMask &&& PreflightReadinessBit.motorProfileValid.bit =
        PreflightReadinessBit.motorProfileValid.bit) ∧
    (machine.snapshot.fin = .rollControl → machine.snapshot.state = .control) ∧
    (machine.snapshot.state ≠ .commandReceive →
      machine.snapshot.preflightReadyMask &&& machine.snapshot.preflightMissingMask = 0 ∧
      machine.snapshot.preflightReadyMask ||| machine.snapshot.preflightMissingMask =
        kPreflightReadinessMask) := by
  have core := reached.core
  refine ⟨core.liftoff, core.deployment, ?_, reached.directives.fin, core.masks⟩
  intro controlling
  obtain ⟨reference, permitted, enabled, readiness⟩ := core.control controlling
  exact ⟨reference, permitted, enabled, bits_of_finFlightReadinessValid readiness⟩

/-! ### A flight that reaches control -/

/-- Every preflight item is ready. -/
def fullReadiness : PreflightReadinessSnapshot where
  generation := 1
  finZeroConfigured := true
  motorProfileValid := true
  gyroBiasValid := true
  gravityReferenceValid := true
  sscZeroValid := true
  resourcesPreallocated := true

/-- Every control input is ready, with an estimate taken at `timestampUs`. -/
def readyControl (timestampUs : UInt64) : ControlAvailability where
  finControlAvailable := true
  finZeroHoldValid := true
  attitudeValid := true
  airspeedAbove60 := true
  lpsAvailable := true
  sscAvailable := true
  gyroBiasValid := true
  sscZeroValid := true
  rollEstimateLiftoffRelativeUnwrappedRad := .finite 0
  rollEstimatorTimestampUs := timestampUs
  attitudeFresh := true

/-- A tick at `monotonicUs` with every control input ready. -/
def readyTick (monotonicUs : UInt64) (liftoffDetected : Bool) : Call where
  operation := .tick { monotonicUs, liftoffDetected, control := readyControl monotonicUs } {}

/-- Start, liftoff, and the first tick past the control gate. -/
def flightToControl : List Call :=
  [⟨{}, .startSequence fullReadiness .normal⟩, readyTick 2000000 true, readyTick 9500000 false]

theorem snapshot_consistent_flightToControl :
    let machine := Run.after MissionStateMachine.step {} flightToControl
    machine.snapshot.state = .control ∧ machine.snapshot.controlRollReferenceValid = true := by
  have controlling :
      (Run.after MissionStateMachine.step {} flightToControl).snapshot.state = .control := by
    decide +kernel
  have reached : Reachable (Run.after MissionStateMachine.step {} flightToControl) :=
    reachable_after .boot (by decide +kernel)
  have consistent := snapshot_consistent reached
  exact ⟨controlling, (consistent.2.2.1 controlling).1⟩

end MissionBoard.Runtime
