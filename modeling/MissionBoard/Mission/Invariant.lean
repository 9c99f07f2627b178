import MissionBoard.Mission.Operation

/-!
Owns the invariant of the mission state machine: how the flags of a snapshot
agree with its state, and what the directives say about both.

Each block of `tick` and each operation keeps `Core` by a lemma of its own. The
directives need no induction, since every operation ends by writing them.
-/

namespace MissionBoard.Mission

open Protocol Control

/-- The states after liftoff. -/
def inFlight (state : MissionState) : Prop :=
  state = .engineBurn ∨ state = .control ∨ state = .descent

instance (state : MissionState) : Decidable (inFlight state) :=
  inferInstanceAs (Decidable (_ ∨ _))

/-- The preflight masks split the full readiness mask. -/
def masksSplit (ready missing : UInt8) : Prop :=
  ready &&& missing = 0 ∧ ready ||| missing = kPreflightReadinessMask

instance (ready missing : UInt8) : Decidable (masksSplit ready missing) :=
  inferInstanceAs (Decidable (_ ∧ _))

/-- The flags of the machine agree with its state. -/
structure Core (machine : MissionStateMachine) : Prop where
  liftoff : machine.snapshot.liftoffTimeValid = true ↔ inFlight machine.snapshot.state
  deployment : machine.snapshot.deploymentStarted = true ↔ machine.snapshot.state = .descent
  control : machine.snapshot.state = .control →
    machine.snapshot.controlRollReferenceValid = true ∧
      machine.snapshot.controlReentryInhibited = false ∧
      machine.snapshot.finControlDisabled = false ∧
      finFlightReadinessValid machine.snapshot = true
  gate : machine.snapshot.state = .control → machine.controlGateEvaluated = true
  reference : machine.snapshot.controlRollReferenceValid = true →
    inFlight machine.snapshot.state ∧ machine.controlGateEvaluated = true
  masks : machine.snapshot.state ≠ .commandReceive →
    masksSplit machine.snapshot.preflightReadyMask machine.snapshot.preflightMissingMask
  epoch : machine.snapshot.state ≠ .commandReceive → machine.snapshot.flightEpoch ≠ 0
  known : machine.snapshot.state ≠ .unknown

/-- The directives agree with the snapshot they are published in. -/
structure Directives (snapshot : MissionSnapshot) : Prop where
  parachute : snapshot.parachute = MissionStateMachine.paraDirective snapshot
  fin : snapshot.fin = .rollControl → snapshot.state = .control

theorem masksSplit_readiness (readiness : PreflightReadinessSnapshot) :
    masksSplit readiness.readyMask readiness.missingMask := by
  obtain ⟨_, _, finZero, motor, gyro, gravity, ssc, _⟩ := readiness
  unfold PreflightReadinessSnapshot.missingMask PreflightReadinessSnapshot.readyMask
  cases finZero <;> cases motor <;> cases gyro <;> cases gravity <;> cases ssc <;>
    simp only [Bool.false_eq_true, if_true, if_false] <;> decide

theorem nextEpoch_ne_zero (current : UInt32) : nextEpoch current ≠ 0 := by
  unfold nextEpoch
  split
  · decide
  · assumption

/-- An epoch-changing operation never reuses the epoch it leaves. -/
theorem nextEpoch_ne (current : UInt32) : nextEpoch current ≠ current := by
  unfold nextEpoch
  split
  · next wraps =>
    intro same
    rw [← same] at wraps
    contradiction
  · intro same
    have advanced := congrArg UInt32.toNat same
    rw [UInt32.toNat_add] at advanced
    have bound := current.toNat_lt
    have one : (1 : UInt32).toNat = 1 := rfl
    omega

namespace MissionStateMachine

/-- Every operation ends by writing the directives, so they agree with the snapshot. -/
theorem updateDirectives_directives (machine : MissionStateMachine) (nowUs : UInt64) :
    Directives (machine.updateDirectives nowUs).snapshot := by
  refine ⟨rfl, ?_⟩
  intro rolling
  have rolling : machine.finDirective nowUs = .rollControl := rolling
  show machine.snapshot.state = .control
  by_contra other
  unfold finDirective at rolling
  simp only [other, if_false] at rolling
  split at rolling
  · contradiction
  · split at rolling
    · split at rolling
      · contradiction
      · split at rolling <;> contradiction
    · contradiction

theorem core_initial : Core {} := by
  constructor <;> decide

end MissionStateMachine

namespace Core

open MissionStateMachine

variable {machine : MissionStateMachine}

/-- No reference is held while the gate is pending. -/
theorem unreferenced (core : Core machine) (pending : machine.controlGateEvaluated = false) :
    machine.snapshot.controlRollReferenceValid = false := by
  by_contra held
  have evaluated := (core.reference (Bool.eq_true_of_not_eq_false held)).2
  rw [pending] at evaluated
  contradiction

/-! ### The blocks of `tick` -/

theorem latchSafetyCutoff (core : Core machine) (safety : SafetyRequest) :
    Core (machine.latchSafetyCutoff safety) := by
  unfold MissionStateMachine.latchSafetyCutoff
  split
  · exact { core with }
  · exact core

theorem detectLiftoff (core : Core machine) (input : MissionTickInput) :
    Core (machine.detectLiftoff input) := by
  unfold MissionStateMachine.detectLiftoff
  split
  · next lifts =>
    obtain ⟨armed, -⟩ := lifts
    obtain ⟨liftoff, deployment, control, gate, reference, masks, epoch, known⟩ := core
    constructor <;> simp_all [inFlight]
  · exact core

theorem recordElapsed (core : Core machine) (input : MissionTickInput) (elapsedUs : UInt64) :
    Core (machine.recordElapsed input elapsedUs) :=
  { core with }

theorem blockOnOvertravel (core : Core machine) (guard : FinOvertravelGuard) :
    Core (machine.blockOnOvertravel guard) := by
  unfold MissionStateMachine.blockOnOvertravel MissionStateMachine.invalidateControlRollReference
  obtain ⟨liftoff, deployment, control, gate, reference, masks, epoch, known⟩ := core
  split
  · dsimp only
    split <;> constructor <;> simp_all [inFlight]
  · exact ⟨liftoff, deployment, control, gate, reference, masks, epoch, known⟩

theorem decideDeployment (core : Core machine) (input : MissionTickInput) (safety : SafetyRequest)
    (current : Bool) (elapsedUs : UInt64) :
    Core (machine.decideDeployment input safety current elapsedUs) := by
  unfold MissionStateMachine.decideDeployment enterDescent
  obtain ⟨liftoff, deployment, control, gate, reference, masks, epoch, known⟩ := core
  split
  · next deploys =>
    obtain ⟨flying, -⟩ := deploys
    constructor <;> rcases flying with flying | flying <;> simp_all [inFlight]
  · exact ⟨liftoff, deployment, control, gate, reference, masks, epoch, known⟩

private theorem gateRefused (core : Core machine) {elapsedUs : UInt64}
    (due : machine.GateDue elapsedUs) : Core machine.gateRefused := by
  obtain ⟨burning, lifted, -, pending⟩ := due
  have noReference := core.unreferenced pending
  obtain ⟨liftoff, deployment, control, gate, reference, masks, epoch, known⟩ := core
  constructor <;> simp_all [MissionStateMachine.gateRefused, gateDecided, inhibitControl, inFlight]

private theorem gateOpened (core : Core machine) {elapsedUs : UInt64} {input : MissionTickInput}
    (due : machine.GateDue elapsedUs) (admits : machine.GateAdmits input) :
    Core (machine.gateOpened input) := by
  obtain ⟨burning, lifted, -, pending⟩ := due
  obtain ⟨enabled, permitted, readiness, -⟩ := admits
  obtain ⟨liftoff, deployment, control, gate, reference, masks, epoch, known⟩ := core
  have sameReadiness : finFlightReadinessValid (machine.gateOpened input).snapshot = true :=
    (finFlightReadinessValid_congr rfl).trans readiness
  constructor <;>
    simp_all [MissionStateMachine.gateOpened, gateDecided, enterControl, withControlRollReference,
      inFlight]

theorem evaluateControlGate (core : Core machine) (input : MissionTickInput) (elapsedUs : UInt64) :
    Core (machine.evaluateControlGate input elapsedUs) := by
  have outcome := machine.gateOutcome input elapsedUs
  generalize machine.evaluateControlGate input elapsedUs = next at outcome ⊢
  cases outcome with
  | kept => exact core
  | refused due => exact core.gateRefused due
  | reentered due admits held =>
      rw [core.unreferenced due.pending] at held
      contradiction
  | opened due admits => exact core.gateOpened due admits

theorem leaveControlUnlessReady (core : Core machine) (input : MissionTickInput) :
    Core (machine.leaveControlUnlessReady input) := by
  unfold MissionStateMachine.leaveControlUnlessReady
  obtain ⟨liftoff, deployment, control, gate, reference, masks, epoch, known⟩ := core
  split
  · next leaves =>
    obtain ⟨controlling, -⟩ := leaves
    constructor <;> simp_all [inFlight]
  · exact ⟨liftoff, deployment, control, gate, reference, masks, epoch, known⟩

theorem latchPowerCutoff (core : Core machine) (elapsedUs : UInt64) :
    Core (machine.latchPowerCutoff elapsedUs) := by
  unfold MissionStateMachine.latchPowerCutoff
  split
  · exact { core with }
  · exact core

theorem updateDirectives (core : Core machine) (nowUs : UInt64) :
    Core (machine.updateDirectives nowUs) :=
  { core with }

theorem lifted (core : Core machine) (input : MissionTickInput) (safety : SafetyRequest) :
    Core (machine.lifted input safety) :=
  (core.latchSafetyCutoff safety).detectLiftoff input

theorem beforeGate (core : Core machine) (guard : FinOvertravelGuard) (input : MissionTickInput)
    (safety : SafetyRequest) : Core (machine.beforeGate guard input safety) :=
  (((core.lifted input safety).recordElapsed input _).blockOnOvertravel guard).decideDeployment
    input safety _ _

theorem tick (core : Core machine) (guard : FinOvertravelGuard) (input : MissionTickInput)
    (safety : SafetyRequest) : Core (machine.tick guard input safety).1 := by
  rw [tick_machine]
  exact ((((core.beforeGate guard input safety).evaluateControlGate input _).leaveControlUnlessReady
    input).latchPowerCutoff _).updateDirectives _

/-! ### The operations -/

theorem started (core : Core machine) (readiness : PreflightReadinessSnapshot) (mode : StartMode) :
    Core (machine.started readiness mode) := by
  have split := masksSplit_readiness readiness
  have live := nextEpoch_ne_zero machine.snapshot.flightEpoch
  obtain ⟨liftoff, deployment, control, gate, reference, masks, epoch, known⟩ := core
  constructor <;>
    simp_all [MissionStateMachine.started, MissionStateMachine.updateDirectives,
      invalidateLiftoff, invalidateControlRollReference, inFlight]

theorem cancelled (core : Core machine) : Core machine.cancelled := by
  obtain ⟨liftoff, deployment, control, gate, reference, masks, epoch, known⟩ := core
  constructor <;>
    simp [MissionStateMachine.cancelled, MissionStateMachine.updateDirectives,
      invalidateLiftoff, invalidateControlRollReference, clearFlightAttemptMetadata, inFlight]

theorem controlDisabled (core : Core machine) : Core machine.controlDisabled := by
  obtain ⟨liftoff, deployment, control, gate, reference, masks, epoch, known⟩ := core
  unfold MissionStateMachine.controlDisabled invalidateControlRollReference
    MissionStateMachine.updateDirectives
  dsimp only
  split <;> constructor <;> simp_all [inFlight]

theorem rolledBack (core : Core machine) (burning : machine.snapshot.state = .engineBurn) :
    Core machine.rolledBack := by
  have live := nextEpoch_ne_zero machine.snapshot.flightEpoch
  obtain ⟨liftoff, deployment, control, gate, reference, masks, epoch, known⟩ := core
  constructor <;>
    simp_all [MissionStateMachine.rolledBack, MissionStateMachine.updateDirectives,
      invalidateLiftoff, invalidateControlRollReference, inFlight]

end Core

/-- What a checkpoint taken from a snapshot that satisfies `Core` says. -/
structure CheckpointFaithful (checkpoint : ResetCheckpoint) : Prop where
  deployed : checkpoint.state = .descent → checkpoint.deploymentStarted = true
  masks : masksSplit checkpoint.preflightReadyMask checkpoint.preflightMissingMask

namespace Core

open MissionStateMachine

variable {machine : MissionStateMachine}

theorem restoredArmed (nowUs : UInt64) {checkpoint : ResetCheckpoint}
    (accepted : CheckpointAccepted checkpoint) (faithful : CheckpointFaithful checkpoint) :
    Core (machine.restoredArmed nowUs checkpoint) := by
  have live := accepted.epoch
  have split := faithful.masks
  constructor <;>
    simp_all [MissionStateMachine.restoredArmed, resetCleared,
      MissionStateMachine.updateDirectives, invalidateLiftoff, invalidateControlRollReference,
      inFlight]

theorem restoredFlying (nowUs : UInt64) {checkpoint : ResetCheckpoint}
    (accepted : CheckpointAccepted checkpoint) (faithful : CheckpointFaithful checkpoint) :
    Core (machine.restoredFlying nowUs checkpoint) := by
  have live := accepted.epoch
  obtain ⟨deployed, split⟩ := faithful
  unfold MissionStateMachine.restoredFlying resetCleared MissionStateMachine.updateDirectives
    invalidateControlRollReference
  by_cases deploys : checkpoint.deploymentStarted = true ∨ checkpoint.state = .descent
  · have started : checkpoint.deploymentStarted = true := deploys.elim id deployed
    constructor <;> simp_all [inFlight]
  · constructor <;> simp_all [inFlight]

/-- Every call keeps the invariant; a restore needs a faithful checkpoint. -/
theorem step (core : Core machine) (call : Call)
    (faithful : ∀ nowUs checkpoint, call.operation = .restoreAfterReset nowUs checkpoint →
      CheckpointFaithful checkpoint) : Core (machine.step call) := by
  have outcome := machine.outcome call
  generalize machine.step call = next, (machine.perform call).result = result at outcome ⊢
  cases outcome with
  | refused => exact core
  | started guard readiness mode => exact core.started readiness mode
  | cancelled => exact core.cancelled
  | controlDisabled => exact core.controlDisabled
  | rolledBack guard burning => exact core.rolledBack burning
  | restoredArmed guard nowUs checkpoint accepted =>
      exact restoredArmed nowUs accepted (faithful nowUs checkpoint rfl)
  | restoredFlying guard nowUs checkpoint accepted =>
      exact restoredFlying nowUs accepted (faithful nowUs checkpoint rfl)
  | ticked guard input safety => exact core.tick guard input safety

end Core

/-- A call writes the directives last, or leaves the snapshot alone. -/
theorem Directives.step {machine : MissionStateMachine} (directives : Directives machine.snapshot)
    (call : Call) : Directives (machine.step call).snapshot := by
  have outcome := machine.outcome call
  generalize machine.step call = next, (machine.perform call).result = result at outcome ⊢
  cases outcome with
  | refused => exact directives
  | started => exact MissionStateMachine.updateDirectives_directives _ _
  | cancelled => exact MissionStateMachine.updateDirectives_directives _ _
  | controlDisabled => exact MissionStateMachine.updateDirectives_directives _ _
  | rolledBack => exact MissionStateMachine.updateDirectives_directives _ _
  | restoredArmed => exact MissionStateMachine.updateDirectives_directives _ _
  | restoredFlying => exact MissionStateMachine.updateDirectives_directives _ _
  | ticked =>
      rw [MissionStateMachine.tick_machine]
      exact MissionStateMachine.updateDirectives_directives _ _

/-- A completed restore writes the directives, whatever machine it restores into. -/
theorem directives_restore {machine : MissionStateMachine} {nowUs : UInt64}
    {checkpoint : ResetCheckpoint}
    (completes : (machine.restoreAfterReset nowUs checkpoint).1 = .completed) :
    Directives (machine.restoreAfterReset nowUs checkpoint).2.snapshot := by
  rcases MissionStateMachine.restoreAfterReset_cases machine nowUs checkpoint with
    ⟨-, -, armed⟩ | ⟨-, -, flying⟩ | ⟨-, refused⟩
  · rw [armed]
    exact MissionStateMachine.updateDirectives_directives _ _
  · rw [flying]
    exact MissionStateMachine.updateDirectives_directives _ _
  · rw [refused] at completes
    contradiction

end MissionBoard.Mission
