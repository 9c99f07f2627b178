import MissionBoard.Mission.MissionState

/-!
Owns what the blocks of `tick` can do: the data no tick writes, the flight clock
that only the liftoff transition writes, the outcomes of the control gate, and
where the state can go. Callers cite these lemmas and do not unfold a block.
-/

namespace MissionBoard.Mission

open Protocol Control

/-- The snapshot data that no tick writes. -/
structure AttemptData where
  flightEpoch : UInt32
  finControlDisabled : Bool
  resetInvalidated : Bool
  forcedStart : Bool
  preflightGeneration : UInt32
  preflightCapturedAtUs : UInt64
  preflightReadyMask : UInt8
  preflightMissingMask : UInt8

def MissionSnapshot.attempt (snapshot : MissionSnapshot) : AttemptData where
  flightEpoch := snapshot.flightEpoch
  finControlDisabled := snapshot.finControlDisabled
  resetInvalidated := snapshot.resetInvalidated
  forcedStart := snapshot.forcedStart
  preflightGeneration := snapshot.preflightGeneration
  preflightCapturedAtUs := snapshot.preflightCapturedAtUs
  preflightReadyMask := snapshot.preflightReadyMask
  preflightMissingMask := snapshot.preflightMissingMask

theorem finFlightReadinessValid_congr {left right : MissionSnapshot}
    (same : left.preflightReadyMask = right.preflightReadyMask) :
    finFlightReadinessValid left = finFlightReadinessValid right := by
  simp [finFlightReadinessValid, same]

namespace MissionStateMachine

/-- The flight clock of the machine: liftoff starts it, a reset resumes it. -/
def flightClock (machine : MissionStateMachine) : ElapsedClock where
  running := machine.snapshot.liftoffTimeValid
  origin := machine.snapshot.liftoffTimeUs
  offset := machine.elapsedOffsetUs

/-- The elapsed time of a tick is the flight clock's reading. -/
theorem elapsedAt_eq_reading (machine : MissionStateMachine) (monotonicUs : UInt64) :
    machine.elapsedAt monotonicUs = machine.flightClock.reading monotonicUs := rfl

/-- Machines of one clock agree on whether liftoff time is valid. -/
theorem liftoffTimeValid_of_clock {left right : MissionStateMachine}
    (clock : left.flightClock = right.flightClock) :
    left.snapshot.liftoffTimeValid = right.snapshot.liftoffTimeValid :=
  congrArg ElapsedClock.running clock

/-- Machines of one attempt agree on the flight epoch. -/
theorem flightEpoch_of_attempt {left right : MissionStateMachine}
    (attempt : left.snapshot.attempt = right.snapshot.attempt) :
    left.snapshot.flightEpoch = right.snapshot.flightEpoch :=
  congrArg AttemptData.flightEpoch attempt

theorem finFlightReadinessValid_of_attempt {left right : MissionStateMachine}
    (attempt : left.snapshot.attempt = right.snapshot.attempt) :
    finFlightReadinessValid left.snapshot = finFlightReadinessValid right.snapshot :=
  finFlightReadinessValid_congr (congrArg AttemptData.preflightReadyMask attempt)

section Frames

variable (machine : MissionStateMachine) (guard : FinOvertravelGuard) (input : MissionTickInput)
  (safety : SafetyRequest) (current : Bool) (elapsedUs nowUs : UInt64)

/-! ### The data no tick writes -/

@[simp] theorem latchSafetyCutoff_attempt :
    (machine.latchSafetyCutoff safety).snapshot.attempt = machine.snapshot.attempt := by
  unfold latchSafetyCutoff; split <;> rfl

@[simp] theorem detectLiftoff_attempt :
    (machine.detectLiftoff input).snapshot.attempt = machine.snapshot.attempt := by
  unfold detectLiftoff; split <;> rfl

@[simp] theorem recordElapsed_attempt :
    (machine.recordElapsed input elapsedUs).snapshot.attempt = machine.snapshot.attempt := rfl

@[simp] theorem blockOnOvertravel_attempt :
    (machine.blockOnOvertravel guard).snapshot.attempt = machine.snapshot.attempt := by
  unfold blockOnOvertravel
  split
  · dsimp only
    split <;> rfl
  · rfl

@[simp] theorem decideDeployment_attempt :
    (machine.decideDeployment input safety current elapsedUs).snapshot.attempt =
      machine.snapshot.attempt := by
  unfold decideDeployment; split <;> rfl

@[simp] theorem leaveControlUnlessReady_attempt :
    (machine.leaveControlUnlessReady input).snapshot.attempt = machine.snapshot.attempt := by
  unfold leaveControlUnlessReady; split <;> rfl

@[simp] theorem latchPowerCutoff_attempt :
    (machine.latchPowerCutoff elapsedUs).snapshot.attempt = machine.snapshot.attempt := by
  unfold latchPowerCutoff; split <;> rfl

@[simp] theorem updateDirectives_attempt :
    (machine.updateDirectives nowUs).snapshot.attempt = machine.snapshot.attempt := rfl

/-! ### The flight clock -/

@[simp] theorem latchSafetyCutoff_flightClock :
    (machine.latchSafetyCutoff safety).flightClock = machine.flightClock := by
  unfold latchSafetyCutoff; split <;> rfl

@[simp] theorem recordElapsed_flightClock :
    (machine.recordElapsed input elapsedUs).flightClock = machine.flightClock := rfl

@[simp] theorem blockOnOvertravel_flightClock :
    (machine.blockOnOvertravel guard).flightClock = machine.flightClock := by
  unfold blockOnOvertravel
  split
  · dsimp only
    split <;> rfl
  · rfl

@[simp] theorem decideDeployment_flightClock :
    (machine.decideDeployment input safety current elapsedUs).flightClock =
      machine.flightClock := by
  unfold decideDeployment; split <;> rfl

@[simp] theorem leaveControlUnlessReady_flightClock :
    (machine.leaveControlUnlessReady input).flightClock = machine.flightClock := by
  unfold leaveControlUnlessReady; split <;> rfl

@[simp] theorem latchPowerCutoff_flightClock :
    (machine.latchPowerCutoff elapsedUs).flightClock = machine.flightClock := by
  unfold latchPowerCutoff; split <;> rfl

@[simp] theorem updateDirectives_flightClock :
    (machine.updateDirectives nowUs).flightClock = machine.flightClock := rfl

/-! ### The recorded elapsed time -/

@[simp] theorem blockOnOvertravel_elapsedUs :
    (machine.blockOnOvertravel guard).snapshot.elapsedUs = machine.snapshot.elapsedUs := by
  unfold blockOnOvertravel
  split
  · dsimp only
    split <;> rfl
  · rfl

@[simp] theorem decideDeployment_elapsedUs :
    (machine.decideDeployment input safety current elapsedUs).snapshot.elapsedUs =
      machine.snapshot.elapsedUs := by
  unfold decideDeployment; split <;> rfl

@[simp] theorem leaveControlUnlessReady_elapsedUs :
    (machine.leaveControlUnlessReady input).snapshot.elapsedUs = machine.snapshot.elapsedUs := by
  unfold leaveControlUnlessReady; split <;> rfl

@[simp] theorem latchPowerCutoff_elapsedUs :
    (machine.latchPowerCutoff elapsedUs).snapshot.elapsedUs = machine.snapshot.elapsedUs := by
  unfold latchPowerCutoff; split <;> rfl

@[simp] theorem updateDirectives_elapsedUs :
    (machine.updateDirectives nowUs).snapshot.elapsedUs = machine.snapshot.elapsedUs := rfl

/-! ### The power-cutoff latch -/

theorem latchSafetyCutoff_cutoff :
    (machine.latchSafetyCutoff safety).snapshot.deploymentPowerCutoffLatched =
      if machine.currentSafety safety ∧ machine.snapshot.liftoffTimeValid ∧
          safety.absolutePowerCutoff then true
      else machine.snapshot.deploymentPowerCutoffLatched := by
  unfold latchSafetyCutoff; split <;> rfl

@[simp] theorem detectLiftoff_cutoff :
    (machine.detectLiftoff input).snapshot.deploymentPowerCutoffLatched =
      machine.snapshot.deploymentPowerCutoffLatched := by
  unfold detectLiftoff; split <;> rfl

@[simp] theorem recordElapsed_cutoff :
    (machine.recordElapsed input elapsedUs).snapshot.deploymentPowerCutoffLatched =
      machine.snapshot.deploymentPowerCutoffLatched := rfl

@[simp] theorem blockOnOvertravel_cutoff :
    (machine.blockOnOvertravel guard).snapshot.deploymentPowerCutoffLatched =
      machine.snapshot.deploymentPowerCutoffLatched := by
  unfold blockOnOvertravel
  split
  · dsimp only
    split <;> rfl
  · rfl

@[simp] theorem decideDeployment_cutoff :
    (machine.decideDeployment input safety current
        elapsedUs).snapshot.deploymentPowerCutoffLatched =
      machine.snapshot.deploymentPowerCutoffLatched := by
  unfold decideDeployment; split <;> rfl

@[simp] theorem leaveControlUnlessReady_cutoff :
    (machine.leaveControlUnlessReady input).snapshot.deploymentPowerCutoffLatched =
      machine.snapshot.deploymentPowerCutoffLatched := by
  unfold leaveControlUnlessReady; split <;> rfl

theorem latchPowerCutoff_cutoff :
    (machine.latchPowerCutoff elapsedUs).snapshot.deploymentPowerCutoffLatched =
      if machine.snapshot.liftoffTimeValid ∧ kPowerCutoffUs ≤ elapsedUs then true
      else machine.snapshot.deploymentPowerCutoffLatched := by
  unfold latchPowerCutoff; split <;> rfl

@[simp] theorem updateDirectives_cutoff :
    (machine.updateDirectives nowUs).snapshot.deploymentPowerCutoffLatched =
      machine.snapshot.deploymentPowerCutoffLatched := rfl

/-! ### The inhibition -/

/-- Outside command receive a latched overtravel fault inhibits control. -/
theorem blockOnOvertravel_inhibited :
    (machine.blockOnOvertravel guard).snapshot.controlReentryInhibited =
      if machine.snapshot.state ≠ .commandReceive ∧ guard.faultLatched = true then true
      else machine.snapshot.controlReentryInhibited := by
  unfold blockOnOvertravel
  split
  · dsimp only
    split <;> rfl
  · rfl

@[simp] theorem decideDeployment_inhibited :
    (machine.decideDeployment input safety current elapsedUs).snapshot.controlReentryInhibited =
      machine.snapshot.controlReentryInhibited := by
  unfold decideDeployment; split <;> rfl

/-! ### The state -/

@[simp] theorem latchSafetyCutoff_state :
    (machine.latchSafetyCutoff safety).snapshot.state = machine.snapshot.state := by
  unfold latchSafetyCutoff; split <;> rfl

theorem detectLiftoff_state :
    (machine.detectLiftoff input).snapshot.state =
      if machine.snapshot.state = .liftoffDetection ∧ input.liftoffDetected then .engineBurn
      else machine.snapshot.state := by
  unfold detectLiftoff; split <;> rfl

@[simp] theorem recordElapsed_state :
    (machine.recordElapsed input elapsedUs).snapshot.state = machine.snapshot.state := rfl

/-- A latched overtravel fault ends control and no other state. -/
theorem blockOnOvertravel_state :
    (machine.blockOnOvertravel guard).snapshot.state =
      if guard.faultLatched = true ∧ machine.snapshot.state = .control then .engineBurn
      else machine.snapshot.state := by
  unfold blockOnOvertravel
  by_cases blocks : machine.snapshot.state ≠ .commandReceive ∧ guard.faultLatched = true
  · rw [if_pos blocks]
    obtain ⟨-, latched⟩ := blocks
    by_cases controlling : machine.snapshot.state = .control
    · simp [invalidateControlRollReference, latched, controlling]
    · simp [invalidateControlRollReference, controlling]
  · rw [if_neg blocks]
    rw [if_neg]
    rintro ⟨latched, controlling⟩
    apply blocks
    rw [controlling]
    exact ⟨by decide, latched⟩

theorem decideDeployment_descent_iff :
    (machine.decideDeployment input safety current elapsedUs).snapshot.state = .descent ↔
      machine.snapshot.state = .descent ∨
        ((machine.snapshot.state = .engineBurn ∨ machine.snapshot.state = .control) ∧
          ((current = true ∧ safety.deploy = true) ∨
            (input.deploymentPressureCondition = true ∧
              machine.snapshot.liftoffTimeValid = true ∧ kPressureDeploymentGateUs ≤ elapsedUs) ∨
            (machine.snapshot.liftoffTimeValid = true ∧ kDeploymentDeadlineUs ≤ elapsedUs))) := by
  unfold decideDeployment
  split
  · next deploys => exact iff_of_true rfl (Or.inr deploys)
  · next stays => exact ⟨Or.inl, fun either => either.resolve_right stays⟩

/-- Deployment is the only thing the decision does to the state. -/
theorem decideDeployment_state :
    (machine.decideDeployment input safety current elapsedUs).snapshot.state =
        machine.snapshot.state ∨
      (machine.decideDeployment input safety current elapsedUs).snapshot.state = .descent := by
  unfold decideDeployment
  split
  · exact Or.inr rfl
  · exact Or.inl rfl

theorem leaveControlUnlessReady_state :
    (machine.leaveControlUnlessReady input).snapshot.state =
      if machine.snapshot.state = .control ∧ input.control.ready = false then .engineBurn
      else machine.snapshot.state := by
  unfold leaveControlUnlessReady; split <;> rfl

@[simp] theorem latchPowerCutoff_state :
    (machine.latchPowerCutoff elapsedUs).snapshot.state = machine.snapshot.state := by
  unfold latchPowerCutoff; split <;> rfl

@[simp] theorem updateDirectives_state :
    (machine.updateDirectives nowUs).snapshot.state = machine.snapshot.state := rfl

end Frames

/-! ### The control gate -/

/-- The outer condition of the gate: the first time it holds, the gate is decided. -/
structure GateDue (machine : MissionStateMachine) (elapsedUs : UInt64) : Prop where
  burning : machine.snapshot.state = .engineBurn
  lifted : machine.snapshot.liftoffTimeValid = true
  elapsed : kControlGateUs ≤ elapsedUs
  pending : machine.controlGateEvaluated = false

/-- The inner condition of the gate up to the capture. -/
structure GateAdmits (machine : MissionStateMachine) (input : MissionTickInput) : Prop where
  enabled : machine.snapshot.finControlDisabled = false
  permitted : machine.snapshot.controlReentryInhibited = false
  readiness : finFlightReadinessValid machine.snapshot = true
  ready : input.control.ready = true

/-- The estimate of a tick is not in the future and at most 3 ms old. -/
structure EstimateFresh (input : MissionTickInput) : Prop where
  notFuture : input.control.rollEstimatorTimestampUs ≤ input.monotonicUs
  recent : input.monotonicUs - input.control.rollEstimatorTimestampUs ≤ kRollEstimateFreshnessUs

/-- The machine once the gate is decided. -/
def gateDecided (machine : MissionStateMachine) : MissionStateMachine :=
  { machine with controlGateEvaluated := true }

/-- The machine after the gate refuses control for the rest of the flight epoch. -/
def gateRefused (machine : MissionStateMachine) : MissionStateMachine :=
  machine.gateDecided.inhibitControl

/-- The machine after the gate opens: the reference is captured before control is entered. -/
def gateOpened (machine : MissionStateMachine) (input : MissionTickInput) : MissionStateMachine :=
  (machine.gateDecided.withControlRollReference input).enterControl

@[simp] theorem gateRefused_state (machine : MissionStateMachine) :
    machine.gateRefused.snapshot.state = machine.snapshot.state := rfl

@[simp] theorem gateOpened_state (machine : MissionStateMachine) (input : MissionTickInput) :
    (machine.gateOpened input).snapshot.state = .control := rfl

/-- What the gate can do. It enters control over a reference already held, or
over the one it captures. -/
inductive GateOutcome (machine : MissionStateMachine) (input : MissionTickInput)
    (elapsedUs : UInt64) : MissionStateMachine → Prop where
  | kept (notDue : ¬ machine.GateDue elapsedUs) : GateOutcome machine input elapsedUs machine
  | refused (due : machine.GateDue elapsedUs) :
      GateOutcome machine input elapsedUs machine.gateRefused
  | reentered (due : machine.GateDue elapsedUs) (admits : machine.GateAdmits input)
      (held : machine.snapshot.controlRollReferenceValid = true) :
      GateOutcome machine input elapsedUs machine.gateDecided.enterControl
  | opened (due : machine.GateDue elapsedUs) (admits : machine.GateAdmits input)
      (fresh : EstimateFresh input)
      (captures : machine.snapshot.controlRollReferenceValid = false) :
      GateOutcome machine input elapsedUs (machine.gateOpened input)

theorem gateOutcome (machine : MissionStateMachine) (input : MissionTickInput)
    (elapsedUs : UInt64) :
    GateOutcome machine input elapsedUs (machine.evaluateControlGate input elapsedUs) := by
  unfold evaluateControlGate
  by_cases due : machine.snapshot.state = .engineBurn ∧ machine.snapshot.liftoffTimeValid = true ∧
      kControlGateUs ≤ elapsedUs ∧ machine.controlGateEvaluated = false
  · rw [if_pos due]
    obtain ⟨burning, lifted, elapsed, pending⟩ := due
    have gateDue : machine.GateDue elapsedUs := ⟨burning, lifted, elapsed, pending⟩
    dsimp only
    split
    · next admitted =>
      obtain ⟨enabled, permitted, readiness, ready⟩ := admitted
      have admits : machine.GateAdmits input := ⟨enabled, permitted, readiness, ready⟩
      unfold captureControlRollReference
      by_cases held : machine.snapshot.controlRollReferenceValid = true
      · simp only [held, if_true]
        exact .reentered gateDue admits held
      · simp only [held]
        by_cases stale : input.monotonicUs < input.control.rollEstimatorTimestampUs ∨
            kRollEstimateFreshnessUs < input.monotonicUs - input.control.rollEstimatorTimestampUs
        · simp only [stale, if_true]
          exact .refused gateDue
        · simp only [stale]
          have fresh : EstimateFresh input :=
            ⟨UInt64.not_lt.mp fun future => stale (Or.inl future),
              UInt64.not_lt.mp fun old => stale (Or.inr old)⟩
          exact .opened gateDue admits fresh (Bool.eq_false_of_not_eq_true held)
    · exact .refused gateDue
  · rw [if_neg due]
    exact .kept fun gateDue =>
      due ⟨gateDue.burning, gateDue.lifted, gateDue.elapsed, gateDue.pending⟩

/-- What the gate leaves of any reading that the decision, the inhibition, the
capture and the entry all leave alone. -/
private theorem evaluateControlGate_reading {α : Type} (reading : MissionStateMachine → α)
    (decided : ∀ machine, reading (gateDecided machine) = reading machine)
    (inhibited : ∀ machine, reading (inhibitControl machine) = reading machine)
    (captured : ∀ machine input, reading (withControlRollReference machine input) =
      reading machine)
    (entered : ∀ machine, reading (enterControl machine) = reading machine)
    (machine : MissionStateMachine) (input : MissionTickInput) (elapsedUs : UInt64) :
    reading (machine.evaluateControlGate input elapsedUs) = reading machine := by
  have outcome := machine.gateOutcome input elapsedUs
  generalize machine.evaluateControlGate input elapsedUs = next at outcome ⊢
  cases outcome with
  | kept => rfl
  | refused => exact (inhibited _).trans (decided machine)
  | reentered => exact (entered _).trans (decided machine)
  | opened => exact (entered _).trans ((captured _ input).trans (decided machine))

section GateFrames

variable (machine : MissionStateMachine) (input : MissionTickInput) (elapsedUs : UInt64)

@[simp] theorem evaluateControlGate_attempt :
    (machine.evaluateControlGate input elapsedUs).snapshot.attempt = machine.snapshot.attempt :=
  evaluateControlGate_reading (·.snapshot.attempt) (fun _ => rfl) (fun _ => rfl) (fun _ _ => rfl)
    (fun _ => rfl) machine input elapsedUs

@[simp] theorem evaluateControlGate_flightClock :
    (machine.evaluateControlGate input elapsedUs).flightClock = machine.flightClock :=
  evaluateControlGate_reading flightClock (fun _ => rfl) (fun _ => rfl) (fun _ _ => rfl)
    (fun _ => rfl) machine input elapsedUs

@[simp] theorem evaluateControlGate_elapsedUs :
    (machine.evaluateControlGate input elapsedUs).snapshot.elapsedUs = machine.snapshot.elapsedUs :=
  evaluateControlGate_reading (·.snapshot.elapsedUs) (fun _ => rfl) (fun _ => rfl)
    (fun _ _ => rfl) (fun _ => rfl) machine input elapsedUs

@[simp] theorem evaluateControlGate_cutoff :
    (machine.evaluateControlGate input elapsedUs).snapshot.deploymentPowerCutoffLatched =
      machine.snapshot.deploymentPowerCutoffLatched :=
  evaluateControlGate_reading (·.snapshot.deploymentPowerCutoffLatched) (fun _ => rfl)
    (fun _ => rfl) (fun _ _ => rfl) (fun _ => rfl) machine input elapsedUs

/-- The gate moves engine burn to control and nothing else. -/
theorem evaluateControlGate_state :
    (machine.evaluateControlGate input elapsedUs).snapshot.state = machine.snapshot.state ∨
      (machine.snapshot.state = .engineBurn ∧
        (machine.evaluateControlGate input elapsedUs).snapshot.state = .control) := by
  have outcome := machine.gateOutcome input elapsedUs
  generalize machine.evaluateControlGate input elapsedUs = next at outcome ⊢
  cases outcome with
  | kept => exact Or.inl rfl
  | refused => exact Or.inl rfl
  | reentered due => exact Or.inr ⟨due.burning, rfl⟩
  | opened due => exact Or.inr ⟨due.burning, rfl⟩

end GateFrames

end MissionStateMachine

end MissionBoard.Mission
