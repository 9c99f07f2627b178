import MissionBoard.Runtime.Reachable

/-!
Owns the deployment decision of a tick: the three causes, that a tick deploys
exactly when one of them holds, and what follows at the two deadlines.

Neither the overtravel block nor the control gate can stand between a cause and
the descent: the first only moves control to engine burn, where deployment is
still decided, and the second runs after the decision.
-/

namespace MissionBoard.Flight

open Protocol Mission MissionStateMachine Control MissionBoard.Runtime

/-- What deploys the parachute, judged on the machine after the tick's own
liftoff transition: a current safety request, the pressure condition from 10 s,
or the 17 s deadline. -/
def DeploymentCause (lifted : MissionStateMachine) (input : MissionTickInput)
    (safety : SafetyRequest) : Prop :=
  (safety.deploy = true ∧ safety.flightEpoch ≠ 0 ∧
      safety.flightEpoch = lifted.snapshot.flightEpoch) ∨
    (input.deploymentPressureCondition = true ∧ lifted.snapshot.liftoffTimeValid = true ∧
      10000000 ≤ lifted.elapsedAt input.monotonicUs) ∨
    (lifted.snapshot.liftoffTimeValid = true ∧ 17000000 ≤ lifted.elapsedAt input.monotonicUs)

instance (lifted : MissionStateMachine) (input : MissionTickInput) (safety : SafetyRequest) :
    Decidable (DeploymentCause lifted input safety) :=
  inferInstanceAs (Decidable (_ ∨ _ ∨ _))

section Decision

variable (machine : MissionStateMachine) (guard : FinOvertravelGuard) (input : MissionTickInput)
  (safety : SafetyRequest)

private theorem currentSafety_iff :
    machine.currentSafety safety = true ↔
      safety.flightEpoch ≠ 0 ∧ safety.flightEpoch = (machine.lifted input safety).snapshot.flightEpoch := by
  have epoch : (machine.lifted input safety).snapshot.flightEpoch = machine.snapshot.flightEpoch :=
    flightEpoch_of_attempt (lifted_attempt machine input safety)
  rw [epoch]
  unfold currentSafety
  rw [Bool.and_eq_true, bne_iff_ne, beq_iff_eq]

private theorem blockOnOvertravel_liftoffTimeValid :
    (machine.blockOnOvertravel guard).snapshot.liftoffTimeValid =
      machine.snapshot.liftoffTimeValid :=
  liftoffTimeValid_of_clock (blockOnOvertravel_flightClock machine guard)

/-- The overtravel block keeps a machine among the states that may deploy. -/
private theorem blockOnOvertravel_flying :
    (machine.blockOnOvertravel guard).snapshot.state = .engineBurn ∨
        (machine.blockOnOvertravel guard).snapshot.state = .control ↔
      machine.snapshot.state = .engineBurn ∨ machine.snapshot.state = .control := by
  rw [blockOnOvertravel_state]
  split
  · next blocked => simp [blocked.2]
  · rfl

private theorem blockOnOvertravel_descent :
    (machine.blockOnOvertravel guard).snapshot.state = .descent ↔
      machine.snapshot.state = .descent := by
  rw [blockOnOvertravel_state]
  split
  · next blocked => simp [blocked.2]
  · rfl

/-- Before the gate the machine is in descent exactly when it was already, or a
cause holds while it is flying. -/
theorem beforeGate_descent_iff :
    (machine.beforeGate guard input safety).snapshot.state = .descent ↔
      (machine.lifted input safety).snapshot.state = .descent ∨
        (((machine.lifted input safety).snapshot.state = .engineBurn ∨
            (machine.lifted input safety).snapshot.state = .control) ∧
          DeploymentCause (machine.lifted input safety) input safety) := by
  unfold beforeGate
  dsimp only
  rw [decideDeployment_descent_iff, blockOnOvertravel_descent, blockOnOvertravel_flying,
    blockOnOvertravel_liftoffTimeValid, currentSafety_iff machine input safety,
    @and_comm _ (safety.deploy = true)]
  rfl

/-- After the deployment decision nothing in the tick enters or leaves descent. -/
theorem tick_descent_iff_beforeGate :
    (machine.tick guard input safety).1.snapshot.state = .descent ↔
      (machine.beforeGate guard input safety).snapshot.state = .descent := by
  rw [tick_machine, updateDirectives_state, latchPowerCutoff_state, leaveControlUnlessReady_state]
  rcases evaluateControlGate_state (machine.beforeGate guard input safety) input
      ((machine.lifted input safety).elapsedAt input.monotonicUs) with kept | ⟨burning, entered⟩
  · rw [kept]
    split
    · next leaves => simp [leaves.1]
    · rfl
  · rw [entered, burning]
    split <;> simp

/-- A tick ends in descent exactly when it began there after liftoff, or a cause
holds while the machine is flying. -/
theorem tick_descent_iff :
    (machine.tick guard input safety).1.snapshot.state = .descent ↔
      (machine.lifted input safety).snapshot.state = .descent ∨
        (((machine.lifted input safety).snapshot.state = .engineBurn ∨
            (machine.lifted input safety).snapshot.state = .control) ∧
          DeploymentCause (machine.lifted input safety) input safety) :=
  (tick_descent_iff_beforeGate machine guard input safety).trans
    (beforeGate_descent_iff machine guard input safety)

end Decision

section Deadlines

variable {machine : MissionStateMachine} (core : Core machine) (guard : FinOvertravelGuard)
  (input : MissionTickInput) (safety : SafetyRequest)

private theorem tick_liftoffTimeValid (machine : MissionStateMachine) :
    (machine.tick guard input safety).1.snapshot.liftoffTimeValid =
      (machine.lifted input safety).snapshot.liftoffTimeValid :=
  liftoffTimeValid_of_clock (tick_flightClock machine guard input safety)

include core in
/-- From 17 s on a tick with valid liftoff time leaves the machine in descent. -/
theorem tick_descent_of_deadline
    (lifted : (machine.tick guard input safety).1.snapshot.liftoffTimeValid = true)
    (late : 17000000 ≤ (machine.tick guard input safety).1.snapshot.elapsedUs) :
    (machine.tick guard input safety).1.snapshot.state = .descent := by
  rw [tick_liftoffTimeValid] at lifted
  rw [tick_elapsedUs] at late
  have cause : DeploymentCause (machine.lifted input safety) input safety :=
    Or.inr (Or.inr ⟨lifted, late⟩)
  rw [tick_descent_iff]
  rcases (core.lifted input safety).liftoff.mp lifted with burning | controlling | descending
  · exact Or.inr ⟨Or.inl burning, cause⟩
  · exact Or.inr ⟨Or.inr controlling, cause⟩
  · exact Or.inl descending

/-- From 25 s on a tick with valid liftoff time latches the power cutoff. -/
theorem tick_latched_of_cutoff
    (lifted : (machine.tick guard input safety).1.snapshot.liftoffTimeValid = true)
    (late : 25000000 ≤ (machine.tick guard input safety).1.snapshot.elapsedUs) :
    (machine.tick guard input safety).1.snapshot.deploymentPowerCutoffLatched = true := by
  rw [tick_liftoffTimeValid] at lifted
  rw [tick_elapsedUs] at late
  rw [tick_cutoff]
  exact if_pos ⟨lifted, late⟩

end Deadlines

/-- The deployment decision is exact at every tick of every reachable state, and
no history can hold it up past the deadlines. -/
theorem deployment_exact {machine : MissionStateMachine} (reached : Reachable machine)
    (guard : FinOvertravelGuard) (input : MissionTickInput) (safety : SafetyRequest) :
    (((machine.lifted input safety).snapshot.state = .engineBurn ∨
        (machine.lifted input safety).snapshot.state = .control) →
      ((machine.tick guard input safety).1.snapshot.state = .descent ↔
        DeploymentCause (machine.lifted input safety) input safety)) ∧
    ((machine.tick guard input safety).1.snapshot.elapsedUs =
      (machine.lifted input safety).elapsedAt input.monotonicUs) ∧
    ((machine.tick guard input safety).1.snapshot.liftoffTimeValid = true →
      17000000 ≤ (machine.tick guard input safety).1.snapshot.elapsedUs →
      (machine.tick guard input safety).1.snapshot.state = .descent ∧
      (machine.tick guard input safety).1.snapshot.deploymentStarted = true ∧
      ((machine.tick guard input safety).1.snapshot.parachute = .open ∨
        (machine.tick guard input safety).1.snapshot.parachute = .poweredOff)) ∧
    ((machine.tick guard input safety).1.snapshot.liftoffTimeValid = true →
      25000000 ≤ (machine.tick guard input safety).1.snapshot.elapsedUs →
      (machine.tick guard input safety).1.snapshot.deploymentPowerCutoffLatched = true ∧
      (machine.tick guard input safety).1.snapshot.parachute = .poweredOff) := by
  have core := reached.core
  have parachute : (machine.tick guard input safety).1.snapshot.parachute =
      paraDirective (machine.tick guard input safety).1.snapshot :=
    (reached.directives.step ⟨guard, .tick input safety⟩).parachute
  refine ⟨?_, tick_elapsedUs machine guard input safety, ?_, ?_⟩
  · intro flying
    have notDescending : (machine.lifted input safety).snapshot.state ≠ .descent := by
      rcases flying with burning | controlling
      · simp [burning]
      · simp [controlling]
    rw [tick_descent_iff]
    exact ⟨fun either => (either.resolve_left notDescending).2, fun cause => Or.inr ⟨flying, cause⟩⟩
  · intro lifted late
    have descending := tick_descent_of_deadline core guard input safety lifted late
    have deployed := (core.tick guard input safety).deployment.mpr descending
    refine ⟨descending, deployed, ?_⟩
    rw [parachute]
    unfold paraDirective
    split
    · exact Or.inr rfl
    · exact Or.inl rfl
  · intro lifted late
    have latched := tick_latched_of_cutoff guard input safety lifted late
    rw [parachute]
    exact ⟨latched, if_pos latched⟩

/-- A tick 17 s after liftoff deploys a machine that is in control. -/
theorem deployment_exact_flightToControl :
    let machine := Run.after step {} flightToControl
    let input : MissionTickInput := { monotonicUs := 18000000, control := readyControl 18000000 }
    machine.snapshot.state = .control ∧ (machine.tick {} input {}).1.snapshot.state = .descent ∧
      (machine.tick {} input {}).1.snapshot.deploymentStarted = true := by
  have reached : Reachable (Run.after step {} flightToControl) :=
    reachable_after .boot (by decide +kernel)
  have exact := deployment_exact reached {} { monotonicUs := 18000000, control := readyControl 18000000 } {}
  have late := exact.2.2.1 (by decide +kernel) (by decide +kernel)
  exact ⟨by decide +kernel, late.1, late.2.1⟩

end MissionBoard.Flight
